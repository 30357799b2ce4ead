import DoubleEntry.Posting
import DoubleEntry.Proofs.Books
import DoubleEntry.Proofs.Sending

/-!
# What a cleared transaction has been checked for

Posting and taking back begin alike: the accounts involved are locked, their balances read and the funds
checked. A transaction that was cleared so has all its accounts in the books and was judged on their true
balances, however the store misbehaves, as long as it does not call a balance empty.
-/

namespace DoubleEntry.Desk

/-! ## Locking -/

theorem lockAccounts_looks (wanted : List AccountId) : (lockAccounts wanted).Looks :=
  ask_looks _ _ _ _

theorem readBalances_looks (accounts : List AccountId) : (readBalances accounts).Looks := by
  unfold readBalances
  split
  · exact .pure _
  · exact ask_looks _ _ _ _

theorem lockBalances_looks (scope : Scope) (t : Transaction) : (lockBalances scope t).Looks := by
  refine .bind (lockAccounts_looks _).mapError fun locked => ?_
  split
  · exact .fail _
  · exact (readBalances_looks _).mapError

theorem readBalances_ok {accounts : List AccountId} {d d' : Desk} {bs : List AccountBalance}
    (h : readBalances accounts d = (.ok bs, d')) (htruth : d.plan.Truthful)
    (hne : accounts ≠ []) :
    d'.store = d.store ∧ ∃ b, d.store.book = some b ∧ b.readBalances accounts = .ok bs := by
  rw [readBalances, if_neg hne] at h
  obtain ⟨hstore, ⟨b, hb, hread⟩ | ⟨_, x, hx, hs, he⟩⟩ := ask_ok h
  · exact ⟨hstore, b, hb, hread⟩
  · exact absurd hs (htruth x hx he).1

/--
**Balances that were locked are those of all accounts involved**, each of which is there. A store that
reports no account at all has not fooled anybody: the first account involved is then missing.
-/
theorem lockBalances_ok {scope : Scope} {t : Transaction} {d d' : Desk} {bs : List AccountBalance}
    (h : lockBalances scope t d = (.ok bs, d')) (htruth : d.plan.Truthful) (hlines : t.lines ≠ []) :
    d'.store = d.store ∧ ∃ b, d.store.book = some b ∧
      (b.Keyed → (∀ a ∈ t.accounts, b.hasLiveAccount a = true) ∧
        b.readBalances t.accounts = .ok bs) := by
  obtain ⟨locked, d₁, hlock, hrest⟩ := Work.bind_ok h
  have htruth₁ : d₁.plan.Truthful :=
    htruth.within ((lockAccounts_looks _).mapError.of_eq hlock).plan
  obtain ⟨hstore₁, hlocked⟩ := ask_ok (Work.mapError_ok hlock)
  have haccounts := t.accounts_ne_nil hlines
  cases hfind : t.accounts.find? fun a => !locked.contains a with
  | some missing =>
      rw [hfind] at hrest
      cases hrest
  | none =>
      rw [hfind] at hrest
      -- nothing is missing from what the store said it had locked
      have hall : ∀ a ∈ t.accounts, a ∈ locked := by
        intro a ha
        have := List.find?_eq_none.mp hfind a ha
        rw [Bool.not_eq_true', Bool.not_eq_false] at this
        exact List.contains_iff_mem.mp this
      have hne : locked ≠ [] := by
        obtain ⟨a, ha⟩ := List.exists_mem_of_ne_nil _ haccounts
        exact List.ne_nil_of_mem (hall a ha)
      obtain ⟨hstore₂, b, hb, hread⟩ := readBalances_ok (Work.mapError_ok hrest) htruth₁ hne
      refine ⟨hstore₂.trans hstore₁, b, by rw [← hstore₁]; exact hb, fun hkeyed => ?_⟩
      rcases hlocked with ⟨b', hb', hids⟩ | ⟨hnil, _⟩
      · obtain rfl : b' = b := Option.some.inj (hb'.symm.trans (by rw [← hstore₁]; exact hb))
        have hids := Except.ok.inj hids
        rw [Book.liveAccounts_ids hkeyed (Transaction.accounts_sorted t)] at hids
        have hlive : ∀ a ∈ t.accounts, b'.hasLiveAccount a = true := by
          intro a ha
          have hmem := hall a ha
          rw [← hids] at hmem
          exact (List.mem_filter.mp hmem).2
        have hsame : locked = t.accounts := by
          rw [← hids]
          exact List.filter_eq_self.mpr hlive
        rw [hsame] at hread
        exact ⟨hlive, hread⟩
      · -- a store that reports no account has not locked the first one involved
        exact absurd hnil hne

/-! ## Clearing -/

/-- A transaction passed on the true balances of all accounts involved. -/
structure Cleared (policy : FundsPolicy) (b : Book) (t : Transaction) : Prop where
  /-- Every account involved is there. -/
  found : ∀ a, t.touches a = true → b.hasLiveAccount a = true
  /-- Every balance involved could be read. -/
  fits : ∀ a, t.touches a = true → Amount.Fits (b.balance a)
  /-- At least two accounts are involved. -/
  several : 2 ≤ t.accounts.length
  /-- No protected account is overdrawn. -/
  allowed : ∀ a, t.touches a = true → ¬ policy.Forbids (b.balance a) (t.net a)

theorem Cleared.of_checkFunds {policy : FundsPolicy} {b : Book} {t : Transaction}
    {bs : List AccountBalance} (hfound : ∀ a ∈ t.accounts, b.hasLiveAccount a = true)
    (hread : b.readBalances t.accounts = .ok bs) (hcheck : checkFunds policy bs t = .ok ()) :
    Cleared policy b t := by
  obtain ⟨haccounts, hbalances⟩ := Book.readBalances_ok hread
  obtain ⟨_, hlength, hall⟩ := checkFunds_ok hcheck
  have hentry : ∀ a, t.touches a = true → ∃ x ∈ bs, x.account = a := by
    intro a ha
    have hmem := Transaction.mem_accounts.mpr ha
    rw [← haccounts] at hmem
    exact List.mem_map.mp hmem
  refine ⟨fun a ha => hfound a (Transaction.mem_accounts.mpr ha), ?_, ?_, ?_⟩
  · intro a ha
    obtain ⟨x, hx, rfl⟩ := hentry a ha
    rw [← hbalances x hx]
    exact x.balance.fits
  · rw [← haccounts, List.length_map]
    exact hlength
  · intro a ha
    obtain ⟨x, hx, rfl⟩ := hentry a ha
    rw [← hbalances x hx]
    exact (AccountBalance.check_ok_iff ha).mp (hall x hx)

/-- Clearing changes nothing, whatever comes of it. -/
theorem clear_looks (policy : FundsPolicy) (scope : Scope) (t : Transaction) :
    (clear policy scope t).Looks :=
  .bind (lockBalances_looks scope t) fun _ => (Work.Looks.ofExcept _).mapError

/-- **Clearing that succeeded** changed nothing and found what it has to find. -/
theorem clear_ok {policy : FundsPolicy} {scope : Scope} {t : Transaction} {d d' : Desk}
    (h : clear policy scope t d = (.ok (), d')) (htruth : d.plan.Truthful) :
    d'.store = d.store ∧ t.lines ≠ [] ∧ ∃ b, d.store.book = some b ∧
      (b.Keyed → Cleared policy b t) := by
  obtain ⟨bs, d₁, hlock, hjudged⟩ := Work.bind_ok h
  obtain ⟨hcheck, rfl⟩ := Work.ofExcept_ok (Work.mapError_ok hjudged)
  obtain ⟨hlines, _, _⟩ := checkFunds_ok hcheck
  obtain ⟨hstore, b, hb, hlocked⟩ := lockBalances_ok hlock htruth hlines
  refine ⟨hstore, hlines, b, hb, fun hkeyed => ?_⟩
  obtain ⟨hfound, hread⟩ := hlocked hkeyed
  exact Cleared.of_checkFunds hfound hread hcheck

end DoubleEntry.Desk
