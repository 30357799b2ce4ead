import DoubleEntry.Proofs.Locking

/-!
# How a posting is judged

At a store that does what it is asked, the answer to a posting is settled by the books alone. The
conditions are looked at in a fixed order and the first that applies decides; where several accounts are
at fault, the least is named. The accounts come up in three forms, as the lines that touch them, as the
ascending list that is locked and as the balances that were read; the judgement speaks of the first only.
-/

namespace DoubleEntry

open Time

/-- The account has the property, and every other that has it comes later. -/
def Least (P : AccountId → Prop) (a : AccountId) : Prop := P a ∧ ∀ x, P x → x = a ∨ a.text < x.text

theorem Least.unique {P : AccountId → Prop} {a x : AccountId} (ha : Least P a) (hx : Least P x) :
    x = a := by
  rcases ha.2 x hx.1 with heq | hlt
  · exact heq
  · rcases hx.2 a ha.1 with heq | hgt
    · exact heq.symm
    · exact absurd (String.lt_trans hlt hgt) (String.lt_irrefl _)

/-- The wording of a sum that does not fit. -/
def unreadableText : String := (StoreError.refused .readBalances .outOfRange).text

/-! ## The judgement -/

/-- How the movement of a transaction is judged on the books, before anything is written. -/
inductive Clearing (policy : FundsPolicy) (b : Book) (t : Transaction) :
    Except LedgerError Unit → Prop where
  /-- An account is missing or deleted. -/
  | missing {a : AccountId}
      (hleast : Least (fun x => t.touches x = true ∧ b.hasLiveAccount x = false) a) :
      Clearing policy b t (.error (.accountNotFound a))
  /-- A balance does not fit. -/
  | unreadable (hfound : ∀ a, t.touches a = true → b.hasLiveAccount a = true)
      (hunfit : ∃ a, t.touches a = true ∧ ¬ Amount.Fits (b.balance a)) :
      Clearing policy b t
        (.error (.persistence .readBalance (some t.id) none unreadableText .rolledBack))
  /-- Only one account is involved. -/
  | lone (hfound : ∀ a, t.touches a = true → b.hasLiveAccount a = true)
      (hfits : ∀ a, t.touches a = true → Amount.Fits (b.balance a)) (hlone : t.accounts.length < 2) :
      Clearing policy b t (.error (.invalidCheckInput t.accounts.length t.lines.length))
  /-- A protected account would be overdrawn. -/
  | overdrawn {a : AccountId} {balance : Amount}
      (hfound : ∀ a, t.touches a = true → b.hasLiveAccount a = true)
      (hfits : ∀ a, t.touches a = true → Amount.Fits (b.balance a)) (hseveral : 2 ≤ t.accounts.length)
      (hleast : Least (fun x => t.touches x = true ∧ policy.Forbids (b.balance x) (t.net x)) a)
      (hbalance : balance.value = b.balance a) :
      Clearing policy b t (.error (.insufficientFunds a balance (-(t.net a))))
  /-- Nothing is in the way. -/
  | cleared (hcleared : Desk.Cleared policy b t) : Clearing policy b t (.ok ())

/-- How a posting is judged. -/
inductive Judgement (policy : FundsPolicy) (b : Book) (t : Transaction) :
    Except LedgerError Unit → Prop where
  /-- The movement is refused. -/
  | refused {e : LedgerError} (hclearing : Clearing policy b t (.error e)) :
      Judgement policy b t (.error e)
  /-- The identifier is taken, be it by a transaction that was taken back. -/
  | taken (hcleared : Desk.Cleared policy b t) (htaken : b.hasHeader t.id = true) :
      Judgement policy b t (.error (.duplicateTransaction t.id))
  /-- The transaction is entered. -/
  | accepted (hcleared : Desk.Cleared policy b t) (hnew : b.hasHeader t.id = false) :
      Judgement policy b t (.ok ())

section

variable {policy : FundsPolicy} {b : Book} {t : Transaction}

theorem not_missing {a : AccountId}
    (hleast : Least (fun x => t.touches x = true ∧ b.hasLiveAccount x = false) a)
    (hfound : ∀ x, t.touches x = true → b.hasLiveAccount x = true) : False := by
  obtain ⟨⟨htouched, hmissing⟩, _⟩ := hleast
  rw [hfound a htouched] at hmissing
  cases hmissing

theorem not_unfit (hunfit : ∃ a, t.touches a = true ∧ ¬ Amount.Fits (b.balance a))
    (hfits : ∀ a, t.touches a = true → Amount.Fits (b.balance a)) : False := by
  obtain ⟨a, htouched, hnot⟩ := hunfit
  exact hnot (hfits a htouched)

/-- A movement is judged in one way. -/
theorem Clearing.unique {r r' : Except LedgerError Unit} (h : Clearing policy b t r)
    (h' : Clearing policy b t r') : r' = r := by
  cases h with
  | missing hleast =>
      cases h' with
      | missing hleast' => rw [hleast.unique hleast']
      | unreadable hfound _ => exact (not_missing hleast hfound).elim
      | lone hfound _ _ => exact (not_missing hleast hfound).elim
      | overdrawn hfound _ _ _ _ => exact (not_missing hleast hfound).elim
      | cleared hcleared => exact (not_missing hleast hcleared.found).elim
  | unreadable hfound hunfit =>
      cases h' with
      | missing hleast => exact (not_missing hleast hfound).elim
      | unreadable _ _ => rfl
      | lone _ hfits _ => exact (not_unfit hunfit hfits).elim
      | overdrawn _ hfits _ _ _ => exact (not_unfit hunfit hfits).elim
      | cleared hcleared => exact (not_unfit hunfit hcleared.fits).elim
  | lone hfound hfits hlone =>
      cases h' with
      | missing hleast => exact (not_missing hleast hfound).elim
      | unreadable _ hunfit => exact (not_unfit hunfit hfits).elim
      | lone _ _ _ => rfl
      | overdrawn _ _ hseveral _ _ => omega
      | cleared hcleared => exact absurd hlone (Nat.not_lt.mpr hcleared.several)
  | overdrawn hfound hfits hseveral hleast hbalance =>
      cases h' with
      | missing hleast' => exact (not_missing hleast' hfound).elim
      | unreadable _ hunfit => exact (not_unfit hunfit hfits).elim
      | lone _ _ hlone => omega
      | overdrawn _ _ _ hleast' hbalance' =>
          obtain rfl := hleast.unique hleast'
          rw [Amount.ext_value (hbalance'.trans hbalance.symm)]
      | cleared hcleared => exact absurd hleast.1.2 (hcleared.allowed _ hleast.1.1)
  | cleared hcleared =>
      cases h' with
      | missing hleast => exact (not_missing hleast hcleared.found).elim
      | unreadable _ hunfit => exact (not_unfit hunfit hcleared.fits).elim
      | lone _ _ hlone => exact absurd hlone (Nat.not_lt.mpr hcleared.several)
      | overdrawn _ _ _ hleast _ => exact absurd hleast.1.2 (hcleared.allowed _ hleast.1.1)
      | cleared _ => rfl

/-- A posting is judged in one way. -/
theorem Judgement.unique {r r' : Except LedgerError Unit} (h : Judgement policy b t r)
    (h' : Judgement policy b t r') : r' = r := by
  cases h with
  | refused hclearing =>
      cases h' with
      | refused hclearing' => exact hclearing.unique hclearing'
      | taken hcleared _ => exact absurd ((Clearing.cleared hcleared).unique hclearing) (by simp)
      | accepted hcleared _ => exact absurd ((Clearing.cleared hcleared).unique hclearing) (by simp)
  | taken hcleared htaken =>
      cases h' with
      | refused hclearing => exact absurd ((Clearing.cleared hcleared).unique hclearing) (by simp)
      | taken _ _ => rfl
      | accepted _ hnew => rw [htaken] at hnew; cases hnew
  | accepted hcleared hnew =>
      cases h' with
      | refused hclearing => exact absurd ((Clearing.cleared hcleared).unique hclearing) (by simp)
      | taken _ htaken => rw [hnew] at htaken; cases htaken
      | accepted _ _ => rfl

end

/-- The judgement says already what becomes of the transaction of the store. -/
theorem Clearing.withRollback {policy : FundsPolicy} {b : Book} {t : Transaction} {e : LedgerError}
    (h : Clearing policy b t (.error e)) : e.withRollback .rolledBack = e := by
  cases h <;> rfl

/-! ## The funds check judges so -/

section

variable {policy : FundsPolicy} {b : Book} {t : Transaction} {bs : List AccountBalance}

/-- The first balance that fails is that of the least account to be overdrawn. -/
theorem overdrawn_of_check (hread : b.readBalances t.accounts = .ok bs)
    {passed rest : List AccountBalance} {x : AccountBalance} {e : LedgerError}
    (hbs : bs = passed ++ x :: rest) (hpassed : ∀ y ∈ passed, y.check policy t = .ok ())
    (hx : x.check policy t = .error e) :
    e = .insufficientFunds x.account x.balance (-(t.net x.account)) ∧
      x.balance.value = b.balance x.account ∧
      Least (fun a => t.touches a = true ∧ policy.Forbids (b.balance a) (t.net a)) x.account := by
  obtain ⟨haccounts, hbalances⟩ := Book.readBalances_ok hread
  have htouched : ∀ y ∈ bs, t.touches y.account = true := by
    intro y hy
    refine Transaction.mem_accounts.mp ?_
    rw [← haccounts]
    exact List.mem_map_of_mem hy
  have hxmem : x ∈ bs := by rw [hbs]; simp
  have hforbidden : policy.Forbids (b.balance x.account) (t.net x.account) := by
    rw [← hbalances x hxmem]
    by_contra hallowed
    rw [AccountBalance.check_of_allowed (htouched x hxmem) hallowed] at hx
    cases hx
  -- the balances come in the order of the accounts, so whoever fails first is the least to fail
  have hsorted : (bs.map AccountBalance.account).Pairwise fun a c => a.text < c.text := by
    rw [haccounts]
    exact t.accounts_sorted
  refine ⟨?_, hbalances x hxmem, ⟨htouched x hxmem, hforbidden⟩, ?_⟩
  · rw [← hbalances x hxmem] at hforbidden
    rw [AccountBalance.check_of_forbidden (htouched x hxmem) hforbidden] at hx
    exact (Except.error.inj hx).symm
  · rintro a ⟨ha, haforbidden⟩
    have hmem := Transaction.mem_accounts.mpr ha
    rw [← haccounts] at hmem
    obtain ⟨y, hy, rfl⟩ := List.mem_map.mp hmem
    rw [← hbalances y hy] at haforbidden
    rw [hbs] at hy hsorted
    rw [List.map_append, List.map_cons, List.pairwise_append, List.pairwise_cons] at hsorted
    rcases List.mem_append.mp hy with hy | hy
    · have hok := hpassed y hy
      rw [AccountBalance.check_of_forbidden ha haforbidden] at hok
      cases hok
    · rcases List.mem_cons.mp hy with rfl | hy
      · exact Or.inl rfl
      · exact Or.inr (hsorted.2.1.1 _ (List.mem_map_of_mem hy))

/-- **The funds check on the true balances is the judgement**, if all accounts were found. -/
theorem Clearing.of_check (hfound : ∀ a, t.touches a = true → b.hasLiveAccount a = true)
    (hlines : t.lines ≠ []) (hread : b.readBalances t.accounts = .ok bs) :
    Clearing policy b t (checkFunds policy bs t) := by
  obtain ⟨haccounts, hbalances⟩ := Book.readBalances_ok hread
  have hlength : bs.length = t.accounts.length := by rw [← haccounts, List.length_map]
  have hfits : ∀ a, t.touches a = true → Amount.Fits (b.balance a) := by
    intro a ha
    rcases b.readBalances_cases t.accounts with ⟨_, hall⟩ | ⟨herror, _⟩
    · exact hall a (Transaction.mem_accounts.mpr ha)
    · rw [hread] at herror
      cases herror
  cases hcheck : checkFunds policy bs t with
  | ok _ =>
      refine .cleared (Desk.Cleared.of_checkFunds (fun a ha => ?_) hread hcheck)
      exact hfound a (Transaction.mem_accounts.mp ha)
  | error e =>
      unfold checkFunds at hcheck
      split at hcheck
      · rename_i hinput
        cases hcheck
        rw [hlength] at hinput ⊢
        exact .lone hfound hfits (hinput.resolve_right hlines)
      · rename_i hinput
        rcases checkEach_cases policy t bs with ⟨hok, _⟩ | ⟨passed, x, rest, e', hbs, hpassed, hx, he⟩
        · rw [hok] at hcheck
          cases hcheck
        · rw [he] at hcheck
          cases hcheck
          obtain ⟨rfl, hbalance, hleast⟩ := overdrawn_of_check hread hbs hpassed hx
          exact .overdrawn hfound hfits (by omega) hleast hbalance

end

namespace Desk

/-! ## Locking at a calm desk -/

variable {d : Desk} {b : Book}

/-- The accounts are looked for in ascending order, so the first that is missing is the least. -/
theorem least_of_find? {t : Transaction} {p : AccountId → Bool} {a : AccountId}
    (h : t.accounts.find? p = some a) : Least (fun x => t.touches x = true ∧ p x = true) a := by
  obtain ⟨hmem, hp, hfirst⟩ := Order.find?_first t.accounts_sorted h
  refine ⟨⟨Transaction.mem_accounts.mp hmem, hp⟩, fun x hx => ?_⟩
  exact hfirst x (Transaction.mem_accounts.mpr hx.1) hx.2

/-- The locking names the first account that is not there, or reads all balances. -/
theorem lockBalances_calm (h : d.Calm) (hb : d.store.book = some b) (hkeyed : b.Keyed)
    (scope : Scope) {t : Transaction} (hlines : t.lines ≠ []) :
    lockBalances scope t d = match t.accounts.find? fun a => !b.hasLiveAccount a with
      | some missing => (.error (.error (.accountNotFound missing)), d.ready)
      | none => ((b.readBalances t.accounts).mapError fun e =>
          scope.stop .readBalance none (.refused .readBalances e), d.ready) := by
  have hlock : lockAccounts t.accounts d =
      (.ok (t.accounts.filter b.hasLiveAccount), d.ready) := by
    rw [lockAccounts, ask_calm h hb, Book.liveAccounts_ids hkeyed t.accounts_sorted]
    rfl
  -- what was not locked is what is not there
  have hfind : (t.accounts.find? fun a => !(t.accounts.filter b.hasLiveAccount).contains a) =
      t.accounts.find? fun a => !b.hasLiveAccount a := by
    refine List.find?_congr fun a ha => congrArg not ?_
    rw [Bool.eq_iff_iff, List.contains_iff_mem, List.mem_filter]
    exact and_iff_right ha
  rw [lockBalances, Scope.guarded, Work.bind_of_ok (Work.mapError_of_ok hlock), hfind]
  cases hmissing : t.accounts.find? fun a => !b.hasLiveAccount a with
  | some missing => rfl
  | none =>
      have hall : ∀ a ∈ t.accounts, b.hasLiveAccount a = true := by
        intro a ha
        simpa using List.find?_eq_none.mp hmissing a ha
      dsimp only
      rw [List.filter_eq_self.mpr hall, Scope.guarded, readBalances,
        if_neg (t.accounts_ne_nil hlines)]
      cases hread : b.readBalances t.accounts with
      | ok bs =>
          refine Work.mapError_of_ok ?_
          rw [ask_calm h.ready hb, hread]
          rfl
      | error e =>
          refine Work.mapError_of_error (e := StoreError.refused .readBalances e) ?_
          rw [ask_calm h.ready hb, hread]
          rfl

/-- **A calm desk clears what is clear by the judgement**, and stops with its error otherwise. -/
theorem clear_calm (h : d.Calm) (hb : d.store.book = some b) (hkeyed : b.Keyed)
    (policy : FundsPolicy) (scope : Scope) {t : Transaction} (hscope : scope.transaction = t.id)
    (hlines : t.lines ≠ []) :
    (Clearing policy b t (.ok ()) ∧ clear policy scope t d = (.ok (), d.ready)) ∨
      ∃ e, Clearing policy b t (.error (e.withRollback .rolledBack)) ∧
        clear policy scope t d = (.error (.error e), d.ready) := by
  have hlock := lockBalances_calm h hb hkeyed scope hlines
  cases hmissing : t.accounts.find? fun a => !b.hasLiveAccount a with
  | some a =>
      rw [hmissing] at hlock
      refine Or.inr ⟨.accountNotFound a, .missing ?_, Work.bind_of_error hlock _⟩
      have hleast := least_of_find? hmissing
      simpa using hleast
  | none =>
      rw [hmissing] at hlock
      have hfound : ∀ a, t.touches a = true → b.hasLiveAccount a = true := by
        intro a ha
        simpa using List.find?_eq_none.mp hmissing a (Transaction.mem_accounts.mpr ha)
      rcases b.readBalances_cases t.accounts with ⟨⟨bs, hread⟩, _⟩ | ⟨hread, a, ha, hnot⟩
      · rw [hread] at hlock
        have hjudged : Clearing policy b t (checkFunds policy bs t) :=
          .of_check hfound hlines hread
        rw [clear, Work.bind_of_ok hlock]
        cases hcheck : checkFunds policy bs t with
        | ok _ =>
            rw [hcheck] at hjudged
            exact Or.inl ⟨hjudged, rfl⟩
        | error e =>
            rw [hcheck] at hjudged
            exact Or.inr ⟨e, by rw [hjudged.withRollback]; exact hjudged, rfl⟩
      · rw [hread] at hlock
        refine Or.inr ⟨.persistence .readBalance (some t.id) none unreadableText .notAttempted,
          .unreadable hfound ⟨a, Transaction.mem_accounts.mp ha, hnot⟩, ?_⟩
        rw [clear, Work.bind_of_error hlock, ← hscope]
        rfl

end Desk

end DoubleEntry
