import DoubleEntry.Proofs.Removal
import DoubleEntry.Proofs.Calls
import DoubleEntry.Proofs.Retrieval

/-!
# Accounts with their balances

Whichever way accounts are found, they are read by their identifiers and their balances are read together in the
same snapshot. At a calm desk that succeeds if the balances of all the accounts found are in range and the texts of
their statuses can be read, and each account comes with its exact balance. The texts can always be read where they
could be at the start: an account is opened under a status that can, and nothing writes a status after that.
-/

namespace DoubleEntry

open Time

/-! ## Statuses -/

namespace AccountRow

/-- The text of the status can be read. -/
def Legible (r : AccountRow) : Prop := ∃ s, AccountStatus.ofText? r.status = some s

theorem Legible.exists_account {r : AccountRow} (h : r.Legible) (x : Amount) :
    ∃ a, r.account x = .ok a ∧ a.id = r.id ∧ a.balance = x := by
  obtain ⟨s, hs⟩ := h
  exact ⟨_, account_of_status hs x, rfl, rfl⟩

theorem legible_newRow (m : Moment) (request : AccountRequest) (number : String) :
    (Desk.newRow m request number).Legible :=
  ⟨.standard, AccountStatus.ofText?_canonical .standard⟩

theorem Legible.marked {r : AccountRow} (h : r.Legible) (id : AccountId) (moment : Timestamp) :
    (r.mark id moment).Legible := by
  unfold mark
  split
  · exact h
  · exact h

end AccountRow

/-- Every status is that of an account row before, or of a new account. -/
theorem Operation.Makes.legible_accounts {o : Operation} {d : Desk} {b b' : Book}
    (h : o.Makes d b b') (hb : ∀ r ∈ b.accounts, r.Legible) : ∀ r ∈ b'.accounts, r.Legible := by
  cases h with
  | @opened m request number _ _ _ _ =>
      intro r hr
      rcases List.mem_append.mp hr with hr | hr
      · exact hb r hr
      · rw [List.mem_singleton.mp hr]
        exact AccountRow.legible_newRow m request number
  | entered _ _ _ _ => exact hb
  | marked _ _ hmarked =>
      rw [hmarked.accounts]
      exact hb

theorem Visited.legible_accounts {allowed : FundsPolicy → Prop} {start : Store} {b : Book}
    (hb : start.book = some b) (hstart : ∀ r ∈ b.accounts, r.Legible) {d : Desk}
    (h : Visited allowed start d) :
    ∃ b', d.store.book = some b' ∧ ∀ r ∈ b'.accounts, r.Legible := by
  refine h.induct hb hstart ?_ ?_
  · intro start' x d' hx hlegible hrun
    obtain ⟨e, turns, rfl, rfl⟩ := hrun.through
    exact Desk.through_induct hx hlegible (fun _ _ _ _ hy hmade => hmade.legible_accounts hy) turns
  · intro x a moment hx r hr
    obtain ⟨s, hs, rfl⟩ := List.mem_map.mp hr
    exact (hx s hs).marked a moment

/-! ## What a row shows -/

theorem AccountRow.account_ok {r : AccountRow} {x : Amount} {a : Account} (h : r.account x = .ok a) :
    a.id = r.id ∧ a.customer = r.customer ∧ a.createdAt = r.createdAt ∧ a.balance = x := by
  unfold account at h
  split at h
  · cases h
    exact ⟨rfl, rfl, rfl, rfl⟩
  · cases h

namespace Book

variable {b : Book} {r : AccountRow} {a : Account}

/-- The account that a row stands for, with its balance in the books, if status and balance can be read. -/
def shown? (b : Book) (r : AccountRow) : Option Account :=
  (Amount.ofInt? (b.balance r.id)).bind fun x => (r.account x).toOption

theorem shown?_of_account {x : Amount} (hx : x.value = b.balance r.id) (h : r.account x = .ok a) :
    b.shown? r = some a := by
  unfold shown?
  rw [Amount.ofInt?_eq_some.mpr hx, Option.bind_some, h]
  rfl

theorem exists_shown (hlegible : r.Legible) (hfits : Amount.Fits (b.balance r.id)) :
    ∃ a, b.shown? r = some a := by
  obtain ⟨x, _, hx⟩ := Amount.ofInt?_of_fits hfits
  obtain ⟨a, ha, _⟩ := hlegible.exists_account x
  exact ⟨a, shown?_of_account hx ha⟩

/-- What a row shows is its own: the identifier, the customer, the time of creation, and the exact balance. -/
theorem shown?_some (h : b.shown? r = some a) :
    a.id = r.id ∧ a.customer = r.customer ∧ a.createdAt = r.createdAt ∧
      a.balance.value = b.balance r.id := by
  obtain ⟨x, hx, ha⟩ := Option.bind_eq_some_iff.mp h
  cases haccount : r.account x with
  | error e =>
      rw [haccount] at ha
      cases ha
  | ok c =>
      rw [haccount] at ha
      obtain rfl : c = a := Option.some.inj ha
      obtain ⟨hid, hcustomer, hcreated, rfl⟩ := AccountRow.account_ok haccount
      exact ⟨hid, hcustomer, hcreated, Amount.ofInt?_eq_some.mp hx⟩

/-- Rows that can all be shown are shown under their identifiers, in their order. -/
theorem map_id_shown {rows : List AccountRow} (h : ∀ r ∈ rows, ∃ a, b.shown? r = some a) :
    (rows.filterMap b.shown?).map Account.id = rows.map AccountRow.id := by
  induction rows with
  | nil => rfl
  | cons r rest ih =>
    obtain ⟨a, ha⟩ := h r List.mem_cons_self
    have hrest := ih fun s hs => h s (List.mem_cons_of_mem _ hs)
    rw [List.filterMap_cons_some ha, List.map_cons, List.map_cons, hrest, (shown?_some ha).1]

end Book

/-- Rows whose statuses and balances can be read become the accounts that they show. -/
theorem AccountRow.accountsOf_shown {b : Book} {balances : List AccountBalance}
    {rows : List AccountRow} (hlegible : ∀ r ∈ rows, r.Legible)
    (hread : ∀ r ∈ rows, ∃ y ∈ balances, y.account = r.id)
    (hexact : ∀ y ∈ balances, y.balance.value = b.balance y.account) :
    accountsOf balances rows = .ok (rows.filterMap b.shown?) := by
  induction rows with
  | nil => rfl
  | cons r rest ih =>
    have hrest := ih (fun s hs => hlegible s (List.mem_cons_of_mem _ hs))
      fun s hs => hread s (List.mem_cons_of_mem _ hs)
    -- the balance that is looked up under the row's identifier is there
    obtain ⟨y, hy, hyr⟩ := hread r List.mem_cons_self
    have hsome : (balances.find? fun z => z.account = r.id).isSome :=
      List.find?_isSome.mpr ⟨y, hy, decide_eq_true hyr⟩
    obtain ⟨z, hz⟩ := Option.isSome_iff_exists.mp hsome
    have hzr : z.account = r.id := by simpa using List.find?_some hz
    have hvalue : z.balance.value = b.balance r.id := by
      rw [hexact z (List.mem_of_find?_eq_some hz), hzr]
    obtain ⟨a, ha, _⟩ := (hlegible r List.mem_cons_self).exists_account z.balance
    rw [accountsOf, hz]
    dsimp only [Option.map_some, Option.getD_some]
    rw [ha, hrest, List.filterMap_cons_some (Book.shown?_of_account hvalue ha)]
    rfl

/-! ## Reading at a calm desk -/

namespace Desk

variable {d : Desk} {b : Book} {ids : List AccountId}

theorem readBalances_calm (h : d.Calm) (hb : d.store.book = some b) (hne : ids ≠ [])
    (hfits : ∀ a ∈ ids, Amount.Fits (b.balance a)) :
    ∃ bs, readBalances ids d = (.ok bs, d.ready) ∧ bs.map AccountBalance.account = ids ∧
      ∀ y ∈ bs, y.balance.value = b.balance y.account := by
  obtain ⟨bs, hbs⟩ := (b.readBalances_iff ids).mpr hfits
  refine ⟨bs, ?_, Book.readBalances_ok hbs⟩
  rw [readBalances, if_neg hne, ask_calm h hb, hbs]
  rfl

/-- **The accounts that are there are answered as their rows show them**, if all of these can be shown. -/
theorem accounts_shown (h : d.Calm) (hb : d.store.book = some b)
    (hlegible : ∀ r ∈ b.liveAccounts ids, r.Legible)
    (hfits : ∀ r ∈ b.liveAccounts ids, Amount.Fits (b.balance r.id)) :
    accounts ids d =
      (.ok ((b.liveAccounts ids).filterMap b.shown?), if ids = [] then d else d.ready) := by
  by_cases hnone : ids = []
  · subst hnone
    have hempty : b.liveAccounts [] = [] :=
      List.eq_nil_iff_forall_not_mem.mpr fun r hr => absurd (Book.mem_liveAccounts.mp hr).2.1 (by simp)
    rw [accounts, if_pos rfl, if_pos rfl, hempty]
    rfl
  have hrows : readAccounts ids d.ready = (.ok (b.liveAccounts ids), d.ready) := by
    rw [readAccounts, ask_calm h.ready hb]
    rfl
  have hbalances : ∃ bs, readBalances ((b.liveAccounts ids).map AccountRow.id) d.ready =
      (.ok bs, d.ready) ∧ bs.map AccountBalance.account = (b.liveAccounts ids).map AccountRow.id ∧
        ∀ y ∈ bs, y.balance.value = b.balance y.account := by
    by_cases hfound : (b.liveAccounts ids).map AccountRow.id = []
    · rw [hfound, readBalances, if_pos rfl]
      exact ⟨[], rfl, rfl, fun y hy => absurd hy (by simp)⟩
    · refine readBalances_calm h.ready hb hfound fun a ha => ?_
      obtain ⟨r, hr, rfl⟩ := List.mem_map.mp ha
      exact hfits r hr
  obtain ⟨bs, hread, haccounts, hexact⟩ := hbalances
  have hboth : orGiveUp (readAccountsWithBalances ids) d.ready =
      (.ok (b.liveAccounts ids, bs), d.ready) := by
    have hreading : readAccountsWithBalances ids d.ready = (.ok (b.liveAccounts ids, bs), d.ready) := by
      rw [readAccountsWithBalances, Work.bind_of_ok hrows, Work.bind_of_ok hread,
        Work.bind_of_ok (control_calm h.ready .commit)]
      rfl
    rw [orGiveUp, hreading]
  have hthere : ∀ r ∈ b.liveAccounts ids, ∃ y ∈ bs, y.account = r.id := by
    intro r hr
    refine List.mem_map.mp ?_
    rw [haccounts]
    exact List.mem_map_of_mem hr
  rw [accounts, if_neg hnone, if_neg hnone,
    Work.bind_of_ok (Work.mapError_of_ok (openSnapshot_calm h)),
    Work.bind_of_ok (Work.mapError_of_ok hboth)]
  dsimp only
  rw [AccountRow.accountsOf_shown hlegible hthere hexact, Work.ofExcept_apply]

/-- The accounts that are there are read with their exact balances, if all these are in range. -/
theorem accounts_calm (h : d.Calm) (hb : d.store.book = some b)
    (hlegible : ∀ r ∈ b.accounts, r.Legible) (hne : b.liveAccounts ids ≠ [])
    (hfits : ∀ r ∈ b.liveAccounts ids, Amount.Fits (b.balance r.id)) :
    ∃ found, accounts ids d = (.ok found, d.ready) ∧
      found.map Account.id = (b.liveAccounts ids).map AccountRow.id ∧
      ∀ a ∈ found, a.balance.value = b.balance a.id := by
  have hasked : ids ≠ [] := by
    rintro rfl
    obtain ⟨r, hr⟩ := List.exists_mem_of_ne_nil _ hne
    exact absurd (Book.mem_liveAccounts.mp hr).2.1 (by simp)
  have hlive : ∀ r ∈ b.liveAccounts ids, r.Legible :=
    fun r hr => hlegible r (Book.mem_liveAccounts.mp hr).1
  have hfound := accounts_shown h hb hlive hfits
  rw [if_neg hasked] at hfound
  refine ⟨_, hfound, Book.map_id_shown fun r hr => Book.exists_shown (hlive r hr) (hfits r hr), ?_⟩
  intro a ha
  obtain ⟨r, _, hr⟩ := List.mem_filterMap.mp ha
  obtain ⟨hid, _, _, hbalance⟩ := Book.shown?_some hr
  rw [hbalance, hid]

/-- The account that a search comes upon is answered, with its exact balance if that is in range. -/
theorem search_calm (h : d.Calm) (hb : d.store.book = some b)
    (hlegible : ∀ r ∈ b.accounts, r.Legible) {number routing kind : String} {r : AccountRow}
    (hfind : (b.accounts.find? fun a => decide (a.number = number ∧ a.routing = routing ∧
      Text.lower a.kind = Text.lower kind) && a.isLive) = some r)
    (hfits : Amount.Fits (b.balance r.id)) :
    ∃ a, (search number routing kind d).1 = .ok (some a) ∧ a.id = r.id ∧
      a.balance.value = b.balance r.id := by
  have hsearch : searchAccount number routing kind d = (.ok (some r.id), d.ready) := by
    rw [searchAccount, ask_calm h hb, hfind]
    rfl
  have hkept : r.isLive = true := (Bool.and_eq_true _ _ ▸ List.find?_some hfind).2
  have hr : r ∈ b.liveAccounts [r.id] :=
    Book.mem_liveAccounts.mpr ⟨List.mem_of_find?_eq_some hfind, List.mem_singleton_self _, hkept⟩
  have hsame : ∀ s ∈ b.liveAccounts [r.id], s.id = r.id :=
    fun s hs => List.mem_singleton.mp (Book.mem_liveAccounts.mp hs).2.1
  obtain ⟨found, hfound, hids, hbalances⟩ := accounts_calm h.ready hb hlegible
    (List.ne_nil_of_mem hr) fun s hs => by rw [hsame s hs]; exact hfits
  -- all that is found is the one account
  cases found with
  | nil =>
      have hmem := List.mem_map_of_mem (f := AccountRow.id) hr
      rw [← hids] at hmem
      exact absurd hmem (by simp)
  | cons a rest =>
      have hid : a.id = r.id := by
        have hmem : a.id ∈ (b.liveAccounts [r.id]).map AccountRow.id := by
          rw [← hids]
          exact List.mem_map_of_mem List.mem_cons_self
        obtain ⟨s, hs, hsa⟩ := List.mem_map.mp hmem
        exact hsa.symm.trans (hsame s hs)
      refine ⟨a, ?_, hid, ?_⟩
      · rw [search, Work.bind_of_ok (Work.mapError_of_ok hsearch)]
        dsimp only
        rw [Work.bind_of_ok hfound]
        rfl
      · rw [hbalances a List.mem_cons_self, hid]

/-- A customer's accounts are found by their identifiers. -/
theorem customerAccounts_calm (h : d.Calm) (hb : d.store.book = some b) (customer : CustomerId) :
    ∃ ids, customerAccounts customer d = (.ok ids, d.ready) ∧
      ∀ i, i ∈ ids ↔ ∃ s ∈ b.accounts, s.id = i ∧ s.customer = customer ∧ s.isLive = true := by
  refine ⟨_, ask_calm h hb .customerAccounts "accounts" _ [], fun i => ?_⟩
  rw [List.mem_map]
  simp only [Order.mem_sort, List.mem_filter, Bool.and_eq_true, decide_eq_true_eq]
  constructor
  · rintro ⟨s, ⟨hs, hcustomer, hlive⟩, hid⟩
    exact ⟨s, hs, hid, hcustomer, hlive⟩
  · rintro ⟨s, hs, hid, hcustomer, hlive⟩
    exact ⟨s, ⟨hs, hcustomer, hlive⟩, hid⟩

/-- A customer's accounts are answered with their exact balances, if all these are in range. -/
theorem accountsOf_calm (h : d.Calm) (hb : d.store.book = some b)
    (hlegible : ∀ r ∈ b.accounts, r.Legible) {r : AccountRow} (hr : r ∈ b.accounts)
    (hkept : r.isLive = true)
    (hfits : ∀ s ∈ b.accounts, s.customer = r.customer → s.isLive = true →
      Amount.Fits (b.balance s.id)) :
    ∃ found, (accountsOf r.customer d).1 = .ok found ∧ (∃ a ∈ found, a.id = r.id) ∧
      ∀ a ∈ found, a.balance.value = b.balance a.id := by
  obtain ⟨ids, hask, hmem⟩ := customerAccounts_calm h hb r.customer
  have hrow : r ∈ b.liveAccounts ids :=
    Book.mem_liveAccounts.mpr ⟨hr, (hmem r.id).mpr ⟨r, hr, rfl, rfl, hkept⟩, hkept⟩
  have hrange : ∀ s ∈ b.liveAccounts ids, Amount.Fits (b.balance s.id) := by
    intro s hs
    obtain ⟨k, hk, hid, hcustomer, hlive⟩ := (hmem s.id).mp (Book.mem_liveAccounts.mp hs).2.1
    rw [← hid]
    exact hfits k hk hcustomer hlive
  obtain ⟨found, hfound, hfoundIds, hbalances⟩ :=
    accounts_calm h.ready hb hlegible (List.ne_nil_of_mem hrow) hrange
  refine ⟨Order.sort Account.older found, ?_, ?_, ?_⟩
  · rw [accountsOf, Work.bind_of_ok (Work.mapError_of_ok hask), Work.bind_of_ok hfound]
    rfl
  · have hid : r.id ∈ found.map Account.id := by
      rw [hfoundIds]
      exact List.mem_map_of_mem hrow
    obtain ⟨a, ha, har⟩ := List.mem_map.mp hid
    exact ⟨a, Order.mem_sort.mpr ha, har⟩
  · intro a ha
    exact hbalances a (Order.mem_sort.mp ha)

end Desk

end DoubleEntry
