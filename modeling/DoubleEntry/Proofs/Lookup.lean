import Mathlib.Order.OrderDual
import DoubleEntry.Proofs.AccountReading
import DoubleEntry.Proofs.Chronology

/-!
# Three ways to an account

An account is asked for by its identifier, by its number, or by its customer. The store answers these with three
different queries, and two of them find identifiers only, which are then looked up like any others. In books where
no two rows share an identifier or a number under a routing number, the three come to the same: each live row shows
one account, and that is what is answered, whichever way it is reached. What else was asked for, how often and in
which order leaves no trace, and rows that are deleted are never found.
-/

namespace DoubleEntry

open Time

/-! ## Older and younger -/

namespace Account

/-- What an account is listed by: the time of creation, then the identifier. -/
def rank (a : Account) : List Int ×ₗ String := toLex (a.createdAt.key, a.id.text)

theorem rank_lt {a c : Account} : a.rank < c.rank ↔
    a.createdAt.before c.createdAt = true ∨ (a.createdAt = c.createdAt ∧ a.id.text < c.id.text) := by
  rw [Timestamp.before_iff]
  refine Prod.Lex.toLex_lt_toLex.trans (or_congr_right (and_congr_left fun _ => ?_))
  exact Timestamp.key_injective.eq_iff

theorem older_eq (a c : Account) : older a c = decide (a.rank < c.rank) := by
  rw [Bool.eq_iff_iff, decide_eq_true_eq, rank_lt]
  unfold older
  rcases Timestamp.before_trichotomy a.createdAt c.createdAt with hlt | heq | hgt
  · simp [hlt]
  · simp [heq]
  · have hnot := Timestamp.before_asymm hgt
    have hne : a.createdAt ≠ c.createdAt := by
      intro heq
      rw [heq, Timestamp.before_irrefl] at hgt
      cases hgt
    simp [hgt, hnot, hne]

/-- Accounts of different identifiers are listed strictly, the oldest first. -/
theorem sort_older {l : List Account} (h : (l.map Account.id).Nodup) :
    (Order.sort older l).Pairwise fun a c => a.createdAt.before c.createdAt = true ∨
      (a.createdAt = c.createdAt ∧ a.id.text < c.id.text) := by
  -- the oldest is the greatest in the dual order
  have hsorted : (Order.sort older l).Pairwise fun a c => a.rank ≤ c.rank :=
    @Order.sort_descending Account _ _ (fun a => OrderDual.toDual a.rank) older l
      fun a _ c _ => older_eq c a
  have hdifferent : (Order.sort older l).Pairwise fun a c => a.id ≠ c.id :=
    List.pairwise_map.mp (((Order.sort_perm older l).map Account.id).nodup_iff.mpr h)
  refine (hsorted.and hdifferent).imp ?_
  rintro a c ⟨hle, hne⟩
  refine rank_lt.mp (lt_of_le_of_ne hle fun heq => hne ?_)
  have htext : a.id.text = c.id.text := congrArg Prod.snd (toLex.injective heq)
  cases ha : a.id
  cases hc : c.id
  rw [ha, hc] at htext
  cases htext
  rfl

end Account

/-! ## Rows that are found -/

namespace Book

variable {b : Book}

/-- Of every two rows one has another number or another routing number. -/
def Numbered (b : Book) : Prop := (b.accounts.map fun r => (r.number, r.routing)).Nodup

instance (b : Book) : Decidable b.Numbered :=
  inferInstanceAs (Decidable (b.accounts.map fun r => (r.number, r.routing)).Nodup)

theorem Keyed.eq_of_id (h : b.Keyed) {r s : AccountRow} (hr : r ∈ b.accounts) (hs : s ∈ b.accounts)
    (hid : r.id = s.id) : r = s :=
  List.inj_on_of_nodup_map h hr hs hid

/-- A live row is all that is found under its identifier. -/
theorem Keyed.liveAccounts_one (h : b.Keyed) {r : AccountRow} (hr : r ∈ b.accounts)
    (hkept : r.isLive = true) : b.liveAccounts [r.id] = [r] := by
  have hsorted := List.pairwise_map.mp (liveAccounts_sorted h [r.id])
  refine @Order.eq_of_sorted _ (fun s : AccountRow => s.id.text) _ _ hsorted
    (List.pairwise_singleton _ r) fun s => ?_
  rw [mem_liveAccounts, List.mem_singleton, List.mem_singleton]
  constructor
  · rintro ⟨hs, hid, _⟩
    exact h.eq_of_id hs hr hid
  · rintro rfl
    exact ⟨hr, rfl, hkept⟩

/-- A search by number finds the live row that has it, under its type in whatever case. -/
theorem Numbered.find?_eq (h : b.Numbered) {r : AccountRow} (hr : r ∈ b.accounts)
    (hkept : r.isLive = true) {kind : String} (hkind : Text.lower kind = Text.lower r.kind) :
    (b.accounts.find? fun a => decide (a.number = r.number ∧ a.routing = r.routing ∧
      Text.lower a.kind = Text.lower kind) && a.isLive) = some r := by
  generalize hp : (fun a : AccountRow => decide (a.number = r.number ∧ a.routing = r.routing ∧
    Text.lower a.kind = Text.lower kind) && a.isLive) = p
  have hself : p r = true := by
    rw [← hp, hkind]
    simpa using hkept
  have hsome : (b.accounts.find? p).isSome := List.find?_isSome.mpr ⟨r, hr, hself⟩
  obtain ⟨s, hs⟩ := Option.isSome_iff_exists.mp hsome
  have hmatch : p s = true := List.find?_some hs
  rw [← hp, Bool.and_eq_true, decide_eq_true_eq] at hmatch
  obtain ⟨⟨hnumber, hrouting, _⟩, _⟩ := hmatch
  have hsame : s = r :=
    List.inj_on_of_nodup_map h (List.mem_of_find?_eq_some hs) hr (Prod.ext hnumber hrouting)
  rw [hs, hsame]

end Book

/-! ## The lookups -/

/-- Each live row of the books shows one account, and the lookups answer these and no others. -/
structure Lookups (b : Book) (d : Desk) : Prop where
  /-- A live row shows the same account by identifier, by number and by customer. -/
  same : ∀ r ∈ b.accounts, r.isLive = true → ∃ a, b.shown? r = some a ∧
    (∀ ids, r.id ∈ ids → ∃ found, (Desk.accounts ids d).1 = .ok found ∧ a ∈ found) ∧
    (∀ kind, Text.lower kind = Text.lower r.kind →
      (Desk.search r.number r.routing kind d).1 = .ok (some a)) ∧
    ∃ found, (Desk.accountsOf r.customer d).1 = .ok found ∧ a ∈ found
  /-- By identifier, what is found is what was asked for and is live, ascending and each once. -/
  identified : ∀ ids, ∃ found, (Desk.accounts ids d).1 = .ok found ∧
    found.Pairwise (fun x y => x.id.text < y.id.text) ∧
    ∀ a, a ∈ found ↔ ∃ r ∈ b.accounts, r.isLive = true ∧ r.id ∈ ids ∧ b.shown? r = some a
  /-- By customer, what is found is the customer's and is live, by time of creation and identifier. -/
  owned : ∀ customer, ∃ found, (Desk.accountsOf customer d).1 = .ok found ∧
    found.Pairwise (fun x y => x.createdAt.before y.createdAt = true ∨
      (x.createdAt = y.createdAt ∧ x.id.text < y.id.text)) ∧
    ∀ a, a ∈ found ↔
      ∃ r ∈ b.accounts, r.isLive = true ∧ r.customer = customer ∧ b.shown? r = some a
  /-- By number, nothing is found where no live row matches. -/
  missed : ∀ number routing kind,
    (∀ r ∈ b.accounts, r.isLive = true → r.number = number → r.routing = routing →
      Text.lower r.kind ≠ Text.lower kind) →
    (Desk.search number routing kind d).1 = .ok none

namespace Desk

variable {d : Desk} {b : Book}

/-- The live rows of some identifiers are answered as they are shown. -/
theorem accounts_eq (h : d.Calm) (hb : d.store.book = some b)
    (hlegible : ∀ r ∈ b.accounts, r.isLive = true → r.Legible)
    (hfits : ∀ r ∈ b.accounts, r.isLive = true → Amount.Fits (b.balance r.id))
    (ids : List AccountId) :
    (accounts ids d).1 = .ok ((b.liveAccounts ids).filterMap b.shown?) := by
  have hlive : ∀ r ∈ b.liveAccounts ids, r ∈ b.accounts ∧ r.isLive = true := by
    intro r hr
    obtain ⟨hmem, _, hkept⟩ := Book.mem_liveAccounts.mp hr
    exact ⟨hmem, hkept⟩
  rw [accounts_shown h hb (fun r hr => hlegible r (hlive r hr).1 (hlive r hr).2)
    fun r hr => hfits r (hlive r hr).1 (hlive r hr).2]

/-- What was found by identifier is put in order when it is a customer's. -/
theorem accountsOf_eq {customer : CustomerId} {ids : List AccountId} {found : List Account}
    (hask : customerAccounts customer d = (.ok ids, d.ready))
    (hfound : (accounts ids d.ready).1 = .ok found) :
    (accountsOf customer d).1 = .ok (Order.sort Account.older found) := by
  have hpair : accounts ids d.ready = (.ok found, (accounts ids d.ready).2) :=
    Prod.ext hfound rfl
  rw [accountsOf, Work.bind_of_ok (Work.mapError_of_ok hask), Work.bind_of_ok hpair]
  rfl

/-- A search that comes upon a row answers the first account of its identifier. -/
theorem search_eq {number routing kind : String} {r : AccountRow} {found : List Account}
    (h : d.Calm) (hb : d.store.book = some b)
    (hfind : (b.accounts.find? fun a => decide (a.number = number ∧ a.routing = routing ∧
      Text.lower a.kind = Text.lower kind) && a.isLive) = some r)
    (hfound : (accounts [r.id] d.ready).1 = .ok found) :
    (search number routing kind d).1 = .ok found.head? := by
  have hsearch : searchAccount number routing kind d = (.ok (some r.id), d.ready) := by
    rw [searchAccount, ask_calm h hb, hfind]
    rfl
  have hpair : accounts [r.id] d.ready = (.ok found, (accounts [r.id] d.ready).2) :=
    Prod.ext hfound rfl
  rw [search, Work.bind_of_ok (Work.mapError_of_ok hsearch)]
  dsimp only
  rw [Work.bind_of_ok hpair]
  rfl

theorem search_none {number routing kind : String} (h : d.Calm) (hb : d.store.book = some b)
    (hnone : ∀ r ∈ b.accounts, r.isLive = true → r.number = number → r.routing = routing →
      Text.lower r.kind ≠ Text.lower kind) :
    (search number routing kind d).1 = .ok none := by
  have hfind : (b.accounts.find? fun a => decide (a.number = number ∧ a.routing = routing ∧
      Text.lower a.kind = Text.lower kind) && a.isLive) = none := by
    refine List.find?_eq_none.mpr fun r hr hmatch => ?_
    rw [Bool.and_eq_true, decide_eq_true_eq] at hmatch
    obtain ⟨⟨hnumber, hrouting, hkind⟩, hkept⟩ := hmatch
    exact hnone r hr hkept hnumber hrouting hkind
  have hsearch : searchAccount number routing kind d = (.ok none, d.ready) := by
    rw [searchAccount, ask_calm h hb, hfind]
    rfl
  rw [search, Work.bind_of_ok (Work.mapError_of_ok hsearch)]
  rfl

end Desk

namespace Book

variable {b : Book}

theorem mem_shown {ids : List AccountId} {a : Account} :
    a ∈ (b.liveAccounts ids).filterMap b.shown? ↔
      ∃ r ∈ b.accounts, r.isLive = true ∧ r.id ∈ ids ∧ b.shown? r = some a := by
  rw [List.mem_filterMap]
  constructor
  · rintro ⟨r, hr, hshown⟩
    obtain ⟨hmem, hwanted, hkept⟩ := mem_liveAccounts.mp hr
    exact ⟨r, hmem, hkept, hwanted, hshown⟩
  · rintro ⟨r, hmem, hkept, hwanted, hshown⟩
    exact ⟨r, mem_liveAccounts.mpr ⟨hmem, hwanted, hkept⟩, hshown⟩

/-- What is shown of live rows stands in the order of the identifiers. -/
theorem shown_sorted (hkeyed : b.Keyed) (ids : List AccountId) :
    ((b.liveAccounts ids).filterMap b.shown?).Pairwise fun x y => x.id.text < y.id.text := by
  have hrows := List.pairwise_map.mp (liveAccounts_sorted hkeyed ids)
  refine List.pairwise_filterMap.mpr (hrows.imp fun hlt x hx y hy => ?_)
  rw [(shown?_some hx).1, (shown?_some hy).1]
  exact hlt

/-- **In books without doubles the lookups agree.** -/
theorem Keyed.lookups (hkeyed : b.Keyed) (hnumbered : b.Numbered)
    (hlegible : ∀ r ∈ b.accounts, r.isLive = true → r.Legible)
    (hfits : ∀ r ∈ b.accounts, r.isLive = true → Amount.Fits (b.balance r.id)) {d : Desk}
    (h : d.Calm) (hb : d.store.book = some b) : Lookups b d := by
  -- a customer's live rows are exactly those of the identifiers that the customer's query finds
  have howned : ∀ customer, ∃ ids, (Desk.accountsOf customer d).1 =
      .ok (Order.sort Account.older ((b.liveAccounts ids).filterMap b.shown?)) ∧
      ∀ r ∈ b.accounts, r.isLive = true → (r.id ∈ ids ↔ r.customer = customer) := by
    intro customer
    obtain ⟨ids, hask, hmem⟩ := Desk.customerAccounts_calm h hb customer
    refine ⟨ids, Desk.accountsOf_eq hask (Desk.accounts_eq h.ready hb hlegible hfits ids), ?_⟩
    intro r hr hkept
    rw [hmem]
    constructor
    · rintro ⟨s, hs, hid, hcustomer, _⟩
      rw [hkeyed.eq_of_id hr hs hid.symm]
      exact hcustomer
    · intro hcustomer
      exact ⟨r, hr, rfl, hcustomer, hkept⟩
  refine ⟨?_, ?_, ?_, ?_⟩
  · intro r hr hkept
    obtain ⟨a, ha⟩ := exists_shown (hlegible r hr hkept) (hfits r hr hkept)
    refine ⟨a, ha, ?_, ?_, ?_⟩
    · intro ids hwanted
      exact ⟨_, Desk.accounts_eq h hb hlegible hfits ids,
        mem_shown.mpr ⟨r, hr, hkept, hwanted, ha⟩⟩
    · intro kind hkind
      have hone := Desk.accounts_eq h.ready hb hlegible hfits [r.id]
      rw [hkeyed.liveAccounts_one hr hkept, List.filterMap_cons_some ha] at hone
      rw [Desk.search_eq h hb (hnumbered.find?_eq hr hkept hkind) hone]
      rfl
    · obtain ⟨ids, hfound, hids⟩ := howned r.customer
      have hwanted := (hids r hr hkept).mpr rfl
      exact ⟨_, hfound, Order.mem_sort.mpr (mem_shown.mpr ⟨r, hr, hkept, hwanted, ha⟩)⟩
  · intro ids
    exact ⟨_, Desk.accounts_eq h hb hlegible hfits ids, shown_sorted hkeyed ids, fun a => mem_shown⟩
  · intro customer
    obtain ⟨ids, hfound, hids⟩ := howned customer
    have hnodup : (((b.liveAccounts ids).filterMap b.shown?).map Account.id).Nodup :=
      Order.nodup_of_sorted (List.pairwise_map.mpr (shown_sorted hkeyed ids))
    refine ⟨_, hfound, Account.sort_older hnodup, fun a => ?_⟩
    rw [Order.mem_sort, mem_shown]
    refine exists_congr fun r => and_congr_right fun hr => and_congr_right fun hkept => ?_
    rw [hids r hr hkept]
  · intro number routing kind hnone
    exact Desk.search_none h hb hnone

end Book

/--
**The lookups agree in every store that a run comes to**, whatever accounts were removed on the way, if no two rows
share a number and routing number, the statuses can be read and the balances are in range.
-/
theorem lookups_agree {allowed : FundsPolicy → Prop} {start : Store} {b₀ : Book}
    (hstart : start.Unused b₀) {last : Desk} (hrun : Visited allowed start last) {d : Desk}
    (hcalm : d.Calm) (hstore : d.store = last.store) :
    ∃ b, d.store.book = some b ∧
      (b.Numbered → (∀ r ∈ b.accounts, r.isLive = true → r.Legible) →
        (∀ r ∈ b.accounts, r.isLive = true → Amount.Fits (b.balance r.id)) → Lookups b d) := by
  obtain ⟨b, hb, hsound⟩ := hrun.sound hstart
  rw [← hstore] at hb
  exact ⟨b, hb, fun hnumbered hlegible hfits =>
    hsound.keyed.lookups hnumbered hlegible hfits hcalm hb⟩

namespace Specimen

/-- The desk after a transfer between the two accounts and the removal of one. -/
def thinned : Desk := { posted with store := posted.store.remove ⟨"b"⟩ noon }

theorem thinned_visited : Visited (fun _ => True) store thinned :=
  (Visited.reached posted_reached).removed ⟨"b"⟩ noon (.start rfl)

end Specimen

/-- The account that is left is found by a search in capital letters, and the one that was removed is not. -/
theorem lookups_agree_specimen :
    (∃ a, (Desk.search "a" "routing" "CHECKING" Specimen.thinned).1 = .ok (some a) ∧
      a.id = ⟨"a"⟩ ∧ a.balance = Specimen.five) ∧
    (Desk.search "b" "routing" "checking" Specimen.thinned).1 = .ok none := by
  have hstart : Specimen.store.Unused Specimen.book := ⟨rfl, by decide, rfl, rfl⟩
  obtain ⟨b, hb, hlookups⟩ := lookups_agree hstart Specimen.thinned_visited
    (d := Specimen.thinned) ⟨by decide, by decide⟩ rfl
  have hbook : Specimen.thinned.store.book = some (Specimen.thinned.store.book.getD .empty) := by
    decide
  obtain rfl := Option.some.inj (hbook.symm.trans hb)
  have hopen : ∀ r ∈ (Specimen.thinned.store.book.getD .empty).accounts,
      AccountStatus.ofText? r.status = some .opened := by decide
  have hagree := hlookups (by decide) (fun r hr _ => ⟨.opened, hopen r hr⟩)
    (by unfold Amount.Fits; decide)
  constructor
  · obtain ⟨a, hshown, _, hsearch, _⟩ := hagree.same (Specimen.account "a") (by decide) (by decide)
    obtain ⟨hid, _, _, hbalance⟩ := Book.shown?_some hshown
    refine ⟨a, hsearch "CHECKING" (by decide), hid, Amount.ext_value ?_⟩
    rw [hbalance]
    decide
  · exact hagree.missed "b" "routing" "checking" (by decide)

end DoubleEntry
