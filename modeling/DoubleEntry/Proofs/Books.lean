import DoubleEntry.Store.Query
import DoubleEntry.Proofs.Funds

/-!
# The books as sums and sets

A balance is a sum over all lines, to which each line adds its share. Read this way, adding lines adds
their shares, marking lines deleted takes theirs away, and nothing else matters. The accounts that a
statement locks are, when every identifier names one row, the wanted ones that are there, ascending.
-/

namespace DoubleEntry

open Time

/-! ## Shares -/

/-- What a line adds to the balance of an account. -/
def LineRow.share (a : AccountId) (l : LineRow) : Int :=
  if l.account = a ∧ l.deletedAt = none then l.amount.value else 0

/-- What a line adds to the balance of its own account. -/
def LineRow.weight (l : LineRow) : Int := if l.deletedAt = none then l.amount.value else 0

theorem LineRow.share_eq (a : AccountId) (l : LineRow) :
    l.share a = if l.account = a then l.weight else 0 := by
  unfold share weight
  by_cases ha : l.account = a
  · simp [ha]
  · simp [ha]

theorem LineRow.share_of_dead {l : LineRow} (h : l.deletedAt ≠ none) (a : AccountId) :
    l.share a = 0 :=
  if_neg fun hl => h hl.2

theorem sum_filter_map {α : Type} (p : α → Bool) (f : α → Int) (l : List α) :
    ((l.filter p).map f).sum = (l.map fun x => if p x then f x else 0).sum := by
  induction l with
  | nil => rfl
  | cons x rest ih =>
    rw [List.map_cons, List.sum_cons, ← ih]
    cases hx : p x with
    | true => rw [List.filter_cons_of_pos hx, List.map_cons, List.sum_cons, if_pos rfl]
    | false => rw [List.filter_cons_of_neg (by rw [hx]; simp), if_neg (by simp), Int.zero_add]

namespace Book

/-- **A balance is the sum of the shares of all lines.** -/
theorem balance_eq_sum (b : Book) (a : AccountId) :
    b.balance a = (b.lines.map (LineRow.share a)).sum := by
  rw [balance, balanceOf, total_eq_sum, List.map_map, sum_filter_map, List.map_map]
  refine congrArg List.sum (List.map_congr_left fun l _ => ?_)
  exact if_congr decide_eq_true_iff rfl rfl

/-- The same sum, over the account's own lines. -/
theorem balance_eq_weights (b : Book) (a : AccountId) :
    b.balance a = ((b.lines.filter fun l => l.account = a).map LineRow.weight).sum := by
  rw [balance_eq_sum, sum_filter_map]
  refine congrArg List.sum (List.map_congr_left fun l _ => ?_)
  rw [LineRow.share_eq]
  exact if_congr decide_eq_true_iff.symm rfl rfl

/-- The lines of a transaction as they were written, deleted or not. -/
def linesOf (b : Book) (id : TransactionId) : List LineRow :=
  b.lines.filter fun l => l.transaction = id

theorem mem_linesOf {b : Book} {id : TransactionId} {l : LineRow} :
    l ∈ b.linesOf id ↔ l ∈ b.lines ∧ l.transaction = id := by
  unfold linesOf
  rw [List.mem_filter, decide_eq_true_eq]

/-! ## Keys -/

/-- Every account identifier names one row, as the key of the table demands. -/
def Keyed (b : Book) : Prop := (b.accounts.map AccountRow.id).Nodup

instance (b : Book) : Decidable b.Keyed :=
  inferInstanceAs (Decidable (b.accounts.map AccountRow.id).Nodup)

/-- The account exists and is not deleted. -/
def hasLiveAccount (b : Book) (a : AccountId) : Bool :=
  b.accounts.any fun r => decide (r.id = a) && r.isLive

theorem hasLiveAccount_iff {b : Book} {a : AccountId} :
    b.hasLiveAccount a = true ↔ ∃ r ∈ b.accounts, r.id = a ∧ r.isLive = true := by
  unfold hasLiveAccount
  rw [List.any_eq_true]
  simp only [Bool.and_eq_true, decide_eq_true_eq]

theorem hasHeader_iff {b : Book} {id : TransactionId} :
    b.hasHeader id = true ↔ ∃ h ∈ b.headers, h.id = id := by
  unfold hasHeader
  rw [List.any_eq_true]
  simp only [decide_eq_true_eq]

theorem hasAccount_iff {b : Book} {a : AccountId} :
    b.hasAccount a = true ↔ ∃ r ∈ b.accounts, r.id = a := by
  unfold hasAccount
  rw [List.any_eq_true]
  simp only [decide_eq_true_eq]

theorem hasNumber_iff {b : Book} {number routing : String} :
    b.hasNumber number routing = true ↔
      ∃ r ∈ b.accounts, r.number = number ∧ r.routing = routing := by
  unfold hasNumber
  rw [List.any_eq_true]
  simp only [decide_eq_true_eq]

theorem hasLine_iff {b : Book} {id : TransactionId} {n : Int} :
    b.hasLine id n = true ↔ ∃ l ∈ b.lines, l.transaction = id ∧ l.number = n := by
  unfold hasLine
  rw [List.any_eq_true]
  simp only [decide_eq_true_eq]

/-! ## Locking -/

theorem mem_liveAccounts {b : Book} {wanted : List AccountId} {r : AccountRow} :
    r ∈ b.liveAccounts wanted ↔ r ∈ b.accounts ∧ r.id ∈ wanted ∧ r.isLive = true := by
  unfold liveAccounts
  rw [Order.mem_sort, List.mem_filter, Bool.and_eq_true, List.contains_iff_mem]

theorem liveAccounts_sorted {b : Book} (hkeyed : b.Keyed) (wanted : List AccountId) :
    ((b.liveAccounts wanted).map AccountRow.id).Pairwise fun x y => x.text < y.text := by
  -- sorted with repeats and free of repeats is strictly sorted
  have hnodup : ((b.liveAccounts wanted).map AccountRow.id).Nodup := by
    refine (((Order.sort_perm _ _).map AccountRow.id).nodup_iff).mpr ?_
    exact List.Nodup.sublist ((List.filter_sublist).map _) hkeyed
  have hsorted : ((b.liveAccounts wanted).map AccountRow.id).Pairwise
      fun x y => ¬ y.text < x.text := by
    refine List.pairwise_map.mpr ((Order.sort_sorted ?_ ?_ _).imp ?_)
    · intro r s h
      exact decide_eq_false fun hlt =>
        String.lt_irrefl _ (String.lt_trans (of_decide_eq_true h) hlt)
    · intro r s t hsr hts
      have hsr := of_decide_eq_false hsr
      have hts := of_decide_eq_false hts
      exact decide_eq_false
        (String.not_lt.mpr (String.le_trans (String.not_lt.mp hsr) (String.not_lt.mp hts)))
    · intro r s h
      exact of_decide_eq_false h
  refine (List.Pairwise.and hsorted hnodup).imp ?_
  rintro x y ⟨hle, hne⟩
  refine Order.lt_of_not_lt ?_ hle
  intro htext
  exact hne (by cases x; cases y; cases htext; rfl)

/-- **Locking finds exactly the wanted accounts that are there**, in the ascending order wanted. -/
theorem liveAccounts_ids {b : Book} (hkeyed : b.Keyed) {wanted : List AccountId}
    (hwanted : wanted.Pairwise fun x y => x.text < y.text) :
    (b.liveAccounts wanted).map AccountRow.id = wanted.filter b.hasLiveAccount := by
  refine Order.eq_of_sorted (liveAccounts_sorted hkeyed wanted) (hwanted.filter _) ?_
  intro a
  rw [List.mem_map, List.mem_filter, hasLiveAccount_iff]
  constructor
  · rintro ⟨r, hr, rfl⟩
    obtain ⟨hmem, hwant, hlive⟩ := mem_liveAccounts.mp hr
    exact ⟨hwant, r, hmem, rfl, hlive⟩
  · rintro ⟨hwant, r, hmem, rfl, hlive⟩
    exact ⟨r, mem_liveAccounts.mpr ⟨hmem, hwant, hlive⟩, rfl⟩

/-! ## Reading balances -/

theorem readBalance_of_fits {b : Book} {a : AccountId} (h : Amount.Fits (b.balance a)) :
    ∃ amount, b.readBalance a = .ok amount ∧ amount.value = b.balance a := by
  obtain ⟨amount, hamount, hvalue⟩ := Amount.ofInt?_of_fits h
  refine ⟨amount, ?_, hvalue⟩
  unfold readBalance
  rw [hamount]

theorem readBalance_value {b : Book} {a : AccountId} {x : Amount} (h : b.readBalance a = .ok x) :
    x.value = b.balance a := by
  unfold readBalance at h
  split at h
  · rename_i hx
    cases h
    exact Amount.ofInt?_eq_some.mp hx
  · cases h

theorem readBalance_of_not_fits {b : Book} {a : AccountId} (h : ¬ Amount.Fits (b.balance a)) :
    b.readBalance a = .error .outOfRange := by
  unfold readBalance
  rw [Amount.ofInt?_of_not_fits h]

/-- Balances that were read are those of the accounts asked for, and each is exact. -/
theorem readBalances_ok {b : Book} {accounts : List AccountId} {bs : List AccountBalance}
    (h : b.readBalances accounts = .ok bs) :
    bs.map AccountBalance.account = accounts ∧
      ∀ x ∈ bs, x.balance.value = b.balance x.account := by
  induction accounts generalizing bs with
  | nil =>
    cases h
    exact ⟨rfl, fun x hx => absurd hx (by simp)⟩
  | cons a rest ih =>
    rw [readBalances] at h
    by_cases hfits : Amount.Fits (b.balance a)
    · obtain ⟨amount, hread, hvalue⟩ := readBalance_of_fits hfits
      rw [hread] at h
      cases hrest : b.readBalances rest with
      | error e => rw [hrest] at h; cases h
      | ok xs =>
          rw [hrest] at h
          cases h
          obtain ⟨haccounts, hbalances⟩ := ih hrest
          refine ⟨by rw [List.map_cons, haccounts], ?_⟩
          intro x hx
          rcases List.mem_cons.mp hx with rfl | hx
          · exact hvalue
          · exact hbalances x hx
    · rw [readBalance_of_not_fits hfits] at h
      cases h

/-- **Several balances can be read exactly when each of them fits.** -/
theorem readBalances_cases (b : Book) (accounts : List AccountId) :
    ((∃ bs, b.readBalances accounts = .ok bs) ∧ ∀ a ∈ accounts, Amount.Fits (b.balance a)) ∨
      (b.readBalances accounts = .error .outOfRange ∧
        ∃ a ∈ accounts, ¬ Amount.Fits (b.balance a)) := by
  induction accounts with
  | nil => exact Or.inl ⟨⟨[], rfl⟩, fun a ha => absurd ha (by simp)⟩
  | cons a rest ih =>
    rw [readBalances]
    by_cases hfits : Amount.Fits (b.balance a)
    · obtain ⟨amount, hread, _⟩ := readBalance_of_fits hfits
      rw [hread]
      rcases ih with ⟨⟨bs, hbs⟩, hall⟩ | ⟨hrest, x, hx, hnot⟩
      · refine Or.inl ⟨⟨_, by rw [hbs]; rfl⟩, ?_⟩
        intro y hy
        rcases List.mem_cons.mp hy with rfl | hy
        · exact hfits
        · exact hall y hy
      · exact Or.inr ⟨by rw [hrest]; rfl, x, List.mem_cons_of_mem _ hx, hnot⟩
    · rw [readBalance_of_not_fits hfits]
      exact Or.inr ⟨rfl, a, List.mem_cons_self, hfits⟩

theorem readBalances_iff (b : Book) (accounts : List AccountId) :
    (∃ bs, b.readBalances accounts = .ok bs) ↔ ∀ a ∈ accounts, Amount.Fits (b.balance a) := by
  rcases b.readBalances_cases accounts with ⟨hread, hall⟩ | ⟨hread, a, ha, hnot⟩
  · exact iff_of_true hread hall
  · refine iff_of_false ?_ fun hall => hnot (hall a ha)
    rintro ⟨bs, hbs⟩
    rw [hread] at hbs
    cases hbs

end Book

end DoubleEntry
