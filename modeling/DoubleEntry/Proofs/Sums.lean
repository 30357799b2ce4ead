import Mathlib
import DoubleEntry.Ledger.Transaction
import DoubleEntry.Proofs.Order

/-!
# Sums by account

The total of a list of lines can be taken line by line or account by account. That the two agree, for
lines in any order and however often an account occurs, is what makes a transaction whose lines sum to
zero move no money into or out of the books.

The nets are listed by account while the lines are gone through once. An account looked up there is found
with its net if it has a line, and not at all if it has none.
-/

namespace DoubleEntry

theorem total_eq_sum (amounts : List Amount) : total amounts = (amounts.map Amount.value).sum := by
  induction amounts with
  | nil => rfl
  | cons a rest ih => rw [total_cons, ih, List.map_cons, List.sum_cons]

theorem total_perm {as bs : List Amount} (h : as.Perm bs) : total as = total bs := by
  rw [total_eq_sum, total_eq_sum]
  exact (h.map _).sum_eq

/-! ## Line by line or key by key -/

section

variable {α κ : Type}

theorem sum_indicator [DecidableEq κ] {keys : List κ} (hnodup : keys.Nodup) {k : κ} (hk : k ∈ keys)
    (n : Int) :
    (keys.map fun x => if k = x then n else 0).sum = n := by
  induction keys with
  | nil => exact absurd hk (by simp)
  | cons x rest ih =>
    obtain ⟨hx, hrest⟩ := List.nodup_cons.mp hnodup
    rw [List.map_cons, List.sum_cons]
    rcases List.mem_cons.mp hk with rfl | hk'
    · have hzero : (rest.map fun x => if k = x then n else 0) = rest.map fun _ => 0 := by
        refine List.map_congr_left ?_
        intro y hy
        rw [if_neg]
        rintro rfl
        exact hx hy
      rw [if_pos rfl, hzero]
      simp
    · have hne : k ≠ x := by
        rintro rfl
        exact hx hk'
      rw [if_neg hne, ih hrest hk', Int.zero_add]

/-- A weight summed key by key is summed as a whole, if every row has one of the keys. -/
theorem sum_by_key [DecidableEq κ] {key : α → κ} {weight : α → Int} {keys : List κ}
    (hnodup : keys.Nodup) {rows : List α} (hkeys : ∀ r ∈ rows, key r ∈ keys) :
    (keys.map fun k => ((rows.filter fun r => key r = k).map weight).sum).sum =
      (rows.map weight).sum := by
  induction rows with
  | nil => simp
  | cons r rest ih =>
    -- the first row counts under its own key only
    have hstep : ∀ k, (((r :: rest).filter fun r => key r = k).map weight).sum =
        (if key r = k then weight r else 0) +
          ((rest.filter fun r => key r = k).map weight).sum := by
      intro k
      by_cases hk : key r = k
      · rw [List.filter_cons_of_pos (by simpa using hk), List.map_cons, List.sum_cons, if_pos hk]
      · rw [List.filter_cons_of_neg (by simpa using hk), if_neg hk, Int.zero_add]
    rw [List.map_congr_left fun k _ => hstep k, List.sum_map_add,
      sum_indicator hnodup (hkeys r List.mem_cons_self),
      ih fun s hs => hkeys s (List.mem_cons_of_mem _ hs), List.map_cons, List.sum_cons]

/-- Numbers that are not negative and sum to zero are all zero. -/
theorem eq_zero_of_sum_eq_zero {f : κ → Int} {keys : List κ} (hnonneg : ∀ k ∈ keys, 0 ≤ f k)
    (hsum : (keys.map f).sum = 0) {k : κ} (hk : k ∈ keys) : f k = 0 := by
  refine List.all_zero_of_le_zero_le_of_sum_eq_zero ?_ hsum (List.mem_map.mpr ⟨k, hk, rfl⟩)
  intro x hx
  obtain ⟨j, hj, rfl⟩ := List.mem_map.mp hx
  exact hnonneg j hj

end

/-! ## The nets of a transaction -/

namespace Line

theorem net_eq_sum (lines : List Line) (a : AccountId) :
    net lines a = ((lines.filter fun l => l.account = a).map fun l => l.amount.value).sum := by
  rw [net, total_eq_sum, List.map_map]
  rfl

theorem mem_accounts {lines : List Line} {a : AccountId} :
    a ∈ accounts lines ↔ ∃ l ∈ lines, l.account = a := by
  unfold accounts
  rw [List.mem_map]
  constructor
  · rintro ⟨s, hs, rfl⟩
    obtain ⟨l, hl, hls⟩ := List.mem_map.mp (Order.mem_distinctTexts.mp hs)
    exact ⟨l, hl, by rw [← hls]⟩
  · rintro ⟨l, hl, rfl⟩
    exact ⟨l.account.text, Order.mem_distinctTexts.mpr (List.mem_map.mpr ⟨l, hl, rfl⟩), rfl⟩

/-- The accounts of a transaction are listed strictly ascending. -/
theorem accounts_sorted (lines : List Line) :
    (accounts lines).Pairwise fun a b => a.text < b.text :=
  List.pairwise_map.mpr (Order.distinctTexts_sorted _)

theorem accounts_nodup (lines : List Line) : (accounts lines).Nodup :=
  Order.nodup_of_sorted (accounts_sorted lines)

/-- **The nets sum to the total.** -/
theorem sum_nets (lines : List Line) :
    ((accounts lines).map (net lines)).sum = total (lines.map Line.amount) := by
  have hkeys : ∀ l ∈ lines, l.account ∈ accounts lines := fun l hl => mem_accounts.mpr ⟨l, hl, rfl⟩
  rw [List.map_congr_left fun a _ => net_eq_sum lines a,
    sum_by_key (accounts_nodup lines) hkeys, total_eq_sum, List.map_map]
  rfl

theorem net_of_not_mem {lines : List Line} {a : AccountId} (h : a ∉ accounts lines) :
    net lines a = 0 := by
  have hnone : (lines.filter fun l => l.account = a) = [] := by
    refine List.filter_eq_nil_iff.mpr ?_
    intro l hl hla
    exact h (mem_accounts.mpr ⟨l, hl, by simpa using hla⟩)
  rw [net_eq_sum, hnone]
  rfl

theorem net_perm {as bs : List Line} (h : as.Perm bs) (a : AccountId) : net as a = net bs a :=
  total_perm ((h.filter _).map _)

theorem net_cons_self (l : Line) (lines : List Line) :
    net (l :: lines) l.account = l.amount.value + net lines l.account := by
  rw [net, net, List.filter_cons_of_pos (by simp), List.map_cons, total_cons]

theorem net_cons_of_ne {l : Line} {a : AccountId} (h : l.account ≠ a) (lines : List Line) :
    net (l :: lines) a = net lines a := by
  rw [net, net, List.filter_cons_of_neg (by simpa using h)]

theorem net_append (as bs : List Line) (a : AccountId) : net (as ++ bs) a = net as a + net bs a := by
  rw [net_eq_sum, net_eq_sum, net_eq_sum, List.filter_append, List.map_append, List.sum_append]

/-! ### Listed by account -/

/-- Adding to a listing of nets changes the net of one account, and lists it if it was not. -/
theorem addNet_map {texts : List String} (hsorted : texts.Pairwise (· < ·)) {net : AccountId → Int}
    {a : AccountId} (hnone : a.text ∉ texts → net a = 0) (n : Int) :
    addNet a n (texts.map fun s => (⟨s⟩, net ⟨s⟩)) =
      (Order.addText a.text texts).map fun s => (⟨s⟩, Function.update net a (net a + n) ⟨s⟩) := by
  -- where the account is not the one added to, nothing changes
  have hkept : ∀ {rest : List String}, a.text ∉ rest →
      (rest.map fun s => ((⟨s⟩ : AccountId), Function.update net a (net a + n) ⟨s⟩)) =
        rest.map fun s => (⟨s⟩, net ⟨s⟩) := by
    intro rest hrest
    refine List.map_congr_left fun s hs => ?_
    have hne : (⟨s⟩ : AccountId) ≠ a := by
      rintro rfl
      exact hrest hs
    rw [Function.update_of_ne hne]
  induction texts with
  | nil =>
    rw [List.map_nil, addNet, Order.addText, List.map_cons, List.map_nil, Function.update_self,
      hnone List.not_mem_nil, Int.zero_add]
  | cons s rest ih =>
    obtain ⟨hs, hrest⟩ := List.pairwise_cons.mp hsorted
    rw [List.map_cons, addNet, Order.addText]
    by_cases heq : a.text = s
    · subst heq
      have hnew : a.text ∉ rest := fun hmem => String.lt_irrefl _ (hs _ hmem)
      rw [if_pos rfl, if_pos rfl, List.map_cons, hkept hnew, Function.update_self]
    · have hne : a ≠ ⟨s⟩ := fun h => heq (congrArg AccountId.text h)
      rw [if_neg hne, if_neg heq]
      by_cases hlt : a.text < s
      · have hnew : a.text ∉ s :: rest := by
          intro hmem
          rcases List.mem_cons.mp hmem with h | h
          · exact heq h
          · exact String.lt_irrefl _ (String.lt_trans hlt (hs _ h))
        rw [if_pos hlt, if_pos hlt, List.map_cons, hkept hnew, Function.update_self, hnone hnew,
          Int.zero_add, List.map_cons]
      · have hlater : a.text ∉ rest → net a = 0 := fun h =>
          hnone (List.not_mem_cons_of_ne_of_not_mem heq h)
        rw [if_neg hlt, if_neg hlt, List.map_cons, ih hrest hlater,
          Function.update_of_ne (Ne.symm hne)]

theorem nets_append_one (lines : List Line) (l : Line) :
    nets (lines ++ [l]) = addNet l.account l.amount.value (nets lines) := by
  rw [nets, nets, List.foldl_append]
  rfl

/-- One more line lists its account, if it was not. -/
theorem texts_append_one (lines : List Line) (l : Line) :
    Order.distinctTexts ((lines ++ [l]).map fun k => k.account.text) =
      Order.addText l.account.text (Order.distinctTexts (lines.map fun k => k.account.text)) := by
  refine @Order.eq_of_sorted _ id _ _ ?_ ?_ fun s => ?_
  · exact Order.distinctTexts_sorted _
  · exact Order.addText_sorted (Order.distinctTexts_sorted _)
  · rw [Order.mem_distinctTexts, Order.mem_addText, Order.mem_distinctTexts, List.map_append,
      List.mem_append, List.map_cons, List.map_nil, List.mem_singleton, or_comm]

/-- One more line adds its amount to the net of its account. -/
theorem net_append_one (lines : List Line) (l : Line) :
    net (lines ++ [l]) =
      Function.update (net lines) l.account (net lines l.account + l.amount.value) := by
  funext a
  rw [net_append]
  by_cases ha : l.account = a
  · subst ha
    rw [Function.update_self, net_cons_self]
    exact congrArg _ (Int.add_zero _)
  · rw [Function.update_of_ne (Ne.symm ha), net_cons_of_ne ha]
    exact Int.add_zero _

/-- **The nets added up line by line are listed for the accounts that have lines.** -/
theorem nets_eq (lines : List Line) : nets lines = (accounts lines).map fun a => (a, net lines a) := by
  induction lines using List.reverseRecOn with
  | nil => rfl
  | append_singleton lines l ih =>
    have hnone : l.account.text ∉ Order.distinctTexts (lines.map fun k => k.account.text) →
        net lines l.account = 0 := by
      intro hnew
      refine net_of_not_mem fun hmem => hnew (Order.mem_distinctTexts.mpr ?_)
      obtain ⟨k, hk, hsame⟩ := mem_accounts.mp hmem
      exact List.mem_map.mpr ⟨k, hk, congrArg AccountId.text hsame⟩
    rw [nets_append_one, ih, accounts, List.map_map, accounts, List.map_map, texts_append_one,
      net_append_one]
    exact addNet_map (Order.distinctTexts_sorted _) hnone _

end Line

namespace Transaction

theorem touches_iff {t : Transaction} {a : AccountId} :
    t.touches a = true ↔ ∃ l ∈ t.lines, l.account = a := by
  unfold touches
  rw [List.any_eq_true]
  simp only [decide_eq_true_eq]

theorem mem_accounts {t : Transaction} {a : AccountId} : a ∈ t.accounts ↔ t.touches a = true := by
  rw [touches_iff]
  exact Line.mem_accounts

theorem accounts_ne_nil (t : Transaction) (h : t.lines ≠ []) : t.accounts ≠ [] := by
  obtain ⟨l, hl⟩ := List.exists_mem_of_ne_nil _ h
  exact List.ne_nil_of_mem (Line.mem_accounts.mpr ⟨l, hl, rfl⟩)

theorem accounts_sorted (t : Transaction) : t.accounts.Pairwise fun a b => a.text < b.text :=
  Line.accounts_sorted t.lines

theorem sum_nets (t : Transaction) : (t.accounts.map t.net).sum = t.total := Line.sum_nets t.lines

theorem net_of_untouched {t : Transaction} {a : AccountId} (h : t.touches a = false) :
    t.net a = 0 := by
  refine Line.net_of_not_mem fun hmem => ?_
  rw [mem_accounts.mp hmem] at h
  exact absurd h (by simp)

/-- Looking an account up in the nets tells whether it has a line, and its net if it has. -/
theorem lookup_nets (t : Transaction) (a : AccountId) :
    t.nets.lookup a = if t.touches a then some (t.net a) else none := by
  have hnets : t.nets = t.accounts.map fun a => (a, t.net a) := Line.nets_eq t.lines
  rw [hnets]
  by_cases htouches : t.touches a = true
  · rw [if_pos htouches]
    exact List.lookup_graph _ (mem_accounts.mpr htouches)
  · rw [if_neg htouches, List.lookup_eq_none_iff, List.forall_mem_map]
    intro b hb
    refine bne_iff_ne.mpr ?_
    rintro rfl
    exact htouches (mem_accounts.mp hb)

end Transaction

end DoubleEntry
