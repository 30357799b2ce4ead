import Mathlib.Data.List.Lex
import Mathlib.Data.Prod.Lex
import Mathlib.Data.String.Basic
import DoubleEntry.Proofs.Order
import DoubleEntry.Store.Rows

/-!
# Earlier and later

Moments are compared by their numbers, the greatest unit first, and no two moments have the same numbers. So of
two different moments one is before the other, and never both. Rows are listed by such a comparison: by the time
they were created and, where that decides nothing, by their identifiers. That is a comparison of ranks in a linear
order, and sorting by it puts the greatest rank first.
-/

namespace DoubleEntry

open Time

namespace Time.Timestamp

variable {a b c : Timestamp}

theorem before_iff : a.before b = true ↔ a.key < b.key := decide_eq_true_iff

theorem key_injective : Function.Injective key := by
  intro a b h
  obtain ⟨⟨year, month, day, _, _⟩, hour, minute, second, nano, _, _, _, _⟩ := a
  obtain ⟨⟨year', month', day', _, _⟩, hour', minute', second', nano', _, _, _, _⟩ := b
  simp only [key, List.cons.injEq, Int.natCast_inj, and_true] at h
  obtain ⟨rfl, rfl, rfl, rfl, rfl, rfl, rfl⟩ := h
  rfl

theorem before_asymm (h : a.before b = true) : b.before a = false := by
  by_contra hba
  have hback : b.before a = true := by simpa using hba
  exact lt_asymm (before_iff.mp h) (before_iff.mp hback)

@[simp] theorem before_irrefl (a : Timestamp) : a.before a = false :=
  decide_eq_false (lt_irrefl a.key)

theorem before_trichotomy (a b : Timestamp) :
    a.before b = true ∨ a = b ∨ b.before a = true := by
  rcases lt_trichotomy a.key b.key with hlt | heq | hgt
  · exact Or.inl (before_iff.mpr hlt)
  · exact Or.inr (Or.inl (key_injective heq))
  · exact Or.inr (Or.inr (before_iff.mpr hgt))

@[simp] theorem latest_self (a : Timestamp) : latest a a = a := ite_self a

/-- Of times that are all the same, that is the latest. -/
theorem foldl_latest {t : Timestamp} {times : List Timestamp} (hne : times ≠ [])
    (hall : ∀ u ∈ times, u = t) :
    times.foldl (fun latest u => some (match latest with
      | none => u
      | some s => Timestamp.latest s u)) none = some t := by
  have hmore : ∀ rest : List Timestamp, (∀ u ∈ rest, u = t) →
      rest.foldl (fun latest u => some (match latest with
        | none => u
        | some s => Timestamp.latest s u)) (some t) = some t := by
    intro rest hrest
    induction rest with
    | nil => rfl
    | cons u rest ih =>
      rw [List.foldl_cons, hrest u List.mem_cons_self]
      dsimp only
      rw [latest_self]
      exact ih fun v hv => hrest v (List.mem_cons_of_mem _ hv)
  cases times with
  | nil => exact absurd rfl hne
  | cons u rest =>
    rw [List.foldl_cons, hall u List.mem_cons_self]
    exact hmore rest fun v hv => hall v (List.mem_cons_of_mem _ hv)

end Time.Timestamp

/-- Sorting by a rank, the greatest first, puts no lesser rank ahead of a greater one. -/
theorem Order.sort_descending {α κ : Type} [LinearOrder κ] {rank : α → κ} {before : α → α → Bool}
    {l : List α} (h : ∀ a ∈ l, ∀ b ∈ l, before b a = decide (rank a < rank b)) :
    (sort before l).Pairwise fun a b => rank b ≤ rank a := by
  have hsame : sort before l = sort (fun b a => decide (rank a < rank b)) l := sort_congr h
  rw [hsame]
  refine (sort_sorted ?_ ?_ l).imp fun hnot => not_lt.mp (of_decide_eq_false hnot)
  · intro a b hab
    have hlt := of_decide_eq_true hab
    exact decide_eq_false (lt_asymm hlt)
  · intro a b c hba hcb
    have hle₁ := not_lt.mp (of_decide_eq_false hba)
    have hle₂ := not_lt.mp (of_decide_eq_false hcb)
    exact decide_eq_false (not_lt.mpr (le_trans hle₂ hle₁))

namespace Book

/-- What a transaction is listed by: the time of creation, then the identifier. -/
def rank (x : TransactionId × Option Timestamp) : List Int ×ₗ String :=
  toLex ((x.2.map Timestamp.key).getD [], x.1.text)

theorem rank_lt {i j : TransactionId} {s t : Timestamp} :
    rank (i, some s) < rank (j, some t) ↔
      s.before t = true ∨ (s = t ∧ i.text < j.text) := by
  rw [Timestamp.before_iff]
  refine Prod.Lex.toLex_lt_toLex.trans (or_congr_right (and_congr_left fun _ => ?_))
  exact Timestamp.key_injective.eq_iff

/-- Transactions whose times are known are compared by their ranks. -/
theorem newer_eq (i j : TransactionId) (s t : Timestamp) :
    newer (i, some s) (j, some t) = decide (rank (j, some t) < rank (i, some s)) := by
  rw [Bool.eq_iff_iff, decide_eq_true_eq, rank_lt]
  unfold newer
  dsimp only
  rcases Timestamp.before_trichotomy t s with hts | rfl | hst
  · simp [hts]
  · simp
  · have hts := Timestamp.before_asymm hst
    have hne : t ≠ s := by
      rintro rfl
      rw [Timestamp.before_irrefl] at hst
      cases hst
    simp [hst, hts, hne]

end Book

end DoubleEntry
