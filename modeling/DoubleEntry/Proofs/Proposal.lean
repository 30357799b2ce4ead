import DoubleEntry.Ledger.Proposal
import DoubleEntry.Proofs.Sums

/-!
# What a checked proposal has

A proposal that passes its checks stands for a transaction that has lines, none of amount zero, whose sum
is zero. The checks speak of nothing but the proposal, so none of their faults is one of the store.
-/

namespace DoubleEntry

open Time

/-- A line that passes keeps its account as written and its amount, and has a purpose. -/
theorem ProposedLine.check_ok {p : ProposedLine} {l : Line} (h : p.check = .ok l) :
    l.account = ⟨p.account⟩ ∧ Purpose.ofText? p.purpose = some l.purpose ∧ l.amount = p.amount ∧
      l.amount.value ≠ 0 := by
  unfold check at h
  split at h
  · cases h
  · split at h
    · cases h
    · rename_i purpose hpurpose
      split at h
      · cases h
      · rename_i hnonzero
        cases h
        exact ⟨rfl, hpurpose, rfl, hnonzero⟩

/-- Lines that pass are as many as were proposed, in their order, and each passed on its own. -/
theorem ProposedLine.checkAll_ok {n : Nat} {ps : List ProposedLine} {lines : List Line}
    (h : checkAll n ps = .ok lines) : List.Forall₂ (fun p l => check p = .ok l) ps lines := by
  induction ps generalizing n lines with
  | nil =>
    cases h
    exact .nil
  | cons p rest ih =>
    rw [checkAll] at h
    cases hp : check p with
    | error reason => rw [hp] at h; cases h
    | ok l =>
        rw [hp] at h
        cases hrest : checkAll (n + 1) rest with
        | error fault => rw [hrest] at h; cases h
        | ok ls =>
            rw [hrest] at h
            cases h
            exact .cons hp (ih hrest)

/-- Lines that pass are on the accounts as they were written. -/
theorem ProposedLine.accounts_of_check {ps : List ProposedLine} {lines : List Line}
    (h : List.Forall₂ (fun p l => check p = .ok l) ps lines) :
    lines.map Line.account = ps.map fun l => ⟨l.account⟩ := by
  induction h with
  | nil => rfl
  | cons hline _ ih => rw [List.map_cons, List.map_cons, ih, (check_ok hline).1]

theorem ProposedLine.amount_ne_zero {ps : List ProposedLine} {lines : List Line}
    (h : List.Forall₂ (fun p l => check p = .ok l) ps lines) : ∀ l ∈ lines, l.amount.value ≠ 0 := by
  induction h with
  | nil => exact fun l hl => absurd hl (by simp)
  | cons hl _ ih =>
    intro l hmem
    rcases List.mem_cons.mp hmem with rfl | hmem
    · exact (check_ok hl).2.2.2
    · exact ih l hmem

namespace Proposal

variable {p : Proposal} {now : Timestamp} {fresh : TransactionId}

theorem check_ok {t : Transaction} (h : p.check now fresh = .ok t) :
    t.id = p.identity fresh ∧ t.timestamp = p.timestamp.getD now ∧ t.total = 0 ∧ t.lines ≠ [] ∧
      List.Forall₂ (fun p l => ProposedLine.check p = .ok l) p.lines t.lines := by
  unfold check at h
  dsimp only at h
  split at h
  · cases h
  · rename_i hlines
    split at h
    · cases h
    · rename_i lines hall
      split at h
      · rename_i htotal
        cases h
        have hforall := ProposedLine.checkAll_ok hall
        refine ⟨rfl, rfl, htotal, ?_, hforall⟩
        intro hnil
        have hlength := hforall.length_eq
        rw [show lines = [] from hnil] at hlength
        exact hlines (List.eq_nil_of_length_eq_zero hlength)
      · cases h

/-- No fault of a proposal is a failure of the store. -/
theorem check_ne_persistence {e : LedgerError} (h : p.check now fresh = .error e)
    (step : Step) (transaction : Option TransactionId) (account : Option AccountId)
    (cause : String) (rollback : Rollback) :
    e ≠ .persistence step transaction account cause rollback := by
  rintro rfl
  unfold check at h
  dsimp only at h
  split at h
  · cases h
  · split at h
    · cases h
    · split at h <;> cases h

end Proposal

end DoubleEntry
