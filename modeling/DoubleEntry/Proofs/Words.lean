import DoubleEntry.Ledger.Arithmetic
import DoubleEntry.Proofs.Nets

/-!
# Words are wide enough

An amount takes half a word, so fewer than 2^63 amounts never fill one, in whatever order and however
they cancel. Every sum that the ledger passes through stays inside the range; whether an operation
outside it would fail or wrap around is therefore of no consequence.
-/

namespace DoubleEntry

open Time

/-! ## Inside the range -/

namespace Word

/-- The number is inside the range of a word and not at its edge. -/
def Within (n : Int) : Prop := least < n ∧ n < greatest

end Word

open Word

/-- A sum is no further from zero than its number of amounts allows. -/
theorem total_bounds (amounts : List Amount) :
    -9223372036854775808 * (amounts.length : Int) ≤ total amounts ∧
      total amounts ≤ 9223372036854775807 * (amounts.length : Int) := by
  induction amounts with
  | nil => exact ⟨Int.le_refl 0, Int.le_refl 0⟩
  | cons a rest ih =>
    have hlower := a.lower
    have hupper := a.upper
    rw [total_cons, List.length_cons, Nat.cast_succ]
    omega

theorem Line.net_bounds (lines : List Line) (a : AccountId) :
    -9223372036854775808 * (lines.length : Int) ≤ net lines a ∧
      net lines a ≤ 9223372036854775807 * (lines.length : Int) := by
  have hbounds := total_bounds ((lines.filter fun l => l.account = a).map amount)
  have hlength := List.length_filter_le (fun l : Line => decide (l.account = a)) lines
  rw [List.length_map] at hbounds
  rw [net]
  omega

theorem within_total {amounts : List Amount} (h : amounts.length < 2 ^ 63) :
    Within (total amounts) := by
  have hbounds := total_bounds amounts
  unfold Within least greatest
  omega

theorem within_balanceOf {entries : List Entry} (h : entries.length < 2 ^ 63) (a : AccountId) :
    Within (balanceOf a entries) := by
  refine within_total (Nat.lt_of_le_of_lt ?_ h)
  rw [List.length_map]
  exact List.length_filter_le ..

theorem Line.within_net {lines : List Line} (h : lines.length < 2 ^ 63) (a : AccountId) :
    Within (net lines a) := by
  have hbounds := net_bounds lines a
  unfold Within least greatest
  omega

theorem Line.within_nets {lines : List Line} (h : lines.length < 2 ^ 63) :
    ∀ e ∈ nets lines, Within e.2 := by
  rw [nets_eq, List.forall_mem_map]
  exact fun a _ => within_net h a

theorem Transaction.within_debit {t : Transaction} (h : t.lines.length < 2 ^ 63) (a : AccountId) :
    Within (-t.net a) := by
  have hbounds := Line.net_bounds t.lines a
  unfold Within least greatest net
  omega

theorem AccountBalance.within_after {t : Transaction} (h : t.lines.length < 2 ^ 63)
    (b : AccountBalance) : Within (b.after (t.net b.account)) := by
  have hbounds := Line.net_bounds t.lines b.account
  have hlower := b.balance.lower
  have hupper := b.balance.upper
  unfold Within least greatest after Transaction.net
  omega

/-! ## One operation -/

/-- A fold that never leaves what it should compute has computed it in the end. -/
theorem foldlM_exact {α β : Type} {step : β → α → Option β} {g : List α → β} {xs : List α}
    (h : ∀ before x, before ++ [x] <+: xs → step (g before) x = some (g (before ++ [x]))) :
    xs.foldlM step (g []) = some (g xs) := by
  induction xs using List.reverseRecOn with
  | nil => rfl
  | append_singleton xs x ih =>
    have hbefore := ih fun before y hy => h before y (hy.trans (List.prefix_append xs [x]))
    rw [List.foldlM_append, hbefore]
    exact (bind_pure (step (g xs) x)).trans (h xs x List.prefix_rfl)

namespace Arithmetic

variable {m : Arithmetic}

theorem keep_of_within {n : Int} (h : Within n) : m.keep n = some n := by
  obtain ⟨hlower, hupper⟩ := h
  unfold least at hlower
  unfold greatest at hupper
  cases m with
  | checked => exact if_pos ⟨by unfold least; omega, by unfold greatest; omega⟩
  | wrapping =>
      rw [keep, BitVec.toInt_ofInt, Int.bmod_eq_of_le_mul_two] <;> omega

/-- At the edge the two part. -/
example : checked.add greatest 1 = none ∧ wrapping.add greatest 1 = some least := by decide

theorem add_of_within {a b : Int} (h : Within (a + b)) : m.add a b = some (a + b) := keep_of_within h

theorem neg_of_within {a : Int} (h : Within (-a)) : m.neg a = some (-a) := keep_of_within h

/-- Adding an amount to a net is exact if every net stays within the range. -/
theorem addNet_of_within {a : AccountId} {n : Int} {nets : List (AccountId × Int)}
    (h : ∀ e ∈ Line.addNet a n nets, Within e.2) : m.addNet a n nets = some (Line.addNet a n nets) := by
  induction nets with
  | nil =>
    have hn : Within (0 + n) := by
      rw [Int.zero_add]
      exact h (a, n) List.mem_cons_self
    rw [addNet, add_of_within hn, Int.zero_add]
    rfl
  | cons e rest ih =>
    obtain ⟨b, net⟩ := e
    rw [Line.addNet] at h ⊢
    rw [addNet]
    by_cases heq : a = b
    · rw [if_pos heq] at h ⊢
      rw [if_pos heq, add_of_within (h (b, net + n) List.mem_cons_self)]
      rfl
    · rw [if_neg heq] at h ⊢
      rw [if_neg heq]
      by_cases hlt : a.text < b.text
      · rw [if_pos hlt] at h ⊢
        have hn : Within (0 + n) := by
          rw [Int.zero_add]
          exact h (a, n) List.mem_cons_self
        rw [if_pos hlt, add_of_within hn, Int.zero_add]
        rfl
      · rw [if_neg hlt] at h ⊢
        rw [if_neg hlt, ih fun e he => h e (List.mem_cons_of_mem _ he)]
        rfl

/-! ## Whole computations -/

theorem sum_eq {amounts : List Amount} (h : amounts.length < 2 ^ 63) :
    m.sum amounts = some (total amounts) := by
  refine @foldlM_exact _ _ (fun s a => m.add s a.value) total _ fun before a hbefore => ?_
  have hnext : total (before ++ [a]) = total before + a.value := by
    rw [total_eq_sum, total_eq_sum, List.map_append, List.sum_append]
    exact congrArg _ (Int.add_zero _)
  have hwithin := within_total (Nat.lt_of_le_of_lt hbefore.length_le h)
  rw [hnext] at hwithin ⊢
  exact add_of_within hwithin

theorem balance_eq {entries : List Entry} (h : entries.length < 2 ^ 63) (a : AccountId) :
    m.balance a entries = some (balanceOf a entries) := by
  refine sum_eq (Nat.lt_of_le_of_lt ?_ h)
  rw [List.length_map]
  exact List.length_filter_le ..

theorem nets_eq {lines : List Line} (h : lines.length < 2 ^ 63) :
    m.nets lines = some (Line.nets lines) := by
  refine @foldlM_exact _ _ _ Line.nets lines fun before l hbefore => ?_
  have hwithin := Line.within_nets (Nat.lt_of_le_of_lt hbefore.length_le h)
  rw [Line.nets_append_one] at hwithin ⊢
  exact addNet_of_within hwithin

section

variable {t : Transaction} (h : t.lines.length < 2 ^ 63) (policy : FundsPolicy)

include h

theorem checkOne_eq (b : AccountBalance) : m.checkOne policy t.nets b = some (b.check policy t) := by
  rw [checkOne, AccountBalance.check]
  by_cases happlies : policy.appliesTo b.balance = true
  · rw [if_pos happlies, if_pos happlies, Transaction.lookup_nets]
    by_cases htouches : t.touches b.account = true
    · rw [if_pos htouches]
      by_cases hdebit : t.net b.account < 0
      · have hafter : m.add b.balance.value (t.net b.account) = some (b.after (t.net b.account)) :=
          add_of_within (b.within_after h)
        have hneg := @neg_of_within m _ (t.within_debit h b.account)
        by_cases hbelow : b.after (t.net b.account) < 0
        · simp [hdebit, hafter, hneg, hbelow]
        · simp [hdebit, hafter, hbelow]
      · simp [hdebit]
    · rw [if_neg htouches]
  · rw [if_neg happlies, if_neg happlies]

theorem checkEach_eq (bs : List AccountBalance) :
    m.checkEach policy t.nets bs = some (DoubleEntry.checkEach policy t bs) := by
  induction bs with
  | nil => rfl
  | cons b rest ih =>
    rw [checkEach, checkOne_eq h, DoubleEntry.checkEach]
    cases hb : b.check policy t with
    | error e => rfl
    | ok u => exact ih

theorem checkFunds_eq (bs : List AccountBalance) :
    m.checkFunds policy bs t = some (DoubleEntry.checkFunds policy bs t) := by
  rw [checkFunds, DoubleEntry.checkFunds]
  by_cases hinput : bs.length < 2 ∨ t.lines = []
  · rw [if_pos hinput, if_pos hinput]
  · rw [if_neg hinput, if_neg hinput, nets_eq h]
    exact checkEach_eq h policy bs

end

theorem checkProposal_eq {p : Proposal} (h : p.lines.length < 2 ^ 63) (now : Timestamp)
    (fresh : TransactionId) : m.checkProposal p now fresh = some (p.check now fresh) := by
  rw [checkProposal, Proposal.check]
  by_cases hempty : p.lines = []
  · rw [if_pos hempty, if_pos hempty]
  · rw [if_neg hempty, if_neg hempty]
    cases hlines : ProposedLine.checkAll 0 p.lines with
    | error fault => rfl
    | ok lines =>
        have hlength : (lines.map Line.amount).length < 2 ^ 63 := by
          rw [List.length_map, ← (ProposedLine.checkAll_ok hlines).length_eq]
          exact h
        dsimp only
        rw [sum_eq hlength, Transaction.total]
        by_cases hsum : total (lines.map Line.amount) = 0
        · simp [hsum]
        · simp [hsum]

end Arithmetic

/-! ## Words suffice -/

/-- Nothing that is computed from the lines leaves the range, after any number of them. -/
structure Transaction.StaysWithin (t : Transaction) : Prop where
  sums : ∀ before, before <+: t.lines → Within (DoubleEntry.total (before.map Line.amount))
  nets : ∀ before, before <+: t.lines → ∀ e ∈ Line.nets before, Within e.2
  after : ∀ b : AccountBalance, Within (b.after (t.net b.account))
  debit : ∀ a, Within (-t.net a)

theorem Transaction.staysWithin {t : Transaction} (h : t.lines.length < 2 ^ 63) : t.StaysWithin := by
  refine ⟨fun before hbefore => within_total ?_, fun before hbefore => Line.within_nets ?_,
    fun b => b.within_after h, fun a => t.within_debit h a⟩
  · rw [List.length_map]
    exact Nat.lt_of_le_of_lt hbefore.length_le h
  · exact Nat.lt_of_le_of_lt hbefore.length_le h

/--
**Words suffice.** With fewer than 2^63 lines nothing comes near the edge of the range, so the ledger
computes in words what it would compute in the whole numbers, however words are added.
-/
theorem words_suffice :
    (∀ t : Transaction, t.lines.length < 2 ^ 63 → t.StaysWithin) ∧
      (∀ entries : List Entry, entries.length < 2 ^ 63 →
        ∀ before, before <+: entries → ∀ a, Within (balanceOf a before)) ∧
      ∀ m : Arithmetic,
        (∀ t : Transaction, t.lines.length < 2 ^ 63 →
          m.sum (t.lines.map Line.amount) = some t.total ∧ m.nets t.lines = some t.nets ∧
            ∀ policy bs, m.checkFunds policy bs t = some (checkFunds policy bs t)) ∧
        (∀ entries : List Entry, entries.length < 2 ^ 63 →
          ∀ a, m.balance a entries = some (balanceOf a entries)) ∧
        ∀ (p : Proposal) (now : Timestamp) (fresh : TransactionId), p.lines.length < 2 ^ 63 →
          m.checkProposal p now fresh = some (p.check now fresh) := by
  refine ⟨fun t => Transaction.staysWithin, ?_, fun m => ⟨fun t ht => ⟨?_, ?_, ?_⟩, ?_, ?_⟩⟩
  · intro entries hentries before hbefore a
    exact within_balanceOf (Nat.lt_of_le_of_lt hbefore.length_le hentries) a
  · refine Arithmetic.sum_eq ?_
    rw [List.length_map]
    exact ht
  · exact Arithmetic.nets_eq ht
  · exact Arithmetic.checkFunds_eq ht
  · exact fun entries hentries => Arithmetic.balance_eq hentries
  · exact fun p now fresh hp => Arithmetic.checkProposal_eq hp now fresh

namespace Specimen

/-- Twice the least amount, on one account. -/
def drain : Transaction :=
  { payment with lines := [⟨⟨"a"⟩, .transfer, .bottom⟩, ⟨⟨"a"⟩, .transfer, .bottom⟩] }

def drained : List AccountBalance := [⟨⟨"a"⟩, .bottom⟩, ⟨⟨"b"⟩, .zero⟩]

end Specimen

theorem words_suffice_specimen :
    Specimen.drain.StaysWithin ∧
      Arithmetic.wrapping.nets Specimen.drain.lines = some [(⟨"a"⟩, -18446744073709551616)] ∧
      Arithmetic.wrapping.checkFunds .nonNegative Specimen.drained Specimen.drain =
        some (.error (.insufficientFunds ⟨"a"⟩ .bottom 18446744073709551616)) := by
  obtain ⟨hwithin, _, hexact⟩ := words_suffice
  obtain ⟨_, hnets, hfunds⟩ := (hexact .wrapping).1 Specimen.drain (by decide)
  refine ⟨hwithin _ (by decide), hnets.trans ?_, (hfunds _ _).trans ?_⟩
  · exact congrArg some (by decide)
  · exact congrArg some (by decide)

end DoubleEntry
