import DoubleEntry.Ledger.Funds
import DoubleEntry.Proofs.Sums

/-!
# What the funds check decides

In whole numbers: a net change is forbidden if it takes money from a protected balance and leaves it
below zero. Going through the balances in order, the check stops at the first account whose change is
forbidden, and an account without a line never comes up when the balances are those of the accounts
involved.
-/

namespace DoubleEntry

/-! ## Numbers that fit -/

/-- The number is an amount. -/
def Amount.Fits (n : Int) : Prop := -9223372036854775808 ≤ n ∧ n ≤ 9223372036854775807

theorem Amount.fits (a : Amount) : Amount.Fits a.value := ⟨a.lower, a.upper⟩

theorem Amount.ofInt?_of_fits {n : Int} (h : Amount.Fits n) :
    ∃ a, Amount.ofInt? n = some a ∧ a.value = n :=
  ⟨⟨n, h.1, h.2⟩, dif_pos h, rfl⟩

theorem Amount.ofInt?_of_not_fits {n : Int} (h : ¬ Amount.Fits n) : Amount.ofInt? n = none :=
  dif_neg h

theorem Amount.bounds_ordered : (-9223372036854775808 : Int) ≤ 9223372036854775807 := by decide

/-- The least amount. -/
def Amount.bottom : Amount := ⟨-9223372036854775808, Int.le_refl _, bounds_ordered⟩

theorem Amount.neg?_bottom : bottom.neg? = none := by decide

/-- Every other amount has an opposite. -/
theorem Amount.neg?_of_ne {a : Amount} (h : a ≠ bottom) : ∃ x, a.neg? = some x := by
  have hvalue : a.value ≠ -9223372036854775808 := fun hv => h (ext_value hv)
  have hlower := a.lower
  have hupper := a.upper
  obtain ⟨x, hx, _⟩ := ofInt?_of_fits (n := -a.value) ⟨by omega, by omega⟩
  exact ⟨x, hx⟩

/-! ## One account -/

namespace FundsPolicy

/-- A balance of so much is protected. -/
def Protects : FundsPolicy → Int → Prop
  | positiveBalancesOnly, balance => 0 < balance
  | nonNegative, _ => True

/-- The change would take money from a protected balance and leave it below zero. -/
def Forbids (policy : FundsPolicy) (balance net : Int) : Prop :=
  policy.Protects balance ∧ net < 0 ∧ balance + net < 0

theorem appliesTo_iff (policy : FundsPolicy) (balance : Amount) :
    policy.appliesTo balance = true ↔ policy.Protects balance.value := by
  cases policy with
  | positiveBalancesOnly => exact decide_eq_true_iff
  | nonNegative => exact iff_of_true rfl trivial

end FundsPolicy

namespace AccountBalance

variable {policy : FundsPolicy} {t : Transaction} {b : AccountBalance}

/-- An account without a line is none of the transaction's. -/
theorem check_of_untouched (ht : ¬ t.touches b.account = true)
    (h : policy.Protects b.balance.value) :
    b.check policy t = .error (.noMatchingLine b.account) := by
  rw [check, if_pos ((policy.appliesTo_iff b.balance).mpr h), t.lookup_nets, if_neg ht]

theorem check_of_forbidden (ht : t.touches b.account = true)
    (h : policy.Forbids b.balance.value (t.net b.account)) :
    b.check policy t = .error (.insufficientFunds b.account b.balance (-(t.net b.account))) := by
  obtain ⟨hprotected, hdebit, hbelow⟩ := h
  rw [check, if_pos ((policy.appliesTo_iff b.balance).mpr hprotected), t.lookup_nets, if_pos ht]
  exact if_pos ⟨hdebit, hbelow⟩

theorem check_of_allowed (ht : t.touches b.account = true)
    (h : ¬ policy.Forbids b.balance.value (t.net b.account)) : b.check policy t = .ok () := by
  rw [check]
  by_cases happlies : policy.appliesTo b.balance = true
  · rw [if_pos happlies, t.lookup_nets, if_pos ht]
    refine if_neg ?_
    rintro ⟨hdebit, hbelow⟩
    exact h ⟨(policy.appliesTo_iff b.balance).mp happlies, hdebit, hbelow⟩
  · exact if_neg happlies

theorem check_ok_iff (ht : t.touches b.account = true) :
    b.check policy t = .ok () ↔ ¬ policy.Forbids b.balance.value (t.net b.account) := by
  refine ⟨fun hok h => ?_, check_of_allowed ht⟩
  rw [check_of_forbidden ht h] at hok
  cases hok

end AccountBalance

/-! ## All accounts -/

section

variable {policy : FundsPolicy} {t : Transaction}

/-- Either every account passes, or the first that does not is the answer. -/
theorem checkEach_cases (policy : FundsPolicy) (t : Transaction) (bs : List AccountBalance) :
    (checkEach policy t bs = .ok () ∧ ∀ b ∈ bs, b.check policy t = .ok ()) ∨
      ∃ passed b rest e, bs = passed ++ b :: rest ∧ (∀ x ∈ passed, x.check policy t = .ok ()) ∧
        b.check policy t = .error e ∧ checkEach policy t bs = .error e := by
  induction bs with
  | nil => exact Or.inl ⟨rfl, fun b hb => absurd hb (by simp)⟩
  | cons b rest ih =>
    cases hb : b.check policy t with
    | error e =>
        exact Or.inr ⟨[], b, rest, e, rfl, fun x hx => absurd hx (by simp), hb, by rw [checkEach, hb]⟩
    | ok _ =>
        have hstep : checkEach policy t (b :: rest) = checkEach policy t rest := by
          rw [checkEach, hb]
        rcases ih with ⟨hok, hall⟩ | ⟨passed, x, rest', e, hbs, hpassed, hx, he⟩
        · refine Or.inl ⟨hstep.trans hok, ?_⟩
          intro y hy
          rcases List.mem_cons.mp hy with rfl | hy
          · exact hb
          · exact hall y hy
        · refine Or.inr ⟨b :: passed, x, rest', e, by rw [hbs]; rfl, ?_, hx, hstep.trans he⟩
          intro y hy
          rcases List.mem_cons.mp hy with rfl | hy
          · exact hb
          · exact hpassed y hy

/-- What a passed check says of the balances it was given. -/
theorem checkFunds_ok {bs : List AccountBalance} (h : checkFunds policy bs t = .ok ()) :
    t.lines ≠ [] ∧ 2 ≤ bs.length ∧ ∀ b ∈ bs, b.check policy t = .ok () := by
  unfold checkFunds at h
  split at h
  · cases h
  · rename_i hinput
    obtain ⟨hlength, hlines⟩ := not_or.mp hinput
    rcases checkEach_cases policy t bs with ⟨_, hall⟩ | ⟨_, _, _, _, _, _, _, he⟩
    · exact ⟨hlines, Nat.le_of_not_lt hlength, hall⟩
    · rw [he] at h
      cases h

end

end DoubleEntry
