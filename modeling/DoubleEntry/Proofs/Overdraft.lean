import DoubleEntry.Proofs.Readability

/-!
# No balance is overdrawn

The funds check is made on nets before any row is written, and where a transaction is taken back it is
made on a reversal put together from rows that were read. What it is meant to guard are the balances, and
these are summed from the rows afterwards. The two meet in every change of the books: each balance moves
by exactly the net that was checked, so it moves only as the policy permits. Over a run under the strict
policy nothing is left of the first balance but its sign, and that is enough: it never falls below zero.
-/

namespace DoubleEntry

open Time

/-! ## What a policy permits -/

namespace FundsPolicy

/-- A balance may move so. -/
def Permits : FundsPolicy → Int → Int → Prop
  | positiveBalancesOnly, before, after => 0 < before → 0 ≤ after
  | nonNegative, before, after => 0 ≤ after ∨ before ≤ after

theorem permits_self (policy : FundsPolicy) (balance : Int) : policy.Permits balance balance := by
  cases policy with
  | positiveBalancesOnly => exact fun h => Int.le_of_lt h
  | nonNegative => exact Or.inr (Int.le_refl balance)

/-- A change that the funds check lets pass is permitted. -/
theorem permits_of_not_forbids {policy : FundsPolicy} {balance net : Int}
    (h : ¬ policy.Forbids balance net) : policy.Permits balance (balance + net) := by
  unfold Forbids at h
  cases policy with
  | positiveBalancesOnly =>
      intro hpositive
      by_contra hbelow
      exact h ⟨hpositive, by omega, by omega⟩
  | nonNegative =>
      by_contra hbad
      obtain ⟨hbelow, hless⟩ := not_or.mp hbad
      exact h ⟨trivial, by omega, by omega⟩

end FundsPolicy

/-! ## What one operation does -/

/-- **A change under a policy moves every balance as the policy permits.** -/
theorem Book.Change.permitted {policy : FundsPolicy} {b b' : Book} (h : b.Change (· = policy) b')
    (hkeyed : b.Keyed) (a : AccountId) : policy.Permits (b.balance a) (b'.balance a) := by
  rcases h.moves with hsame | ⟨_, t, rfl, hcleared, hmoved⟩
  · rw [hsame]
    exact policy.permits_self _
  · rw [hmoved]
    cases htouched : t.touches a with
    | true => exact FundsPolicy.permits_of_not_forbids ((hcleared hkeyed).allowed a htouched)
    | false =>
        rw [Transaction.net_of_untouched htouched, Int.add_zero]
        exact FundsPolicy.permits_self _ _

theorem Operation.run_permitted {policy : FundsPolicy} {o : Operation} (ho : o.Under (· = policy))
    {d : Desk} (htruth : d.plan.Truthful) {b : Book} (hb : d.store.book = some b)
    (hkeyed : b.Keyed) :
    ∃ b', (o.run d).store.book = some b' ∧ ∀ a, policy.Permits (b.balance a) (b'.balance a) := by
  rcases Operation.run_store ho htruth with hsame | ⟨b₁, b', hb₁, hchange, hstore⟩
  · exact ⟨b, by rw [hsame]; exact hb, fun a => policy.permits_self _⟩
  · obtain rfl : b₁ = b := Option.some.inj (hb₁.symm.trans hb)
    exact ⟨b', by rw [hstore], hchange.permitted hkeyed⟩

/-! ## What a run does -/

theorem Reached.keyed {allowed : FundsPolicy → Prop} {start : Store} {b : Book}
    (hb : start.book = some b) (hkeyed : b.Keyed) {d : Desk} (h : Reached allowed start d) :
    ∃ b', d.store.book = some b' ∧ b'.Keyed :=
  h.induct hb hkeyed fun _ _ hk hchange => hchange.keyed hk

/-- Under the strict policy a balance that is not negative stays so. -/
theorem Reached.nonneg {start : Store} {b : Book} (hb : start.book = some b) (hkeyed : b.Keyed)
    {a : AccountId} (hnonneg : 0 ≤ b.balance a) {d : Desk} (h : Reached (· = .nonNegative) start d) :
    ∃ b', d.store.book = some b' ∧ 0 ≤ b'.balance a := by
  obtain ⟨b', hb', _, hstill⟩ :=
    h.induct (P := fun x => x.Keyed ∧ 0 ≤ x.balance a) hb ⟨hkeyed, hnonneg⟩
      fun x y hx hchange => ⟨hchange.keyed hx.1, hchange.nonneg (fun _ h => h) hx.1 hx.2⟩
  exact ⟨b', hb', hstill⟩

/--
**No balance is overdrawn.** In every reachable state, an operation under a policy moves each balance as
the policy permits, and from then on a run under the strict policy leaves no balance below zero that was
not below zero before.
-/
theorem never_overdrawn {allowed : FundsPolicy → Prop} {start : Store} {b : Book}
    (hb : start.book = some b) (hkeyed : b.Keyed) {d : Desk} (h : Reached allowed start d) :
    ∃ b', d.store.book = some b' ∧
      (∀ (policy : FundsPolicy) (o : Operation) (plan : Plan) (online : Bool),
        o.Under (· = policy) → plan.Truthful →
          ∃ b'', (o.run { d with plan, online }).store.book = some b'' ∧
            ∀ a, policy.Permits (b'.balance a) (b''.balance a)) ∧
      ∀ a, 0 ≤ b'.balance a → ∀ d', Reached (· = .nonNegative) d.store d' →
        ∃ b'', d'.store.book = some b'' ∧ 0 ≤ b''.balance a := by
  obtain ⟨b', hb', hkeyed'⟩ := h.keyed hb hkeyed
  refine ⟨b', hb', fun policy o plan online ho htruth => ?_, fun a hnonneg d' hrun => ?_⟩
  · exact Operation.run_permitted ho (d := { d with plan, online }) htruth hb' hkeyed'
  · exact hrun.nonneg hb' hkeyed' hnonneg

namespace Specimen

def three : Amount := ⟨3, by decide, by decide⟩

def minusThree : Amount := ⟨-3, by decide, by decide⟩

/-- Three of the five that were transferred, given back under the strict policy. -/
def giveBack : Operation := .post .nonNegative none moment (transfer "u" minusThree three)

end Specimen

/-- The second account may stay below zero under the strict policy, as long as it does not fall. -/
theorem never_overdrawn_specimen :
    ∃ b b', Specimen.posted.store.book = some b ∧ b.balance ⟨"b"⟩ = -5 ∧
      (Specimen.giveBack.run Specimen.posted).store.book = some b' ∧ b'.balance ⟨"b"⟩ = -2 ∧
      (∀ a, FundsPolicy.nonNegative.Permits (b.balance a) (b'.balance a)) ∧
      ∀ d, Reached (· = .nonNegative) Specimen.posted.store d →
        ∃ b'', d.store.book = some b'' ∧ 0 ≤ b''.balance ⟨"a"⟩ := by
  obtain ⟨b, hb, hstep, hrun⟩ :=
    never_overdrawn (b := Specimen.book) rfl (by decide) Specimen.posted_reached
  obtain ⟨b', hb', hpermitted⟩ := hstep .nonNegative Specimen.giveBack [] true rfl (by decide)
  have hbefore : Specimen.posted.store.book.map (fun b => (b.balance ⟨"a"⟩, b.balance ⟨"b"⟩)) =
      some (5, -5) := by decide
  have hafter : (Specimen.giveBack.run Specimen.posted).store.book.map
      (fun b => b.balance ⟨"b"⟩) = some (-2) := by decide
  rw [hb] at hbefore
  have hbalances := Prod.mk.inj (Option.some.inj hbefore)
  have hsame : (Specimen.giveBack.run Specimen.posted).store.book = some b' := hb'
  rw [hsame] at hafter
  refine ⟨b, b', hb, hbalances.2, hsame, Option.some.inj hafter, hpermitted, hrun ⟨"a"⟩ ?_⟩
  rw [hbalances.1]
  decide

end DoubleEntry
