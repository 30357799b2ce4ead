import DoubleEntry.Reading
import DoubleEntry.Proofs.Soundness

/-!
# Which balances can be read

A balance is read as long as its exact sum is a 64-bit number. Nothing checks a posting for that: the
funds check looks at debits of protected accounts only. The strict policy keeps every balance readable all
the same, because on books that started empty it leaves no room for any balance but zero. Under the
standard policy a sum can leave the range, and then it stays where it is: the account can be neither
posted to nor relieved of a transaction any more.
-/

namespace DoubleEntry

open Time

/-! ## How a change moves the balances -/

namespace Book

variable {allowed : FundsPolicy → Prop} {b b' : Book}

/-- **A change moves no balance, or each by the net of a transaction that was cleared.** -/
theorem Change.moves (h : b.Change allowed b') :
    (∀ a, b'.balance a = b.balance a) ∨ ∃ policy t, allowed policy ∧
      (b.Keyed → Desk.Cleared policy b t) ∧ ∀ a, b'.balance a = b.balance a + t.net a := by
  cases h with
  | opened row hnew => exact Or.inl fun a => rfl
  | entered policy t createdAt hpolicy _ _ hcleared =>
      exact Or.inr ⟨policy, t, hpolicy, hcleared, b.balance_enter t createdAt⟩
  | struck policy id r moment hpolicy hback hcleared =>
      exact Or.inr ⟨policy, r, hpolicy, hcleared, hback.balance_strike moment⟩

theorem Change.keyed (h : b.Change allowed b') (hkeyed : b.Keyed) : b'.Keyed := by
  cases h with
  | opened row hnew => exact hkeyed.opened hnew
  | entered => exact hkeyed
  | struck => exact hkeyed

/-- A balance that cannot be read is not moved. -/
theorem Change.balance_of_not_fits (h : b.Change allowed b') (hkeyed : b.Keyed) {a : AccountId}
    (hnot : ¬ Amount.Fits (b.balance a)) : b'.balance a = b.balance a := by
  rcases h.moves with hsame | ⟨policy, t, _, hcleared, hmoved⟩
  · exact hsame a
  · cases htouched : t.touches a with
    | true => exact absurd ((hcleared hkeyed).fits a htouched) hnot
    | false => rw [hmoved, Transaction.net_of_untouched htouched, Int.add_zero]

/-- Under the strict policy no balance falls below zero. -/
theorem Change.nonneg (h : b.Change allowed b')
    (hstrict : ∀ policy, allowed policy → policy = .nonNegative) (hkeyed : b.Keyed) {a : AccountId}
    (hnonneg : 0 ≤ b.balance a) : 0 ≤ b'.balance a := by
  rcases h.moves with hsame | ⟨policy, t, hpolicy, hcleared, hmoved⟩
  · rw [hsame]
    exact hnonneg
  · obtain rfl := hstrict policy hpolicy
    rw [hmoved]
    cases htouched : t.touches a with
    | true =>
        -- the strict policy protects every balance, so this one was judged
        have hallowed := (hcleared hkeyed).allowed a htouched
        by_contra hbelow
        exact hallowed ⟨trivial, by omega, by omega⟩
    | false =>
        rw [Transaction.net_of_untouched htouched]
        omega

/-- Balances that are not negative and sum to zero are zero. -/
theorem Sound.balance_eq_zero (hb : b.Sound) (hnonneg : ∀ a, 0 ≤ b.balance a) (a : AccountId) :
    b.balance a = 0 := by
  by_cases ha : a ∈ b.accounts.map AccountRow.id
  · refine eq_zero_of_sum_eq_zero (fun k _ => hnonneg k) ?_ ha
    rw [List.map_map]
    exact hb.sum_balances
  · have hnone : (b.lines.filter fun l => decide (l.account = a)) = [] := by
      refine List.filter_eq_nil_iff.mpr fun l hl hla => ha ?_
      rw [← of_decide_eq_true hla]
      exact hb.mem_accounts hl
    rw [balance_eq_weights, hnone]
    rfl

end Book

/-! ## In every run -/

/-- Under the strict policy every balance is zero in every reachable state. -/
theorem Reached.balance_eq_zero {allowed : FundsPolicy → Prop}
    (hstrict : ∀ policy, allowed policy → policy = .nonNegative) {start : Store} {b : Book}
    (hstart : start.Unused b) {d : Desk} (h : Reached allowed start d) :
    ∃ b', d.store.book = some b' ∧ ∀ a, b'.balance a = 0 := by
  have hzero : ∀ a, 0 ≤ b.balance a := by
    intro a
    rw [b.balance_eq_sum, hstart.lines]
    exact Int.le_refl 0
  obtain ⟨b', hb', hsound, hnonneg⟩ :=
    h.induct (P := fun b => b.Sound ∧ ∀ a, 0 ≤ b.balance a) hstart.book
      ⟨Book.sound_init hstart.keyed hstart.headers hstart.lines, hzero⟩
      fun _ _ hb hchange =>
        ⟨hb.1.change hchange, fun a => hchange.nonneg hstrict hb.1.keyed (hb.2 a)⟩
  exact ⟨b', hb', hsound.balance_eq_zero hnonneg⟩

/-- A balance that cannot be read stays what it is, whatever is done under whatever policies. -/
theorem Reached.balance_of_not_fits {allowed : FundsPolicy → Prop} {start : Store} {b : Book}
    (hb : start.book = some b) (hkeyed : b.Keyed) {a : AccountId}
    (hnot : ¬ Amount.Fits (b.balance a)) {d : Desk} (h : Reached allowed start d) :
    ∃ b', d.store.book = some b' ∧ b'.balance a = b.balance a := by
  obtain ⟨b', hb', _, hsame⟩ :=
    h.induct (P := fun x => x.Keyed ∧ x.balance a = b.balance a) hb ⟨hkeyed, rfl⟩
      fun x y hx hchange => ⟨hchange.keyed hx.1,
        (hchange.balance_of_not_fits hx.1 (by rw [hx.2]; exact hnot)).trans hx.2⟩
  exact ⟨b', hb', hsame⟩

/-! ## Reading at a calm desk -/

namespace Desk

/-- A balance that is read is the exact sum, and it is read if the sum is an amount. -/
theorem balance_calm {d : Desk} (h : d.Calm) {b : Book} (hb : d.store.book = some b)
    (a : AccountId) (x : Amount) : (balance a d).1 = .ok x ↔ x.value = b.balance a := by
  have hask : readBalance a d = ((b.readBalance a).mapError (.refused .readBalance), d.ready) := by
    rw [readBalance, ask_calm h hb]
  cases hread : b.readBalance a with
  | ok y =>
      rw [hread] at hask
      rw [balance, Work.mapError_of_ok hask, Except.ok.injEq, ← Book.readBalance_value hread]
      exact ⟨fun hxy => by rw [hxy], fun hxy => (Amount.ext_value hxy).symm⟩
  | error e =>
      rw [hread] at hask
      rw [balance, Work.mapError_of_error hask]
      refine iff_of_false (fun hx => by cases hx) fun hx => ?_
      -- the sum is that of an amount, so the reading could not have failed
      obtain ⟨y, hy, _⟩ := Book.readBalance_of_fits (hx ▸ x.fits)
      rw [hread] at hy
      cases hy

end Desk

/-! ## A balance that is lost -/

namespace Specimen

/-- The greatest amount. -/
def most : Amount := ⟨9223372036854775807, by decide, by decide⟩

/-- Its opposite. -/
def least : Amount := ⟨-9223372036854775807, by decide, by decide⟩

/-- The desk after two transfers of the greatest amount from the first account to the second. -/
def strained : Desk :=
  (Operation.post .standard none moment (transfer "u" least most)).run
    ((Operation.post .standard none moment (transfer "t" least most)).run desk)

theorem strained_reached : Reached (· = .standard) store strained := by
  have hstart : Reached (· = .standard) store desk := .start rfl
  have hposted :=
    hstart.step (.post .standard none moment (transfer "t" least most)) rfl [] (by decide) true
  exact hposted.step (.post .standard none moment (transfer "u" least most)) rfl [] (by decide) true

end Specimen

/-- **Two postings can make a balance unreadable**, and then not even its relief can be posted. -/
theorem unreadable_reached :
    Specimen.store.Unused Specimen.book ∧ Reached (· = .standard) Specimen.store Specimen.strained ∧
      (∃ b, Specimen.strained.store.book = some b ∧ b.hasLiveAccount ⟨"a"⟩ = true ∧
        ¬ Amount.Fits (b.balance ⟨"a"⟩)) ∧
      (Desk.balance ⟨"a"⟩ Specimen.strained).1 = .error (.persistence .readBalance none (some ⟨"a"⟩)
        "Query Error: error returned from database: bigint out of range" .notAttempted) ∧
      (Desk.post .standard none Specimen.moment (Specimen.transfer "v" Specimen.most Specimen.least)
        Specimen.strained).1 = .error (.persistence .readBalance (some ⟨"v"⟩) none
        "Query Error: error returned from database: bigint out of range" .rolledBack) := by
  refine ⟨⟨rfl, by decide, rfl, rfl⟩, Specimen.strained_reached, ?_, by decide, by decide⟩
  refine ⟨(Specimen.strained.store.book).getD .empty, by decide, by decide, ?_⟩
  unfold Amount.Fits
  decide

/-! ## What becomes of the balances -/

/--
**What becomes of the balances of a store that began without transactions.** Under the strict policy they
are all zero in every reachable state, and can be read alone or together. Under any policy a balance is read
exactly if its sum fits, several are if the sum of each does, and a sum that does not fit stays the same
for good.
-/
theorem readable_or_frozen {allowed : FundsPolicy → Prop} {start : Store} {b : Book}
    (hstart : start.Unused b) {d : Desk} (h : Reached allowed start d) :
    ∃ b', d.store.book = some b' ∧
      ((∀ policy, allowed policy → policy = .nonNegative) →
        (∀ a, b'.balance a = 0) ∧ ∀ accounts, ∃ bs, b'.readBalances accounts = .ok bs) ∧
      (∀ (e : Desk) a x, e.Calm → e.store = d.store →
        ((Desk.balance a e).1 = .ok x ↔ x.value = b'.balance a)) ∧
      (∀ accounts, (∃ bs, b'.readBalances accounts = .ok bs) ↔
        ∀ a ∈ accounts, Amount.Fits (b'.balance a)) ∧
      ∀ a, ¬ Amount.Fits (b'.balance a) → ∀ (anyPolicy : FundsPolicy → Prop) (d' : Desk),
        Reached anyPolicy d.store d' →
          ∃ b'', d'.store.book = some b'' ∧ b''.balance a = b'.balance a := by
  obtain ⟨b', hb', hsound⟩ := h.sound hstart
  refine ⟨b', hb', fun hstrict => ?_, fun e a x hcalm hstore => ?_, b'.readBalances_iff,
    fun a hnot _ d' hrun => hrun.balance_of_not_fits hb' hsound.keyed hnot⟩
  · obtain ⟨b'', hb'', hzero⟩ := h.balance_eq_zero hstrict hstart
    obtain rfl : b'' = b' := Option.some.inj (hb''.symm.trans hb')
    refine ⟨hzero, fun accounts => (b''.readBalances_iff accounts).mpr fun a _ => ?_⟩
    rw [hzero a]
    exact Amount.zero.fits
  · exact Desk.balance_calm hcalm (by rw [hstore]; exact hb') a x

theorem readable_or_frozen_specimen :
    ∃ b, Specimen.strained.store.book = some b ∧ b.balance ⟨"a"⟩ = -18446744073709551614 ∧
      ∀ d, Reached (fun _ => True) Specimen.strained.store d →
        ∃ b', d.store.book = some b' ∧ b'.balance ⟨"a"⟩ = b.balance ⟨"a"⟩ := by
  obtain ⟨b, hb, _, _, _, hfrozen⟩ :=
    readable_or_frozen ⟨rfl, by decide, rfl, rfl⟩ Specimen.strained_reached
  have hsum : Specimen.strained.store.book.map (fun b => b.balance ⟨"a"⟩) =
      some (-18446744073709551614) := by decide
  rw [hb] at hsum
  have hbalance : b.balance ⟨"a"⟩ = -18446744073709551614 := Option.some.inj hsum
  refine ⟨b, hb, hbalance, fun d => hfrozen ⟨"a"⟩ ?_ _ d⟩
  rw [hbalance]
  unfold Amount.Fits
  decide

end DoubleEntry
