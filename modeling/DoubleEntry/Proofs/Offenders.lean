import DoubleEntry.Proofs.Funds
import DoubleEntry.Proofs.History

/-!
# The first that offends

The funds check goes through the balances it is given and stops at the first that offends: a protected
balance without a line in the transaction, or one that the transaction takes money from and leaves below
zero. Of a transaction it looks at the accounts that have lines and at the net of each, so neither the
order of the lines, nor how a net is spread over several of them, nor the order of the balances decides
whether it passes.
-/

namespace DoubleEntry

/-! ## The same nets -/

namespace Line

/-- The net of lines that are all on one account. -/
theorem net_of_one {parts : List Line} {k : AccountId} (h : ∀ p ∈ parts, p.account = k)
    (a : AccountId) : net parts a = if k = a then total (parts.map amount) else 0 := by
  by_cases hk : k = a
  · subst hk
    have hall : (parts.filter fun l => l.account = k) = parts :=
      List.filter_eq_self.mpr fun p hp => decide_eq_true (h p hp)
    rw [if_pos rfl, net, hall]
  · rw [if_neg hk]
    refine net_of_not_mem fun hmem => ?_
    obtain ⟨p, hp, hpa⟩ := mem_accounts.mp hmem
    exact hk ((h p hp).symm.trans hpa)

/-- One line is split into several on its account that come to its amount. -/
def Split (lines lines' : List Line) : Prop :=
  ∃ before l after parts, lines = before ++ l :: after ∧ lines' = before ++ parts ++ after ∧
    parts ≠ [] ∧ (∀ p ∈ parts, p.account = l.account) ∧
    DoubleEntry.total (parts.map amount) = l.amount.value

end Line

namespace Transaction

/-- The same accounts have lines, and to the same net. -/
def SameNets (t t' : Transaction) : Prop := ∀ a, t'.touches a = t.touches a ∧ t'.net a = t.net a

theorem SameNets.symm {t t' : Transaction} (h : t.SameNets t') : t'.SameNets t :=
  fun a => ⟨(h a).1.symm, (h a).2.symm⟩

theorem sameNets_of_perm {t t' : Transaction} (h : t.lines.Perm t'.lines) : t.SameNets t' := by
  intro a
  refine ⟨?_, (Line.net_perm h a).symm⟩
  rw [Bool.eq_iff_iff, touches_iff, touches_iff]
  exact exists_congr fun l => and_congr_left fun _ => h.symm.mem_iff

theorem sameNets_of_split {t t' : Transaction} (h : Line.Split t.lines t'.lines) : t.SameNets t' := by
  obtain ⟨before, l, after, parts, ht, ht', hparts, haccount, hamount⟩ := h
  intro a
  constructor
  · have hpart : (∃ p ∈ parts, p.account = a) ↔ l.account = a := by
      constructor
      · rintro ⟨p, hp, rfl⟩
        exact (haccount p hp).symm
      · rintro rfl
        obtain ⟨p, hp⟩ := List.exists_mem_of_ne_nil _ hparts
        exact ⟨p, hp, haccount p hp⟩
    have htouched : t.touches a = true ↔
        (∃ k ∈ before, k.account = a) ∨ l.account = a ∨ ∃ k ∈ after, k.account = a := by
      simp only [touches_iff, ht, List.mem_append, List.mem_cons, or_and_right, exists_or,
        exists_eq_left]
    have htouched' : t'.touches a = true ↔
        (∃ k ∈ before, k.account = a) ∨ (∃ p ∈ parts, p.account = a) ∨
          ∃ k ∈ after, k.account = a := by
      simp only [touches_iff, ht', List.mem_append, or_and_right, exists_or, or_assoc]
    rw [Bool.eq_iff_iff, htouched, htouched', hpart]
  · have hline : Line.net (l :: after) a = Line.net parts a + Line.net after a := by
      rw [Line.net_of_one haccount, hamount]
      by_cases hl : l.account = a
      · subst hl
        rw [if_pos rfl, Line.net_cons_self]
      · rw [if_neg hl, Line.net_cons_of_ne hl, Int.zero_add]
    rw [net, net, ht, ht', Line.net_append, Line.net_append, Line.net_append, hline, Int.add_assoc]

theorem SameNets.lines_ne_nil {t t' : Transaction} (h : t.SameNets t') :
    t'.lines ≠ [] ↔ t.lines ≠ [] := by
  have hany : ∀ s : Transaction, s.lines ≠ [] ↔ ∃ a, s.touches a = true := by
    intro s
    simp only [touches_iff]
    constructor
    · intro hne
      obtain ⟨l, hl⟩ := List.exists_mem_of_ne_nil _ hne
      exact ⟨l.account, l, hl, rfl⟩
    · rintro ⟨_, l, hl, _⟩
      exact List.ne_nil_of_mem hl
  rw [hany, hany]
  exact exists_congr fun a => by rw [(h a).1]

end Transaction

/-! ## One balance -/

namespace AccountBalance

variable {policy : FundsPolicy} {t : Transaction} {b : AccountBalance}

/-- A protected balance has no line, or the transaction takes money from it and leaves it below zero. -/
inductive Offends (policy : FundsPolicy) (t : Transaction) (b : AccountBalance) : LedgerError → Prop
  | untouched (hprotected : policy.Protects b.balance.value)
      (hnone : ∀ l ∈ t.lines, l.account ≠ b.account) :
      Offends policy t b (.noMatchingLine b.account)
  | overdrawn (hprotected : policy.Protects b.balance.value) (hdebit : t.net b.account < 0)
      (hbelow : b.balance.value + t.net b.account < 0) :
      Offends policy t b (.insufficientFunds b.account b.balance (-(t.net b.account)))

theorem check_error_iff {e : LedgerError} : b.check policy t = .error e ↔ b.Offends policy t e := by
  constructor
  · intro h
    by_cases happlies : policy.appliesTo b.balance = true
    · have hprotected := (policy.appliesTo_iff b.balance).mp happlies
      by_cases ht : t.touches b.account = true
      · by_cases hforbids : policy.Forbids b.balance.value (t.net b.account)
        · rw [check_of_forbidden ht hforbids] at h
          cases h
          exact .overdrawn hprotected hforbids.2.1 hforbids.2.2
        · rw [check_of_allowed ht hforbids] at h
          cases h
      · rw [check_of_untouched ht hprotected] at h
        cases h
        exact .untouched hprotected fun l hl hla => ht (Transaction.touches_iff.mpr ⟨l, hl, hla⟩)
    · rw [check, if_neg happlies] at h
      cases h
  · intro h
    cases h with
    | untouched hprotected hnone =>
        have htouches : ¬ t.touches b.account = true := by
          rw [Transaction.touches_iff]
          rintro ⟨l, hl, hla⟩
          exact hnone l hl hla
        exact check_of_untouched htouches hprotected
    | overdrawn hprotected hdebit hbelow =>
        -- an account without a line has a net of zero
        have htouches : t.touches b.account = true := by
          by_contra hno
          rw [Transaction.net_of_untouched (by simpa using hno)] at hdebit
          omega
        exact check_of_forbidden htouches ⟨hprotected, hdebit, hbelow⟩

theorem check_passes_iff : b.check policy t = .ok () ↔ ∀ e, ¬ b.Offends policy t e := by
  simp only [← check_error_iff]
  cases b.check policy t with
  | ok _ => simp
  | error e => simp

/-- Whether a balance offends is a matter of the nets alone. -/
theorem Offends.of_sameNets {t' : Transaction} (hnets : t.SameNets t') {e : LedgerError}
    (h : b.Offends policy t e) : b.Offends policy t' e := by
  obtain ⟨htouches, hnet⟩ := hnets b.account
  have hcheck : b.check policy t' = b.check policy t := by
    rw [check, check, Transaction.lookup_nets, Transaction.lookup_nets, htouches, hnet]
  exact check_error_iff.mp (hcheck.trans (check_error_iff.mpr h))

/-- The debit that is named is what the transaction takes, and more than there is. -/
theorem Offends.debit {a : AccountId} {balance : Amount} {debit : Int}
    (h : b.Offends policy t (.insufficientFunds a balance debit)) :
    a = b.account ∧ balance = b.balance ∧ debit = -(t.net a) ∧ 0 < debit ∧ balance.value < debit := by
  cases h with
  | overdrawn _ hdebit hbelow => exact ⟨rfl, rfl, rfl, by omega, by omega⟩

theorem Offends.not_invalid {n k : Nat} : ¬ b.Offends policy t (.invalidCheckInput n k) := by
  intro h
  cases h

end AccountBalance

/-! ## All balances -/

/-- What the check answers, and when. -/
inductive FundsAnswer (policy : FundsPolicy) (bs : List AccountBalance) (t : Transaction) :
    Except LedgerError Unit → Prop
  /-- There is too little to check. -/
  | invalid (h : bs.length < 2 ∨ t.lines = []) :
      FundsAnswer policy bs t (.error (.invalidCheckInput bs.length t.lines.length))
  /-- The first balance that offends is named. -/
  | refused {passed : List AccountBalance} {b : AccountBalance} {rest : List AccountBalance}
      {e : LedgerError} (henough : 2 ≤ bs.length) (hlines : t.lines ≠ [])
      (hbs : bs = passed ++ b :: rest) (hpassed : ∀ x ∈ passed, ∀ e', ¬ x.Offends policy t e')
      (hoffends : b.Offends policy t e) : FundsAnswer policy bs t (.error e)
  | funded (henough : 2 ≤ bs.length) (hlines : t.lines ≠ [])
      (hall : ∀ b ∈ bs, ∀ e, ¬ b.Offends policy t e) : FundsAnswer policy bs t (.ok ())

section

variable {policy : FundsPolicy} {bs : List AccountBalance} {t : Transaction}

theorem checkFunds_answer (policy : FundsPolicy) (bs : List AccountBalance) (t : Transaction) :
    FundsAnswer policy bs t (checkFunds policy bs t) := by
  unfold checkFunds
  split
  · exact .invalid ‹_›
  · rename_i hinput
    obtain ⟨hlength, hlines⟩ := not_or.mp hinput
    have henough : 2 ≤ bs.length := by omega
    rcases checkEach_cases policy t bs with ⟨hok, hall⟩ |
      ⟨passed, b, rest, e, hbs, hpassed, hb, he⟩
    · rw [hok]
      exact .funded henough hlines fun b hb => AccountBalance.check_passes_iff.mp (hall b hb)
    · rw [he]
      exact .refused henough hlines hbs
        (fun x hx => AccountBalance.check_passes_iff.mp (hpassed x hx))
        (AccountBalance.check_error_iff.mp hb)

/-- Going through balances that pass comes to the first that offends. -/
theorem checkEach_first {passed rest : List AccountBalance} {b : AccountBalance} {e : LedgerError}
    (hpassed : ∀ x ∈ passed, ∀ e', ¬ x.Offends policy t e') (h : b.Offends policy t e) :
    checkEach policy t (passed ++ b :: rest) = .error e := by
  induction passed with
  | nil => rw [List.nil_append, checkEach, AccountBalance.check_error_iff.mpr h]
  | cons x passed ih =>
    have hx := AccountBalance.check_passes_iff.mpr (hpassed x List.mem_cons_self)
    rw [List.cons_append, checkEach, hx]
    exact ih fun y hy => hpassed y (List.mem_cons_of_mem _ hy)

theorem checkEach_passes {bs : List AccountBalance} (h : ∀ b ∈ bs, ∀ e, ¬ b.Offends policy t e) :
    checkEach policy t bs = .ok () := by
  induction bs with
  | nil => rfl
  | cons b rest ih =>
    have hb := AccountBalance.check_passes_iff.mpr (h b List.mem_cons_self)
    rw [checkEach, hb]
    exact ih fun x hx => h x (List.mem_cons_of_mem _ hx)

/-- The answer that is described is the one that is given. -/
theorem FundsAnswer.eq {answer : Except LedgerError Unit} (h : FundsAnswer policy bs t answer) :
    checkFunds policy bs t = answer := by
  unfold checkFunds
  cases h with
  | invalid h => rw [if_pos h]
  | refused henough hlines hbs hpassed hoffends =>
      rw [if_neg (not_or.mpr ⟨by omega, hlines⟩), hbs]
      exact checkEach_first hpassed hoffends
  | funded henough hlines hall =>
      rw [if_neg (not_or.mpr ⟨by omega, hlines⟩)]
      exact checkEach_passes hall

theorem checkFunds_iff {answer : Except LedgerError Unit} :
    checkFunds policy bs t = answer ↔ FundsAnswer policy bs t answer := by
  refine ⟨?_, FundsAnswer.eq⟩
  rintro rfl
  exact checkFunds_answer policy bs t

/-- The same balances in another order, and lines that come to the same nets, pass as well. -/
theorem FundsAnswer.of_sameNets {bs' : List AccountBalance} {t' : Transaction} (hbs : bs.Perm bs')
    (hnets : t.SameNets t') (h : FundsAnswer policy bs' t' (.ok ())) :
    FundsAnswer policy bs t (.ok ()) := by
  cases h with
  | funded henough hlines hall =>
      refine .funded ?_ (hnets.lines_ne_nil.mp hlines) fun b hb e he => ?_
      · rw [hbs.length_eq]
        exact henough
      · exact hall b (hbs.mem_iff.mp hb) e (he.of_sameNets hnets)

end

/--
**The first balance that offends decides the funds check**, if there are two balances and a line to check
at all. Whether a transaction passes does not change with the order of the balances or of the lines, or
with the number of lines that an account's net is spread over.
-/
theorem funds_check_decided (policy : FundsPolicy) (bs : List AccountBalance) (t : Transaction) :
    (∀ answer, checkFunds policy bs t = answer ↔ FundsAnswer policy bs t answer) ∧
      (∀ n k, checkFunds policy bs t = .error (.invalidCheckInput n k) ↔
        (bs.length < 2 ∨ t.lines = []) ∧ n = bs.length ∧ k = t.lines.length) ∧
      (∀ a balance debit, checkFunds policy bs t = .error (.insufficientFunds a balance debit) →
        ⟨a, balance⟩ ∈ bs ∧ debit = -(t.net a) ∧ 0 < debit ∧ balance.value < debit) ∧
      (∀ t', t.lines.Perm t'.lines ∨ Line.Split t.lines t'.lines → t.SameNets t') ∧
      ∀ bs' t', bs.Perm bs' → t.SameNets t' →
        (checkFunds policy bs' t' = .ok () ↔ checkFunds policy bs t = .ok ()) := by
  refine ⟨fun answer => checkFunds_iff, ?_, ?_, ?_, ?_⟩
  · intro n k
    refine ⟨fun h => ?_, ?_⟩
    · cases checkFunds_iff.mp h with
      | invalid hinput => exact ⟨hinput, rfl, rfl⟩
      | refused _ _ _ _ hoffends => exact absurd hoffends AccountBalance.Offends.not_invalid
    · rintro ⟨hinput, rfl, rfl⟩
      exact (FundsAnswer.invalid hinput).eq
  · intro a balance debit h
    cases checkFunds_iff.mp h with
    | @refused passed b rest _ _ _ hbs _ hoffends =>
        obtain ⟨rfl, rfl, hdebit⟩ := hoffends.debit
        refine ⟨?_, hdebit⟩
        rw [hbs]
        exact List.mem_append_right _ List.mem_cons_self
  · rintro t' (hperm | hsplit)
    · exact Transaction.sameNets_of_perm hperm
    · exact Transaction.sameNets_of_split hsplit
  · intro bs' t' hbs hnets
    rw [checkFunds_iff, checkFunds_iff]
    exact ⟨.of_sameNets hbs hnets, .of_sameNets hbs.symm hnets.symm⟩

namespace Specimen

/-- Five go from the first account to the second. -/
def payment : Transaction :=
  ⟨⟨"t"⟩, noon, [⟨⟨"a"⟩, .transfer, minusFive⟩, ⟨⟨"b"⟩, .transfer, five⟩]⟩

/-- On the way they are paid, paid back and paid again. -/
def instalments : List Line :=
  [⟨⟨"a"⟩, .transfer, minusFive⟩, ⟨⟨"a"⟩, .transfer, five⟩, ⟨⟨"a"⟩, .transfer, minusFive⟩]

def detour : Transaction :=
  { payment with lines := instalments ++ [⟨⟨"b"⟩, .transfer, five⟩] }

def purses : List AccountBalance := [⟨⟨"a"⟩, five⟩, ⟨⟨"b"⟩, .zero⟩]

theorem payment_split : Line.Split payment.lines detour.lines :=
  ⟨[], ⟨⟨"a"⟩, .transfer, minusFive⟩, [⟨⟨"b"⟩, .transfer, five⟩], instalments, rfl, rfl, by decide,
    by decide, by decide⟩

end Specimen

theorem funds_check_decided_specimen :
    checkFunds .nonNegative Specimen.purses.reverse Specimen.detour = .ok () ∧
      FundsAnswer .nonNegative [⟨⟨"b"⟩, .zero⟩, ⟨⟨"a"⟩, .zero⟩] Specimen.payment
        (.error (.insufficientFunds ⟨"a"⟩ .zero 5)) := by
  obtain ⟨_, _, _, hnets, hpasses⟩ :=
    funds_check_decided .nonNegative Specimen.purses Specimen.payment
  obtain ⟨hanswer, _⟩ :=
    funds_check_decided .nonNegative [⟨⟨"b"⟩, .zero⟩, ⟨⟨"a"⟩, .zero⟩] Specimen.payment
  have hsame := hpasses Specimen.purses.reverse Specimen.detour (List.reverse_perm _).symm
    (hnets _ (.inr Specimen.payment_split))
  exact ⟨hsame.mpr (by decide), (hanswer _).mp (by decide)⟩

/-- A balance that is overdrawn already is named only if all are protected. -/
example :
    checkFunds .nonNegative [⟨⟨"b"⟩, .zero⟩, ⟨⟨"a"⟩, Specimen.minusFive⟩] Specimen.payment =
        .error (.insufficientFunds ⟨"a"⟩ Specimen.minusFive 5) ∧
      checkFunds .standard [⟨⟨"b"⟩, .zero⟩, ⟨⟨"a"⟩, Specimen.minusFive⟩] Specimen.payment = .ok () := by
  decide

end DoubleEntry
