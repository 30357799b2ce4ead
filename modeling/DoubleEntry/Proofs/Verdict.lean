import DoubleEntry.Proofs.History
import DoubleEntry.Proofs.Proposal

/-!
# The verdict on a proposal

A proposal is empty, or has a first line that is at fault, or lines whose amounts do not sum to zero, or
stands for one transaction; each verdict goes by the same identifier. A transaction that was accepted can
be handed in again as it came out, at any time, and stands for itself.
-/

namespace DoubleEntry

open Time

/-! ## Texts -/

namespace Text

theorem trimLeft_eq_nil_iff {cs : List Char} : trimLeft cs = [] ↔ ∀ c ∈ cs, isSpace c = true :=
  List.dropWhile_eq_nil_iff

/-- A text is blank if nothing of it is left when it is trimmed. -/
theorem isBlank_iff_trim {s : String} : isBlank s = true ↔ trim s = "" := by
  have hblank : isBlank s = true ↔ trimLeft s.toList = [] := by
    rw [isBlank, List.all_eq_true, trimLeft_eq_nil_iff]
  have htrim : trim s = "" ↔ trimLeft (trimLeft s.toList).reverse = [] := by
    rw [trim, ← String.toList_inj, String.toList_ofList, String.toList_empty,
      List.reverse_eq_nil_iff]
  rw [hblank, htrim]
  constructor
  · intro h
    rw [h]
    rfl
  · intro h
    have hspaces : trimLeft (trimLeft s.toList) = [] := by
      rw [trimLeft_eq_nil_iff] at h ⊢
      intro c hc
      exact h c (List.mem_reverse.mpr hc)
    rwa [trimLeft, trimLeft, List.dropWhile_idempotent] at hspaces

end Text

/-- What is generated is a name. -/
theorem Identifier.generated_not_blank (n : Nat) : Text.isBlank (generated n) = false := by
  have hfirst : (generated n).toList = '0' :: ("19ca9b4f4007000".toList ++ '8' :: hexTail 15 n) :=
    String.toList_ofList
  rw [Text.isBlank, hfirst, List.all_cons]
  rfl

namespace Purpose

/-- The texts that name a purpose. -/
def spellings : Purpose → List String
  | achCredit => ["achcredit", "credit"]
  | achDebit => ["achdebit", "debit"]
  | fee => ["fee"]
  | interest => ["interest"]
  | transfer => ["transfer"]
  | wire => ["wire"]

theorem canonical_mem_spellings (p : Purpose) : p.canonical ∈ p.spellings := by
  cases p <;> exact List.mem_cons_self

theorem ofText?_iff {s : String} {p : Purpose} : ofText? s = some p ↔ s ∈ p.spellings := by
  constructor
  · intro h
    unfold ofText? at h
    split_ifs at h <;> cases h <;> simp_all [spellings]
  · intro h
    cases p <;> simp only [spellings, List.mem_cons, List.not_mem_nil, or_false] at h <;>
      rcases h with rfl | rfl <;> rfl

theorem ofText?_eq_none_iff {s : String} : ofText? s = none ↔ ∀ p : Purpose, s ∉ p.spellings := by
  simp only [← ofText?_iff, Option.eq_none_iff_forall_ne_some, ne_eq]

end Purpose

/-! ## One line -/

namespace ProposedLine

/-- What a line is at fault for: its account, else its purpose, else its amount. -/
inductive Faulty (l : ProposedLine) : LineError → Prop
  | unnamed (haccount : Text.trim l.account = "") : Faulty l .missingAccountReference
  | purposeless (haccount : Text.trim l.account ≠ "")
      (hpurpose : ∀ p : Purpose, l.purpose ∉ p.spellings) : Faulty l (.invalidPurpose l.purpose)
  | void {p : Purpose} (haccount : Text.trim l.account ≠ "") (hpurpose : l.purpose ∈ p.spellings)
      (hamount : l.amount.value = 0) : Faulty l .zeroAmount

/-- The line of a transaction that a proposed one stands for. -/
structure StandsFor (l : ProposedLine) (line : Line) : Prop where
  named : Text.trim l.account ≠ ""
  /-- The account is taken as it is written, white space and all. -/
  account : line.account = ⟨l.account⟩
  purpose : l.purpose ∈ line.purpose.spellings
  amount : line.amount = l.amount
  nonzero : l.amount.value ≠ 0

variable {l : ProposedLine}

theorem check_ok_iff {line : Line} : l.check = .ok line ↔ l.StandsFor line := by
  constructor
  · intro h
    obtain ⟨haccount, hpurpose, hamount, hnonzero⟩ := check_ok h
    refine ⟨fun hblank => ?_, haccount, Purpose.ofText?_iff.mp hpurpose, hamount, hamount ▸ hnonzero⟩
    rw [check, if_pos (Text.isBlank_iff_trim.mpr hblank)] at h
    cases h
  · rintro ⟨hnamed, haccount, hpurpose, hamount, hnonzero⟩
    have hline : line = ⟨⟨l.account⟩, line.purpose, l.amount⟩ := by
      rw [← haccount, ← hamount]
    rw [check, if_neg (mt Text.isBlank_iff_trim.mp hnamed), Purpose.ofText?_iff.mpr hpurpose, hline]
    exact if_neg hnonzero

theorem check_error_iff {e : LineError} : l.check = .error e ↔ l.Faulty e := by
  constructor
  · intro h
    unfold check at h
    split at h
    · rename_i hblank
      cases h
      exact .unnamed (Text.isBlank_iff_trim.mp hblank)
    · rename_i hnamed
      have haccount := mt Text.isBlank_iff_trim.mpr hnamed
      split at h
      · rename_i hpurpose
        cases h
        exact .purposeless haccount (Purpose.ofText?_eq_none_iff.mp hpurpose)
      · rename_i purpose hpurpose
        split at h
        · rename_i hzero
          cases h
          exact .void haccount (Purpose.ofText?_iff.mp hpurpose) hzero
        · cases h
  · intro h
    cases h with
    | unnamed haccount => rw [check, if_pos (Text.isBlank_iff_trim.mpr haccount)]
    | purposeless haccount hpurpose =>
        rw [check, if_neg (mt Text.isBlank_iff_trim.mp haccount),
          Purpose.ofText?_eq_none_iff.mpr hpurpose]
    | void haccount hpurpose hamount =>
        rw [check, if_neg (mt Text.isBlank_iff_trim.mp haccount), Purpose.ofText?_iff.mpr hpurpose]
        exact if_pos hamount

/-! ## All lines -/

theorem checkAll_of_standsFor {ls : List ProposedLine} {lines : List Line}
    (h : List.Forall₂ StandsFor ls lines) (n : Nat) : checkAll n ls = .ok lines := by
  induction h generalizing n with
  | nil => rfl
  | cons hline _ ih =>
    rw [checkAll, check_ok_iff.mpr hline, ih]
    rfl

/-- **The first line at fault is named**, counted from the index that the lines start at. -/
theorem checkAll_of_faulty {before after : List ProposedLine} {e : LineError}
    (hbefore : ∀ x ∈ before, ∃ line, x.StandsFor line) (hfault : l.Faulty e) (n : Nat) :
    checkAll n (before ++ l :: after) = .error (n + before.length, l.account, e) := by
  induction before generalizing n with
  | nil =>
    rw [List.nil_append, checkAll, check_error_iff.mpr hfault]
    rfl
  | cons x before ih =>
    obtain ⟨line, hline⟩ := hbefore x List.mem_cons_self
    have hrest := ih (fun y hy => hbefore y (List.mem_cons_of_mem _ hy)) (n + 1)
    rw [List.cons_append, checkAll, check_ok_iff.mpr hline, hrest, List.length_cons,
      show n + 1 + before.length = n + (before.length + 1) by omega]
    rfl

/-- Either every line stands for one, or there is a first that is at fault. -/
theorem standsFor_or_faulty (ls : List ProposedLine) :
    (∃ lines, List.Forall₂ StandsFor ls lines) ∨
      ∃ before l after e, ls = before ++ l :: after ∧ (∀ x ∈ before, ∃ line, x.StandsFor line) ∧
        l.Faulty e := by
  induction ls with
  | nil => exact Or.inl ⟨[], .nil⟩
  | cons l rest ih =>
    cases hl : l.check with
    | error e =>
        exact Or.inr ⟨[], l, rest, e, rfl, fun x hx => absurd hx (by simp), check_error_iff.mp hl⟩
    | ok line =>
        have hline := check_ok_iff.mp hl
        rcases ih with ⟨lines, hlines⟩ | ⟨before, k, after, e, rfl, hbefore, hfault⟩
        · exact Or.inl ⟨line :: lines, .cons hline hlines⟩
        · refine Or.inr ⟨l :: before, k, after, e, rfl, ?_, hfault⟩
          intro x hx
          rcases List.mem_cons.mp hx with rfl | hx
          · exact ⟨line, hline⟩
          · exact hbefore x hx

/-- What lines stand for has accounts that are named and amounts that are not zero. -/
theorem sound_of_standsFor {ls : List ProposedLine} {lines : List Line}
    (h : List.Forall₂ StandsFor ls lines) :
    ∀ line ∈ lines, Text.trim line.account.text ≠ "" ∧ line.amount.value ≠ 0 := by
  induction h with
  | nil => exact fun line hline => absurd hline (by simp)
  | cons hstand _ ih =>
    intro line hline
    rcases List.mem_cons.mp hline with rfl | hline
    · rw [hstand.account, hstand.amount]
      exact ⟨hstand.named, hstand.nonzero⟩
    · exact ih line hline

theorem amounts_of_standsFor {ls : List ProposedLine} {lines : List Line}
    (h : List.Forall₂ StandsFor ls lines) : lines.map Line.amount = ls.map amount := by
  induction h with
  | nil => rfl
  | cons hline _ ih => rw [List.map_cons, List.map_cons, hline.amount, ih]

end ProposedLine

/-! ## The proposal -/

namespace Proposal

/-- The sum of all amounts. -/
def sum (p : Proposal) : Int := total (p.lines.map ProposedLine.amount)

/-- A proposal goes by the caller's identifier as it is, or by a fresh one if that is missing or blank. -/
inductive Named (p : Proposal) (fresh : TransactionId) : TransactionId → Prop
  | asserted {id : TransactionId} (hid : p.id = some id) (hnamed : Text.trim id.text ≠ "") :
      Named p fresh id
  | generated (hunnamed : ∀ id, p.id = some id → Text.trim id.text = "") : Named p fresh fresh

/-- What a proposal amounts to under an identifier, at a time. -/
inductive Verdict (p : Proposal) (now : Timestamp) (id : TransactionId) :
    Except LedgerError Transaction → Prop
  | empty (hlines : p.lines = []) : Verdict p now id (.error (.emptyTransaction id))
  /-- A line is at fault, and none before it. -/
  | faulty {before : List ProposedLine} {l : ProposedLine} {after : List ProposedLine} {e : LineError}
      (hlines : p.lines = before ++ l :: after)
      (hbefore : ∀ x ∈ before, ∃ line, x.StandsFor line) (hfault : l.Faulty e) :
      Verdict p now id (.error (.invalidLine id before.length l.account e))
  | unbalanced {lines : List Line} (hlines : p.lines ≠ [])
      (hstand : List.Forall₂ ProposedLine.StandsFor p.lines lines) (hsum : p.sum ≠ 0) :
      Verdict p now id (.error (.unbalancedTransaction id p.lines.length p.sum))
  | accepted {lines : List Line} (hlines : p.lines ≠ [])
      (hstand : List.Forall₂ ProposedLine.StandsFor p.lines lines) (hsum : p.sum = 0) :
      Verdict p now id (.ok ⟨id, p.timestamp.getD now, lines⟩)

variable {p : Proposal} {now : Timestamp} {fresh : TransactionId}

theorem named_iff {id : TransactionId} : p.Named fresh id ↔ id = p.identity fresh := by
  constructor
  · intro h
    unfold identity
    cases h with
    | asserted hid hnamed => rw [hid]; exact (if_neg (mt Text.isBlank_iff_trim.mp hnamed)).symm
    | generated hunnamed =>
        split
        · rename_i id hid
          exact (if_pos (Text.isBlank_iff_trim.mpr (hunnamed id hid))).symm
        · rfl
  · rintro rfl
    unfold identity
    split
    · rename_i id hid
      split
      · rename_i hblank
        refine .generated fun id' hid' => ?_
        obtain rfl : id = id' := Option.some.inj (hid.symm.trans hid')
        exact Text.isBlank_iff_trim.mp hblank
      · rename_i hnamed
        exact .asserted hid (mt Text.isBlank_iff_trim.mpr hnamed)
    · rename_i hnone
      refine .generated fun id hid => ?_
      rw [hnone] at hid
      cases hid

/-- A proposal goes by a name, if what is generated is one. -/
theorem Named.not_blank {id : TransactionId} (h : p.Named fresh id) (hfresh : fresh.isBlank = false) :
    Text.trim id.text ≠ "" := by
  cases h with
  | asserted _ hnamed => exact hnamed
  | generated _ =>
      intro hblank
      rw [TransactionId.isBlank, Text.isBlank_iff_trim.mpr hblank] at hfresh
      cases hfresh

/-- There is a verdict on every proposal. -/
theorem exists_verdict (p : Proposal) (now : Timestamp) (id : TransactionId) :
    ∃ answer, p.Verdict now id answer := by
  by_cases hlines : p.lines = []
  · exact ⟨_, .empty hlines⟩
  · rcases ProposedLine.standsFor_or_faulty p.lines with
      ⟨lines, hstand⟩ | ⟨before, l, after, e, hsplit, hbefore, hfault⟩
    · by_cases hsum : p.sum = 0
      · exact ⟨_, .accepted hlines hstand hsum⟩
      · exact ⟨_, .unbalanced hlines hstand hsum⟩
    · exact ⟨_, .faulty hsplit hbefore hfault⟩

theorem total_of_standsFor {lines : List Line}
    (h : List.Forall₂ ProposedLine.StandsFor p.lines lines) : total (lines.map Line.amount) = p.sum := by
  rw [sum, ProposedLine.amounts_of_standsFor h]

/-- **The check gives the verdict.** -/
theorem Verdict.eq {answer : Except LedgerError Transaction}
    (h : p.Verdict now (p.identity fresh) answer) : p.check now fresh = answer := by
  unfold check
  dsimp only
  cases h with
  | empty hlines => rw [if_pos hlines]
  | @faulty before l after e hlines hbefore hfault =>
      have hne : p.lines ≠ [] := by simp [hlines]
      rw [if_neg hne, hlines, ProposedLine.checkAll_of_faulty hbefore hfault 0, Nat.zero_add]
  | unbalanced hlines hstand hsum =>
      rw [if_neg hlines, ProposedLine.checkAll_of_standsFor hstand 0]
      dsimp only
      rw [Transaction.total, total_of_standsFor hstand, if_neg hsum, hstand.length_eq]
  | accepted hlines hstand hsum =>
      rw [if_neg hlines, ProposedLine.checkAll_of_standsFor hstand 0]
      dsimp only
      rw [Transaction.total, total_of_standsFor hstand, if_pos hsum]

theorem check_iff {answer : Except LedgerError Transaction} :
    p.check now fresh = answer ↔ p.Verdict now (p.identity fresh) answer := by
  refine ⟨?_, Verdict.eq⟩
  rintro rfl
  obtain ⟨answer, hanswer⟩ := exists_verdict p now (p.identity fresh)
  rw [hanswer.eq]
  exact hanswer

end Proposal

/-! ## Once more -/

/-- The proposed line says what the line says; the purpose may be spelled in another way. -/
structure Line.SaidBy (l : Line) (q : ProposedLine) : Prop where
  account : l.account = ⟨q.account⟩
  purpose : q.purpose ∈ l.purpose.spellings
  amount : l.amount = q.amount

/-- The line as it can be proposed again. -/
def Line.proposed (l : Line) : ProposedLine := ⟨l.account.text, l.purpose.canonical, l.amount⟩

namespace Transaction

/-- The proposal says what the transaction says, line by line. -/
structure SaidBy (t : Transaction) (q : Proposal) : Prop where
  id : q.id = some t.id
  timestamp : q.timestamp = some t.timestamp
  lines : List.Forall₂ Line.SaidBy t.lines q.lines

/-- The transaction as it can be handed in again. -/
def proposal (t : Transaction) : Proposal :=
  ⟨some t.id, some t.timestamp, t.lines.map Line.proposed⟩

theorem saidBy_proposal (t : Transaction) : t.SaidBy t.proposal := by
  refine ⟨rfl, rfl, ?_⟩
  rw [proposal, List.forall₂_map_right_iff, List.forall₂_same]
  exact fun l _ => ⟨rfl, l.purpose.canonical_mem_spellings, rfl⟩

/-- Nothing about the transaction would be refused. -/
structure WellFormed (t : Transaction) : Prop where
  named : Text.trim t.id.text ≠ ""
  lines : t.lines ≠ []
  accounts : ∀ l ∈ t.lines, Text.trim l.account.text ≠ ""
  amounts : ∀ l ∈ t.lines, l.amount.value ≠ 0
  balanced : t.total = 0

/-- A proposal that says what a well-formed transaction says is accepted as that transaction. -/
theorem WellFormed.check_of_saidBy {t : Transaction} {q : Proposal} (h : t.WellFormed) (hsaid : t.SaidBy q)
    (now : Timestamp) (fresh : TransactionId) : q.check now fresh = .ok t := by
  have hidentity : q.identity fresh = t.id :=
    (Proposal.named_iff.mp (.asserted hsaid.id h.named)).symm
  have hstand : List.Forall₂ ProposedLine.StandsFor q.lines t.lines := by
    have hmember := (List.forall₂_and_left t.lines q.lines).mpr
      ⟨fun l (hl : l ∈ t.lines) => hl, hsaid.lines⟩
    refine hmember.flip.imp ?_
    rintro x l ⟨hl, haccount, hpurpose, hamount⟩
    have hnamed := h.accounts l hl
    have hnonzero := h.amounts l hl
    rw [haccount] at hnamed
    rw [hamount] at hnonzero
    exact ⟨hnamed, haccount, hpurpose, hamount, hnonzero⟩
  have hlines : q.lines ≠ [] := by
    intro hnone
    rw [hnone] at hstand
    exact h.lines (List.forall₂_nil_left_iff.mp hstand)
  have hsum : q.sum = 0 := (Proposal.total_of_standsFor hstand).symm.trans h.balanced
  have hverdict : q.Verdict now t.id (.ok ⟨t.id, q.timestamp.getD now, t.lines⟩) :=
    .accepted hlines hstand hsum
  rw [hsaid.timestamp] at hverdict
  refine Proposal.Verdict.eq ?_
  rw [hidentity]
  exact hverdict

/-- **A well-formed transaction stands for itself**, whatever the clock says and whatever is generated. -/
theorem WellFormed.check_proposal {t : Transaction} (h : t.WellFormed) (now : Timestamp)
    (fresh : TransactionId) : t.proposal.check now fresh = .ok t :=
  h.check_of_saidBy t.saidBy_proposal now fresh

/-- What is accepted is well-formed, if what is generated is a name. -/
theorem wellFormed_of_check {p : Proposal} {now : Timestamp} {fresh : TransactionId} {t : Transaction}
    (hfresh : fresh.isBlank = false) (h : p.check now fresh = .ok t) : t.WellFormed := by
  have hnamed := (Proposal.named_iff.mpr rfl : p.Named fresh (p.identity fresh)).not_blank hfresh
  cases Proposal.check_iff.mp h with
  | accepted hlines hstand hsum =>
      have hsound := ProposedLine.sound_of_standsFor hstand
      refine ⟨hnamed, ?_, fun l hl => (hsound l hl).1, fun l hl => (hsound l hl).2,
        (Proposal.total_of_standsFor hstand).trans hsum⟩
      rintro rfl
      exact hlines (List.eq_nil_of_length_eq_zero hstand.length_eq)

end Transaction

/--
**A proposal is judged in one way.** It goes by one identifier, and under that it is empty, or named for
its first line at fault, or out of balance, or accepted. What is accepted is accepted again as it is, at any
time.
-/
theorem proposal_judged (p : Proposal) (now : Timestamp) (fresh : TransactionId) :
    (∃ id, p.Named fresh id ∧ (∀ id', p.Named fresh id' → id' = id) ∧
        ∀ answer, p.check now fresh = answer ↔ p.Verdict now id answer) ∧
      (fresh.isBlank = false → ∀ t, p.check now fresh = .ok t →
        ∀ now' fresh', t.proposal.check now' fresh' = .ok t) := by
  constructor
  · exact ⟨p.identity fresh, Proposal.named_iff.mpr rfl, fun id' h => Proposal.named_iff.mp h,
      fun answer => Proposal.check_iff⟩
  · intro hfresh t ht now' fresh'
    exact (Transaction.wellFormed_of_check hfresh ht).check_proposal now' fresh'

namespace Specimen

/-- The identifier is blank, an account is written with white space and the purposes are written short. -/
def casual : Proposal := ⟨some ⟨" "⟩, none, [⟨" a", "credit", five⟩, ⟨"b", "debit", minusFive⟩]⟩

def generated : TransactionId := ⟨Identifier.generated 7⟩

def casualTransaction : Transaction :=
  ⟨generated, noon, [⟨⟨" a"⟩, .achCredit, five⟩, ⟨⟨"b"⟩, .achDebit, minusFive⟩]⟩

end Specimen

theorem proposal_judged_specimen :
    Specimen.casual.check Specimen.noon Specimen.generated = .ok Specimen.casualTransaction ∧
      ∀ now fresh, Specimen.casualTransaction.proposal.check now fresh =
        .ok Specimen.casualTransaction := by
  obtain ⟨_, hagain⟩ := proposal_judged Specimen.casual Specimen.noon Specimen.generated
  have haccepted : Specimen.casual.check Specimen.noon Specimen.generated =
      .ok Specimen.casualTransaction := by decide
  exact ⟨haccepted, hagain (Identifier.generated_not_blank 7) _ haccepted⟩

/-- Of several faults the first line's is named, and of that line's the account. -/
example :
    Proposal.check ⟨some ⟨"t"⟩, none, [⟨"a", "fee", Specimen.five⟩, ⟨"\u3000", "Fee", .zero⟩,
      ⟨"b", "Wire", .zero⟩]⟩ Specimen.noon Specimen.generated =
        .error (.invalidLine ⟨"t"⟩ 1 "\u3000" .missingAccountReference) := by decide

end DoubleEntry
