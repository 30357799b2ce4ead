import DoubleEntry.Proofs.Masking
import DoubleEntry.Proofs.Wording

/-!
# Work that matches

Two desks are *akin* if their books, their plans and their states are: they differ in words only. Work *matches* other
work if, done at akin desks, both end alike and leave akin desks; the errors they end in may differ in words again.
Most work is *discreet*: it matches itself, with one answer. Work that is done wholly or not at all only answers
alike, since after a rollback that failed on one side a transaction is left to be ended there.
-/

namespace DoubleEntry

/-! ## Desks and work -/

/-- The desks differ in words only. -/
structure Desk.Akin (d d' : Desk) : Prop where
  store : d.store.Beside Book.Akin d'.store
  plan : d.plan.Akin d'.plan
  online : d'.online = d.online
  unended : d'.unended = d.unended

theorem Desk.Akin.giveUp {d d' : Desk} (h : d.Akin d') : d.giveUp.Akin d'.giveUp :=
  ⟨h.store, h.plan, h.online, rfl⟩

section Matching

variable {ε ε' α β : Type} {E : ε → ε → Prop} {F : ε' → ε' → Prop} {A : α → α → Prop}
  {B : β → β → Prop}

/-- Both are answers and related, or both are errors and related. -/
inductive Likewise (E : ε → ε → Prop) (A : α → α → Prop) : Except ε α → Except ε α → Prop where
  | ok {a a' : α} (h : A a a') : Likewise E A (.ok a) (.ok a')
  | error {e e' : ε} (h : E e e') : Likewise E A (.error e) (.error e')

theorem Likewise.refl (hE : ∀ e, E e e) (r : Except ε α) : Likewise E Eq r r := by
  cases r with
  | ok a => exact .ok rfl
  | error e => exact .error (hE e)

/-- A list is put together alike from a first element and a rest. -/
theorem Likewise.cons {r r' : Except ε α} {s s' : Except ε (List α)} (hr : Likewise E Eq r r')
    (hs : Likewise E Eq s s') :
    Likewise E Eq (r.bind fun a => s.map (a :: ·)) (r'.bind fun a => s'.map (a :: ·)) := by
  cases hr with
  | error he => exact .error he
  | ok ha =>
      subst ha
      cases hs with
      | error he => exact .error he
      | ok hs =>
          subst hs
          exact .ok rfl

/-- Rows that are masked alike are read alike, row by row, if a row is that is masked alike. -/
theorem SameMasked.likewise {f : TextField β} (read : β → Except ε α)
    (readAll : List β → Except ε (List α)) (hnil : readAll [] = .ok [])
    (hcons : ∀ r rest, readAll (r :: rest) = (read r).bind fun a => (readAll rest).map (a :: ·))
    (hread : ∀ {r r'}, f.mask r' = f.mask r → Likewise E Eq (read r) (read r'))
    {rows rows' : List β} (h : SameMasked f rows rows') :
    Likewise E Eq (readAll rows) (readAll rows') := by
  induction rows generalizing rows' with
  | nil =>
    cases rows' with
    | nil =>
      rw [hnil]
      exact .ok rfl
    | cons r' rest' => cases h
  | cons r rest ih =>
    cases rows' with
    | nil => cases h
    | cons r' rest' =>
      obtain ⟨hfirst, hrest⟩ := List.cons.inj h
      rw [hcons, hcons]
      exact (hread hfirst).cons (ih hrest)

/-- Done at akin desks, the works end alike. -/
def Work.Answers (E : ε → ε → Prop) (A : α → α → Prop) (w w' : Work ε α) : Prop :=
  ∀ ⦃d d' : Desk⦄, d.Akin d' → Likewise E A (w d).1 (w' d').1

/-- Done at akin desks, the works end alike and leave akin desks. -/
def Work.Matches (E : ε → ε → Prop) (A : α → α → Prop) (w w' : Work ε α) : Prop :=
  ∀ ⦃d d' : Desk⦄, d.Akin d' → Likewise E A (w d).1 (w' d').1 ∧ (w d).2.Akin (w' d').2

/-- The work has one answer at akin desks. -/
abbrev Work.Discreet (E : ε → ε → Prop) (w : Work ε α) : Prop := w.Matches E Eq w

namespace Work

variable {w w' : Work ε α}

theorem Matches.answers (h : w.Matches E A w') : w.Answers E A w' := fun _ _ hd => (h hd).1

theorem Matches.pure {a a' : α} (h : A a a') :
    (Pure.pure a : Work ε α).Matches E A (Pure.pure a') := fun _ _ hd => ⟨.ok h, hd⟩

theorem Matches.fail {e e' : ε} (h : E e e') : (Work.fail e : Work ε α).Matches E A (Work.fail e') :=
  fun _ _ hd => ⟨.error h, hd⟩

theorem Matches.ofExcept {r r' : Except ε α} (h : Likewise E A r r') :
    (Work.ofExcept r).Matches E A (Work.ofExcept r') := fun _ _ hd => ⟨h, hd⟩

theorem Matches.bind {f f' : α → Work ε β} (hw : w.Matches E A w')
    (hf : ∀ a a', A a a' → (f a).Matches E B (f' a')) : (w >>= f).Matches E B (w' >>= f') := by
  intro d d' hd
  obtain ⟨hanswer, hdesk⟩ := hw hd
  rw [bind_apply, bind_apply]
  generalize w d = x, w' d' = x' at hanswer hdesk ⊢
  obtain ⟨r, e⟩ := x
  obtain ⟨r', e'⟩ := x'
  dsimp only at hanswer hdesk
  cases hanswer with
  | ok ha => exact hf _ _ ha hdesk
  | error he => exact ⟨.error he, hdesk⟩

/-- The last piece of work need not leave akin desks. -/
theorem Matches.bind_answers {f f' : α → Work ε β} (hw : w.Matches E A w')
    (hf : ∀ a a', A a a' → (f a).Answers E B (f' a')) : (w >>= f).Answers E B (w' >>= f') := by
  intro d d' hd
  obtain ⟨hanswer, hdesk⟩ := hw hd
  rw [bind_apply, bind_apply]
  generalize w d = x, w' d' = x' at hanswer hdesk ⊢
  obtain ⟨r, e⟩ := x
  obtain ⟨r', e'⟩ := x'
  dsimp only at hanswer hdesk
  cases hanswer with
  | ok ha => exact hf _ _ ha hdesk
  | error he => exact .error he

theorem Answers.map {f f' : α → β} (hw : w.Answers E A w')
    (hf : ∀ a a', A a a' → B (f a) (f' a')) :
    (w >>= fun a => Pure.pure (f a)).Answers E B (w' >>= fun a => Pure.pure (f' a)) := by
  intro d d' hd
  have hanswer := hw hd
  rw [bind_apply, bind_apply]
  generalize w d = x, w' d' = x' at hanswer ⊢
  obtain ⟨r, e⟩ := x
  obtain ⟨r', e'⟩ := x'
  dsimp only at hanswer
  cases hanswer with
  | ok ha => exact .ok (hf _ _ ha)
  | error he => exact .error he

theorem mapError_apply (f : ε → ε') (w : Work ε α) (d : Desk) :
    w.mapError f d = ((w d).1.mapError f, (w d).2) := by
  rw [mapError]
  rcases w d with ⟨_ | _, _⟩ <;> rfl

theorem Answers.mapError {f : ε → ε'} (hw : w.Answers E A w')
    (hf : ∀ e e', E e e' → F (f e) (f e')) : (w.mapError f).Answers F A (w'.mapError f) := by
  intro d d' hd
  have hanswer := hw hd
  rw [mapError_apply, mapError_apply]
  generalize (w d).1 = r, (w' d').1 = r' at hanswer ⊢
  cases hanswer with
  | ok ha => exact .ok ha
  | error he => exact .error (hf _ _ he)

theorem Matches.mapError {f : ε → ε'} (hw : w.Matches E A w')
    (hf : ∀ e e', E e e' → F (f e) (f e')) : (w.mapError f).Matches F A (w'.mapError f) := by
  intro d d' hd
  refine ⟨hw.answers.mapError hf hd, ?_⟩
  rw [mapError_apply, mapError_apply]
  exact (hw hd).2

theorem Matches.attempt (hw : w.Matches E A w') :
    (w.attempt : Work ε' (Except ε α)).Matches F (Likewise E A) w'.attempt :=
  fun _ _ hd => ⟨.ok (hw hd).1, (hw hd).2⟩

theorem Discreet.bind {f f' : α → Work ε β} (hw : w.Discreet E)
    (hf : ∀ a, (f a).Matches E B (f' a)) : (w >>= f).Matches E B (w >>= f') :=
  Matches.bind hw fun a _ ha => ha ▸ hf a

end Work

end Matching

/-! ## Statements -/

namespace Desk

variable {α : Type} {A : α → α → Prop} {d d' : Desk}

theorem endGivenUp_discreet : endGivenUp.Discreet StoreError.Akin := by
  intro d d' h
  have hended : { d with plan := (d.plan.meet .rollback).2, unended := false }.Akin
      { d' with plan := (d'.plan.meet .rollback).2, unended := false } :=
    ⟨h.store, h.plan.meet _, h.online, rfl⟩
  have hsilent : (d.plan.meet .rollback).1 = some .silence ↔
      (d'.plan.meet .rollback).1 = some .silence := h.plan.unanswered []
  unfold endGivenUp
  rw [h.unended]
  split
  · dsimp only
    simp only [hsilent]
    split
    · exact ⟨.error (.refl _), hended⟩
    · exact ⟨.ok rfl, hended⟩
  · exact ⟨.ok rfl, h⟩

theorem carryOut_matches {s : Statement} {run : Store → Except Refusal (α × Store)} {plan plan' : Plan}
    (hplan : plan.Akin plan')
    (hrun : ∀ {t t' : Store}, t.Beside Book.Akin t' →
      Alike A (Store.Beside Book.Akin) (run t) (run t')) :
    (carryOut s run plan).Matches StoreError.Akin A (carryOut s run plan') := by
  intro d d' h
  have hresults := hrun h.store
  unfold carryOut
  generalize run d.store = result, run d'.store = result' at hresults ⊢
  cases hresults with
  | refused refusal => exact ⟨.error (.refl _), h.store, hplan, h.online, h.unended⟩
  | done ha hkept => exact ⟨.ok ha, hkept, hplan, h.online, h.unended⟩

theorem answerTo_matches {s : Statement} (hs : s ≠ .rollback)
    {run : Store → Except Refusal (α × Store)} {overruled : Bool → Option α} (hA : ∀ a, A a a)
    (hrun : ∀ {t t' : Store}, t.Beside Book.Akin t' →
      Alike A (Store.Beside Book.Akin) (run t) (run t')) :
    (answerTo s run overruled).Matches StoreError.Akin A (answerTo s run overruled) := by
  intro d d' h
  have hmet : Option.Rel Effect.Akin (d.plan.meet s).1 (d'.plan.meet s).1 := h.plan.met [] s hs
  have hlater : { d with plan := (d.plan.meet s).2 }.Akin { d' with plan := (d'.plan.meet s).2 } :=
    ⟨h.store, h.plan.meet s, h.online, h.unended⟩
  have hcarried := carryOut_matches (s := s) (h.plan.meet s) hrun h
  unfold answerTo
  by_cases honline : d.online = true
  · rw [if_pos honline, if_pos (h.online.trans honline)]
    dsimp only
    generalize (d.plan.meet s).1 = met, (d'.plan.meet s).1 = met' at hmet ⊢
    cases hmet with
    | none => exact hcarried
    | some heffect =>
        cases heffect
        case failure => exact ⟨.error (.refused s _ _ _), hlater⟩
        case breakdown => exact ⟨.error (.broken _ _), hlater⟩
        case silence => exact ⟨.error (.refl _), hlater⟩
        case limited => exact hcarried
        -- the other two overrule the statement, where its report can be told without it
        all_goals
          dsimp only
          split
          · exact ⟨.ok (hA _), hlater⟩
          · exact hcarried
  · rw [if_neg honline, if_neg (h.online ▸ honline)]
    exact ⟨.error (.refl _), h⟩

/-- **A statement matches if what it does to an undisturbed store does.** -/
theorem send_matches {s : Statement} (hs : s ≠ .rollback)
    {run : Store → Except Refusal (α × Store)} {overruled : Bool → Option α} (hA : ∀ a, A a a)
    (hrun : ∀ {t t' : Store}, t.Beside Book.Akin t' →
      Alike A (Store.Beside Book.Akin) (run t) (run t')) :
    (send s run overruled).Matches StoreError.Akin A (send s run overruled) :=
  endGivenUp_discreet.bind fun _ => answerTo_matches hs hA hrun

theorem control_discreet {s : Statement} (hs : s ≠ .rollback) :
    (control s).Discreet StoreError.Akin :=
  send_matches hs (fun _ => rfl) fun ht => .done rfl ht

/-- A look matches if what it sees in akin books is related. -/
theorem ask_matches {s : Statement} (hs : s ≠ .rollback) {table : String}
    {answer : Book → Except Refusal α} {nothing : α} (hA : ∀ a, A a a)
    (hanswer : ∀ {b b' : Book}, b.Akin b' → Likewise Eq A (answer b) (answer b')) :
    (ask s table answer nothing).Matches StoreError.Akin A (ask s table answer nothing) := by
  refine send_matches hs hA fun {t t'} ht => ?_
  have hbook := ht.book
  generalize t.book = book, t'.book = book' at hbook ⊢
  cases hbook with
  | none => exact .refused _
  | @some b b' hbooks =>
      have hseen := hanswer hbooks
      dsimp only
      generalize answer b = r, answer b' = r' at hseen ⊢
      cases hseen with
      | ok ha => exact .done ha ht
      | error he =>
          subst he
          exact .refused _

/-- A look is discreet if it sees the same in akin books. -/
theorem ask_discreet {s : Statement} (hs : s ≠ .rollback) {table : String}
    {answer : Book → Except Refusal α} {nothing : α}
    (hanswer : ∀ {b b' : Book}, b.Akin b' → answer b' = answer b) :
    (ask s table answer nothing).Discreet StoreError.Akin := by
  refine ask_matches hs (fun _ => rfl) fun hbooks => ?_
  rw [hanswer hbooks]
  exact .refl (fun _ => rfl) _

/-- A change is discreet if it does alike to akin books. -/
theorem change_discreet {s : Statement} (hs : s ≠ .rollback) {table : String}
    {run : Book → Except Refusal (α × Book)} {nothing : α}
    (hrun : ∀ {b b' : Book}, b.Akin b' → Alike Eq Book.Akin (run b) (run b')) :
    (change s table run nothing).Discreet StoreError.Akin := by
  refine send_matches hs (fun _ => rfl) fun {t t'} ht => ?_
  have hbook := ht.book
  generalize t.book = book, t'.book = book' at hbook ⊢
  cases hbook with
  | none => exact .refused _
  | @some b b' hbooks =>
      have hresults := hrun hbooks
      dsimp only
      generalize run b = result, run b' = result' at hresults ⊢
      cases hresults with
      | refused refusal => exact .refused refusal
      | done ha hkept => exact .done ha ⟨.some hkept, ht.versions⟩

/-! ## All or nothing -/

theorem orGiveUp_matches {w w' : Work StoreError α} (hw : w.Matches StoreError.Akin A w') :
    (orGiveUp w).Matches StoreError.Akin A (orGiveUp w') := by
  intro d d' hd
  obtain ⟨hanswer, hdesk⟩ := hw hd
  unfold orGiveUp
  generalize w d = x, w' d' = x' at hanswer hdesk ⊢
  obtain ⟨r, e⟩ := x
  obtain ⟨r', e'⟩ := x'
  dsimp only at hanswer hdesk
  cases hanswer with
  | ok ha => exact ⟨.ok ha, hdesk⟩
  | error he => exact ⟨.error he, hdesk.giveUp⟩

theorem limitStatements_discreet (millis : Nat) :
    (limitStatements millis).Discreet StoreError.Akin := by
  intro d d' h
  have hname : Statement.setTimeout ≠ .rollback := by decide
  unfold limitStatements
  rw [← h.plan.takes]
  refine send_matches hname (fun _ => rfl) (fun ht => ?_) h
  split
  · exact .done rfl ht
  · exact .refused _

theorem openTransaction_discreet : openTransaction.Discreet StoreError.Akin :=
  (control_discreet (by decide)).bind fun _ => orGiveUp_matches (control_discreet (by decide))

theorem openSnapshot_discreet : openSnapshot.Discreet StoreError.Akin :=
  (control_discreet (by decide)).bind fun _ =>
    orGiveUp_matches ((control_discreet (by decide)).bind fun _ => control_discreet (by decide))

/-- A rollback goes unanswered when the old transaction cannot be ended, or when it meets silence itself. -/
theorem rollback_unanswered_iff (hd : d.Akin d') :
    (orGiveUp (control .rollback) d).1 = .error .unanswered ↔
      (orGiveUp (control .rollback) d').1 = .error .unanswered := by
  have horGiveUp : ∀ x, (orGiveUp (control .rollback) x).1 = (control .rollback x).1 := by
    intro x
    unfold orGiveUp
    rcases control .rollback x with ⟨_ | _, _⟩ <;> rfl
  have hanswer : ∀ x : Desk, (answerTo .rollback (fun store => .ok ((), store)) (fun _ => none) x).1 =
      .error .unanswered ↔ x.online = true ∧ (x.plan.meet .rollback).1 = some .silence := by
    intro x
    unfold answerTo
    split
    · rename_i honline
      rcases x.plan.meet .rollback with ⟨met, rest⟩
      cases met with
      | none => simp [honline, carryOut]
      | some effect => cases effect <;> simp [honline, carryOut]
    · rename_i hoffline
      simp [hoffline]
  obtain ⟨hended, hdesk⟩ := endGivenUp_discreet hd
  rw [horGiveUp, horGiveUp, control, send, Work.bind_apply, Work.bind_apply]
  generalize endGivenUp d = x, endGivenUp d' = x' at hended hdesk ⊢
  obtain ⟨r, e⟩ := x
  obtain ⟨r', e'⟩ := x'
  dsimp only at hended hdesk
  cases hended with
  | ok _ =>
      dsimp only
      rw [hanswer, hanswer, hdesk.online]
      exact and_congr_right' (hdesk.plan.unanswered [])
  | error he =>
      dsimp only
      rw [Except.error.injEq, Except.error.injEq]
      exact he.unanswered_iff.symm

/-- **Work answers alike that is done wholly or not at all**, however the rollback goes. -/
theorem settle_answers {scope : Scope} {work : Work Stop α} (hwork : work.Discreet Stop.Akin) :
    (settle scope work).Answers LedgerError.Akin Eq (settle scope work) := by
  intro d d' hd
  obtain ⟨hopen, hopened⟩ := openTransaction_discreet hd
  unfold settle
  generalize openTransaction d = x, openTransaction d' = x' at hopen hopened ⊢
  obtain ⟨r, o⟩ := x
  obtain ⟨r', o'⟩ := x'
  dsimp only at hopen hopened
  cases hopen with
  | error he =>
      dsimp only
      simp only [he.unanswered_iff]
      split
      · exact .error (.refl _)
      · exact .error (scope.failure_akin _ _ he)
  | ok _ =>
      dsimp only
      obtain ⟨hdone, hleft⟩ := hwork hopened
      generalize work o = x, work o' = x' at hdone hleft ⊢
      obtain ⟨r, e⟩ := x
      obtain ⟨r', e'⟩ := x'
      dsimp only at hdone hleft
      cases hdone with
      | ok ha =>
          dsimp only
          obtain ⟨hcommit, _⟩ := orGiveUp_matches (control_discreet (s := .commit) (by decide)) hleft
          generalize orGiveUp (control .commit) e = x, orGiveUp (control .commit) e' = x' at hcommit ⊢
          obtain ⟨r, k⟩ := x
          obtain ⟨r', k'⟩ := x'
          dsimp only at hcommit
          cases hcommit with
          | ok _ => exact .ok ha
          | error he => exact .error (commitError_akin scope he)
      | error hstop =>
          cases hstop with
          | unanswered => exact .error (.refl _)
          | error he => exact .error (rolledBack_akin scope he (rollback_unanswered_iff hleft))

/-- A reading inside a snapshot is discreet if the reading is. -/
theorem closing_discreet {wording : StoreError → LedgerError} {reading : Work LedgerError α}
    (hwording : ∀ e e', StoreError.Akin e e' → (wording e).Akin (wording e'))
    (h : reading.Discreet LedgerError.Akin) : (closing wording reading).Discreet LedgerError.Akin := by
  have hclose : ((orGiveUp (control .commit)).mapError wording).Discreet LedgerError.Akin :=
    (orGiveUp_matches (control_discreet (by decide))).mapError hwording
  exact (Work.Matches.attempt h).bind fun _ _ hanswer => hclose.bind fun _ => .ofExcept hanswer

end Desk

end DoubleEntry
