import DoubleEntry.Reading
import DoubleEntry.Proofs.Work

/-!
# Two desks side by side

Whether something in the books makes a difference is found out by doing the same at two desks whose books differ
in it. Work *agrees* for a relation between books if, done at two desks that differ at most by related books, it
ends in one answer and leaves two desks that again differ at most by related books. What is planned to go wrong
is the same for both, so this is said of a misbehaving store too.

Work that is put together from pieces that agree agrees, also where it is done wholly or not at all. What is left
to show for a statement is that it answers alike on related books and makes related books of them.
-/

namespace DoubleEntry

variable {R : Book → Book → Prop}

/-- Two stores that differ at most by related books. -/
structure Store.Beside (R : Book → Book → Prop) (s s' : Store) : Prop where
  /-- There are books in both, or in neither. -/
  book : Option.Rel R s.book s'.book
  versions : s'.versions = s.versions

theorem Store.Beside.exists_book {s s' : Store} (h : s.Beside R s') {b : Book}
    (hb : s.book = some b) : ∃ b', s'.book = some b' ∧ R b b' := by
  have hbooks := h.book
  rw [hb] at hbooks
  generalize s'.book = book' at hbooks ⊢
  cases hbooks with
  | some hR => exact ⟨_, rfl, hR⟩

theorem Store.Beside.related {s s' : Store} (h : s.Beside R s') {b b' : Book}
    (hb : s.book = some b) (hb' : s'.book = some b') : R b b' := by
  obtain ⟨x, hx, hR⟩ := h.exists_book hb
  obtain rfl : x = b' := Option.some.inj (hx.symm.trans hb')
  exact hR

theorem Store.Beside.imp {S : Book → Book → Prop} {s s' : Store} (h : s.Beside R s')
    (himp : ∀ b b', R b b' → S b b') : s.Beside S s' := by
  refine ⟨?_, h.versions⟩
  have hbooks := h.book
  generalize s.book = book, s'.book = book' at hbooks ⊢
  cases hbooks with
  | none => exact .none
  | some hR => exact .some (himp _ _ hR)

/-- Two desks that differ at most by related books. -/
structure Desk.Beside (R : Book → Book → Prop) (d d' : Desk) : Prop where
  store : d.store.Beside R d'.store
  plan : d'.plan = d.plan
  online : d'.online = d.online
  unended : d'.unended = d.unended

/-- Done side by side, the work ends in one answer and leaves desks side by side. -/
def Work.Agrees {ε α : Type} (R : Book → Book → Prop) (w : Work ε α) : Prop :=
  ∀ ⦃d d' : Desk⦄, d.Beside R d' →
    ∃ r e e', w d = (r, e) ∧ w d' = (r, e') ∧ e.Beside R e'

namespace Work.Agrees

variable {ε ε' α β : Type} {w : Work ε α} {d d' : Desk}

/-! ## What agreement says -/

theorem answer (h : w.Agrees R) (hd : d.Beside R d') : (w d').1 = (w d).1 := by
  obtain ⟨r, e, e', hw, hw', _⟩ := h hd
  rw [hw, hw']

theorem beside (h : w.Agrees R) (hd : d.Beside R d') : (w d).2.Beside R (w d').2 := by
  obtain ⟨r, e, e', hw, hw', he⟩ := h hd
  rw [hw, hw']
  exact he

/-! ## Work put together -/

theorem pure (a : α) : (Pure.pure a : Work ε α).Agrees R :=
  fun d d' hd => ⟨.ok a, d, d', rfl, rfl, hd⟩

theorem fail (x : ε) : (Work.fail x : Work ε α).Agrees R :=
  fun d d' hd => ⟨.error x, d, d', rfl, rfl, hd⟩

theorem ofExcept (r : Except ε α) : (Work.ofExcept r).Agrees R :=
  fun d d' hd => ⟨r, d, d', rfl, rfl, hd⟩

/-- Only answers that can be given have to be gone on from. -/
theorem bind_of {P : α → Prop} {f : α → Work ε β} (hw : w.Agrees R)
    (hanswer : ∀ ⦃d d' e : Desk⦄ ⦃a : α⦄, d.Beside R d' → w d = (.ok a, e) → P a)
    (hf : ∀ a, P a → (f a).Agrees R) : (w >>= f).Agrees R := by
  intro d d' hd
  obtain ⟨r, e, e', h, h', he⟩ := hw hd
  cases r with
  | error x => exact ⟨.error x, e, e', bind_of_error h f, bind_of_error h' f, he⟩
  | ok a =>
      rw [bind_of_ok h, bind_of_ok h']
      exact hf a (hanswer hd h) he

theorem bind {f : α → Work ε β} (hw : w.Agrees R) (hf : ∀ a, (f a).Agrees R) :
    (w >>= f).Agrees R :=
  hw.bind_of (fun _ _ _ _ _ _ => trivial) fun a _ => hf a

theorem mapError {f : ε → ε'} (hw : w.Agrees R) : (w.mapError f).Agrees R := by
  intro d d' hd
  obtain ⟨r, e, e', h, h', he⟩ := hw hd
  cases r with
  | error x => exact ⟨.error (f x), e, e', mapError_of_error h, mapError_of_error h', he⟩
  | ok a => exact ⟨.ok a, e, e', mapError_of_ok h, mapError_of_ok h', he⟩

theorem attempt (hw : w.Agrees R) : (w.attempt : Work ε' (Except ε α)).Agrees R := by
  intro d d' hd
  obtain ⟨r, e, e', h, h', he⟩ := hw hd
  refine ⟨.ok r, e, e', ?_, ?_, he⟩
  · rw [Work.attempt, h]
  · rw [Work.attempt, h']

end Work.Agrees

/-! ## Statements -/

/-- Two results of a change: the same refusal, or related answers with what is left related too. -/
inductive Alike {α σ : Type} (A : α → α → Prop) (R : σ → σ → Prop) :
    Except Refusal (α × σ) → Except Refusal (α × σ) → Prop where
  | refused (refusal : Refusal) : Alike A R (.error refusal) (.error refusal)
  | done {a a' : α} (ha : A a a') {s s' : σ} (h : R s s') : Alike A R (.ok (a, s)) (.ok (a', s'))

namespace Desk

variable {α : Type} {d d' : Desk}

theorem Beside.giveUp (h : d.Beside R d') : d.giveUp.Beside R d'.giveUp :=
  ⟨h.store, h.plan, h.online, rfl⟩

theorem Beside.restore (h : d.Beside R d') {s s' : Store} (hs : s.Beside R s') :
    (d.restore s).Beside R (d'.restore s') :=
  ⟨hs, h.plan, h.online, h.unended⟩

theorem endGivenUp_agrees : endGivenUp.Agrees R := by
  intro d d' h
  unfold endGivenUp
  rw [h.unended, h.plan]
  have hended : { d with plan := (d.plan.meet .rollback).2, unended := false }.Beside R
      { d' with plan := (d.plan.meet .rollback).2, unended := false } :=
    ⟨h.store, rfl, h.online, rfl⟩
  split
  · dsimp only
    split
    · exact ⟨_, _, _, rfl, rfl, hended⟩
    · exact ⟨_, _, _, rfl, rfl, hended⟩
  · exact ⟨_, _, _, rfl, rfl, h⟩

theorem carryOut_agrees {s : Statement} {run : Store → Except Refusal (α × Store)} (plan : Plan)
    (hrun : ∀ {t t' : Store}, t.Beside R t' → Alike Eq (Store.Beside R) (run t) (run t')) :
    (carryOut s run plan).Agrees R := by
  intro d d' h
  have hresults := hrun h.store
  unfold carryOut
  generalize run d.store = result, run d'.store = result' at hresults ⊢
  cases hresults with
  | refused refusal => exact ⟨_, _, _, rfl, rfl, h.store, rfl, h.online, h.unended⟩
  | done ha hkept =>
      subst ha
      exact ⟨_, _, _, rfl, rfl, hkept, rfl, h.online, h.unended⟩

theorem answerTo_agrees {s : Statement} {run : Store → Except Refusal (α × Store)}
    {overruled : Bool → Option α}
    (hrun : ∀ {t t' : Store}, t.Beside R t' → Alike Eq (Store.Beside R) (run t) (run t')) :
    (answerTo s run overruled).Agrees R := by
  intro d d' h
  have hcarried := carryOut_agrees (s := s) (d.plan.meet s).2 hrun h
  have hlater : { d with plan := (d.plan.meet s).2 }.Beside R { d' with plan := (d.plan.meet s).2 } :=
    ⟨h.store, rfl, h.online, h.unended⟩
  unfold answerTo
  rw [h.plan]
  by_cases honline : d.online = true
  · rw [if_pos honline, if_pos (h.online.trans honline)]
    dsimp only
    repeat' split
    all_goals first
      | exact hcarried
      | exact ⟨_, _, _, rfl, rfl, hlater⟩
  · rw [if_neg honline, if_neg (h.online ▸ honline)]
    exact ⟨_, _, _, rfl, rfl, h⟩

/-- **A statement agrees if what it does to an undisturbed store does.** -/
theorem send_agrees {s : Statement} {run : Store → Except Refusal (α × Store)}
    {overruled : Bool → Option α}
    (hrun : ∀ {t t' : Store}, t.Beside R t' → Alike Eq (Store.Beside R) (run t) (run t')) :
    (send s run overruled).Agrees R :=
  endGivenUp_agrees.bind fun _ => answerTo_agrees hrun

theorem control_agrees (s : Statement) : (control s).Agrees R :=
  send_agrees fun ht => .done rfl ht

/-- A look agrees if it sees the same in related books. -/
theorem ask_agrees {s : Statement} {table : String} {answer : Book → Except Refusal α} {nothing : α}
    (hanswer : ∀ {b b' : Book}, R b b' → answer b' = answer b) :
    (ask s table answer nothing).Agrees R := by
  refine send_agrees fun {t t'} ht => ?_
  have hbook := ht.book
  generalize t.book = book, t'.book = book' at hbook ⊢
  cases hbook with
  | none => exact .refused _
  | @some b b' hR =>
      dsimp only
      rw [hanswer hR]
      cases answer b with
      | error refusal => exact .refused refusal
      | ok a => exact .done rfl ht

/-- A change agrees if it does alike to related books. -/
theorem change_agrees {s : Statement} {table : String} {run : Book → Except Refusal (α × Book)}
    {nothing : α} (hrun : ∀ {b b' : Book}, R b b' → Alike Eq R (run b) (run b')) :
    (change s table run nothing).Agrees R := by
  refine send_agrees fun {t t'} ht => ?_
  have hbook := ht.book
  generalize t.book = book, t'.book = book' at hbook ⊢
  cases hbook with
  | none => exact .refused _
  | @some b b' hR =>
      have hresults := hrun hR
      dsimp only
      generalize run b = result, run b' = result' at hresults ⊢
      cases hresults with
      | refused refusal => exact .refused refusal
      | done ha hbooks => exact .done ha ⟨.some hbooks, ht.versions⟩

/-! ## All or nothing -/

theorem orGiveUp_agrees {w : Work StoreError α} (hw : w.Agrees R) : (orGiveUp w).Agrees R := by
  intro d d' h
  obtain ⟨r, e, e', hd, hd', he⟩ := hw h
  unfold orGiveUp
  rw [hd, hd']
  cases r with
  | ok a => exact ⟨_, _, _, rfl, rfl, he⟩
  | error x => exact ⟨_, _, _, rfl, rfl, he.giveUp⟩

/-- Which numbers the store takes is planned, and the plan is the same for both. -/
theorem limitStatements_agrees (millis : Nat) : (limitStatements millis).Agrees R := by
  intro d d' h
  unfold limitStatements
  rw [h.plan]
  refine send_agrees (fun ht => ?_) h
  split
  · exact .done rfl ht
  · exact .refused _

theorem openTransaction_agrees : openTransaction.Agrees R :=
  (control_agrees _).bind fun _ => orGiveUp_agrees (control_agrees _)

theorem openSnapshot_agrees : openSnapshot.Agrees R :=
  (control_agrees _).bind fun _ =>
    orGiveUp_agrees ((control_agrees _).bind fun _ => control_agrees _)

/-- **Work agrees that is done wholly or not at all**: where it is undone, the stores from before are back. -/
theorem settle_agrees {scope : Scope} {work : Work Stop α} (hwork : work.Agrees R) :
    (settle scope work).Agrees R := by
  intro d d' h
  unfold settle
  obtain ⟨r, o, o', hopen, hopen', ho⟩ := openTransaction_agrees h
  rw [hopen, hopen']
  cases r with
  | error x => exact ⟨_, _, _, rfl, rfl, ho.restore h.store⟩
  | ok _ =>
      dsimp only
      obtain ⟨r, e, e', hdone, hdone', he⟩ := hwork ho
      rw [hdone, hdone']
      cases r with
      | ok a =>
          dsimp only
          obtain ⟨r, k, k', hcommit, hcommit', hk⟩ :=
            orGiveUp_agrees (control_agrees .commit) he
          rw [hcommit, hcommit']
          cases r with
          | ok _ => exact ⟨_, _, _, rfl, rfl, hk⟩
          | error x => exact ⟨_, _, _, rfl, rfl, hk.restore h.store⟩
      | error stop =>
          cases stop with
          | unanswered => exact ⟨_, _, _, rfl, rfl, (he.restore h.store).giveUp⟩
          | error x =>
              dsimp only
              obtain ⟨r, k, k', hroll, hroll', hk⟩ :=
                orGiveUp_agrees (control_agrees .rollback) he
              rw [hroll, hroll']
              exact ⟨_, _, _, rfl, rfl, hk.restore h.store⟩

/-- A reading inside a snapshot agrees if the reading does. -/
theorem closing_agrees {wording : StoreError → LedgerError} {reading : Work LedgerError α}
    (h : reading.Agrees R) : (closing wording reading).Agrees R :=
  h.attempt.bind fun answer =>
    (orGiveUp_agrees (control_agrees _)).mapError.bind fun _ => .ofExcept answer

end Desk

end DoubleEntry
