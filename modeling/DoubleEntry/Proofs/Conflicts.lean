import DoubleEntry.Proofs.Causes
import DoubleEntry.Proofs.History

/-!
# What a failed call is answered

The first call that fails ends a posting or a taking back, and its state code decides the answer: a conflict with
another transaction of the store is told as one that the caller may retry, an expiry as one of the deadline, a
header that is there as a duplicate. Any other failure is told in the words of the step and the store. That holds of
every call of a posting, from the opening of the transaction to its commit. Taking back keeps to it in all calls but
the two looks at the transaction to be taken back.
-/

namespace DoubleEntry

open Time

/-! ## A rollback that is heard of -/

/-- Every rollback is answered, well or badly. -/
def Plan.Heard (p : Plan) : Prop := ∀ x ∈ p, x.statement = .rollback → x.effect ≠ .silence

instance (p : Plan) : Decidable p.Heard :=
  inferInstanceAs (Decidable (∀ x ∈ p, x.statement = .rollback → x.effect ≠ .silence))

theorem Plan.Heard.within {p q : Plan} (h : q.Heard) (hpq : p.Within q) : p.Heard := by
  intro x hx hs
  obtain ⟨y, hy, hys, hye⟩ := hpq x hx
  rw [← hye]
  exact h y hy (hys.trans hs)

theorem Plan.Heard.answered {p : Plan} (h : p.Heard) : (p.meet .rollback).1 ≠ some .silence := by
  intro hsilent
  obtain ⟨x, hx, hs, he⟩ := mem_of_meet hsilent
  exact h x hx hs he

namespace Desk

variable {α : Type}

theorem heard_of_looks {ε : Type} {w : Work ε α} (hw : w.Looks) : w.Keeps fun d => d.plan.Heard :=
  fun d hd => hd.within (hw d).plan

theorem change_heard (s : Statement) (table : String) (run : Book → Except Refusal (α × Book))
    (nothing : α) : (change s table run nothing).Keeps fun d => d.plan.Heard :=
  fun d hd => hd.within (send_within _ _ _ d)

theorem inserted_heard {w : Work StoreError Bool} (hw : w.Keeps fun d => d.plan.Heard) :
    (inserted w).Keeps fun d => d.plan.Heard := by
  refine hw.bind fun there => ?_
  cases there with
  | true => exact .pure ()
  | false => exact .fail _

theorem insertLines_heard (scope : Scope) (createdAt : Timestamp) (n : Nat) (lines : List Line) :
    (insertLines scope createdAt n lines).Keeps fun d => d.plan.Heard := by
  induction lines generalizing n with
  | nil => exact .pure ()
  | cons l rest ih =>
    unfold insertLines
    split
    · exact (inserted_heard (change_heard _ _ _ _)).mapError.bind fun _ => ih (n + 1)
    · exact .fail _

theorem writePosting_heard (policy : FundsPolicy) (scope : Scope) (t : Transaction)
    (createdAt : Timestamp) :
    (writePosting policy scope t createdAt).Keeps fun d => d.plan.Heard := by
  have henter : (enterRows scope t createdAt).Keeps fun d => d.plan.Heard :=
    (inserted_heard (change_heard _ _ _ _)).mapError.bind fun _ => insertLines_heard _ _ _ _
  rw [writePosting]
  exact (heard_of_looks (configure_looks scope)).bind fun _ =>
    (heard_of_looks (clear_looks policy scope t)).bind fun _ => henter

theorem writeReversal_heard (policy : FundsPolicy) (scope : Scope) (now : Timestamp) :
    (writeReversal policy scope now).Keeps fun d => d.plan.Heard := by
  have hmark : (markRows scope now).Keeps fun d => d.plan.Heard := by
    refine (change_heard _ _ _ _).mapError.bind fun marked => ?_
    split
    · exact .bind (.fail _) fun _ => .bind (change_heard _ _ _ _).mapError fun _ => .pure ()
    · exact .bind (change_heard _ _ _ _).mapError fun _ => .pure ()
  rw [writeReversal]
  refine (heard_of_looks (loadForReversal_looks _)).bind fun posted => ?_
  refine Work.Keeps.bind (Work.Keeps.ofExcept _).mapError fun reversal => ?_
  exact (heard_of_looks (clear_looks policy scope reversal)).bind fun _ => hmark

/-- A rollback that is heard of may fail, but does not go unanswered. -/
theorem rollback_answered {d d' : Desk} {e : StoreError} (hd : d.plan.Heard)
    (h : control .rollback d = (.error e, d')) : e ≠ .unanswered := by
  -- neither the rollback that ends an old transaction nor the new one meets silence
  have hplan := endGivenUp_within d
  rcases hend : endGivenUp d with ⟨r, d₁⟩
  rw [hend] at hplan
  cases r with
  | error x =>
      unfold endGivenUp at hend
      split at hend
      · dsimp only at hend
        rw [if_neg hd.answered] at hend
        cases hend
      · cases hend
  | ok _ =>
      rw [control, send, Work.bind_of_ok hend] at h
      unfold answerTo at h
      split at h
      · dsimp only at h
        split at h
        · cases h
        · cases h
        · cases h
          exact StoreError.noConfusion
        · cases h
          exact StoreError.noConfusion
        · rename_i hsilent
          exact absurd hsilent (hd.within hplan).answered
        · cases h
        · cases h
      · cases h
        exact StoreError.noConfusion

end Desk

/-! ## Put in words -/

/-- The answer that is told for what came of an operation, with what became of its transaction. -/
inductive Reworded {α : Type} (scope : Scope) : Except Cause α → Except LedgerError α → Prop where
  | done (a : α) : Reworded scope (.ok a) (.ok a)
  | failed (cause : Cause) (rollback : Rollback) :
    Reworded scope (.error cause) (.error ((scope.told cause).withRollback rollback))

namespace Desk

variable {α : Type} {scope : Scope}

/-- Outside the insertion of a header no failure is a duplicate. -/
theorem told_call (scope : Scope) {step : Step} (hstep : step ≠ .insertHeader)
    (account : Option AccountId) (e : StoreError) :
    scope.told (.call step account e) =
      if e = .unanswered then scope.late else scope.failure step account e := by
  have hfirst : ¬ Scope.Duplicate step e := fun h => hstep h.1
  unfold Scope.told
  dsimp only
  rw [if_neg hfirst]

theorem withRollback_failure (scope : Scope) (step : Step) (account : Option AccountId)
    (e : StoreError) :
    (scope.failure step account e).withRollback .notAttempted = scope.failure step account e := by
  unfold Scope.failure
  split
  · rfl
  · split <;> rfl

theorem told_begin (scope : Scope) (e : StoreError) :
    (if e = .unanswered then scope.late else scope.failure .begin none e) =
      (scope.told (.call .begin none e)).withRollback .notAttempted := by
  rw [told_call scope (by decide)]
  split
  · rfl
  · exact (withRollback_failure _ _ _ _).symm

theorem told_commit (scope : Scope) (e : StoreError) :
    commitError scope e = (scope.told (.call .commit none e)).withRollback .aborted := by
  rw [told_call scope (by decide)]
  unfold commitError
  split <;> rfl

/-- Work that was stopped is answered with the cause of it, and with how the rollback went if there was one. -/
theorem stopped_reworded {work : Work Stop α} {cause : Cause} {d opened stopped : Desk}
    (hopen : openTransaction d = (.ok (), opened))
    (hwork : work opened = (.error (scope.stopFor cause), stopped)) (hheard : stopped.plan.Heard) :
    Reworded scope (.error cause) (settle scope work d).1 := by
  unfold settle
  rw [hopen]
  dsimp only
  rw [hwork]
  rcases scope.stopFor_cases cause with hstop | ⟨hstop, hlate⟩
  · rw [hstop]
    dsimp only
    rcases hroll : orGiveUp (control .rollback) stopped with ⟨r, ended⟩
    cases r with
    | ok _ => exact .failed cause .rolledBack
    | error e =>
        obtain ⟨d₁, hcontrol⟩ := orGiveUp_eq hroll
        unfold rolledBack
        dsimp only
        rw [if_neg (rollback_answered hheard hcontrol)]
        exact .failed cause _
  · rw [hstop]
    dsimp only
    have htold : scope.late = (scope.told cause).withRollback .notAttempted := by
      rw [hlate]
      rfl
    rw [htold]
    exact .failed cause _

/-- **What work inside a transaction of the store is answered** is what it came to, put in words. -/
theorem settle_reworded {plain : Work Cause α} {work : Work Stop α}
    (hwork : plain.mapError scope.stopFor = work) (hkeeps : work.Keeps fun d => d.plan.Heard)
    {d : Desk} (hd : d.plan.Heard) :
    Reworded scope (Plain.settle plain d).1 (settle scope work d).1 := by
  rcases hopen : openTransaction d with ⟨r, opened⟩
  cases r with
  | error e =>
      have hplain : Plain.settle plain d = (.error (.call .begin none e), opened) :=
        Work.bind_of_error (Work.mapError_of_error hopen) _
      unfold settle
      rw [hplain, hopen]
      dsimp only
      rw [told_begin]
      exact .failed _ _
  | ok _ =>
      have hopened : opened.plan.Heard := (heard_of_looks openTransaction_looks).of_eq hopen hd
      have hplain : Plain.settle plain d = (plain >>= fun a =>
          Plain.calling .commit none (orGiveUp (control .commit)) >>= fun _ => pure a) opened :=
        Work.bind_of_ok (Work.mapError_of_ok hopen) _
      rw [hplain]
      rcases hdone : plain opened with ⟨r, done⟩
      cases r with
      | error cause =>
          have hstopped : work opened = (.error (scope.stopFor cause), done) := by
            rw [← hwork]
            exact Work.mapError_of_error hdone
          rw [Work.bind_of_error hdone]
          exact stopped_reworded hopen hstopped (hkeeps.of_eq hstopped hopened)
      | ok a =>
          have hworked : work opened = (.ok a, done) := by
            rw [← hwork]
            exact Work.mapError_of_ok hdone
          unfold settle
          rw [hopen, Work.bind_of_ok hdone]
          dsimp only
          rw [hworked]
          dsimp only
          rcases hcommit : orGiveUp (control .commit) done with ⟨r, kept⟩
          cases r with
          | ok _ =>
              rw [Plain.calling, Work.bind_of_ok (Work.mapError_of_ok hcommit)]
              exact .done a
          | error e =>
              rw [Plain.calling, Work.bind_of_error (Work.mapError_of_error hcommit)]
              dsimp only
              rw [told_commit]
              exact .failed _ _

/-- What is added to an answer that was put in words changes nothing of this. -/
theorem reworded_pure {β : Type} {plain : Work Cause α} {work : Work LedgerError α} {d : Desk}
    (h : Reworded scope (plain d).1 (work d).1) (b : β) :
    Reworded scope ((plain >>= fun _ => pure b) d).1 ((work >>= fun _ => pure b) d).1 := by
  rcases hplain : plain d with ⟨r, d₁⟩
  rcases hwork : work d with ⟨s, d₂⟩
  rw [hplain, hwork] at h
  cases h with
  | done a =>
      rw [Work.bind_of_ok hplain, Work.bind_of_ok hwork]
      exact .done b
  | failed cause rollback =>
      rw [Work.bind_of_error hplain, Work.bind_of_error hwork]
      exact .failed cause rollback

/-- **A posting is answered with what came of it, put in words.** -/
theorem post_reworded (policy : FundsPolicy) (deadline : Option Deadline) (m : Moment) (p : Proposal)
    {d : Desk} (hd : d.plan.Heard) :
    Reworded ⟨p.identity ⟨m.fresh⟩, deadline⟩ (Plain.post policy deadline m p d).1
      (post policy deadline m p d).1 := by
  unfold Plain.post post
  cases hcheck : p.check m.now ⟨m.fresh⟩ with
  | error e =>
      -- what is wrong with a proposal tells of no transaction of the store
      have hplain : e.withRollback .notAttempted = e := by
        cases e with
        | persistence => exact absurd rfl (Proposal.check_ne_persistence hcheck _ _ _ _ _)
        | _ => rfl
      have hfailed : @Reworded Posted ⟨p.identity ⟨m.fresh⟩, deadline⟩
          (.error (.decision e)) (.error (e.withRollback .notAttempted)) :=
        .failed (.decision e) .notAttempted
      rw [hplain] at hfailed
      exact hfailed
  | ok t =>
      rw [← (Proposal.check_ok hcheck).1]
      dsimp only
      split
      · exact .failed (.decision (Scope.late ⟨t.id, deadline⟩)) .notAttempted
      · have hsame : (Plain.writePosting policy deadline (Kept t) m.now.wholeMicros).mapError
            (Scope.stopFor ⟨t.id, deadline⟩) =
              writePosting policy ⟨t.id, deadline⟩ (Kept t) m.now.wholeMicros :=
          Plain.writePosting_stopFor policy rfl m.now.wholeMicros
        exact reworded_pure (settle_reworded hsame (writePosting_heard _ _ _ _) hd) _

/-- **Taking back is answered with what came of it, put in words.** -/
theorem delete_reworded (policy : FundsPolicy) (now : Timestamp) (id : TransactionId) {d : Desk}
    (hd : d.plan.Heard) :
    Reworded ⟨id, none⟩ (Plain.delete policy now id d).1 (delete policy now id d).1 :=
  settle_reworded (Plain.writeReversal_stopFor policy ⟨id, none⟩ now)
    (writeReversal_heard policy ⟨id, none⟩ now) hd

end Desk

/-! ## By the state code -/

/-- What is answered when a call failed in a step, for an account or for none. -/
structure Told {α : Type} (scope : Scope) (step : Step) (account : Option AccountId) (e : StoreError)
    (answer : Except LedgerError α) : Prop where
  /-- A conflict may be retried. -/
  conflict : e.state? = some Refusal.serializationFailure ∨
    e.state? = some Refusal.deadlockDetected →
      answer = .error (.concurrentModification scope.transaction)
  /-- A call that took too long has missed the deadline, and so has one that was not answered. -/
  late : e.state? = some Refusal.queryCanceled ∨ e = .unanswered → answer = .error scope.late
  /-- A header that could not be written because of its key is a duplicate. -/
  duplicate : step = .insertHeader → e.state? = some Refusal.uniqueViolation →
    answer = .error (.duplicateTransaction scope.transaction)
  /-- Anything else is a failure of the store, told by the step. -/
  otherwise : e.state? ≠ some Refusal.serializationFailure →
    e.state? ≠ some Refusal.deadlockDetected → e.state? ≠ some Refusal.queryCanceled →
    e ≠ .unanswered → ¬ (step = .insertHeader ∧ e.state? = some Refusal.uniqueViolation) →
      ∃ rollback, answer =
        .error (.persistence step (some scope.transaction) account e.text rollback)

/-- Silence gives no state code. -/
theorem StoreError.answered_of_state {e : StoreError} {code : String} (h : e.state? = some code) :
    e ≠ .unanswered := by
  rintro rfl
  cases h

theorem Scope.told_duplicate (scope : Scope) {step : Step} (account : Option AccountId) {e : StoreError}
    (h : Duplicate step e) :
    scope.told (.call step account e) = .duplicateTransaction scope.transaction := by
  unfold told
  dsimp only
  rw [if_neg (StoreError.answered_of_state h.2), if_pos h]

/-- Any other failure that is heard of is told by the step. -/
theorem Scope.told_failure (scope : Scope) {step : Step} (account : Option AccountId) {e : StoreError}
    (hanswered : e ≠ .unanswered) (h : ¬ Duplicate step e) :
    scope.told (.call step account e) = scope.failure step account e := by
  unfold told
  dsimp only
  rw [if_neg hanswered, if_neg h]

theorem Scope.told_state (scope : Scope) {step : Step} (account : Option AccountId) {e : StoreError}
    {code : String} (h : e.state? = some code) (hcode : code ≠ Refusal.uniqueViolation) :
    scope.told (.call step account e) = scope.failure step account e := by
  refine scope.told_failure account (StoreError.answered_of_state h) ?_
  rintro ⟨_, hduplicate⟩
  exact hcode (Option.some.inj (h.symm.trans hduplicate))

/-- **A failed call is told by its state code**, whatever became of the transaction of the store. -/
theorem Reworded.told {α : Type} {scope : Scope} {step : Step} {account : Option AccountId}
    {e : StoreError} {answer : Except LedgerError α}
    (h : Reworded scope (.error (.call step account e)) answer) :
    Told scope step account e answer := by
  cases h with
  | failed _ rollback =>
      refine ⟨?_, ?_, ?_, ?_⟩
      · intro hconflict
        have hfailure : scope.told (.call step account e) = scope.failure step account e := by
          rcases hconflict with h | h
          · exact scope.told_state account h (by decide)
          · exact scope.told_state account h (by decide)
        rw [hfailure, Scope.failure, if_pos hconflict]
        rfl
      · rintro (hcanceled | rfl)
        · have hother : ¬ (e.state? = some Refusal.serializationFailure ∨
              e.state? = some Refusal.deadlockDetected) := by
            rw [hcanceled]
            decide
          rw [scope.told_state account hcanceled (by decide), Scope.failure, if_neg hother,
            if_pos hcanceled]
          rfl
        · rfl
      · intro hstep hstate
        rw [scope.told_duplicate account ⟨hstep, hstate⟩]
        rfl
      · intro hserial hdeadlock hcanceled hanswered hfirst
        have hother : ¬ (e.state? = some Refusal.serializationFailure ∨
            e.state? = some Refusal.deadlockDetected) := not_or.2 ⟨hserial, hdeadlock⟩
        rw [scope.told_failure account hanswered hfirst, Scope.failure, if_neg hother,
          if_neg hcanceled]
        exact ⟨rollback, rfl⟩

/--
**The first call that fails decides the answer.** In a posting every failed call is told by its state code, and so
it is in taking back, except for the looks at the transaction: a failure there is told as one of the store whatever
its state code, and names no transaction. Only a rollback of which nothing is heard may change this.
-/
theorem failed_call_told {d : Desk} (hd : d.plan.Heard) :
    (∀ policy deadline m p step account e,
      (Plain.post policy deadline m p d).1 = .error (.call step account e) →
        Told ⟨p.identity ⟨m.fresh⟩, deadline⟩ step account e
          (Desk.post policy deadline m p d).1) ∧
    (∀ policy now id step account e,
      (Plain.delete policy now id d).1 = .error (.call step account e) →
        Told ⟨id, none⟩ step account e (Desk.delete policy now id d).1) ∧
    ∀ policy now id e, (Plain.delete policy now id d).1 = .error (.look e) →
      ∃ rollback, (Desk.delete policy now id d).1 =
        .error (.persistence .read none none e.text rollback) := by
  refine ⟨fun policy deadline m p step account e hfailed => ?_,
    fun policy now id step account e hfailed => ?_, fun policy now id e hfailed => ?_⟩
  · have hanswer := Desk.post_reworded policy deadline m p hd
    rw [hfailed] at hanswer
    exact hanswer.told
  · have hanswer := Desk.delete_reworded policy now id hd
    rw [hfailed] at hanswer
    exact hanswer.told
  · have hanswer := Desk.delete_reworded policy now id hd
    rw [hfailed] at hanswer
    generalize (Desk.delete policy now id d).1 = answer at hanswer
    cases hanswer with
    | failed _ rollback => exact ⟨rollback, rfl⟩

namespace Specimen

/-- The desk after the transfer, at which a statement will be refused once with a state code. -/
def refusing (s : Statement) (state : String) : Desk :=
  { posted with plan := [⟨s, 0, 1, .failure ⟨state, "refused"⟩⟩] }

end Specimen

theorem failed_call_told_specimen :
    (Desk.post .standard none Specimen.moment (Specimen.transfer "u" Specimen.five Specimen.minusFive)
      (Specimen.refusing .lockAccounts "40P01")).1 = .error (.concurrentModification ⟨"u"⟩) := by
  obtain ⟨hpost, _, _⟩ := failed_call_told (d := Specimen.refusing .lockAccounts "40P01") (by decide)
  have hfailed : (Plain.post .standard none Specimen.moment
      (Specimen.transfer "u" Specimen.five Specimen.minusFive)
      (Specimen.refusing .lockAccounts "40P01")).1 =
        .error (.call .lockAccounts none (.refused .lockAccounts ⟨"40P01", "refused"⟩)) := rfl
  exact (hpost _ _ _ _ _ _ _ hfailed).conflict (Or.inr rfl)

/--
**Two calls of taking back do not tell a conflict or an expiry.** Refused with the state code of either, a look at
the header or at the lines of the transaction is answered as a fault of the service, which is not to be retried.
With the same codes, marking the header is answered as a conflict or as late.
-/
theorem conflict_told_as_fault :
    (∀ s ∈ [Statement.readHeaders, .readLines], ∀ state ∈ ["40001", "40P01", "57014"],
      ∃ e, (Desk.delete .standard Specimen.noon ⟨"t"⟩ (Specimen.refusing s state)).1 = .error e ∧
        e = .persistence .read none none "Query Error: error returned from database: refused"
          .rolledBack ∧ e.status = 500 ∧ e.isRetryable = false) ∧
    (∀ state ∈ ["40001", "40P01"],
      (Desk.delete .standard Specimen.noon ⟨"t"⟩ (Specimen.refusing .deleteHeader state)).1 =
        .error (.concurrentModification ⟨"t"⟩)) ∧
    (Desk.delete .standard Specimen.noon ⟨"t"⟩ (Specimen.refusing .deleteHeader "57014")).1 =
      .error (.deadlineExceeded ⟨"t"⟩ 0) := by
  refine ⟨fun s hs state hstate => ⟨_, ?_, rfl, rfl, rfl⟩, by decide, by decide⟩
  revert s state
  decide

end DoubleEntry
