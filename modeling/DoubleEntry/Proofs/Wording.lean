import DoubleEntry.Error.AccountError
import DoubleEntry.Proofs.Conflicts

/-!
# What is left to the wording

The store words its failures as it likes, and says as it likes how a rollback went. Errors are *akin* if they differ
in such words only. Plans are akin if, whatever was sent, the next statement fails under both or under neither, with
the same state code if there is one; how a rollback goes is left open, as long as it is answered. Such plans are those
that plan the same in other words, with any rollbacks planned to go wrong besides.
-/

namespace DoubleEntry

/-! ## Errors -/

/-- The store failed in the same way, in other words perhaps. -/
inductive StoreError.Akin : StoreError → StoreError → Prop where
  | refused (s : Statement) (state message message' : String) :
    Akin (.refused s ⟨state, message⟩) (.refused s ⟨state, message'⟩)
  | broken (message message' : String) : Akin (.broken message) (.broken message')
  | refl (e : StoreError) : Akin e e

/-- The ledger failed in the same way, but for what the store said and how the rollback went. -/
inductive LedgerError.Akin : LedgerError → LedgerError → Prop where
  | persistence (step : Step) (transaction : Option TransactionId) (account : Option AccountId)
      (cause cause' : String) (rollback rollback' : Rollback) :
    Akin (.persistence step transaction account cause rollback)
      (.persistence step transaction account cause' rollback')
  | refl (e : LedgerError) : Akin e e

/-- The work on accounts failed in the same way, but for what the store said. -/
inductive AccountError.Akin : AccountError → AccountError → Prop where
  | store (e e' : StoreError) : Akin (.store e) (.store e')
  | refl (e : AccountError) : Akin e e

/-- The work in a transaction stopped in the same way. -/
inductive Stop.Akin : Stop → Stop → Prop where
  | error {e e' : LedgerError} (h : e.Akin e') : Akin (.error e) (.error e')
  | unanswered : Akin .unanswered .unanswered

namespace StoreError.Akin

variable {e e' : StoreError}

theorem state?_eq (h : e.Akin e') : e'.state? = e.state? := by cases h <;> rfl

theorem unanswered_iff (h : e.Akin e') : e' = .unanswered ↔ e = .unanswered := by
  cases h with
  | refused => exact ⟨StoreError.noConfusion, StoreError.noConfusion⟩
  | broken => exact ⟨StoreError.noConfusion, StoreError.noConfusion⟩
  | refl => exact Iff.rfl

end StoreError.Akin

theorem LedgerError.Akin.withRollback {e e' : LedgerError} (h : e.Akin e')
    (outcome outcome' : Rollback) : (e.withRollback outcome).Akin (e'.withRollback outcome') := by
  cases h with
  | persistence => exact .persistence _ _ _ _ _ _ _
  | refl =>
      cases e
      case persistence => exact .persistence _ _ _ _ _ _ _
      all_goals exact .refl _

theorem Scope.failure_akin (scope : Scope) (step : Step) (account : Option AccountId)
    {e e' : StoreError} (h : e.Akin e') :
    (scope.failure step account e).Akin (scope.failure step account e') := by
  unfold failure
  rw [h.state?_eq]
  split
  · exact .refl _
  · split
    · exact .refl _
    · exact .persistence _ _ _ _ _ _ _

theorem Scope.stop_akin (scope : Scope) (step : Step) (account : Option AccountId)
    {e e' : StoreError} (h : e.Akin e') :
    (scope.stop step account e).Akin (scope.stop step account e') := by
  unfold stop
  simp only [h.unanswered_iff]
  split
  · exact .unanswered
  · exact .error (scope.failure_akin step account h)

namespace Desk

theorem headerStop_akin (scope : Scope) {e e' : StoreError} (h : e.Akin e') :
    (headerStop scope e).Akin (headerStop scope e') := by
  unfold headerStop
  rw [h.state?_eq]
  split
  · exact .error (.refl _)
  · exact scope.stop_akin _ _ h

theorem commitError_akin (scope : Scope) {e e' : StoreError} (h : e.Akin e') :
    (commitError scope e).Akin (commitError scope e') := by
  unfold commitError
  simp only [h.unanswered_iff]
  split
  · exact .refl _
  · exact (scope.failure_akin _ _ h).withRollback _ _

/-- After a rollback that was answered the error says how it went. -/
theorem rolledBack_of_answered (scope : Scope) (e : LedgerError) {r : Except StoreError Unit}
    (h : r ≠ .error .unanswered) : ∃ outcome, rolledBack scope e r = e.withRollback outcome := by
  cases r with
  | ok _ => exact ⟨.rolledBack, rfl⟩
  | error x => exact ⟨.failed x.text, if_neg fun hx => h (congrArg Except.error hx)⟩

theorem rolledBack_akin (scope : Scope) {e e' : LedgerError} (he : e.Akin e')
    {r r' : Except StoreError Unit} (h : r = .error .unanswered ↔ r' = .error .unanswered) :
    (rolledBack scope e r).Akin (rolledBack scope e' r') := by
  by_cases hr : r = .error .unanswered
  · rw [hr, h.mp hr]
    exact .refl _
  · obtain ⟨outcome, ho⟩ := rolledBack_of_answered scope e hr
    obtain ⟨outcome', ho'⟩ := rolledBack_of_answered scope e' (mt h.mpr hr)
    rw [ho, ho']
    exact he.withRollback outcome outcome'

end Desk

/-! ## Plans -/

/-- The disturbance has the same effect, in other words perhaps. -/
inductive Effect.Akin : Effect → Effect → Prop where
  | failure (state message message' : String) :
    Akin (.failure ⟨state, message⟩) (.failure ⟨state, message'⟩)
  | breakdown (message message' : String) : Akin (.breakdown message) (.breakdown message')
  | silence : Akin .silence .silence
  | noRows : Akin .noRows .noRows
  | found : Akin .found .found
  | limited (most : Nat) : Akin (.limited most) (.limited most)

theorem Effect.Akin.takes {e e' : Effect} (h : e.Akin e') (n : Nat) : e'.takes n = e.takes n := by
  cases h <;> rfl

namespace Plan

/-- The plan once statements were sent. -/
def after (p : Plan) (sent : List Statement) : Plan := sent.foldl (fun q s => (q.meet s).2) p

/-- What a statement meets once others were sent. -/
def meets (p : Plan) (sent : List Statement) (s : Statement) : Option Effect :=
  ((p.after sent).meet s).1

/--
Whatever was sent, the next statement meets the same at both, in other words perhaps, and takes the same numbers. A
rollback may succeed or fail at each as it likes, but is answered at both or at neither.
-/
structure Akin (p p' : Plan) : Prop where
  met : ∀ sent s, s ≠ .rollback → Option.Rel Effect.Akin (p.meets sent s) (p'.meets sent s)
  unanswered : ∀ sent,
    p.meets sent .rollback = some .silence ↔ p'.meets sent .rollback = some .silence
  takes : ∀ n, p.takes .setTimeout n = p'.takes .setTimeout n

/-- Akin plans are akin after one more statement. -/
theorem Akin.meet {p p' : Plan} (h : p.Akin p') (s : Statement) :
    (p.meet s).2.Akin (p'.meet s).2 :=
  ⟨fun sent => h.met (s :: sent), fun sent => h.unanswered (s :: sent), fun n => by
    rw [takes_meet, takes_meet, h.takes]⟩

/-! ### The same in other words -/

end Plan

/-- The disturbance is the same, in other words perhaps. -/
structure Disturbance.Akin (x x' : Disturbance) : Prop where
  statement : x'.statement = x.statement
  skip : x'.skip = x.skip
  times : x'.times = x.times
  effect : x.effect.Akin x'.effect

namespace Plan

/-- What is planned for statements other than rollbacks. -/
def besidesRollback (p : Plan) : Plan := p.filter fun x => decide (x.statement ≠ .rollback)

theorem meet_akin {p p' : Plan} (h : List.Forall₂ Disturbance.Akin p p') (s : Statement) :
    Option.Rel Effect.Akin (p.meet s).1 (p'.meet s).1 ∧
      List.Forall₂ Disturbance.Akin (p.meet s).2 (p'.meet s).2 := by
  induction h with
  | nil => exact ⟨.none, .nil⟩
  | @cons x x' rest rest' hx hrest ih =>
    rw [meet, meet, hx.statement, hx.times, hx.skip]
    split
    · split
      · exact ⟨.none, .cons ⟨rfl, rfl, rfl, hx.effect⟩ hrest⟩
      · exact ⟨.some hx.effect, .cons ⟨rfl, rfl, rfl, hx.effect⟩ hrest⟩
    · exact ⟨ih.1, .cons hx ih.2⟩

theorem takes_akin {p p' : Plan} (h : List.Forall₂ Disturbance.Akin p p') (s : Statement) (n : Nat) :
    p.takes s n = p'.takes s n := by
  induction h with
  | nil => rfl
  | @cons x x' rest rest' hx hrest ih =>
    rw [takes_cons, takes_cons, ih, hx.statement, hx.effect.takes]

theorem besidesRollback_cons {x : Disturbance} (hx : x.statement ≠ .rollback) (q : Plan) :
    besidesRollback (x :: q) = x :: besidesRollback q :=
  List.filter_cons_of_pos (by simpa using hx)

theorem besidesRollback_drop {x : Disturbance} (hx : x.statement = .rollback) (q : Plan) :
    besidesRollback (x :: q) = besidesRollback q :=
  List.filter_cons_of_neg (by simpa using hx)

/-- What another statement meets is planned besides the rollbacks. -/
theorem meet_besidesRollback {s : Statement} (hs : s ≠ .rollback) (p : Plan) :
    p.besidesRollback.meet s = ((p.meet s).1, (p.meet s).2.besidesRollback) := by
  induction p with
  | nil => rfl
  | cons x rest ih =>
    by_cases hx : x.statement = .rollback
    · have hother : ¬ (x.statement = s ∧ 0 < x.times) := fun h => hs (h.1.symm.trans hx)
      rw [besidesRollback_drop hx, ih, meet, if_neg hother]
      exact congrArg (Prod.mk _) (besidesRollback_drop hx _).symm
    · rw [besidesRollback_cons hx, meet, meet]
      split
      · split
        · exact congrArg (Prod.mk _)
            (besidesRollback_cons (x := { x with skip := x.skip - 1 }) hx rest).symm
        · exact congrArg (Prod.mk _)
            (besidesRollback_cons (x := { x with times := x.times - 1 }) hx rest).symm
      · rw [ih, besidesRollback_cons hx]

/-- Other statements take the numbers that they take besides the rollbacks. -/
theorem takes_besidesRollback (p : Plan) (n : Nat) :
    p.besidesRollback.takes .setTimeout n = p.takes .setTimeout n := by
  induction p with
  | nil => rfl
  | cons x rest ih =>
    by_cases hx : x.statement = .rollback
    · rw [besidesRollback_drop hx, ih, takes_cons, hx]
      rfl
    · rw [besidesRollback_cons hx, takes_cons, takes_cons, ih]

/-- A rollback uses up only what was planned for rollbacks. -/
theorem besidesRollback_meet_rollback (p : Plan) :
    (p.meet .rollback).2.besidesRollback = p.besidesRollback := by
  induction p with
  | nil => rfl
  | cons x rest ih =>
    by_cases hx : x.statement = .rollback
    · rw [besidesRollback_drop hx, meet]
      split
      · split
        · exact besidesRollback_drop (x := { x with skip := x.skip - 1 }) hx rest
        · exact besidesRollback_drop (x := { x with times := x.times - 1 }) hx rest
      · exact (besidesRollback_drop hx _).trans ih
    · have hother : ¬ (x.statement = .rollback ∧ 0 < x.times) := fun h => hx h.1
      rw [besidesRollback_cons hx, meet, if_neg hother, besidesRollback_cons hx, ih]

/-- The plans are the same besides the rollbacks, in other words perhaps, and every rollback is answered. -/
structure Reworded (p p' : Plan) : Prop where
  besides : List.Forall₂ Disturbance.Akin p.besidesRollback p'.besidesRollback
  heard : p.Heard
  heard' : p'.Heard

theorem Reworded.meet {p p' : Plan} (h : p.Reworded p') (s : Statement) :
    (p.meet s).2.Reworded (p'.meet s).2 := by
  refine ⟨?_, h.heard.within (meet_within s p), h.heard'.within (meet_within s p')⟩
  by_cases hs : s = .rollback
  · subst hs
    rw [besidesRollback_meet_rollback, besidesRollback_meet_rollback]
    exact h.besides
  · have hrest := (meet_akin h.besides s).2
    rwa [meet_besidesRollback hs, meet_besidesRollback hs] at hrest

theorem Reworded.after {p p' : Plan} (h : p.Reworded p') (sent : List Statement) :
    (p.after sent).Reworded (p'.after sent) := by
  induction sent generalizing p p' with
  | nil => exact h
  | cons s rest ih => exact ih (h.meet s)

/-- **Plans are akin that plan the same in other words**, however they have rollbacks fail. -/
theorem Reworded.akin {p p' : Plan} (h : p.Reworded p') : p.Akin p' := by
  constructor
  · intro sent s hs
    have hmet := (meet_akin (h.after sent).besides s).1
    rwa [meet_besidesRollback hs, meet_besidesRollback hs] at hmet
  · intro sent
    exact iff_of_false (h.after sent).heard.answered (h.after sent).heard'.answered
  · intro n
    rw [← takes_besidesRollback, takes_akin h.besides, takes_besidesRollback]

end Plan

end DoubleEntry
