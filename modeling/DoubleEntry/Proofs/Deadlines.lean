import DoubleEntry.Proofs.Answer
import DoubleEntry.Proofs.Causes
import DoubleEntry.Settings.Basic

/-!
# Deadlines that the store can keep

The store is told how long each statement of a posting may take: the deadline in whole milliseconds. It
takes zero for no limit at all, and may take no number above a greatest one, 2147483647 as a rule. A
deadline of less than a millisecond therefore limits no statement, and at a store with that rule a posting
with one of 2147483648 milliseconds or more is refused before it does anything.

In between, a deadline changes nothing unless time runs out. This is read off the plain sequence of calls:
at a calm desk none of its failures has to do with time, and only those are told differently when there is
a deadline. The greatest number of a store is never used up, so a calm desk may have one too.
-/

namespace DoubleEntry

open Time

/-! ## The number -/

/-- The store is given a limit, and one that it takes. -/
def Deadline.Enforceable (dl : Deadline) : Prop :=
  1 ≤ dl.statementLimit ∧ dl.statementLimit ≤ 2147483647

theorem Deadline.statementLimit_eq (dl : Deadline) : dl.statementLimit = dl.nanoseconds / 1000000 := rfl

theorem Deadline.enforceable_iff {dl : Deadline} :
    dl.Enforceable ↔ 1000000 ≤ dl.nanoseconds ∧ dl.nanoseconds < 2147483648000000 := by
  rw [Enforceable, statementLimit_eq]
  omega

/-- The store is given no limit. -/
theorem Deadline.statementLimit_eq_zero {dl : Deadline} :
    dl.statementLimit = 0 ↔ dl.nanoseconds < 1000000 := by
  rw [statementLimit_eq]
  omega

/-- The store is given the number that was set. -/
theorem LedgerSettings.deadline_of_pos (s : LedgerSettings) (h : 0 < s.timeoutMillis) :
    ∃ dl, s.deadline = some dl ∧ dl ≠ ⟨0⟩ ∧ dl.statementLimit = s.timeoutMillis := by
  refine ⟨.ofMillis s.timeoutMillis, if_pos h, ?_, ?_⟩
  · intro hzero
    have hnanoseconds : s.timeoutMillis * 1000000 = 0 := congrArg Deadline.nanoseconds hzero
    omega
  · exact Nat.mul_div_cancel _ (by decide)

/-! ## Failures that have nothing to do with time -/

namespace Refusal

/-- The store does not say that the statement took too long. -/
def Timeless (refusal : Refusal) : Prop := refusal.state ≠ queryCanceled

theorem missingTable_timeless (name : String) : (missingTable name).Timeless := by
  change "42P01" ≠ "57014"
  decide

theorem duplicateKey_timeless (key : String) : (duplicateKey key).Timeless := by
  change "23505" ≠ "57014"
  decide

theorem outOfRange_timeless : outOfRange.Timeless := by
  change "22003" ≠ "57014"
  decide

end Refusal

/-- The store answered, and did not say that the statement took too long. -/
def StoreError.Timeless (e : StoreError) : Prop :=
  e ≠ .unanswered ∧ e.state? ≠ some Refusal.queryCanceled

def Cause.Timeless : Cause → Prop
  | call _ _ e => e.Timeless
  | look _ => True
  | decision _ => True

/-- Such a failure is an error, and told the same whatever the deadline is. -/
theorem Scope.stopFor_of_timeless {cause : Cause} (h : cause.Timeless) (id : TransactionId) :
    ∃ e, ∀ deadline, (⟨id, deadline⟩ : Scope).stopFor cause = .error e := by
  cases cause with
  | look e => exact ⟨_, fun _ => rfl⟩
  | decision e => exact ⟨_, fun _ => rfl⟩
  | call step account e =>
      obtain ⟨hanswered, hstate⟩ := h
      refine ⟨(⟨id, none⟩ : Scope).told (.call step account e), fun deadline => ?_⟩
      unfold stopFor told stop failure
      dsimp only
      rw [if_neg hanswered, if_neg hanswered, if_neg hstate, if_neg hstate]
      split <;> rfl

/-- At a calm desk the work leaves a calm desk, and fails only so. -/
def Work.Prompt {ε α : Type} (E : ε → Prop) (w : Work ε α) : Prop :=
  ∀ d : Desk, d.Calm → (w d).2.Calm ∧ ∀ e, (w d).1 = .error e → E e

namespace Work.Prompt

variable {ε ε' α β : Type} {E : ε → Prop} {E' : ε' → Prop}

theorem pure (a : α) : (Pure.pure a : Work ε α).Prompt E := fun _ h => ⟨h, nofun⟩

theorem fail {e : ε} (he : E e) : (Work.fail e : Work ε α).Prompt E := by
  intro d h
  refine ⟨h, fun e' he' => ?_⟩
  cases he'
  exact he

theorem ofExcept {r : Except ε α} (hr : ∀ e, r = .error e → E e) : (Work.ofExcept r).Prompt E :=
  fun _ h => ⟨h, hr⟩

theorem bind {w : Work ε α} {f : α → Work ε β} (hw : w.Prompt E) (hf : ∀ a, (f a).Prompt E) :
    (w >>= f).Prompt E := by
  intro d h
  obtain ⟨hcalm, herror⟩ := hw d h
  rcases hwd : w d with ⟨r, d₁⟩
  rw [hwd] at hcalm herror
  cases r with
  | error e =>
      rw [bind_of_error hwd]
      refine ⟨hcalm, fun e' he' => ?_⟩
      cases he'
      exact herror e rfl
  | ok a =>
      rw [bind_of_ok hwd]
      exact hf a d₁ hcalm

theorem mapError {w : Work ε α} (hw : w.Prompt E) {f : ε → ε'} (hf : ∀ e, E e → E' (f e)) :
    (w.mapError f).Prompt E' := by
  intro d h
  obtain ⟨hcalm, herror⟩ := hw d h
  rcases hwd : w d with ⟨r, d₁⟩
  rw [hwd] at hcalm herror
  cases r with
  | error e =>
      rw [mapError_of_error hwd]
      refine ⟨hcalm, fun e' he' => ?_⟩
      cases he'
      exact hf e (herror e rfl)
  | ok a =>
      rw [mapError_of_ok hwd]
      exact ⟨hcalm, nofun⟩

end Work.Prompt

namespace Desk

variable {α : Type}

/-! ## One statement -/

theorem send_prompt {s : Statement} {run : Store → Except Refusal (α × Store)}
    {overruled : Bool → Option α}
    (hrun : ∀ store refusal, run store = .error refusal → refusal.Timeless) :
    (send s run overruled).Prompt StoreError.Timeless := by
  intro d h
  rw [send_calm h]
  cases hstore : run d.store with
  | ok r => exact ⟨⟨h.online, h.spent⟩, nofun⟩
  | error refusal =>
      refine ⟨h.ready, fun e he => ?_⟩
      cases he
      exact ⟨nofun, fun hstate => hrun _ _ hstore (Option.some.inj hstate)⟩

/-- The refusals of a statement are those of what it does on the books. -/
theorem timeless_of_map {β : Type} {r : Except Refusal α} {f : α → β} {refusal : Refusal}
    (h : ∀ e, r = .error e → e.Timeless) (hr : r.map f = .error refusal) : refusal.Timeless := by
  cases r with
  | ok a => cases hr
  | error e =>
      cases hr
      exact h refusal rfl

theorem ask_prompt {s : Statement} {table : String} {answer : Book → Except Refusal α} {nothing : α}
    (h : ∀ b refusal, answer b = .error refusal → refusal.Timeless) :
    (ask s table answer nothing).Prompt StoreError.Timeless := by
  refine send_prompt fun store refusal hrun => ?_
  split at hrun
  · cases hrun
    exact Refusal.missingTable_timeless table
  · exact timeless_of_map (h _) hrun

theorem change_prompt {s : Statement} {table : String} {run : Book → Except Refusal (α × Book)}
    {nothing : α} (h : ∀ b refusal, run b = .error refusal → refusal.Timeless) :
    (change s table run nothing).Prompt StoreError.Timeless := by
  refine send_prompt fun store refusal hrun => ?_
  split at hrun
  · cases hrun
    exact Refusal.missingTable_timeless table
  · exact timeless_of_map (h _) hrun

theorem lockAccounts_prompt (wanted : List AccountId) :
    (lockAccounts wanted).Prompt StoreError.Timeless :=
  ask_prompt fun _ _ => nofun

theorem readBalances_prompt (accounts : List AccountId) :
    (readBalances accounts).Prompt StoreError.Timeless := by
  unfold readBalances
  split
  · exact .pure _
  · refine ask_prompt fun b refusal h => ?_
    rcases b.readBalances_cases accounts with ⟨⟨bs, hread⟩, _⟩ | ⟨hread, _⟩
    · rw [hread] at h
      cases h
    · rw [hread] at h
      cases h
      exact Refusal.outOfRange_timeless

theorem inserted_prompt {w : Work StoreError Bool} (h : w.Prompt StoreError.Timeless) :
    (inserted w).Prompt StoreError.Timeless := by
  refine h.bind fun there => ?_
  cases there with
  | true => exact .pure ()
  | false => exact .fail ⟨nofun, nofun⟩

theorem insertHeader_prompt (row : HeaderRow) : (insertHeader row).Prompt StoreError.Timeless := by
  refine change_prompt fun b refusal h => ?_
  split at h
  · cases h
    exact Refusal.duplicateKey_timeless _
  · cases h

theorem insertLine_prompt (row : LineRow) : (insertLine row).Prompt StoreError.Timeless := by
  refine change_prompt fun b refusal h => ?_
  split at h
  · cases h
    exact Refusal.duplicateKey_timeless _
  · cases h

end Desk

/-! ## The plain sequence -/

namespace Plain

variable {α : Type}

theorem calling_prompt {step : Step} {account : Option AccountId} {w : Work StoreError α}
    (h : w.Prompt StoreError.Timeless) : (calling step account w).Prompt Cause.Timeless :=
  h.mapError fun _ he => he

theorem deciding_prompt (r : Except LedgerError α) : (deciding r).Prompt Cause.Timeless :=
  (Work.Prompt.ofExcept fun _ _ => trivial : (Work.ofExcept r).Prompt fun _ => True).mapError
    fun _ _ => trivial

theorem clear_prompt (policy : FundsPolicy) (t : Transaction) :
    (clear policy t).Prompt Cause.Timeless := by
  have hlock : (lockBalances t).Prompt Cause.Timeless := by
    refine (calling_prompt (Desk.lockAccounts_prompt _)).bind fun locked => ?_
    split
    · exact .fail trivial
    · exact calling_prompt (Desk.readBalances_prompt _)
  exact hlock.bind fun _ => deciding_prompt _

theorem insertLines_prompt (id : TransactionId) (createdAt : Timestamp) (n : Nat)
    (lines : List Line) : (insertLines id createdAt n lines).Prompt Cause.Timeless := by
  induction lines generalizing n with
  | nil => exact .pure ()
  | cons l rest ih =>
    unfold insertLines
    split
    · exact (calling_prompt (Desk.inserted_prompt (Desk.insertLine_prompt _))).bind fun _ => ih (n + 1)
    · exact .fail trivial

theorem enterRows_prompt (t : Transaction) (createdAt : Timestamp) :
    (enterRows t createdAt).Prompt Cause.Timeless :=
  (calling_prompt (Desk.inserted_prompt (Desk.insertHeader_prompt _))).bind fun _ =>
    insertLines_prompt _ _ _ _

/-- The part of a posting that is the same with and without a deadline. -/
def clearAndEnter (policy : FundsPolicy) (t : Transaction) (createdAt : Timestamp) :
    Work Cause Unit := do
  clear policy t
  enterRows t createdAt

theorem clearAndEnter_stopFor (policy : FundsPolicy) {scope : Scope} {t : Transaction}
    (hscope : scope.transaction = t.id) (createdAt : Timestamp) :
    (clearAndEnter policy t createdAt).mapError scope.stopFor =
      (Desk.clear policy scope t >>= fun _ => Desk.enterRows scope t createdAt) :=
  Work.mapError_bind_eq (clear_stopFor policy scope t) fun _ => enterRows_stopFor hscope createdAt

/-- **At a calm desk nothing that a posting does fails for want of time.** -/
theorem clearAndEnter_prompt (policy : FundsPolicy) (t : Transaction) (createdAt : Timestamp) :
    (clearAndEnter policy t createdAt).Prompt Cause.Timeless :=
  (clear_prompt policy t).bind fun _ => enterRows_prompt t createdAt

end Plain

/-! ## The limit -/

/-- The store takes limits of up to so many milliseconds, and none above. -/
def Plan.LimitsUpTo (most : Nat) (p : Plan) : Prop :=
  ∀ n, p.takes .setTimeout n = decide (n ≤ most)

theorem Plan.limitsUpTo_limited (skip times most : Nat) :
    LimitsUpTo most [⟨.setTimeout, skip, times, .limited most⟩] := by
  intro n
  rw [takes_cons]
  exact Bool.and_true _

/-- A store with the usual greatest number takes the deadlines below 2147483648 milliseconds. -/
theorem Plan.LimitsUpTo.takes_iff {p : Plan} (h : p.LimitsUpTo 2147483647) (dl : Deadline) :
    p.takes .setTimeout dl.statementLimit = true ↔ dl.nanoseconds < 2147483648000000 := by
  rw [h, decide_eq_true_iff, dl.statementLimit_eq]
  omega

namespace Desk

variable {α : Type} {d : Desk}

theorem limitStatements_calm (h : d.Calm) (millis : Nat) :
    limitStatements millis d =
      if d.plan.takes .setTimeout millis then (.ok (), d.ready)
      else (.error (.refused .setTimeout (.invalidLimit millis)), d.ready) := by
  rw [limitStatements, send_calm h]
  cases d.plan.takes .setTimeout millis <;> rfl

/-- The error of a posting whose limit is not taken. -/
def limitRefused (id : TransactionId) (millis : Nat) (rollback : Rollback) : LedgerError :=
  .persistence .configure (some id) none (StoreError.refused .setTimeout (.invalidLimit millis)).text
    rollback

/-- The state code of such a refusal is told in no other words. -/
theorem stop_of_invalidLimit (scope : Scope) (millis : Nat) :
    scope.stop .configure none (.refused .setTimeout (.invalidLimit millis)) =
      .error (limitRefused scope.transaction millis .notAttempted) := by
  have hstate : (StoreError.refused .setTimeout (.invalidLimit millis)).state? =
      some Refusal.invalidValue := rfl
  unfold Scope.stop Scope.failure
  rw [hstate, if_neg nofun, if_neg (by decide), if_neg (by decide), limitRefused]

/-- **The number that the store is sent is the deadline in whole milliseconds.** -/
theorem configure_calm (h : d.Calm) (id : TransactionId) (dl : Deadline) :
    configure ⟨id, some dl⟩ d =
      if d.plan.takes .setTimeout dl.statementLimit then (.ok (), d.ready)
      else (.error (.error (limitRefused id dl.statementLimit .notAttempted)), d.ready) := by
  have hlimit := limitStatements_calm h dl.statementLimit
  by_cases htaken : d.plan.takes .setTimeout dl.statementLimit = true
  · rw [if_pos htaken] at hlimit ⊢
    exact Work.mapError_of_ok hlimit
  · rw [if_neg htaken] at hlimit ⊢
    rw [← stop_of_invalidLimit ⟨id, some dl⟩]
    exact Work.mapError_of_error hlimit

/-! ## The posting -/

/-- Work that was plain and prompt is settled the same whatever the deadline is. -/
theorem settle_prompt (h : d.Calm) {w : Work Cause α} (hw : w.Prompt Cause.Timeless)
    {id : TransactionId} {deadline : Option Deadline} {work work' : Work Stop α}
    (hwork : work d.ready = w.mapError (⟨id, deadline⟩ : Scope).stopFor d.ready)
    (hwork' : work' d.ready = w.mapError (⟨id, none⟩ : Scope).stopFor d.ready) :
    settle ⟨id, deadline⟩ work d = settle ⟨id, none⟩ work' d := by
  obtain ⟨hcalm, hcause⟩ := hw d.ready h.ready
  rcases hwd : w d.ready with ⟨r, done⟩
  rw [hwd] at hcalm hcause
  cases r with
  | ok a =>
      rw [Work.mapError_of_ok hwd] at hwork hwork'
      rw [settle_calm_ok _ h hwork hcalm, settle_calm_ok _ h hwork' hcalm]
  | error cause =>
      obtain ⟨e, he⟩ := Scope.stopFor_of_timeless (hcause cause rfl) id
      rw [Work.mapError_of_error hwd, he] at hwork hwork'
      rw [settle_calm_error _ h hwork hcalm, settle_calm_error _ h hwork' hcalm]

section

variable (policy : FundsPolicy) (m : Moment) {p : Proposal} {dl : Deadline}

/-- A deadline that is not over from the start leaves a proposal that passes its checks to the store. -/
theorem post_of_check {deadline : Option Deadline} (hdeadline : deadline ≠ some ⟨0⟩)
    {t : Transaction} (hcheck : p.check m.now ⟨m.fresh⟩ = .ok t) :
    post policy deadline m p d = persist policy deadline m.now t d := by
  unfold post
  rw [hcheck]
  exact if_neg fun h => hdeadline h.1

/-- **Where the limit is taken, a deadline changes nothing**: neither the answer nor the desk. -/
theorem post_calm_taken (h : d.Calm) (hdl : dl ≠ ⟨0⟩)
    (htaken : d.plan.takes .setTimeout dl.statementLimit = true) (p : Proposal) :
    post policy (some dl) m p d = post policy none m p d := by
  cases hcheck : p.check m.now ⟨m.fresh⟩ with
  | error e =>
      unfold post
      rw [hcheck]
  | ok t =>
      have hnone : (none : Option Deadline) ≠ some ⟨0⟩ := nofun
      have hconfigure : configure ⟨t.id, some dl⟩ d.ready = (.ok (), d.ready) := by
        rw [configure_calm h.ready]
        exact if_pos htaken
      have hsettle :
          settle ⟨t.id, some dl⟩ (writePosting policy ⟨t.id, some dl⟩ (Kept t) m.now.wholeMicros) d =
            settle ⟨t.id, none⟩ (writePosting policy ⟨t.id, none⟩ (Kept t) m.now.wholeMicros) d := by
        refine settle_prompt h (Plain.clearAndEnter_prompt policy (Kept t) m.now.wholeMicros) ?_ ?_
        · rw [Plain.clearAndEnter_stopFor policy rfl, writePosting]
          exact Work.bind_of_ok hconfigure _
        · rw [Plain.clearAndEnter_stopFor policy rfl, writePosting]
          rfl
      rw [post_of_check policy m (by simpa using hdl) hcheck, post_of_check policy m hnone hcheck,
        persist_eq, persist_eq, Work.bind_apply, Work.bind_apply, hsettle]

/-- A limit that is not taken ends the posting before it does anything. -/
theorem post_calm_refused (h : d.Calm) (hdl : dl ≠ ⟨0⟩)
    (hrefused : d.plan.takes .setTimeout dl.statementLimit = false) {t : Transaction}
    (hcheck : p.check m.now ⟨m.fresh⟩ = .ok t) :
    post policy (some dl) m p d =
      (.error (limitRefused t.id dl.statementLimit .rolledBack), d.ready) := by
  have hconfigure : configure ⟨t.id, some dl⟩ d.ready =
      (.error (.error (limitRefused t.id dl.statementLimit .notAttempted)), d.ready) := by
    rw [configure_calm h.ready]
    exact if_neg (ne_true_of_eq_false hrefused)
  have hwork : writePosting policy ⟨t.id, some dl⟩ (Kept t) m.now.wholeMicros d.ready =
      (.error (.error (limitRefused t.id dl.statementLimit .notAttempted)), d.ready) := by
    rw [writePosting]
    exact Work.bind_of_error hconfigure _
  rw [post_of_check policy m (by simpa using hdl) hcheck, persist_eq]
  exact Work.bind_of_error (settle_calm_error ⟨t.id, some dl⟩ h hwork h.ready) _

end

/--
**A deadline is one that the store can keep if it is at least a millisecond and less than 2147483648.**
The store is sent it in whole milliseconds, just as it was set, and below a millisecond as no limit. Where
that number is taken the deadline changes nothing by itself. Where it is not, every posting that gets as
far is refused; with the usual greatest number that is from 2147483648 milliseconds on.
-/
theorem deadline_kept_or_refused (dl : Deadline) (hdl : dl ≠ ⟨0⟩) :
    (dl.Enforceable ↔ 1000000 ≤ dl.nanoseconds ∧ dl.nanoseconds < 2147483648000000) ∧
      (dl.statementLimit = 0 ↔ dl.nanoseconds < 1000000) ∧
      (∀ s : LedgerSettings, 0 < s.timeoutMillis →
        ∃ set, s.deadline = some set ∧ set ≠ ⟨0⟩ ∧ set.statementLimit = s.timeoutMillis) ∧
      ∀ policy m p (d : Desk), d.Calm →
        (d.plan.takes .setTimeout dl.statementLimit = true →
          post policy (some dl) m p d = post policy none m p d) ∧
        (d.plan.takes .setTimeout dl.statementLimit = false →
          ∀ t, p.check m.now ⟨m.fresh⟩ = .ok t →
            post policy (some dl) m p d =
              (.error (limitRefused t.id dl.statementLimit .rolledBack), d.ready)) ∧
        (d.plan.LimitsUpTo 2147483647 →
          (d.plan.takes .setTimeout dl.statementLimit = true ↔
            dl.nanoseconds < 2147483648000000)) := by
  refine ⟨Deadline.enforceable_iff, Deadline.statementLimit_eq_zero,
    LedgerSettings.deadline_of_pos, fun policy m p d h => ⟨?_, ?_, ?_⟩⟩
  · intro htaken
    exact post_calm_taken policy m h hdl htaken p
  · intro hrefused t hcheck
    exact post_calm_refused policy m h hdl hrefused hcheck
  · intro hmost
    exact hmost.takes_iff dl

end Desk

namespace Specimen

/-- Terms with one millisecond more than the store takes. -/
def patient : LedgerSettings := { LedgerSettings.standard with timeoutMillis := 2147483648 }

/-- The desk at a store that takes limits of up to so many milliseconds. -/
def limitedDesk (most : Nat) : Desk := { desk with plan := [⟨.setTimeout, 0, 0, .limited most⟩] }

def remittance : Proposal := transfer "t" five minusFive

end Specimen

theorem Desk.deadline_kept_or_refused_specimen :
    post .standard LedgerSettings.standard.deadline Specimen.moment Specimen.remittance
        (Specimen.limitedDesk 2147483647) =
      post .standard none Specimen.moment Specimen.remittance (Specimen.limitedDesk 2147483647) ∧
    post .standard Specimen.patient.deadline Specimen.moment Specimen.remittance
        (Specimen.limitedDesk 2147483647) =
      (.error (limitRefused ⟨"t"⟩ 2147483648 .rolledBack), Specimen.limitedDesk 2147483647) := by
  have hcalm : (Specimen.limitedDesk 2147483647).Calm := ⟨by decide, by decide⟩
  have hmost : (Specimen.limitedDesk 2147483647).plan.LimitsUpTo 2147483647 :=
    Plan.limitsUpTo_limited _ _ _
  constructor
  · obtain ⟨_, _, _, hdeadline⟩ := deadline_kept_or_refused (.ofMillis 5000) (by decide)
    obtain ⟨htaken, _, hrange⟩ := hdeadline .standard Specimen.moment Specimen.remittance _ hcalm
    exact htaken ((hrange hmost).mpr (by decide))
  · obtain ⟨_, _, _, hdeadline⟩ := deadline_kept_or_refused (.ofMillis 2147483648) (by decide)
    exact (hdeadline .standard Specimen.moment Specimen.remittance _ hcalm).2.1 (by decide) _ rfl

/--
A deadline that is not zero sets no limit: a store that takes only zero takes it. One that can be set stops a
posting that takes no time.
-/
theorem Desk.deadline_out_of_range :
    (⟨999999⟩ : Deadline) ≠ ⟨0⟩ ∧ (⟨999999⟩ : Deadline).statementLimit = 0 ∧
      post .standard (some ⟨999999⟩) Specimen.moment Specimen.remittance (Specimen.limitedDesk 0) =
        post .standard none Specimen.moment Specimen.remittance (Specimen.limitedDesk 0) ∧
      Specimen.patient.deadline.map Deadline.statementLimit = some 2147483648 ∧
      (post .standard Specimen.patient.deadline Specimen.moment Specimen.remittance
        (Specimen.limitedDesk 2147483647)).1 ≠
      (post .standard none Specimen.moment Specimen.remittance
        (Specimen.limitedDesk 2147483647)).1 := by
  have hcalm : (Specimen.limitedDesk 0).Calm := ⟨by decide, by decide⟩
  refine ⟨by decide, by decide, ?_, by decide, by decide⟩
  exact post_calm_taken .standard Specimen.moment hcalm (by decide) (by decide) _

end DoubleEntry
