import DoubleEntry.Store.Settlement
import DoubleEntry.Proofs.Sending

/-!
# What is left of a transaction of the store

`settle` has one ending in which the work is kept and five in which it is not. For the first, the work is
read back out of the whole: it began on the store from before and its store is the one that remains. For
the others the store is the one from before, and `Fate` names what became of the transaction: it was
never opened, its commit failed, or the work stopped and the rollback went well or did not. At most one
of these is ever true, and it is the one that a failure of the store reports.
-/

namespace DoubleEntry

/-! ## Wording -/

theorem LedgerError.eq_of_withRollback {outcome rollback : Rollback} {e : LedgerError} {step : Step}
    {transaction : Option TransactionId} {account : Option AccountId} {cause : String}
    (h : e.withRollback outcome = .persistence step transaction account cause rollback) :
    rollback = outcome := by
  cases e with
  | persistence => cases h; rfl
  | _ => cases h

/-- A failure of the store is worded before anything is known of the rollback. -/
theorem Scope.eq_of_failure {scope : Scope} {at_ step : Step} {who account : Option AccountId}
    {e : StoreError} {transaction : Option TransactionId} {cause : String} {rollback : Rollback}
    (h : scope.failure at_ who e = .persistence step transaction account cause rollback) :
    rollback = .notAttempted := by
  unfold failure at h
  split at h
  · cases h
  · split at h
    · cases h
    · cases h
      rfl

namespace Desk

variable {α : Type}

/-! ## Opening and closing -/

/-- What work inside a transaction answers is what it answers on its own. -/
theorem orGiveUp_eq {w : Work StoreError α} {d d' : Desk} {r : Except StoreError α}
    (h : orGiveUp w d = (r, d')) : ∃ d₁, w d = (r, d₁) := by
  unfold orGiveUp at h
  rcases hw : w d with ⟨r₁, d₁⟩
  rw [hw] at h
  cases r₁ with
  | ok a => cases h; exact ⟨_, rfl⟩
  | error e => cases h; exact ⟨_, rfl⟩

/-- To give a transaction up is no change. -/
theorem orGiveUp_looks {w : Work StoreError α} (hw : w.Looks) : (orGiveUp w).Looks := by
  intro d
  have h₁ := hw d
  unfold orGiveUp
  rcases hwd : w d with ⟨r, d₁⟩
  rw [hwd] at h₁
  cases r with
  | ok _ => exact h₁
  | error _ => exact ⟨h₁.store, h₁.plan⟩

theorem limitStatements_looks (millis : Nat) : (limitStatements millis).Looks := by
  refine fun d => ⟨send_store (fun hrun => ?_) d, send_within _ _ _ d⟩
  split at hrun
  · exact (congrArg Prod.snd (Except.ok.inj hrun)).symm
  · cases hrun

theorem openTransaction_looks : openTransaction.Looks :=
  .bind (control_looks _) fun _ => orGiveUp_looks (control_looks _)

theorem openSnapshot_looks : openSnapshot.Looks :=
  .bind (control_looks _) fun _ =>
    orGiveUp_looks (.bind (control_looks _) fun _ => control_looks _)

theorem openTransaction_calm {d : Desk} (h : d.Calm) : openTransaction d = (.ok (), d.ready) := by
  rw [openTransaction, Work.bind_of_ok (control_calm h .begin), orGiveUp,
    control_calm h.ready .setTransaction]
  rfl

/-! ## Work that is kept -/

/-- **What is kept is what the work did**, begun on the store from before. -/
theorem settle_ok {scope : Scope} {work : Work Stop α} {d d' : Desk} {a : α}
    (h : settle scope work d = (.ok a, d')) :
    ∃ opened done, opened.Follows d ∧ work opened = (.ok a, done) ∧ d'.store = done.store := by
  unfold settle at h
  rcases hopen : openTransaction d with ⟨r, opened⟩
  rw [hopen] at h
  cases r with
  | error e => cases h
  | ok _ =>
      dsimp only at h
      rcases hwork : work opened with ⟨r, done⟩
      rw [hwork] at h
      cases r with
      | ok x =>
          dsimp only at h
          rcases hcommit : orGiveUp (control .commit) done with ⟨r, kept⟩
          rw [hcommit] at h
          cases r with
          | error e => cases h
          | ok _ =>
              cases h
              have hkept := (orGiveUp_looks (control_looks .commit)).of_eq hcommit
              exact ⟨opened, done, openTransaction_looks.of_eq hopen, hwork, hkept.store⟩
      | error stop =>
          cases stop with
          | unanswered => cases h
          | error e =>
              dsimp only at h
              rcases hroll : orGiveUp (control .rollback) done with ⟨r, ended⟩
              rw [hroll] at h
              cases h

/-! ## Work that is not -/

/-- What became of the transaction of the store that some work was to be done in. -/
inductive Fate (work : Work Stop α) (d : Desk) : Rollback → Prop where
  /-- It could not be opened. -/
  | notOpened {e : StoreError} {d' : Desk} (hopen : openTransaction d = (.error e, d')) :
      Fate work d .notAttempted
  /-- The work was done and the commit failed. -/
  | notCommitted {opened done d' : Desk} {a : α} {e : StoreError}
      (hopen : openTransaction d = (.ok (), opened)) (hwork : work opened = (.ok a, done))
      (hcommit : control .commit done = (.error e, d')) : Fate work d .aborted
  /-- The work stopped and the rollback succeeded. -/
  | rolledBack {opened stopped d' : Desk} {e : LedgerError}
      (hopen : openTransaction d = (.ok (), opened))
      (hwork : work opened = (.error (.error e), stopped))
      (hroll : control .rollback stopped = (.ok (), d')) : Fate work d .rolledBack
  /-- The work stopped and the rollback failed. -/
  | notRolledBack {opened stopped d' : Desk} {e : LedgerError} {r : StoreError}
      (hopen : openTransaction d = (.ok (), opened))
      (hwork : work opened = (.error (.error e), stopped))
      (hroll : control .rollback stopped = (.error r, d')) : Fate work d (.failed r.text)

/-- The fate, looked up; work that was kept or abandoned has none. -/
def fate? (work : Work Stop α) (d : Desk) : Option Rollback :=
  match openTransaction d with
  | (.error _, _) => some .notAttempted
  | (.ok _, opened) =>
    match work opened with
    | (.ok _, done) =>
      match control .commit done with
      | (.error _, _) => some .aborted
      | (.ok _, _) => none
    | (.error .unanswered, _) => none
    | (.error (.error _), stopped) =>
      match control .rollback stopped with
      | (.ok _, _) => some .rolledBack
      | (.error r, _) => some (.failed r.text)

theorem Fate.fate?_eq {work : Work Stop α} {d : Desk} {r : Rollback} (h : Fate work d r) :
    fate? work d = some r := by
  unfold fate?
  cases h with
  | notOpened hopen => rw [hopen]
  | notCommitted hopen hwork hcommit =>
      rw [hopen]
      dsimp only
      rw [hwork]
      dsimp only
      rw [hcommit]
  | rolledBack hopen hwork hroll =>
      rw [hopen]
      dsimp only
      rw [hwork]
      dsimp only
      rw [hroll]
  | notRolledBack hopen hwork hroll =>
      rw [hopen]
      dsimp only
      rw [hwork]
      dsimp only
      rw [hroll]

/-- A transaction of the store has one fate. -/
theorem Fate.unique {work : Work Stop α} {d : Desk} {r r' : Rollback} (h : Fate work d r)
    (h' : Fate work d r') : r' = r :=
  Option.some.inj (h'.fate?_eq.symm.trans h.fate?_eq)

/-- **A failed operation leaves the store as it was, and a failure of the store tells the fate.** -/
theorem settle_error {scope : Scope} {work : Work Stop α} {d d' : Desk} {e : LedgerError}
    (h : settle scope work d = (.error e, d')) :
    d'.store = d.store ∧ ∀ step transaction account cause rollback,
      e = .persistence step transaction account cause rollback → Fate work d rollback := by
  -- an answer that came too late is no failure of the store and tells no fate
  have not_late : ∀ {step transaction account cause rollback},
      scope.late ≠ .persistence step transaction account cause rollback := by
    intro step transaction account cause rollback hlate
    cases hlate
  unfold settle at h
  rcases hopen : openTransaction d with ⟨r, opened⟩
  rw [hopen] at h
  cases r with
  | error x =>
      cases h
      refine ⟨rfl, fun step transaction account cause rollback he => ?_⟩
      split at he
      · exact absurd he not_late
      · rw [Scope.eq_of_failure he]
        exact .notOpened hopen
  | ok _ =>
      dsimp only at h
      rcases hwork : work opened with ⟨r, done⟩
      rw [hwork] at h
      cases r with
      | ok a =>
          dsimp only at h
          rcases hcommit : orGiveUp (control .commit) done with ⟨r, kept⟩
          rw [hcommit] at h
          cases r with
          | ok _ => cases h
          | error x =>
              cases h
              obtain ⟨d₁, hcontrol⟩ := orGiveUp_eq hcommit
              refine ⟨rfl, fun step transaction account cause rollback he => ?_⟩
              unfold commitError at he
              split at he
              · exact absurd he not_late
              · rw [LedgerError.eq_of_withRollback he]
                exact .notCommitted hopen hwork hcontrol
      | error stop =>
          cases stop with
          | unanswered =>
              cases h
              exact ⟨rfl, fun step transaction account cause rollback he => absurd he not_late⟩
          | error x =>
              dsimp only at h
              rcases hroll : orGiveUp (control .rollback) done with ⟨r, ended⟩
              rw [hroll] at h
              obtain ⟨d₁, hcontrol⟩ := orGiveUp_eq hroll
              cases h
              refine ⟨rfl, fun step transaction account cause rollback he => ?_⟩
              cases r with
              | ok _ =>
                  rw [LedgerError.eq_of_withRollback he]
                  exact .rolledBack hopen hwork hcontrol
              | error y =>
                  unfold rolledBack at he
                  dsimp only at he
                  split at he
                  · exact absurd he not_late
                  · rw [LedgerError.eq_of_withRollback he]
                    exact .notRolledBack hopen hwork hcontrol

end Desk

end DoubleEntry
