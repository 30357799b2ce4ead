import DoubleEntry.Proofs.Reversal

/-!
# Why an operation ends

An operation on a transaction is a sequence of calls to the store and decisions of the ledger, and the first that
fails ends it. What is answered then depends on the step the operation was in. To tell the steps apart, posting and
taking back are written down once more with their failures told *plainly*, as they happened; the operations
themselves are the same sequences with each failure put in the ledger's words, and, once that is known, with what
became of the transaction of the store.

A conflict and an expiry are told as such, by the state code that the store gave, in every step but one: the looks
that taking back takes at the transaction are worded like those of a reader, who has no use for state codes.
-/

namespace DoubleEntry

open Time

/-! ## Causes -/

/-- Why an operation ended, as it happened. -/
inductive Cause where
  /-- A call to the store failed, in a step and for an account or for none. -/
  | call (step : Step) (account : Option AccountId) (e : StoreError)
  /-- A look at the transaction to be taken back failed. -/
  | look (e : StoreError)
  /-- The ledger decided so. -/
  | decision (e : LedgerError)
  deriving DecidableEq, Repr

namespace Scope

/-- A header was refused because there is one of the same identifier. -/
def Duplicate (step : Step) (e : StoreError) : Prop :=
  step = .insertHeader ∧ e.state? = some Refusal.uniqueViolation

instance (step : Step) (e : StoreError) : Decidable (Duplicate step e) :=
  inferInstanceAs (Decidable (_ ∧ _))

/-- The stop that a cause leads to. -/
def stopFor (scope : Scope) : Cause → Stop
  | .call step account e =>
    if Duplicate step e then .error (.duplicateTransaction scope.transaction)
    else scope.stop step account e
  | .look e => .error (Desk.readError none none e)
  | .decision e => .error e

/-- The error that a cause is told as, before it is known what became of the transaction of the store. -/
def told (scope : Scope) : Cause → LedgerError
  | .call step account e =>
    if e = .unanswered then scope.late
    else if Duplicate step e then .duplicateTransaction scope.transaction
    else scope.failure step account e
  | .look e => Desk.readError none none e
  | .decision e => e

/-- A cause stops the work with the error it is told as, or by the deadline. -/
theorem stopFor_cases (scope : Scope) (cause : Cause) :
    scope.stopFor cause = .error (scope.told cause) ∨
      (scope.stopFor cause = .unanswered ∧ scope.told cause = scope.late) := by
  cases cause with
  | look e => exact Or.inl rfl
  | decision e => exact Or.inl rfl
  | call step account e =>
      unfold stopFor told stop
      dsimp only
      by_cases hsilent : e = .unanswered
      · -- silence gives no state code
        have hfirst : ¬ Duplicate step e := by
          rintro ⟨_, hstate⟩
          rw [hsilent] at hstate
          cases hstate
        exact Or.inr ⟨by rw [if_neg hfirst, if_pos hsilent], by rw [if_pos hsilent]⟩
      · refine Or.inl ?_
        rw [if_neg hsilent, if_neg hsilent]
        split <;> rfl

end Scope

/-! ## The operations, plainly -/

namespace Plain

variable {α : Type}

/-- A call to the store in a step. -/
def calling (step : Step) (account : Option AccountId) (w : Work StoreError α) : Work Cause α :=
  w.mapError (.call step account)

/-- A decision of the ledger. -/
def deciding (r : Except LedgerError α) : Work Cause α := (Work.ofExcept r).mapError .decision

def configure (deadline : Option Deadline) : Work Cause Unit :=
  match deadline with
  | some deadline => calling .configure none (Desk.limitStatements deadline.statementLimit)
  | none => pure ()

def lockBalances (t : Transaction) : Work Cause (List AccountBalance) := do
  let locked ← calling .lockAccounts none (Desk.lockAccounts t.accounts)
  match t.accounts.find? fun a => !locked.contains a with
  | some missing => Work.fail (.decision (.accountNotFound missing))
  | none => calling .readBalance none (Desk.readBalances locked)

def clear (policy : FundsPolicy) (t : Transaction) : Work Cause Unit := do
  let balances ← lockBalances t
  deciding (checkFunds policy balances t)

def insertLines (id : TransactionId) (createdAt : Timestamp) : Nat → List Line → Work Cause Unit
  | _, [] => pure ()
  | number, l :: rest =>
    if number < 2147483648 then do
      calling .insertLine (some l.account) (Desk.inserted (Desk.insertLine
        ⟨id, number, l.account, l.purpose.canonical, l.amount, createdAt.asKept, none⟩))
      insertLines id createdAt (number + 1) rest
    else
      Work.fail (.decision (.persistence .insertLine (some id) (some l.account)
        "out of range integral type conversion attempted" .notAttempted))

def enterRows (t : Transaction) (createdAt : Timestamp) : Work Cause Unit := do
  calling .insertHeader none (Desk.inserted
    (Desk.insertHeader ⟨t.id, t.timestamp.asKept, createdAt.asKept, none⟩))
  insertLines t.id createdAt 0 t.lines

def writePosting (policy : FundsPolicy) (deadline : Option Deadline) (t : Transaction)
    (createdAt : Timestamp) : Work Cause Unit := do
  configure deadline
  clear policy t
  enterRows t createdAt

def load (id : TransactionId) : Work Cause (List Posted) := do
  let headers ← (Desk.readHeaders [id]).mapError Cause.look
  let rows ← (Desk.readLines [id]).mapError Cause.look
  let lines ← deciding (LineRow.linesOf rows)
  pure (assemble headers lines [id])

def loadForReversal (id : TransactionId) : Work Cause Posted := do
  let found ← load id
  match found with
  | posted :: _ => pure posted
  | [] => Work.fail (.decision (.transactionNotFound id))

def markRows (id : TransactionId) (now : Timestamp) : Work Cause Unit := do
  let marked ← calling .softDelete none (Desk.deleteHeader id now)
  if marked = 0 then Work.fail (.decision (.transactionNotFound id))
  let _ ← calling .softDelete none (Desk.deleteLines id now)
  pure ()

def writeReversal (policy : FundsPolicy) (id : TransactionId) (now : Timestamp) :
    Work Cause Unit := do
  let posted ← loadForReversal id
  let reversal ← deciding (Desk.reversalOf posted.transaction)
  clear policy reversal
  markRows id now

/-- Work inside a transaction of the store; what is done once it has failed is left out. -/
def settle (work : Work Cause α) : Work Cause α := do
  calling .begin none Desk.openTransaction
  let a ← work
  calling .commit none (Desk.orGiveUp (Desk.control .commit))
  pure a

def post (policy : FundsPolicy) (deadline : Option Deadline) (m : Moment) (p : Proposal) :
    Work Cause Posted := fun d =>
  match p.check m.now ⟨m.fresh⟩ with
  | .error e => (.error (.decision e), d)
  | .ok t =>
    if deadline = some ⟨0⟩ ∧ d.online then
      (.error (.decision (Scope.late ⟨t.id, deadline⟩)), d)
    else
      (settle (writePosting policy deadline (Desk.Kept t) m.now.wholeMicros) >>= fun _ =>
        pure ⟨Desk.Kept t, m.now.wholeMicros⟩) d

def delete (policy : FundsPolicy) (now : Timestamp) (id : TransactionId) : Work Cause Unit :=
  settle (writeReversal policy id now)

/-! ## The same sequences -/

theorem calling_stopFor (scope : Scope) {step : Step} (hstep : step ≠ .insertHeader)
    (account : Option AccountId) (w : Work StoreError α) :
    (calling step account w).mapError scope.stopFor = scope.guarded step account w := by
  rw [calling, Work.mapError_mapError]
  refine congrArg (fun f => w.mapError f) (funext fun e => ?_)
  exact if_neg fun h => hstep h.1

theorem deciding_stopFor (scope : Scope) (r : Except LedgerError α) :
    (deciding r).mapError scope.stopFor = (Work.ofExcept r).mapError Stop.error :=
  Work.mapError_mapError _ _ _

theorem configure_stopFor (scope : Scope) :
    (configure scope.deadline).mapError scope.stopFor = Desk.configure scope := by
  unfold configure Desk.configure
  cases scope.deadline with
  | none => rfl
  | some deadline => exact calling_stopFor scope (by decide) none _

theorem lockBalances_stopFor (scope : Scope) (t : Transaction) :
    (lockBalances t).mapError scope.stopFor = Desk.lockBalances scope t := by
  refine Work.mapError_bind_eq (calling_stopFor scope (by decide) none _) fun locked => ?_
  cases t.accounts.find? fun a => !locked.contains a with
  | some missing => rfl
  | none => exact calling_stopFor scope (by decide) none _

theorem clear_stopFor (policy : FundsPolicy) (scope : Scope) (t : Transaction) :
    (clear policy t).mapError scope.stopFor = Desk.clear policy scope t :=
  Work.mapError_bind_eq (lockBalances_stopFor scope t) fun _ => deciding_stopFor scope _

theorem insertLines_stopFor (scope : Scope) (createdAt : Timestamp) (n : Nat) (lines : List Line) :
    (insertLines scope.transaction createdAt n lines).mapError scope.stopFor =
      Desk.insertLines scope createdAt n lines := by
  induction lines generalizing n with
  | nil => rfl
  | cons l rest ih =>
    unfold insertLines Desk.insertLines
    split
    · exact Work.mapError_bind_eq (calling_stopFor scope (by decide) _ _) fun _ => ih (n + 1)
    · rfl

theorem enterRows_stopFor {scope : Scope} {t : Transaction} (hscope : scope.transaction = t.id)
    (createdAt : Timestamp) :
    (enterRows t createdAt).mapError scope.stopFor = Desk.enterRows scope t createdAt := by
  have hheader : (fun e => scope.stopFor (.call .insertHeader none e)) = Desk.headerStop scope := by
    funext e
    exact if_congr (and_iff_right rfl) rfl rfl
  refine Work.mapError_bind_eq ?_ fun _ => ?_
  · rw [calling, Work.mapError_mapError, hheader]
  · rw [← hscope]
    exact insertLines_stopFor scope createdAt 0 t.lines

/-- **Posting is the plain sequence, put in the ledger's words.** -/
theorem writePosting_stopFor (policy : FundsPolicy) {scope : Scope} {t : Transaction}
    (hscope : scope.transaction = t.id) (createdAt : Timestamp) :
    (writePosting policy scope.deadline t createdAt).mapError scope.stopFor =
      Desk.writePosting policy scope t createdAt := by
  rw [Desk.writePosting]
  refine Work.mapError_bind_eq (configure_stopFor scope) fun _ => ?_
  exact Work.mapError_bind_eq (clear_stopFor policy scope t) fun _ => enterRows_stopFor hscope createdAt

theorem load_stopFor (scope : Scope) (id : TransactionId) :
    (load id).mapError scope.stopFor = (Desk.load [id]).mapError Stop.error := by
  have hlook : ∀ {α : Type} (w : Work StoreError α), (w.mapError Cause.look).mapError scope.stopFor =
      (w.mapError (Desk.readError none none)).mapError Stop.error := by
    intro α w
    rw [Work.mapError_mapError, Work.mapError_mapError]
    rfl
  rw [Desk.load, if_neg (List.cons_ne_nil _ _), Work.mapError_bind Stop.error]
  refine Work.mapError_bind_eq (hlook _) fun headers => ?_
  rw [Work.mapError_bind Stop.error]
  refine Work.mapError_bind_eq (hlook _) fun rows => ?_
  rw [Work.mapError_bind Stop.error]
  exact Work.mapError_bind_eq (deciding_stopFor scope _) fun lines => rfl

theorem loadForReversal_stopFor (scope : Scope) (id : TransactionId) :
    (loadForReversal id).mapError scope.stopFor = Desk.loadForReversal id := by
  refine Work.mapError_bind_eq (load_stopFor scope id) fun found => ?_
  cases found <;> rfl

theorem markRows_stopFor (scope : Scope) (now : Timestamp) :
    (markRows scope.transaction now).mapError scope.stopFor = Desk.markRows scope now := by
  have hlines : (calling .softDelete none (Desk.deleteLines scope.transaction now)).mapError
      scope.stopFor = scope.guarded .softDelete none (Desk.deleteLines scope.transaction now) :=
    calling_stopFor scope (by decide) none _
  refine Work.mapError_bind_eq (calling_stopFor scope (by decide) none _) fun marked => ?_
  split
  · rfl
  · exact Work.mapError_bind_eq hlines fun _ => rfl

/-- **Taking back is the plain sequence, put in the ledger's words.** -/
theorem writeReversal_stopFor (policy : FundsPolicy) (scope : Scope) (now : Timestamp) :
    (writeReversal policy scope.transaction now).mapError scope.stopFor =
      Desk.writeReversal policy scope now := by
  rw [Desk.writeReversal]
  refine Work.mapError_bind_eq (loadForReversal_stopFor scope scope.transaction) fun posted => ?_
  refine Work.mapError_bind_eq (deciding_stopFor scope _) fun reversal => ?_
  exact Work.mapError_bind_eq (clear_stopFor policy scope reversal) fun _ => markRows_stopFor scope now

end Plain

end DoubleEntry
