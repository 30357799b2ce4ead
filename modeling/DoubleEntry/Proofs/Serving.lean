import DoubleEntry.Http.Service
import DoubleEntry.Proofs.Work

/-!
# What the service makes of a request

A request whose method and path are known is given to a handler, and what the handler ends in is the response,
whether it succeeded or failed. Where the handler is work of the ledger, the response is made of the ledger's
answer, which is read off the status and, if it is a problem, off its code.
-/

namespace DoubleEntry.Http

variable {α : Type}

/-! ## Dispatch -/

/-- A request that a handler is there for gets the response of the handler. -/
theorem serve_eq_respond {settings : LedgerSettings} {m : Moment} {r : Request} {resource : Resource}
    {h : Handler} (hoptions : r.method ≠ "OPTIONS") (hhead : r.method ≠ "HEAD")
    (hpath : resource? (splitTarget r.target).1 = some resource)
    (hhandler : handler? settings m r (splitTarget r.target).2 r.method resource = some h)
    (d : Desk) : serve settings m r d = respond h d := by
  unfold serve
  rw [if_neg hoptions]
  rcases htarget : splitTarget r.target with ⟨path, query⟩
  rw [htarget] at hpath hhandler
  dsimp only at hpath hhandler ⊢
  rw [hpath]
  dsimp only
  rw [if_neg (by simpa using hhead), hhandler]
  dsimp only
  rw [if_neg (by simpa using hhead)]

/-! ## The ledger's answer -/

/-- The response to what the ledger answered. -/
def answered (response : α → Response) : Except LedgerError α → Response
  | .ok a => response a
  | .error e => .ofProblem e.problem

theorem respond_ledger (w : Work LedgerError α) (response : α → Response) (d : Desk) :
    respond (ledger w >>= fun a => pure (response a)) d = (answered response (w d).1, (w d).2) := by
  unfold respond
  rcases hw : w d with ⟨r, d'⟩
  cases r with
  | ok a =>
      have hledger : ledger w d = (.ok a, d') := Work.mapError_of_ok hw
      rw [Work.bind_of_ok hledger]
      rfl
  | error e =>
      have hledger : ledger w d = (.error (.ofProblem e.problem), d') := Work.mapError_of_error hw
      rw [Work.bind_of_error hledger]
      rfl

/-- A response that is a problem tells its code. -/
theorem code_eq_of_ofProblem {p q : Problem} (h : Response.ofProblem p = Response.ofProblem q) :
    p.code = q.code := by
  unfold Response.ofProblem at h
  injection h with _ hbody
  injection hbody with hjson
  injection hjson with hmembers
  injection hmembers with hfirst _
  injection hfirst with _ hcode
  injection hcode

/-- No problem has the status of a success. -/
theorem le_status (p : Problem) : 400 ≤ p.status := by
  cases p <;> simp [Problem.status]

end DoubleEntry.Http
