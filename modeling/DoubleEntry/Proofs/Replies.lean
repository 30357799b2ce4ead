import DoubleEntry.Proofs.Agreement
import DoubleEntry.Proofs.Calls

/-!
# What a run of calls is answered

All that anybody learns of the books is what calls are answered. Two desks are told apart by a run of calls if one
of its answers differs. Where the calls of the run agree for a relation between books, desks that differ at most
by related books are not told apart.
-/

namespace DoubleEntry

/-! ## Replies -/

/-- The answer to a call. -/
inductive Reply where
  | created (r : Except AccountError Account)
  | posted (r : Except LedgerError Posted)
  | deleted (r : Except LedgerError Unit)
  | accounts (r : Except AccountError (List Account))
  | search (r : Except AccountError (Option Account))
  | transaction (r : Except LedgerError Posted)
  | history (r : Except LedgerError (List Posted))
  | balance (r : Except LedgerError Amount)

/-- What the operation is answered. -/
def Operation.reply : Operation → Desk → Reply
  | create m r, d => .created (Desk.createAccount m r d).1
  | post policy deadline m p, d => .posted (Desk.post policy deadline m p d).1
  | delete policy now id, d => .deleted (Desk.delete policy now id d).1

/-- What the question is answered. -/
def Question.reply : Question → Desk → Reply
  | accounts ids, d => .accounts (Desk.accounts ids d).1
  | search number routing kind, d => .search (Desk.search number routing kind d).1
  | accountsOf customer, d => .accounts (Desk.accountsOf customer d).1
  | get id, d => .transaction (Desk.get id d).1
  | history account, d => .history (Desk.history account d).1
  | balance account, d => .balance (Desk.balance account d).1

/-- What the call is answered. -/
def Call.reply : Call → Desk → Reply
  | operation o, d => o.reply d
  | question q, d => q.reply d

/-- What the calls of some turns are answered, one after the other. -/
def Desk.replies (d : Desk) : List Turn → List Reply
  | [] => []
  | t :: rest => t.call.reply (d.facing t) :: (t.call.run (d.facing t)).replies rest

/-! ## Not told apart -/

variable {R : Book → Book → Prop}

/-- Made side by side, the call has one answer and leaves desks side by side. -/
def Call.Agrees (R : Book → Book → Prop) (c : Call) : Prop :=
  ∀ ⦃d d' : Desk⦄, d.Beside R d' → c.reply d' = c.reply d ∧ (c.run d).Beside R (c.run d')

/-- A call agrees as the work that it is made of does. -/
theorem Call.agrees_of_work {ε α : Type} {w : Work ε α} (hw : w.Agrees R) {c : Call}
    {reply : Except ε α → Reply} (hreply : ∀ d, c.reply d = reply (w d).1)
    (hrun : ∀ d, c.run d = (w d).2) : c.Agrees R := by
  intro d d' hd
  rw [hreply, hreply, hrun, hrun, hw.answer hd]
  exact ⟨rfl, hw.beside hd⟩

/-- The plan of a turn takes the place of what was planned before. -/
theorem Desk.Beside.facing {d d' : Desk} (hstore : d.store.Beside R d'.store)
    (hunended : d'.unended = d.unended) (t : Turn) : (d.facing t).Beside R (d'.facing t) :=
  ⟨hstore, rfl, rfl, hunended⟩

/-- **Calls that agree do not tell the desks apart**, however many are made. -/
theorem Desk.replies_eq {turns : List Turn} (hcalls : ∀ t ∈ turns, t.call.Agrees R) {d d' : Desk}
    (hstore : d.store.Beside R d'.store) (hunended : d'.unended = d.unended) :
    d'.replies turns = d.replies turns := by
  induction turns generalizing d d' with
  | nil => rfl
  | cons t rest ih =>
    obtain ⟨hreply, hrun⟩ := hcalls t List.mem_cons_self (.facing hstore hunended t)
    have hrest := ih (fun u hu => hcalls u (List.mem_cons_of_mem _ hu)) hrun.store hrun.unended
    rw [replies, replies, hreply, hrest]

end DoubleEntry
