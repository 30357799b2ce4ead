import DoubleEntry.Proofs.History
import DoubleEntry.Proofs.Retraction

/-!
# What a call does to the books

The books are called on to change or to tell, and whatever goes wrong on the way, the answer says what became
of them. A question leaves them as they were. An operation that is answered with an error does so too, and
one that succeeds has made one change: an account row more, a transaction more, or one transaction marked.
Nothing is asked of the store here. It may even report rows that it has not touched, and the marking may miss
the lines, but nothing else is ever written.

A run is any number of calls, one after the other, each with its own plan of what goes wrong.
-/

namespace DoubleEntry

open Time

/-! ## Operations -/

namespace Operation

/-- The operation is answered with a success. -/
def Succeeds : Operation → Desk → Prop
  | create m r, d => ∃ account, (Desk.createAccount m r d).1 = .ok account
  | post policy deadline m p, d => ∃ posted, (Desk.post policy deadline m p d).1 = .ok posted
  | delete policy now id, d => (Desk.delete policy now id d).1 = .ok ()

/-- What an operation that succeeded has made of the books. -/
inductive Makes (d : Desk) (b : Book) : Operation → Book → Prop where
  /-- The row of the account that was answered is there. -/
  | opened {m : Moment} {r : AccountRequest} {number : String} {account : Account}
      (hanswer : (Desk.createAccount m r d).1 = .ok account)
      (hrow : (Desk.newRow m r number).account .zero = .ok account)
      (hnew : b.hasAccount ⟨m.fresh⟩ = false) :
      Makes d b (.create m r) { b with accounts := b.accounts ++ [Desk.newRow m r number] }
  /-- The transaction that was answered is entered, under an identifier that was free. -/
  | entered {policy : FundsPolicy} {deadline : Option Deadline} {m : Moment} {p : Proposal}
      {posted : Posted} (hanswer : (Desk.post policy deadline m p d).1 = .ok posted)
      (hid : posted.transaction.id = p.identity ⟨m.fresh⟩)
      (hcreated : posted.createdAt = m.now.wholeMicros)
      (hnew : b.hasHeader posted.transaction.id = false) :
      Makes d b (.post policy deadline m p) (b.enter posted.transaction posted.createdAt)
  /-- The transaction is marked, which was not deleted before. -/
  | marked {policy : FundsPolicy} {now : Timestamp} {id : TransactionId} {b' : Book}
      (hanswer : (Desk.delete policy now id d).1 = .ok ()) (hlive : b.Live id)
      (hmarked : b.Marked id now.asKept b') : Makes d b (.delete policy now id) b'

/-- **An operation that fails leaves the books alone, and one that succeeds makes one change of them.** -/
theorem outcome (o : Operation) (d : Desk) :
    ((o.run d).store = d.store ∧ ¬ o.Succeeds d) ∨
      (o.Succeeds d ∧ ∃ b b', d.store.book = some b ∧ o.Makes d b b' ∧
        (o.run d).store = { d.store with book := some b' }) := by
  cases o with
  | create m r =>
      rcases h : Desk.createAccount m r d with ⟨answer, d'⟩
      have hanswer : (Desk.createAccount m r d).1 = answer := by rw [h]
      have hdesk : (create m r).run d = d' := by rw [run, h]
      rw [hdesk, Succeeds, hanswer]
      rcases Desk.createAccount_outcome h with ⟨hsame, e, rfl⟩ |
        ⟨b, number, account, rfl, hrow, hb, hnew, _, _, hstore⟩
      · exact Or.inl ⟨hsame, by simp⟩
      · exact Or.inr ⟨⟨account, rfl⟩, b, _, hb, .opened hanswer hrow hnew, hstore⟩
  | post policy deadline m p =>
      rcases h : Desk.post policy deadline m p d with ⟨answer, d'⟩
      have hanswer : (Desk.post policy deadline m p d).1 = answer := by rw [h]
      have hdesk : (post policy deadline m p).run d = d' := by rw [run, h]
      rw [hdesk, Succeeds, hanswer]
      cases answer with
      | error e => exact Or.inl ⟨(Desk.post_error h).1, by simp⟩
      | ok posted =>
          obtain ⟨t, b, hcheck, rfl, hb, hnew, _, hstore⟩ := Desk.post_ok h
          have hid := (Proposal.check_ok hcheck).1
          exact Or.inr ⟨⟨_, rfl⟩, b, _, hb, .entered hanswer hid rfl hnew, hstore⟩
  | delete policy now id =>
      rcases h : Desk.delete policy now id d with ⟨answer, d'⟩
      have hanswer : (Desk.delete policy now id d).1 = answer := by rw [h]
      have hdesk : (delete policy now id).run d = d' := by rw [run, h]
      rw [hdesk, Succeeds, hanswer]
      cases answer with
      | error e => exact Or.inl ⟨(Desk.settle_error h).1, by simp⟩
      | ok _ =>
          obtain ⟨b, b', hb, hlive, hmarked, _, hstore⟩ := Desk.delete_ok h
          exact Or.inr ⟨rfl, b, b', hb, .marked hanswer hlive hmarked, hstore⟩

end Operation

/-! ## Questions -/

/-- What the books can be asked, with all its arguments. -/
inductive Question where
  | accounts (ids : List AccountId)
  | search (number routing kind : String)
  | accountsOf (customer : CustomerId)
  | get (id : TransactionId)
  | history (account : AccountId)
  | balance (account : AccountId)

namespace Desk

theorem closing_looks {α : Type} {reading : Work LedgerError α} (wording : StoreError → LedgerError)
    (h : reading.Looks) : (closing wording reading).Looks := by
  have hattempt : (reading.attempt : Work LedgerError (Except LedgerError α)).Looks := h
  refine hattempt.bind fun answer => ?_
  exact .bind (orGiveUp_looks (control_looks _)).mapError fun _ => .ofExcept _

theorem get_looks (id : TransactionId) : (get id).Looks := by
  refine .bind openSnapshot_looks.mapError fun _ => ?_
  refine .bind (closing_looks _ (load_looks [id])) fun found => ?_
  split
  · exact .pure _
  · exact .fail _

theorem history_looks (account : AccountId) : (history account).Looks := by
  refine .bind openSnapshot_looks.mapError fun _ => ?_
  refine .bind (orGiveUp_looks (ask_looks _ _ _ _)).mapError fun ids => ?_
  exact closing_looks _ (load_looks ids)

theorem balance_looks (account : AccountId) : (balance account).Looks := (ask_looks _ _ _ _).mapError

theorem accounts_looks (ids : List AccountId) : (accounts ids).Looks := by
  have hread : (readAccountsWithBalances ids).Looks := by
    refine .bind (ask_looks _ _ _ _) fun rows => ?_
    refine .bind (readBalances_looks _) fun balances => ?_
    exact .bind (control_looks _) fun _ => .pure _
  unfold accounts
  split
  · exact .pure _
  · refine .bind openSnapshot_looks.mapError fun _ => ?_
    exact .bind (orGiveUp_looks hread).mapError fun _ => .ofExcept _

theorem search_looks (number routing kind : String) : (search number routing kind).Looks := by
  refine .bind (ask_looks _ _ _ _).mapError fun found => ?_
  cases found with
  | none => exact .pure _
  | some id => exact .bind (accounts_looks [id]) fun _ => .pure _

theorem accountsOf_looks (customer : CustomerId) : (accountsOf customer).Looks := by
  refine .bind (ask_looks _ _ _ _).mapError fun ids => ?_
  exact .bind (accounts_looks ids) fun _ => .pure _

end Desk

namespace Question

/-- The desk once the question is answered, however it was. -/
def run : Question → Desk → Desk
  | accounts ids, d => (Desk.accounts ids d).2
  | search number routing kind, d => (Desk.search number routing kind d).2
  | accountsOf customer, d => (Desk.accountsOf customer d).2
  | get id, d => (Desk.get id d).2
  | history account, d => (Desk.history account d).2
  | balance account, d => (Desk.balance account d).2

/-- **A question changes nothing**, whatever becomes of it. -/
theorem run_store (q : Question) (d : Desk) : (q.run d).store = d.store := by
  cases q with
  | accounts ids => exact (Desk.accounts_looks ids d).store
  | search number routing kind => exact (Desk.search_looks number routing kind d).store
  | accountsOf customer => exact (Desk.accountsOf_looks customer d).store
  | get id => exact (Desk.get_looks id d).store
  | history account => exact (Desk.history_looks account d).store
  | balance account => exact (Desk.balance_looks account d).store

end Question

/-! ## Runs of calls -/

/-- Whatever the books are called on to do or to tell. -/
inductive Call where
  | operation (o : Operation)
  | question (q : Question)

/-- The desk once the call is over. -/
def Call.run : Call → Desk → Desk
  | operation o, d => o.run d
  | question q, d => q.run d

/-- One call of a run, with what is planned to go wrong and whether there is a connection. -/
structure Turn where
  call : Call
  plan : Plan
  online : Bool

namespace Desk

/-- The desk at which the call of a turn is made. -/
def facing (d : Desk) (t : Turn) : Desk := { d with plan := t.plan, online := t.online }

/-- The desk once some turns are over, the first of them first. -/
def through (d : Desk) : List Turn → Desk
  | [] => d
  | t :: rest => (t.call.run (d.facing t)).through rest

theorem through_append (d : Desk) (turns more : List Turn) :
    d.through (turns ++ more) = (d.through turns).through more := by
  induction turns generalizing d with
  | nil => rfl
  | cons t rest ih => exact ih _

end Desk

/-- **A call leaves the books alone or is an operation that makes one change of them.** -/
theorem Call.outcome (c : Call) (d : Desk) :
    (c.run d).store = d.store ∨ ∃ o b b', c = .operation o ∧ d.store.book = some b ∧
      o.Makes d b b' ∧ (c.run d).store = { d.store with book := some b' } := by
  cases c with
  | question q => exact Or.inl (q.run_store d)
  | operation o =>
      rcases o.outcome d with ⟨hsame, _⟩ | ⟨_, b, b', hb, hmade, hstore⟩
      · exact Or.inl hsame
      · exact Or.inr ⟨o, b, b', rfl, hb, hmade, hstore⟩

/-- **What every change of the books preserves, every run of calls preserves.** -/
theorem Desk.through_induct {P : Book → Prop} {d : Desk} {b : Book} (hb : d.store.book = some b)
    (hstart : P b) (hchange : ∀ (e : Desk) o b b', P b → Operation.Makes e b o b' → P b')
    (turns : List Turn) : ∃ b', (d.through turns).store.book = some b' ∧ P b' := by
  induction turns generalizing d b with
  | nil => exact ⟨b, hb, hstart⟩
  | cons t rest ih =>
    -- the plan and the connection are not part of the store
    have hfacing : (d.facing t).store.book = some b := hb
    rcases t.call.outcome (d.facing t) with hsame | ⟨o, b₁, b', _, hb₁, hmade, hstore⟩
    · exact ih (by rw [hsame]; exact hfacing) hstart
    · obtain rfl : b₁ = b := Option.some.inj (hb₁.symm.trans hfacing)
      exact ih (by rw [hstore]) (hchange _ o b₁ b' hstart hmade)

/-- What a run of operations reaches, turns reach. -/
theorem Reached.through {allowed : FundsPolicy → Prop} {start : Store} {d : Desk}
    (h : Reached allowed start d) : ∃ (e : Desk) (turns : List Turn), e.store = start ∧ d = e.through turns := by
  induction h with
  | @start d h => exact ⟨d, [], h, rfl⟩
  | @step d _ o _ plan _ online ih =>
    obtain ⟨e, turns, hstart, rfl⟩ := ih
    refine ⟨e, turns ++ [⟨.operation o, plan, online⟩], hstart, ?_⟩
    rw [Desk.through_append]
    rfl

end DoubleEntry
