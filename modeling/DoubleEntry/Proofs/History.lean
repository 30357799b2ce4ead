import DoubleEntry.AccountBook
import DoubleEntry.Proofs.Reversal

/-!
# What a run of operations can do to the books

A run opens accounts, posts transactions and takes them back, each time with whatever arguments and
with whatever goes wrong in the store. However it goes, each operation either leaves the books alone or
makes one of three changes, and each change was preceded by its checks. An invariant of the books has to
be shown for these three changes only; the induction over the run is made here, once.
-/

namespace DoubleEntry

open Time

/-! ## Changes -/

/-- A transaction as it comes out of the checks of a proposal. -/
structure Transaction.Checked (t : Transaction) : Prop where
  /-- No line is of amount zero. -/
  nonzero : ∀ l ∈ t.lines, l.amount.value ≠ 0
  /-- The amounts sum to zero. -/
  balanced : t.total = 0

/-- What one operation under an allowed policy can make of the books, other than leave them alone. -/
inductive Book.Change (allowed : FundsPolicy → Prop) (b : Book) : Book → Prop where
  /-- An account was opened. -/
  | opened (row : AccountRow) (hnew : b.hasAccount row.id = false) :
      Change allowed b { b with accounts := b.accounts ++ [row] }
  /-- A transaction was posted. -/
  | entered (policy : FundsPolicy) (t : Transaction) (createdAt : Timestamp)
      (hpolicy : allowed policy) (hchecked : t.Checked) (hnew : b.hasHeader t.id = false)
      (hcleared : b.Keyed → Desk.Cleared policy b t) : Change allowed b (b.enter t createdAt)
  /-- A transaction was taken back. -/
  | struck (policy : FundsPolicy) (id : TransactionId) (r : Transaction) (moment : Timestamp)
      (hpolicy : allowed policy) (hback : b.TakenBack id r)
      (hcleared : b.Keyed → Desk.Cleared policy b r) : Change allowed b (b.strike id moment)

/-! ## Opening an account -/

namespace Desk

theorem findNumber_looks (number routing : String) : (findNumber number routing).Looks := by
  intro d
  refine ⟨?_, send_within _ _ _ d⟩
  rcases h : findNumber number routing d with ⟨r, d'⟩
  rcases send_outcome h with ⟨a, _, hrun⟩ | ⟨hsame, _⟩
  · split at hrun
    · cases hrun
    · exact (congrArg Prod.snd (Except.ok.inj hrun)).symm
  · exact hsame

/-- The search for a free number changes nothing, however long it takes. -/
theorem freeNumber_looks (routing : String) (numbers : List String) (last : String) :
    (freeNumber routing numbers last).Looks := by
  induction numbers generalizing last with
  | nil => exact .fail _
  | cons number rest ih =>
    refine .bind (findNumber_looks number routing).mapError fun taken => ?_
    cases taken with
    | true => exact ih number
    | false => exact .pure _

/-- A number that was found free is one of those drawn. -/
theorem freeNumber_mem {routing number last : String} {numbers : List String} {d d' : Desk}
    (h : freeNumber routing numbers last d = (.ok number, d')) : number ∈ numbers := by
  induction numbers generalizing last d with
  | nil => cases h
  | cons first rest ih =>
    obtain ⟨taken, d₁, _, hrest⟩ := Work.bind_ok h
    cases taken with
    | true => exact List.mem_cons_of_mem _ (ih hrest)
    | false =>
        cases hrest
        exact List.mem_cons_self

/-- The row of a new account. -/
def newRow (m : Moment) (r : AccountRequest) (number : String) : AccountRow :=
  ⟨⟨m.fresh⟩, r.customer, r.name, number, r.routing, AccountStatus.standard.canonical, r.kind,
    m.now.asKept, none, m.now.asKept, none⟩

/-- What is done once a free number is found. -/
def addAccount (m : Moment) (r : AccountRequest) (number : String) : Work AccountError Account := do
  (inserted (insertAccount (newRow m r number))).mapError (accountInsertError number r.routing)
  Work.ofExcept ((newRow m r number).account .zero)

theorem createAccount_eq {m : Moment} {r : AccountRequest} (h : r.missing? = none) :
    createAccount m r = (freeNumber r.routing (drawnNumbers m) "" >>= addAccount m r) := by
  unfold createAccount
  rw [h]
  rfl

/-- A row that was inserted is there under keys that were free, and one that is not there was not reported so. -/
theorem insertAccount_outcome {row : AccountRow} {d d' : Desk} {r : Except StoreError Unit}
    (h : inserted (insertAccount row) d = (r, d')) :
    (d'.store = d.store ∧ ∃ e, r = .error e) ∨
      (r = .ok () ∧ ∃ b, d.store.book = some b ∧ b.hasAccount row.id = false ∧
        b.hasNumber row.number row.routing = false ∧
        d'.store = { d.store with book := some { b with accounts := b.accounts ++ [row] } }) := by
  rcases hinsert : insertAccount row d with ⟨there, d₁⟩
  rcases change_outcome hinsert with ⟨a, b, b', rfl, hb, hrun, hstore⟩ | ⟨hsame, hnothing⟩
  · -- of the three ways to answer only one is no refusal
    split at hrun
    · cases hrun
    · rename_i hnew
      split at hrun
      · cases hrun
      · rename_i hfree
        cases hrun
        rw [inserted, Work.bind_of_ok hinsert] at h
        cases h
        exact Or.inr ⟨rfl, b, hb, by simpa using hnew, by simpa using hfree, hstore⟩
  · left
    cases there with
    | error e =>
        rw [inserted, Work.bind_of_error hinsert] at h
        cases h
        exact ⟨hsame, e, rfl⟩
    | ok a =>
        obtain ⟨rfl, _⟩ := hnothing a rfl
        rw [inserted, Work.bind_of_ok hinsert] at h
        cases h
        exact ⟨hsame, .notInserted, rfl⟩

/-- The status of a new row can be read. -/
theorem newRow_account (m : Moment) (r : AccountRequest) (number : String) :
    ∃ account, (newRow m r number).account .zero = .ok account :=
  ⟨_, AccountRow.account_of_status (AccountStatus.ofText?_canonical .standard) .zero⟩

/-- **An account that was opened** has a number that was drawn and was free; otherwise nothing was written. -/
theorem createAccount_outcome {m : Moment} {r : AccountRequest} {d d' : Desk}
    {answer : Except AccountError Account} (h : createAccount m r d = (answer, d')) :
    (d'.store = d.store ∧ ∃ e, answer = .error e) ∨
      ∃ b number account, answer = .ok account ∧
        (newRow m r number).account .zero = .ok account ∧ d.store.book = some b ∧
        b.hasAccount ⟨m.fresh⟩ = false ∧ number ∈ drawnNumbers m ∧
        b.hasNumber number r.routing = false ∧ d'.store = { d.store with
          book := some { b with accounts := b.accounts ++ [newRow m r number] } } := by
  cases hmissing : r.missing? with
  | some field =>
      unfold createAccount at h
      rw [hmissing] at h
      cases h
      exact Or.inl ⟨rfl, _, rfl⟩
  | none =>
      rw [createAccount_eq hmissing] at h
      rcases hfree : freeNumber r.routing (drawnNumbers m) "" d with ⟨found, d₁⟩
      have hstore₁ : d₁.store = d.store := ((freeNumber_looks _ _ _).of_eq hfree).store
      cases found with
      | error e =>
          rw [Work.bind_of_error hfree] at h
          cases h
          exact Or.inl ⟨hstore₁, e, rfl⟩
      | ok number =>
          rw [Work.bind_of_ok hfree, addAccount] at h
          rcases hinsert : inserted (insertAccount (newRow m r number)) d₁ with ⟨there, d₂⟩
          rcases insertAccount_outcome hinsert with ⟨hsame, e, rfl⟩ |
            ⟨rfl, b, hb, hnew, hnumber, hstore⟩
          · rw [Work.bind_of_error (Work.mapError_of_error hinsert)] at h
            cases h
            exact Or.inl ⟨hsame.trans hstore₁, _, rfl⟩
          · rw [Work.bind_of_ok (Work.mapError_of_ok hinsert)] at h
            obtain ⟨account, haccount⟩ := newRow_account m r number
            rw [haccount] at h
            cases h
            rw [hstore₁] at hb hstore
            exact Or.inr ⟨b, number, account, rfl, haccount, hb, hnew, freeNumber_mem hfree, hnumber,
              hstore⟩

end Desk

/-! ## Runs -/

/-- An operation that may change the books, with all its arguments. -/
inductive Operation where
  | create (m : Moment) (r : AccountRequest)
  | post (policy : FundsPolicy) (deadline : Option Deadline) (m : Moment) (p : Proposal)
  | delete (policy : FundsPolicy) (now : Timestamp) (id : TransactionId)

namespace Operation

/-- The desk once the operation is over, however it ended. -/
def run : Operation → Desk → Desk
  | create m r, d => (Desk.createAccount m r d).2
  | post policy deadline m p, d => (Desk.post policy deadline m p d).2
  | delete policy now id, d => (Desk.delete policy now id d).2

/-- The funds check of the operation, if it makes one, is made under an allowed policy. -/
def Under (allowed : FundsPolicy → Prop) : Operation → Prop
  | create _ _ => True
  | post policy _ _ _ => allowed policy
  | delete policy _ _ => allowed policy

theorem under_any (o : Operation) : o.Under fun _ => True := by
  cases o <;> trivial

/-- **An operation leaves the books alone or makes one change of them.** -/
theorem run_store {allowed : FundsPolicy → Prop} {o : Operation} (ho : o.Under allowed) {d : Desk}
    (htruth : d.plan.Truthful) :
    (o.run d).store = d.store ∨ ∃ b b', d.store.book = some b ∧ b.Change allowed b' ∧
      (o.run d).store = { d.store with book := some b' } := by
  cases o with
  | create m r =>
      rcases h : Desk.createAccount m r d with ⟨answer, d'⟩
      rw [run, h]
      rcases Desk.createAccount_outcome h with ⟨hsame, _⟩ |
        ⟨b, number, _, _, _, hb, hnew, _, _, hstore⟩
      · exact Or.inl hsame
      · exact Or.inr ⟨b, _, hb, .opened (Desk.newRow m r number) hnew, hstore⟩
  | post policy deadline m p =>
      rcases h : Desk.post policy deadline m p d with ⟨answer, d'⟩
      rw [run, h]
      cases answer with
      | error e => exact Or.inl (Desk.post_error h).1
      | ok posted =>
          obtain ⟨t, b, hcheck, _, hb, hnew, hcleared, hstore⟩ := Desk.post_ok h
          obtain ⟨_, _, hbalanced, _, hlines⟩ := Proposal.check_ok hcheck
          refine Or.inr ⟨b, _, hb, .entered policy (Desk.Kept t) _ ho ⟨?_, hbalanced⟩ hnew
            (hcleared htruth), hstore⟩
          exact ProposedLine.amount_ne_zero hlines
  | delete policy now id =>
      rcases h : Desk.delete policy now id d with ⟨answer, d'⟩
      rw [run, h]
      cases answer with
      | error e => exact Or.inl (Desk.settle_error h).1
      | ok _ =>
          obtain ⟨b, b', hb, _, _, hall, hstore⟩ := Desk.delete_ok h
          obtain ⟨rfl, r, hback, hcleared⟩ := hall htruth
          exact Or.inr ⟨b, _, hb, .struck policy id r _ ho hback hcleared, hstore⟩

end Operation

/--
The desks that a run comes to, from a store and under allowed policies. Before each operation anything
may be planned to go wrong, and the connection may be lost or come back.
-/
inductive Reached (allowed : FundsPolicy → Prop) (start : Store) : Desk → Prop where
  | start {d : Desk} (h : d.store = start) : Reached allowed start d
  | step {d : Desk} (h : Reached allowed start d) (o : Operation) (ho : o.Under allowed)
      (plan : Plan) (hplan : plan.Truthful) (online : Bool) :
      Reached allowed start (o.run { d with plan, online })

/-- **What every change of the books preserves, every run preserves.** -/
theorem Reached.induct {allowed : FundsPolicy → Prop} {start : Store} {b : Book} {P : Book → Prop}
    (hb : start.book = some b) (hstart : P b)
    (hchange : ∀ b b', P b → b.Change allowed b' → P b') {d : Desk} (h : Reached allowed start d) :
    ∃ b', d.store.book = some b' ∧ P b' := by
  induction h with
  | start h => exact ⟨b, by rw [h]; exact hb, hstart⟩
  | @step d _ o ho plan hplan online ih =>
    -- the plan and the connection are not part of the store
    obtain ⟨b₁, hb₁, hP⟩ := ih
    have htruth : { d with plan, online }.plan.Truthful := hplan
    rcases Operation.run_store ho htruth with hsame | ⟨b₂, b₃, hb₂, hmade, hstore⟩
    · exact ⟨b₁, by rw [hsame]; exact hb₁, hP⟩
    · obtain rfl : b₂ = b₁ := Option.some.inj (hb₂.symm.trans hb₁)
      exact ⟨b₃, by rw [hstore], hchange b₂ b₃ hP hmade⟩

/-! ## A small store -/

namespace Specimen

/-- A time to do things at. -/
def noon : Timestamp :=
  ⟨⟨2026, 3, 1, by decide, by decide⟩, 12, 1, 2, 3000, by decide, by decide, by decide, by decide⟩

def moment : Moment := ⟨noon, "fresh", fun n => n⟩

def account (name : String) : AccountRow :=
  ⟨⟨name⟩, ⟨"customer"⟩, name, name, "routing", "open", "checking", noon, none, noon, none⟩

/-- Books with two accounts and no transaction. -/
def book : Book := ⟨[account "a", account "b"], [], []⟩

def store : Store := ⟨some book, none⟩

/-- A desk at which nothing goes wrong. -/
def desk : Desk := ⟨store, [], true, false⟩

/-- A transfer of an amount to the first account from the second, which is charged the opposite. -/
def transfer (id : String) (amount opposite : Amount) : Proposal :=
  ⟨some ⟨id⟩, none, [⟨"a", "transfer", amount⟩, ⟨"b", "transfer", opposite⟩]⟩

def five : Amount := ⟨5, by decide, by decide⟩

def minusFive : Amount := ⟨-5, by decide, by decide⟩

/-- The desk after a transfer of five to the first account. -/
def posted : Desk := (Operation.post .standard none moment (transfer "t" five minusFive)).run desk

/-- The lines cannot be marked, and the rollback is not heard of. -/
def troubled : Plan := [⟨.deleteLines, 0, 1, .failure .outOfRange⟩, ⟨.rollback, 0, 1, .silence⟩]

/-- The desk after a transfer and a failed attempt to take it back. -/
def retried : Desk :=
  (Operation.delete .standard noon ⟨"t"⟩).run { posted with plan := troubled, online := true }

theorem posted_reached : Reached (fun _ => True) store posted :=
  (Reached.start (d := desk) rfl).step (.post .standard none moment (transfer "t" five minusFive))
    (Operation.under_any _) [] (by decide) true

theorem retried_reached : Reached (fun _ => True) store retried :=
  posted_reached.step (.delete .standard noon ⟨"t"⟩) (Operation.under_any _) troubled (by decide) true

end Specimen

end DoubleEntry
