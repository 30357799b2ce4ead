import DoubleEntry.Proofs.Replies

/-!
# The strict policy only refuses more

A funds policy decides which postings and reversals are let through, and nothing else: not what is read, not what is
written, not what is answered when one is let through. So where a stricter policy has let everything through, a
milder one lets the same through with the same answers and leaves the same behind. This is shown for one balance,
for one operation, and then for a run of any length, whatever is planned to go wrong in between.
-/

namespace DoubleEntry

open Time

/-! ## Policies -/

/-- Whatever the milder policy protects, the stricter one protects. -/
def FundsPolicy.Stricter (strict mild : FundsPolicy) : Prop :=
  ∀ balance, mild.appliesTo balance = true → strict.appliesTo balance = true

theorem FundsPolicy.nonNegative_stricter (mild : FundsPolicy) : nonNegative.Stricter mild :=
  fun _ _ => rfl

section

variable {strict mild : FundsPolicy} {t : Transaction}

theorem AccountBalance.check_of_stricter (h : strict.Stricter mild) {b : AccountBalance}
    (hok : b.check strict t = .ok ()) : b.check mild t = .ok () := by
  by_cases hmild : mild.appliesTo b.balance = true
  · -- where both protect the balance, they judge it alike
    have hsame : b.check mild t = b.check strict t := by
      unfold check
      rw [if_pos hmild, if_pos (h b.balance hmild)]
    rw [hsame, hok]
  · unfold check
    rw [if_neg hmild]

theorem checkEach_of_stricter (h : strict.Stricter mild) {bs : List AccountBalance}
    (hok : checkEach strict t bs = .ok ()) : checkEach mild t bs = .ok () := by
  induction bs with
  | nil => rfl
  | cons b rest ih =>
    rw [checkEach] at hok ⊢
    split at hok
    · cases hok
    · rename_i hb
      rw [AccountBalance.check_of_stricter h hb]
      exact ih hok

/-- **What passes the stricter check passes the milder one**, on any balances. -/
theorem checkFunds_of_stricter (h : strict.Stricter mild) {bs : List AccountBalance}
    (hok : checkFunds strict bs t = .ok ()) : checkFunds mild bs t = .ok () := by
  unfold checkFunds at hok ⊢
  split at hok
  · cases hok
  · rename_i hinput
    rw [if_neg hinput]
    exact checkEach_of_stricter h hok

end

/-! ## Work that succeeds alike -/

/-- Where the one succeeds so does the other, with the same answer, and leaves the same desk. -/
def Work.Covers {ε α : Type} (wide narrow : Work ε α) : Prop :=
  ∀ ⦃d d' : Desk⦄ ⦃a : α⦄, narrow d = (.ok a, d') → wide d = (.ok a, d')

namespace Work.Covers

variable {ε ε' α β : Type} {wide narrow : Work ε α}

theorem refl (w : Work ε α) : w.Covers w := fun _ _ _ h => h

theorem bind (h : wide.Covers narrow) {f g : α → Work ε β} (hf : ∀ a, (f a).Covers (g a)) :
    (wide >>= f).Covers (narrow >>= g) := by
  intro d d' b hok
  obtain ⟨a, d₁, hfirst, hrest⟩ := Work.bind_ok hok
  rw [Work.bind_of_ok (h hfirst)]
  exact hf a hrest

theorem mapError (h : wide.Covers narrow) {f : ε → ε'} :
    (wide.mapError f).Covers (narrow.mapError f) := by
  intro d d' a hok
  exact Work.mapError_of_ok (h (Work.mapError_ok hok))

theorem ofExcept {r s : Except ε α} (h : ∀ a, s = .ok a → r = .ok a) :
    (Work.ofExcept r).Covers (Work.ofExcept s) := by
  intro d d' a hok
  obtain ⟨hs, rfl⟩ := Work.ofExcept_ok hok
  rw [Work.ofExcept_apply, h a hs]

end Work.Covers

namespace Desk

variable {α : Type} {strict mild : FundsPolicy}

/-- Work that is kept is kept as well where it succeeds alike. -/
theorem settle_covers {scope : Scope} {wide narrow : Work Stop α} (h : wide.Covers narrow) :
    (settle scope wide).Covers (settle scope narrow) := by
  intro d d' a hok
  unfold settle at hok ⊢
  rcases hopen : openTransaction d with ⟨_ | _, opened⟩
  · rw [hopen] at hok
    cases hok
  rw [hopen] at hok
  dsimp only at hok ⊢
  rcases hwork : narrow opened with ⟨(_ | _) | _, done⟩
  · -- work that stopped is not kept, however the rollback goes
    rw [hwork] at hok
    cases hok
  · rw [hwork] at hok
    cases hok
  · rw [hwork] at hok
    rw [h hwork]
    exact hok

theorem clear_covers (h : strict.Stricter mild) (scope : Scope) (t : Transaction) :
    (clear mild scope t).Covers (clear strict scope t) := by
  refine (Work.Covers.refl _).bind fun balances => (Work.Covers.ofExcept ?_).mapError
  rintro ⟨⟩ hok
  exact checkFunds_of_stricter h hok

theorem post_covers (h : strict.Stricter mild) (deadline : Option Deadline) (m : Moment)
    (p : Proposal) : (post mild deadline m p).Covers (post strict deadline m p) := by
  have hwrite : ∀ (scope : Scope) (t : Transaction) (createdAt : Timestamp),
      (writePosting mild scope t createdAt).Covers (writePosting strict scope t createdAt) := by
    intro scope t createdAt
    rw [writePosting, writePosting]
    refine (Work.Covers.refl _).bind fun _ => (clear_covers h scope t).bind fun _ => ?_
    exact Work.Covers.refl _
  intro d d' posted hok
  unfold post at hok ⊢
  split at hok
  · cases hok
  · split at hok
    · cases hok
    · rename_i hlate
      rw [if_neg hlate]
      exact ((settle_covers (hwrite _ _ _)).bind fun _ => Work.Covers.refl _) hok

theorem delete_covers (h : strict.Stricter mild) (now : Timestamp) (id : TransactionId) :
    (delete mild now id).Covers (delete strict now id) := by
  refine settle_covers ?_
  rw [writeReversal, writeReversal]
  refine (Work.Covers.refl _).bind fun posted => (Work.Covers.refl _).bind fun reversal => ?_
  exact (clear_covers h _ reversal).bind fun _ => Work.Covers.refl _

end Desk

/-! ## Operations and runs -/

namespace Operation

/-- The operation with its funds check, if it makes one, made under this policy. -/
def judgedBy (policy : FundsPolicy) : Operation → Operation
  | create m r => create m r
  | post _ deadline m p => post policy deadline m p
  | delete _ now id => delete policy now id

/-- **An operation that a stricter policy lets through**, a milder one lets through to the same end. -/
theorem succeeds_of_stricter {strict mild : FundsPolicy} (h : strict.Stricter mild) (o : Operation)
    {d : Desk} (hok : (o.judgedBy strict).Succeeds d) :
    (o.judgedBy mild).Succeeds d ∧ (o.judgedBy mild).reply d = (o.judgedBy strict).reply d ∧
      (o.judgedBy mild).run d = (o.judgedBy strict).run d := by
  cases o with
  | create m r => exact ⟨hok, rfl, rfl⟩
  | post _ deadline m p =>
      obtain ⟨posted, hposted⟩ := hok
      have hstrict : Desk.post strict deadline m p d =
        (.ok posted, (Desk.post strict deadline m p d).2) := Prod.ext hposted rfl
      have hsame : Desk.post mild deadline m p d = Desk.post strict deadline m p d :=
        (Desk.post_covers h deadline m p hstrict).trans hstrict.symm
      refine ⟨⟨posted, (congrArg Prod.fst hsame).trans hposted⟩, ?_, congrArg Prod.snd hsame⟩
      exact congrArg (fun r => Reply.posted r.1) hsame
  | delete _ now id =>
      have hstrict : Desk.delete strict now id d =
        (.ok (), (Desk.delete strict now id d).2) := Prod.ext hok rfl
      have hsame : Desk.delete mild now id d = Desk.delete strict now id d :=
        (Desk.delete_covers h now id hstrict).trans hstrict.symm
      refine ⟨(congrArg Prod.fst hsame).trans hok, ?_, congrArg Prod.snd hsame⟩
      exact congrArg (fun r => Reply.deleted r.1) hsame

end Operation

/-- The call with its funds check, if it makes one, made under this policy. -/
def Call.judgedBy (policy : FundsPolicy) : Call → Call
  | operation o => operation (o.judgedBy policy)
  | question q => question q

/-- The turn with its funds check, if it makes one, made under this policy. -/
def Turn.judgedBy (policy : FundsPolicy) (t : Turn) : Turn := { t with call := t.call.judgedBy policy }

/-- The call, if it is an operation, is answered with a success. -/
def Call.Succeeds : Call → Desk → Prop
  | operation o, d => o.Succeeds d
  | question _, _ => True

/-- Every operation among some turns succeeds, one after the other. -/
def Desk.AllSucceed (d : Desk) : List Turn → Prop
  | [] => True
  | t :: rest => t.call.Succeeds (d.facing t) ∧ (t.call.run (d.facing t)).AllSucceed rest

/-- Whether there was a success can be told from the answer. -/
def succeeded {ε α : Type} : (r : Except ε α) → Decidable (∃ a, r = .ok a)
  | .ok a => isTrue ⟨a, rfl⟩
  | .error _ => isFalse (by simp)

instance : (o : Operation) → (d : Desk) → Decidable (o.Succeeds d)
  | .create m r, d => succeeded (Desk.createAccount m r d).1
  | .post policy deadline m p, d => succeeded (Desk.post policy deadline m p d).1
  | .delete policy now id, d =>
      inferInstanceAs (Decidable ((Desk.delete policy now id d).1 = .ok ()))

instance : (c : Call) → (d : Desk) → Decidable (c.Succeeds d)
  | .operation o, d => inferInstanceAs (Decidable (o.Succeeds d))
  | .question _, _ => .isTrue trivial

instance Desk.decidableAllSucceed (d : Desk) : (turns : List Turn) → Decidable (d.AllSucceed turns)
  | [] => .isTrue trivial
  | t :: rest =>
      have := decidableAllSucceed (t.call.run (d.facing t)) rest
      inferInstanceAs (Decidable (t.call.Succeeds (d.facing t) ∧
        (t.call.run (d.facing t)).AllSucceed rest))

theorem Call.succeeds_of_stricter {strict mild : FundsPolicy} (h : strict.Stricter mild) (c : Call)
    {d : Desk} (hok : (c.judgedBy strict).Succeeds d) :
    (c.judgedBy mild).Succeeds d ∧ (c.judgedBy mild).reply d = (c.judgedBy strict).reply d ∧
      (c.judgedBy mild).run d = (c.judgedBy strict).run d := by
  cases c with
  | operation o => exact o.succeeds_of_stricter h hok
  | question q => exact ⟨trivial, rfl, rfl⟩

/-- A run that succeeds throughout under a stricter policy is the same run under a milder one. -/
theorem Desk.allSucceed_of_stricter {strict mild : FundsPolicy} (h : strict.Stricter mild)
    (turns : List Turn) {d : Desk} (hok : d.AllSucceed (turns.map (Turn.judgedBy strict))) :
    d.AllSucceed (turns.map (Turn.judgedBy mild)) ∧
      d.replies (turns.map (Turn.judgedBy mild)) = d.replies (turns.map (Turn.judgedBy strict)) ∧
      d.through (turns.map (Turn.judgedBy mild)) = d.through (turns.map (Turn.judgedBy strict)) := by
  induction turns generalizing d with
  | nil => exact ⟨trivial, rfl, rfl⟩
  | cons t rest ih =>
    obtain ⟨hfirst, hrest⟩ := hok
    obtain ⟨hsucceeds, hreply, hrun⟩ := t.call.succeeds_of_stricter h (d := d.facing t) hfirst
    obtain ⟨hall, hreplies, hthrough⟩ := ih hrest
    -- the next turn is taken at the same desk under either policy
    have hnext : (t.judgedBy mild).call.run (d.facing (t.judgedBy mild)) =
        (t.judgedBy strict).call.run (d.facing (t.judgedBy strict)) := hrun
    refine ⟨⟨hsucceeds, ?_⟩, ?_, ?_⟩
    · rw [hnext]
      exact hall
    · rw [List.map_cons, List.map_cons, replies, replies, hnext, hreplies]
      exact congrArg (· :: _) hreply
    · rw [List.map_cons, List.map_cons, through, through, hnext]
      exact hthrough

/--
**A run that succeeds throughout where every balance is protected succeeds throughout where only balances above zero
are**, with the same answers to the same end. It may start from any store and go through any troubles.
-/
theorem strict_run_carries_over (turns : List Turn) (d : Desk)
    (hok : d.AllSucceed (turns.map (Turn.judgedBy .nonNegative))) :
    d.AllSucceed (turns.map (Turn.judgedBy .positiveBalancesOnly)) ∧
      d.replies (turns.map (Turn.judgedBy .positiveBalancesOnly)) =
        d.replies (turns.map (Turn.judgedBy .nonNegative)) ∧
      (d.through (turns.map (Turn.judgedBy .positiveBalancesOnly))).store =
        (d.through (turns.map (Turn.judgedBy .nonNegative))).store := by
  have hstricter := FundsPolicy.nonNegative_stricter .positiveBalancesOnly
  obtain ⟨hall, hreplies, hthrough⟩ := Desk.allSucceed_of_stricter hstricter turns hok
  exact ⟨hall, hreplies, congrArg Desk.store hthrough⟩

namespace Specimen

/-- The desk after two transfers, so that there is something to take back. -/
def funded : Desk :=
  (Operation.post .standard none moment (transfer "s" five minusFive)).run posted

/-- Half is transferred back and the other half taken back. -/
def unwinding : List Turn :=
  [⟨.operation (.post .standard none moment (transfer "u" minusFive five)), [], true⟩,
    ⟨.operation (.delete .standard noon ⟨"t"⟩), [], true⟩]

theorem unwinding_succeeds : funded.AllSucceed (unwinding.map (Turn.judgedBy .nonNegative)) := by
  decide

end Specimen

theorem strict_run_carries_over_specimen :
    Specimen.funded.AllSucceed (Specimen.unwinding.map (Turn.judgedBy .nonNegative)) ∧
      Specimen.funded.AllSucceed (Specimen.unwinding.map (Turn.judgedBy .positiveBalancesOnly)) :=
  ⟨Specimen.unwinding_succeeds,
    (strict_run_carries_over Specimen.unwinding Specimen.funded Specimen.unwinding_succeeds).1⟩

end DoubleEntry
