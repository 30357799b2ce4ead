import DoubleEntry.Proofs.Work

/-!
# What one statement can do

Every operation is a sequence of statements, so whatever is true of all operations is read off here
once. Two readings are given.

**A calm desk** has a store that answers and no disturbance left. There a statement does what it says,
and the desk is otherwise untouched.

**Any desk at all.** A statement that succeeds either did what it says or was overruled by a disturbance
and did nothing; one that fails did nothing. A report of no rows is a failure for whoever asked, with two
exceptions: an account without rows has a balance, and a mark on no rows is a mark. A store is *truthful*
when it never reports no rows to those two.

Most statements only look. A sequence of such statements leaves the store alone and plans nothing more to go
wrong, so whatever was said of store and plan may still be said when it is over.
-/

namespace DoubleEntry

/-! ## Plans -/

namespace Plan

/-- Nothing is left of any disturbance. -/
def Spent (p : Plan) : Prop := ∀ x ∈ p, x.times = 0

/-- No balance is reported empty and no line reported marked without being so. -/
def Truthful (p : Plan) : Prop :=
  ∀ x ∈ p, x.effect = .noRows → x.statement ≠ .readBalances ∧ x.statement ≠ .deleteLines

instance (p : Plan) : Decidable p.Spent :=
  inferInstanceAs (Decidable (∀ x ∈ p, x.times = 0))

instance (p : Plan) : Decidable p.Truthful :=
  inferInstanceAs (Decidable (∀ x ∈ p, x.effect = .noRows →
    x.statement ≠ .readBalances ∧ x.statement ≠ .deleteLines))

theorem meet_spent {p : Plan} (h : p.Spent) (s : Statement) : meet s p = (none, p) := by
  induction p with
  | nil => rfl
  | cons x rest ih =>
    have hx : x.times = 0 := h x List.mem_cons_self
    have hrest := ih fun y hy => h y (List.mem_cons_of_mem _ hy)
    rw [meet, if_neg (by rw [hx]; simp), hrest]

theorem takes_cons (x : Disturbance) (p : Plan) (s : Statement) (n : Nat) :
    takes (x :: p) s n = ((x.statement != s || x.effect.takes n) && p.takes s n) := rfl

/-- Which numbers are taken does not change while statements are sent. -/
theorem takes_meet (p : Plan) (s s' : Statement) (n : Nat) :
    (meet s p).2.takes s' n = p.takes s' n := by
  induction p with
  | nil => rfl
  | cons x rest ih =>
    rw [meet]
    split
    · split <;> rfl
    · rw [takes_cons, takes_cons, ih]

/-- What a statement meets was planned for it. -/
theorem mem_of_meet {s : Statement} {p : Plan} {e : Effect} (h : (meet s p).1 = some e) :
    ∃ x ∈ p, x.statement = s ∧ x.effect = e := by
  induction p with
  | nil => simp at h
  | cons x rest ih =>
    rw [meet] at h
    split at h
    · rename_i hx
      split at h
      · simp at h
      · exact ⟨x, List.mem_cons_self, hx.1, Option.some.inj h⟩
    · obtain ⟨y, hy, hys, hye⟩ := ih h
      exact ⟨y, List.mem_cons_of_mem _ hy, hys, hye⟩

/-- Whatever is planned was planned before, for the same statement and with the same effect. -/
def Within (p q : Plan) : Prop :=
  ∀ x ∈ p, ∃ y ∈ q, y.statement = x.statement ∧ y.effect = x.effect

theorem Within.refl (p : Plan) : p.Within p := fun x hx => ⟨x, hx, rfl, rfl⟩

theorem Within.trans {p q r : Plan} (h : p.Within q) (h' : q.Within r) : p.Within r := by
  intro x hx
  obtain ⟨y, hy, hys, hye⟩ := h x hx
  obtain ⟨z, hz, hzs, hze⟩ := h' y hy
  exact ⟨z, hz, hzs.trans hys, hze.trans hye⟩

/-- A statement uses disturbances up and adds none. -/
theorem meet_within (s : Statement) (p : Plan) : (meet s p).2.Within p := by
  induction p with
  | nil => exact .refl []
  | cons z rest ih =>
    -- what is left of the first disturbance is for the same statement
    have hfirst : ∀ z' : Disturbance, z.statement = z'.statement → z.effect = z'.effect →
        Within (z' :: rest) (z :: rest) := by
      intro z' hs he x hx
      rcases List.mem_cons.mp hx with rfl | hx
      · exact ⟨z, List.mem_cons_self, hs, he⟩
      · exact ⟨x, List.mem_cons_of_mem _ hx, rfl, rfl⟩
    rw [meet]
    split
    · split
      · exact hfirst _ rfl rfl
      · exact hfirst _ rfl rfl
    · intro x hx
      rcases List.mem_cons.mp hx with rfl | hx
      · exact ⟨x, List.mem_cons_self, rfl, rfl⟩
      · obtain ⟨y, hy, hsame⟩ := ih x hx
        exact ⟨y, List.mem_cons_of_mem _ hy, hsame⟩

theorem Truthful.within {p q : Plan} (h : q.Truthful) (hpq : p.Within q) : p.Truthful := by
  intro x hx he
  obtain ⟨y, hy, hys, hye⟩ := hpq x hx
  rw [← hys]
  exact h y hy (hye.trans he)

end Plan

namespace Desk

variable {α : Type}

/-- The desk once a transaction that was given up before is ended. -/
def ready (d : Desk) : Desk := { d with unended := false }

@[simp] theorem ready_ready (d : Desk) : d.ready.ready = d.ready := rfl

/-- The desk with other books in its store. -/
def holding (d : Desk) (b : Book) : Desk := { d with store := { d.store with book := some b } }

theorem holding_self {d : Desk} {b : Book} (hb : d.store.book = some b) : d.holding b = d := by
  unfold holding
  rw [← hb]

/-- A desk at which nothing is disturbed. Which numbers its store takes is left open. -/
structure Calm (d : Desk) : Prop where
  /-- There is a store. -/
  online : d.online = true
  /-- No disturbance is left. -/
  spent : d.plan.Spent

theorem Calm.ready {d : Desk} (h : d.Calm) : d.ready.Calm := ⟨h.online, h.spent⟩

theorem Calm.holding {d : Desk} (h : d.Calm) (b : Book) : (d.holding b).Calm :=
  ⟨h.online, h.spent⟩

/-! ## At a calm desk -/

theorem endGivenUp_calm {d : Desk} (h : d.Calm) : endGivenUp d = (.ok (), d.ready) := by
  unfold endGivenUp
  split
  · rw [Plan.meet_spent h.spent]
    rfl
  · rename_i hu
    have hu : d.unended = false := by simpa using hu
    unfold Desk.ready
    rw [← hu]

theorem send_calm {d : Desk} (h : d.Calm) (s : Statement) (run : Store → Except Refusal (α × Store))
    (overruled : Bool → Option α) :
    send s run overruled d = match run d.store with
      | .ok (a, store) => (.ok a, { d.ready with store })
      | .error refusal => (.error (.refused s refusal), d.ready) := by
  rw [send, Work.bind_of_ok (endGivenUp_calm h), answerTo, if_pos h.ready.online]
  rw [Plan.meet_spent h.ready.spent]
  rfl

theorem control_calm {d : Desk} (h : d.Calm) (s : Statement) : control s d = (.ok (), d.ready) := by
  rw [control, send_calm h]
  rfl

theorem ask_calm {d : Desk} (h : d.Calm) {b : Book} (hb : d.store.book = some b) (s : Statement)
    (table : String) (answer : Book → Except Refusal α) (nothing : α) :
    ask s table answer nothing d = ((answer b).mapError (.refused s), d.ready) := by
  rw [ask, send_calm h, hb]
  dsimp only
  cases answer b <;> rfl

theorem change_calm {d : Desk} (h : d.Calm) {b : Book} (hb : d.store.book = some b) (s : Statement)
    (table : String) (run : Book → Except Refusal (α × Book)) (nothing : α) :
    change s table run nothing d = match run b with
      | .ok (a, b') => (.ok a, d.ready.holding b')
      | .error refusal => (.error (.refused s refusal), d.ready) := by
  rw [change, send_calm h, hb]
  dsimp only
  cases run b <;> rfl

/-! ## At any desk -/

theorem endGivenUp_store (d : Desk) : (endGivenUp d).2.store = d.store := by
  unfold endGivenUp
  split
  · split <;> rfl
  · rfl

theorem endGivenUp_within (d : Desk) : (endGivenUp d).2.plan.Within d.plan := by
  unfold endGivenUp
  split
  · split <;> exact Plan.meet_within _ _
  · exact .refl _

/-- The statement was met by a disturbance that makes it report `a` and do nothing. -/
def Overruled (d : Desk) (s : Statement) (overruled : Bool → Option α) (a : α) : Prop :=
  (overruled false = some a ∧ ∃ x ∈ d.plan, x.statement = s ∧ x.effect = .noRows) ∨
    (overruled true = some a ∧ ∃ x ∈ d.plan, x.statement = s ∧ x.effect = .found)

/-- A statement that is carried out does what it says, or is refused and does nothing. -/
theorem carryOut_outcome {s : Statement} {run : Store → Except Refusal (α × Store)} {plan : Plan}
    {d d' : Desk} {r : Except StoreError α} (h : carryOut s run plan d = (r, d')) :
    (∃ a, r = .ok a ∧ run d.store = .ok (a, d'.store)) ∨
      (d'.store = d.store ∧ ∃ refusal, r = .error (.refused s refusal)) := by
  unfold carryOut at h
  split at h
  · rename_i a store hrun
    cases h
    exact Or.inl ⟨a, rfl, hrun⟩
  · rename_i refusal hrun
    cases h
    exact Or.inr ⟨rfl, refusal, rfl⟩

theorem carryOut_plan (s : Statement) (run : Store → Except Refusal (α × Store)) (plan : Plan)
    (d : Desk) : (carryOut s run plan d).2.plan = plan := by
  unfold carryOut
  split <;> rfl

/-- **What an answer of the store means**: the work was done, or the statement was overruled. -/
theorem answerTo_outcome {s : Statement} {run : Store → Except Refusal (α × Store)}
    {overruled : Bool → Option α} {d d' : Desk} {r : Except StoreError α}
    (h : answerTo s run overruled d = (r, d')) :
    (∃ a, r = .ok a ∧ run d.store = .ok (a, d'.store)) ∨
      (d'.store = d.store ∧ ∀ a, r = .ok a → d.Overruled s overruled a) := by
  -- four of the seven branches end alike, with the statement carried out
  have undisturbed : ∀ plan, carryOut s run plan d = (r, d') →
      (∃ a, r = .ok a ∧ run d.store = .ok (a, d'.store)) ∨
        (d'.store = d.store ∧ ∀ a, r = .ok a → d.Overruled s overruled a) := by
    intro plan h
    refine (carryOut_outcome h).imp_right ?_
    rintro ⟨hsame, refusal, rfl⟩
    exact ⟨hsame, nofun⟩
  unfold answerTo at h
  split at h
  · dsimp only at h
    split at h
    · exact undisturbed _ h
    · exact undisturbed _ h
    · cases h
      exact Or.inr ⟨rfl, nofun⟩
    · cases h
      exact Or.inr ⟨rfl, nofun⟩
    · cases h
      exact Or.inr ⟨rfl, nofun⟩
    · rename_i hmeet
      split at h
      · rename_i a hover
        cases h
        refine Or.inr ⟨rfl, fun a' ha' => ?_⟩
        cases ha'
        exact Or.inl ⟨hover, Plan.mem_of_meet hmeet⟩
      · exact undisturbed _ h
    · rename_i hmeet
      split at h
      · rename_i a hover
        cases h
        refine Or.inr ⟨rfl, fun a' ha' => ?_⟩
        cases ha'
        exact Or.inr ⟨hover, Plan.mem_of_meet hmeet⟩
      · exact undisturbed _ h
  · cases h
    exact Or.inr ⟨rfl, nofun⟩

theorem send_outcome {s : Statement} {run : Store → Except Refusal (α × Store)}
    {overruled : Bool → Option α} {d d' : Desk} {r : Except StoreError α}
    (h : send s run overruled d = (r, d')) :
    (∃ a, r = .ok a ∧ run d.store = .ok (a, d'.store)) ∨
      (d'.store = d.store ∧ ∀ a, r = .ok a → d.Overruled s overruled a) := by
  have hstore := endGivenUp_store d
  have hplan := endGivenUp_within d
  -- the store may be silent already when the old transaction is ended
  rcases hend : endGivenUp d with ⟨r₁, d₁⟩
  rw [hend] at hstore hplan
  cases r₁ with
  | error e =>
      rw [send, Work.bind_of_error hend] at h
      cases h
      exact Or.inr ⟨hstore, fun a ha => by simp at ha⟩
  | ok _ =>
      rw [send, Work.bind_of_ok hend] at h
      rcases answerTo_outcome h with ⟨a, hr, hrun⟩ | ⟨hsame, hover⟩
      · exact Or.inl ⟨a, hr, by rw [← hstore]; exact hrun⟩
      · refine Or.inr ⟨hsame.trans hstore, fun a ha => ?_⟩
        -- what is planned after the old transaction is ended was planned before
        rcases hover a ha with ⟨ho, x, hx, hs, he⟩ | ⟨ho, x, hx, hs, he⟩
        · obtain ⟨y, hy, hys, hye⟩ := hplan x hx
          exact Or.inl ⟨ho, y, hy, hys.trans hs, hye.trans he⟩
        · obtain ⟨y, hy, hys, hye⟩ := hplan x hx
          exact Or.inr ⟨ho, y, hy, hys.trans hs, hye.trans he⟩

/-- Whatever becomes of a statement, nothing more is planned after it. -/
theorem send_within (s : Statement) (run : Store → Except Refusal (α × Store))
    (overruled : Bool → Option α) (d : Desk) : (send s run overruled d).2.plan.Within d.plan := by
  have hend := endGivenUp_within d
  rcases h : endGivenUp d with ⟨r, d₁⟩
  rw [h] at hend
  cases r with
  | error e =>
      rw [send, Work.bind_of_error h]
      exact hend
  | ok _ =>
      have hmeet : (d₁.plan.meet s).2.Within d.plan := (Plan.meet_within s d₁.plan).trans hend
      have hcarried : (carryOut s run (d₁.plan.meet s).2 d₁).2.plan.Within d.plan := by
        rw [carryOut_plan]
        exact hmeet
      rw [send, Work.bind_of_ok h]
      unfold answerTo
      dsimp only
      split
      · repeat' split
        all_goals first
          | exact hmeet
          | exact hcarried
      · exact hend

theorem change_truthful (s : Statement) (table : String) (run : Book → Except Refusal (α × Book))
    (nothing : α) : (change s table run nothing).Keeps fun d => d.plan.Truthful :=
  fun d hd => hd.within (send_within _ _ _ d)

/-- What leaves an undisturbed store alone changes nothing, whatever becomes of it. -/
theorem send_store {s : Statement} {run : Store → Except Refusal (α × Store)}
    {overruled : Bool → Option α}
    (hrun : ∀ {store store' : Store} {a : α}, run store = .ok (a, store') → store' = store)
    (d : Desk) : (send s run overruled d).2.store = d.store := by
  rcases h : send s run overruled d with ⟨r, d'⟩
  rcases send_outcome h with ⟨a, _, hdone⟩ | ⟨hsame, _⟩
  · exact hrun hdone
  · exact hsame

theorem ask_store (s : Statement) (table : String) (answer : Book → Except Refusal α) (nothing : α)
    (d : Desk) : (ask s table answer nothing d).2.store = d.store := by
  refine send_store (fun {store store' a} hrun => ?_) d
  split at hrun
  · cases hrun
  · rename_i b hb
    cases ha : answer b with
    | error e => rw [ha] at hrun; cases hrun
    | ok x =>
        rw [ha] at hrun
        exact (congrArg Prod.snd (Except.ok.inj hrun)).symm

/-- A look that succeeded saw the books, or was told that there is nothing. -/
theorem ask_ok {s : Statement} {table : String} {answer : Book → Except Refusal α} {nothing a : α}
    {d d' : Desk} (h : ask s table answer nothing d = (.ok a, d')) :
    d'.store = d.store ∧ ((∃ b, d.store.book = some b ∧ answer b = .ok a) ∨
      (a = nothing ∧ ∃ x ∈ d.plan, x.statement = s ∧ x.effect = .noRows)) := by
  refine ⟨by rw [← ask_store s table answer nothing d, h], ?_⟩
  rcases send_outcome h with ⟨a', ha', hrun⟩ | ⟨_, hover⟩
  · cases ha'
    split at hrun
    · cases hrun
    · rename_i b hb
      cases hans : answer b with
      | error e => rw [hans] at hrun; cases hrun
      | ok x =>
          rw [hans] at hrun
          obtain ⟨ha, _⟩ := Prod.mk.inj (Except.ok.inj hrun)
          exact Or.inl ⟨b, hb, by rw [hans, ha]⟩
  · rcases hover a rfl with ⟨ho, hx⟩ | ⟨ho, _⟩
    · exact Or.inr ⟨(Option.some.inj ho).symm, hx⟩
    · exact absurd ho (by simp)

/-- A change was made, and then it succeeded; or the store is as before. -/
theorem change_outcome {s : Statement} {table : String} {run : Book → Except Refusal (α × Book)}
    {nothing : α} {d d' : Desk} {r : Except StoreError α}
    (h : change s table run nothing d = (r, d')) :
    (∃ a b b', r = .ok a ∧ d.store.book = some b ∧ run b = .ok (a, b') ∧
        d'.store = { d.store with book := some b' }) ∨
      (d'.store = d.store ∧ ∀ a, r = .ok a →
        a = nothing ∧ ∃ x ∈ d.plan, x.statement = s ∧ x.effect = .noRows) := by
  rcases send_outcome h with ⟨a, ha, hrun⟩ | ⟨hsame, hover⟩
  · split at hrun
    · cases hrun
    · rename_i b hb
      cases hres : run b with
      | error e => rw [hres] at hrun; cases hrun
      | ok x =>
          rw [hres] at hrun
          obtain ⟨hfst, hsnd⟩ := Prod.mk.inj (Except.ok.inj hrun)
          exact Or.inl ⟨a, b, x.2, ha, hb, by rw [hres, ← hfst], hsnd.symm⟩
  · refine Or.inr ⟨hsame, fun a ha => ?_⟩
    rcases hover a ha with ⟨ho, hx⟩ | ⟨ho, _⟩
    · exact ⟨(Option.some.inj ho).symm, hx⟩
    · exact absurd ho (by simp)

/-! ## Work that only looks -/

/-- All that looking does to a desk: the store is the same, and no more is planned to go wrong. -/
structure Follows (d' d : Desk) : Prop where
  store : d'.store = d.store
  plan : d'.plan.Within d.plan

theorem Follows.refl (d : Desk) : d.Follows d := ⟨rfl, .refl _⟩

theorem Follows.trans {d d' d'' : Desk} (h : d''.Follows d') (h' : d'.Follows d) : d''.Follows d :=
  ⟨h.store.trans h'.store, h.plan.trans h'.plan⟩

end Desk

/-- The work only looks, whatever becomes of it. -/
def Work.Looks {ε α : Type} (w : Work ε α) : Prop := ∀ d, (w d).2.Follows d

namespace Work.Looks

variable {ε ε' α β : Type}

/-- What looking did before is no more than looking did in all. -/
theorem keeps {w : Work ε α} (h : w.Looks) (d₀ : Desk) : w.Keeps fun d => d.Follows d₀ :=
  fun d hd => (h d).trans hd

theorem of_keeps {w : Work ε α} (h : ∀ d₀, w.Keeps fun d => d.Follows d₀) : w.Looks :=
  fun d => h d d (.refl d)

theorem of_eq {w : Work ε α} (h : w.Looks) {d d' : Desk} {r : Except ε α} (hw : w d = (r, d')) :
    d'.Follows d :=
  (h.keeps d).of_eq hw (.refl d)

theorem pure (a : α) : (Pure.pure a : Work ε α).Looks := of_keeps fun _ => .pure a

theorem fail (e : ε) : (Work.fail e : Work ε α).Looks := of_keeps fun _ => .fail e

theorem ofExcept (r : Except ε α) : (Work.ofExcept r).Looks := of_keeps fun _ => .ofExcept r

theorem bind {w : Work ε α} {f : α → Work ε β} (hw : w.Looks) (hf : ∀ a, (f a).Looks) :
    (w >>= f).Looks :=
  of_keeps fun d₀ => (hw.keeps d₀).bind fun a => (hf a).keeps d₀

theorem mapError {f : ε → ε'} {w : Work ε α} (hw : w.Looks) : (w.mapError f).Looks :=
  of_keeps fun d₀ => (hw.keeps d₀).mapError

end Work.Looks

namespace Desk

variable {α : Type}

theorem ask_looks (s : Statement) (table : String) (answer : Book → Except Refusal α) (nothing : α) :
    (ask s table answer nothing).Looks :=
  fun d => ⟨ask_store s table answer nothing d, send_within _ _ _ d⟩

theorem control_looks (s : Statement) : (control s).Looks :=
  fun d => ⟨send_store (fun hrun => (congrArg Prod.snd (Except.ok.inj hrun)).symm) d,
    send_within _ _ _ d⟩

end Desk

end DoubleEntry
