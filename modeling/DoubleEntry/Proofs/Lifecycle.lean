import DoubleEntry.Proofs.AppendOnly
import DoubleEntry.Proofs.Orderly

/-!
# The life of a transaction

An identifier is free until a transaction is posted under it. From then on the transaction is there, until it is
taken back, and after that the identifier is used up for good: it is the key of a header that stays. The phase can
be told from the headers alone, and it can be told from what was answered: from the postings and the takings back
that succeeded, in their order. Both tell the same, in every run and whatever goes wrong, and so does anybody who
looks the transaction up.
-/

namespace DoubleEntry

open Time

/-! ## Phases -/

/-- Where an identifier is in its life. -/
inductive Phase where
  | absent
  | live
  | deleted
  deriving DecidableEq, Repr

/-- What is done with a transaction. -/
inductive Event where
  | posted
  | deleted
  deriving DecidableEq, Repr

/-- What was done by the time of a phase, in order. -/
def Phase.past : Phase → List Event
  | absent => []
  | live => [.posted]
  | deleted => [.posted, .deleted]

/-- The answer that looking the transaction up should have. -/
def Phase.Answers (id : TransactionId) : Phase → Except LedgerError Posted → Prop
  | live, r => ∃ p, r = .ok p ∧ p.transaction.id = id
  | absent, r => r = .error (.transactionNotFound id)
  | deleted, r => r = .error (.transactionNotFound id)

namespace Book

variable {b b' : Book} {id : TransactionId}

instance (b : Book) (id : TransactionId) : Decidable (b.Live id) :=
  inferInstanceAs (Decidable (∃ h ∈ b.headers, h.id = id ∧ h.isLive = true))

/-- The phase of an identifier, by its headers. -/
def phase (b : Book) (id : TransactionId) : Phase :=
  if b.Live id then .live else if b.hasHeader id then .deleted else .absent

theorem live_iff_headersOf : b.Live id ↔ ∃ h ∈ b.headersOf id, h.isLive = true := by
  constructor
  · rintro ⟨h, hh, hid, hkept⟩
    exact ⟨h, mem_headersOf.mpr ⟨hh, hid⟩, hkept⟩
  · rintro ⟨h, hh, hkept⟩
    obtain ⟨hmem, hid⟩ := mem_headersOf.mp hh
    exact ⟨h, hmem, hid, hkept⟩

theorem hasHeader_iff_headersOf : b.hasHeader id = true ↔ ∃ h, h ∈ b.headersOf id := by
  rw [hasHeader_iff]
  exact exists_congr fun h => mem_headersOf.symm

/-- Only the headers of the identifier matter. -/
theorem phase_congr (h : b'.headersOf id = b.headersOf id) : b'.phase id = b.phase id := by
  have hlive : b'.Live id ↔ b.Live id := by rw [live_iff_headersOf, live_iff_headersOf, h]
  have hthere : b'.hasHeader id = true ↔ b.hasHeader id = true := by
    rw [hasHeader_iff_headersOf, hasHeader_iff_headersOf, h]
  unfold phase
  exact if_congr hlive rfl (if_congr hthere rfl rfl)

theorem Live.hasHeader (h : b.Live id) : b.hasHeader id = true := by
  obtain ⟨x, hx, hid, _⟩ := h
  exact hasHeader_iff.mpr ⟨x, hx, hid⟩

theorem phase_of_live (h : b.Live id) : b.phase id = .live := if_pos h

theorem phase_of_absent (h : b.hasHeader id = false) : b.phase id = .absent := by
  have hnot : ¬ b.Live id := by
    intro hlive
    rw [hlive.hasHeader] at h
    cases h
  rw [phase, if_neg hnot, h]
  rfl

theorem phase_of_deleted (h : b.hasHeader id = true) (hgone : ¬ b.Live id) :
    b.phase id = .deleted := by
  rw [phase, if_neg hgone, if_pos h]

/-- A used-up identifier has a header, and none that is not deleted. -/
theorem phase_eq_deleted : b.phase id = .deleted ↔ b.hasHeader id = true ∧ ¬ b.Live id := by
  constructor
  · intro h
    by_cases hlive : b.Live id
    · rw [phase_of_live hlive] at h
      cases h
    · cases hthere : b.hasHeader id with
      | true => exact ⟨rfl, hlive⟩
      | false =>
          rw [phase_of_absent hthere] at h
          cases h
  · rintro ⟨hthere, hgone⟩
    exact phase_of_deleted hthere hgone

/-- A posting begins the life of its transaction. -/
theorem phase_enter {t : Transaction} {createdAt : Timestamp} :
    (b.enter t createdAt).phase t.id = .live :=
  phase_of_live ⟨_, List.mem_append_right _ (List.mem_singleton_self _), rfl, rfl⟩

/-- Marking ends it. -/
theorem Marked.phase {moment : Timestamp} (h : b.Marked id moment b') (hlive : b.Live id) :
    b'.phase id = .deleted := by
  refine phase_of_deleted (h.hasHeader hlive.hasHeader) ?_
  rintro ⟨x, hx, hid, hkept⟩
  rw [h.headers] at hx
  obtain ⟨k, _, rfl⟩ := List.mem_map.mp hx
  obtain ⟨hne, _⟩ := HeaderRow.not_marked _ _ hkept
  exact hne ((HeaderRow.mark_id id moment k).symm.trans hid)

end Book

/-! ## Events -/

namespace Operation

/-- The operation is to post a transaction of this identifier, or to take it back. -/
def Concerns (id : TransactionId) : Operation → Prop
  | create _ _ => False
  | post _ _ m p => p.identity ⟨m.fresh⟩ = id
  | delete _ _ i => i = id

/-- What the operation has done with the transaction, going by the answer. -/
def event? (id : TransactionId) : Operation → Desk → Option Event
  | create _ _, _ => none
  | post policy deadline m p, d =>
    match (Desk.post policy deadline m p d).1 with
    | .ok posted => if posted.transaction.id = id then some .posted else none
    | .error _ => none
  | delete policy now i, d =>
    match (Desk.delete policy now i d).1 with
    | .ok _ => if i = id then some .deleted else none
    | .error _ => none

variable {o : Operation} {d : Desk} {b b' : Book} {id : TransactionId}

theorem event?_of_failed (h : ¬ o.Succeeds d) : o.event? id d = none := by
  cases o with
  | create m r => rfl
  | post policy deadline m p =>
      unfold event?
      dsimp only
      cases hanswer : (Desk.post policy deadline m p d).1 with
      | ok posted => exact absurd ⟨posted, hanswer⟩ h
      | error e => rfl
  | delete policy now i =>
      unfold event?
      dsimp only
      cases hanswer : (Desk.delete policy now i d).1 with
      | ok _ => exact absurd hanswer h
      | error e => rfl

/-- **A change takes the transaction on by what the answer tells**, and no other transaction. -/
theorem Makes.past (h : o.Makes d b b') (id : TransactionId) :
    (b'.phase id).past = (b.phase id).past ++ (o.event? id d).toList := by
  cases h with
  | opened _ _ _ => exact (List.append_nil _).symm
  | @entered policy deadline m p posted hanswer _ _ hnew =>
      unfold event?
      dsimp only
      rw [hanswer]
      dsimp only
      by_cases hid : posted.transaction.id = id
      · rw [if_pos hid, ← hid, Book.phase_of_absent hnew, Book.phase_enter]
        rfl
      · rw [if_neg hid, Book.phase_congr (Book.headersOf_enter_other (Ne.symm hid))]
        exact (List.append_nil _).symm
  | @marked policy now i _ hanswer hlive hmarked =>
      unfold event?
      dsimp only
      rw [hanswer]
      dsimp only
      by_cases hid : i = id
      · rw [if_pos hid, ← hid, Book.phase_of_live hlive, hmarked.phase hlive]
        rfl
      · rw [if_neg hid, Book.phase_congr (hmarked.rows_of_other (Ne.symm hid)).1]
        exact (List.append_nil _).symm

/-- **Nothing more is done under an identifier that is used up.** -/
theorem failed_of_deleted (hconcerns : o.Concerns id) (hb : d.store.book = some b)
    (hphase : b.phase id = .deleted) : ¬ o.Succeeds d ∧ (o.run d).store = d.store := by
  obtain ⟨hthere, hgone⟩ := Book.phase_eq_deleted.mp hphase
  rcases o.outcome d with ⟨hsame, hfailed⟩ | ⟨_, b₁, b', hb₁, hmade, _⟩
  · exact ⟨hfailed, hsame⟩
  · obtain rfl : b₁ = b := Option.some.inj (hb₁.symm.trans hb)
    exfalso
    cases hmade with
    | opened _ _ _ => exact hconcerns
    | entered _ hid _ hnew =>
        -- a posting needs a free identifier
        rw [hid, hconcerns, hthere] at hnew
        cases hnew
    | marked _ hlive _ =>
        rw [hconcerns] at hlive
        exact hgone hlive

end Operation

/-- What the call has done with the transaction; a question does nothing. -/
def Call.event? (id : TransactionId) : Call → Desk → Option Event
  | operation o, d => o.event? id d
  | question _, _ => none

theorem Call.past (c : Call) {d : Desk} {b : Book} (hb : d.store.book = some b)
    (id : TransactionId) :
    ∃ b', (c.run d).store.book = some b' ∧
      (b'.phase id).past = (b.phase id).past ++ (c.event? id d).toList := by
  cases c with
  | question q => exact ⟨b, by rw [run, q.run_store]; exact hb, (List.append_nil _).symm⟩
  | operation o =>
      rcases o.outcome d with ⟨hsame, hfailed⟩ | ⟨_, b₁, b', hb₁, hmade, hstore⟩
      · refine ⟨b, by rw [run, hsame]; exact hb, ?_⟩
        rw [event?, Operation.event?_of_failed hfailed]
        exact (List.append_nil _).symm
      · obtain rfl : b₁ = b := Option.some.inj (hb₁.symm.trans hb)
        exact ⟨b', by rw [run, hstore], hmade.past id⟩

namespace Desk

/-- What some turns have done with the transaction, in order. -/
def events (id : TransactionId) (d : Desk) : List Turn → List Event
  | [] => []
  | t :: rest =>
    (t.call.event? id (d.facing t)).toList ++ (t.call.run (d.facing t)).events id rest

/-- **The phase tells what a run has done.** -/
theorem through_past {d : Desk} {b : Book} (hb : d.store.book = some b) (id : TransactionId)
    (turns : List Turn) :
    ∃ b', (d.through turns).store.book = some b' ∧
      (b'.phase id).past = (b.phase id).past ++ d.events id turns := by
  -- the desk and the books move on with each turn
  induction turns generalizing d b with
  | nil => exact ⟨b, hb, (List.append_nil _).symm⟩
  | cons t rest ih =>
    have hfacing : (d.facing t).store.book = some b := hb
    obtain ⟨b₁, hb₁, hfirst⟩ := t.call.past hfacing id
    obtain ⟨b₂, hb₂, hrest⟩ := ih hb₁
    refine ⟨b₂, hb₂, ?_⟩
    rw [hrest, hfirst, List.append_assoc]
    rfl

/-! ## Looking a transaction up -/

variable {d : Desk} {b : Book} {id : TransactionId}

/-- A snapshot that was closed does not change the answer, and one that was not is what is reported. -/
theorem closing_told {α : Type} (wording : StoreError → LedgerError) (reading : Work LedgerError α)
    (d : Desk) : (closing wording reading d).1 = (reading d).1 ∨
      ∃ e, (closing wording reading d).1 = .error (wording e) := by
  rcases hreading : reading d with ⟨r, d₁⟩
  have hattempt : (reading.attempt : Work LedgerError (Except LedgerError α)) d = (.ok r, d₁) := by
    rw [Work.attempt, hreading]
  rw [closing, Work.bind_of_ok hattempt]
  rcases hcommit : orGiveUp (control .commit) d₁ with ⟨closed, d₂⟩
  cases closed with
  | ok _ =>
      rw [Work.bind_of_ok (Work.mapError_of_ok hcommit)]
      exact Or.inl rfl
  | error e =>
      rw [Work.bind_of_error (Work.mapError_of_error hcommit)]
      exact Or.inr ⟨e, rfl⟩

/-- At any desk a look-up fails because the store does, or it answers what is found. -/
theorem get_told (hplan : d.plan.Candid) (hb : d.store.book = some b) (horderly : b.Orderly) :
    ReadFailed (get id d).1 ∨ (get id d).1 = b.found id := by
  rcases hopen : openSnapshot d with ⟨opened, d₁⟩
  cases opened with
  | error e =>
      rw [get, Work.bind_of_error (Work.mapError_of_error hopen)]
      exact Or.inl ⟨some id, none, e.text, rfl⟩
  | ok _ =>
      have hopened := openSnapshot_looks.of_eq hopen
      rw [get, Work.bind_of_ok (Work.mapError_of_ok hopen)]
      have hloaded : b.loaded [id] = .ok ([id].filterMap b.posted?) :=
        Book.loaded_eq (List.nodup_singleton id) fun r hr _ _ => horderly.legible r hr
      have hread := load_told (hplan.within hopened.plan) (by rw [hopened.store]; exact hb) (List.cons_ne_nil id [])
      have hclosed := closing_told (readError (some id) none) (load [id]) d₁
      rcases hclosing : closing (readError (some id) none) (load [id]) d₁ with ⟨r, d₂⟩
      rw [hclosing] at hclosed
      dsimp only at hclosed
      rcases hclosed with rfl | ⟨e, rfl⟩
      · rcases hread with ⟨transaction, account, cause, hfailed⟩ | hanswer
        · rw [hfailed] at hclosing
          rw [Work.bind_of_error hclosing]
          exact Or.inl ⟨transaction, account, cause, rfl⟩
        · rw [hanswer, hloaded] at hclosing
          rw [Work.bind_of_ok hclosing]
          exact Or.inr (congrArg Prod.fst (found_apply b id d₂))
      · rw [Work.bind_of_error hclosing]
        exact Or.inl ⟨some id, none, e.text, rfl⟩

end Desk

/-- What is found is what is to be answered in the phase. -/
theorem Book.Orderly.answers {b : Book} (hb : b.Orderly) (id : TransactionId) :
    (b.phase id).Answers id (b.found id) := by
  by_cases hlive : b.Live id
  · obtain ⟨p, rfl, hp⟩ := hb.holds hlive
    rw [phase_of_live hlive, found, hp.posted?_eq]
    exact ⟨p, rfl, rfl⟩
  · have hfound : b.found id = .error (.transactionNotFound id) := by
      rw [found, posted?_of_not_live hlive]
    rw [hfound]
    cases hthere : b.hasHeader id with
    | true =>
        rw [phase_of_deleted hthere hlive]
        exact rfl
    | false =>
        rw [phase_of_absent hthere]
        exact rfl

/-! ## Every life -/

/--
**Every identifier is free, then posted once, then taken back once, and then used up.** From a store without
transactions, whatever is asked and whatever goes wrong: what was answered is the past of the phase that the
identifier is in, and no later call takes that past back; a look-up that does not fail answers by the phase; and
once the identifier is used up, nothing that concerns it succeeds or changes the store.
-/
theorem one_life {d : Desk} {b : Book} (hb : d.store.book = some b) (hheaders : b.headers = [])
    (hlines : b.lines = []) (id : TransactionId) (turns : List Turn) :
    ∃ b', (d.through turns).store.book = some b' ∧ d.events id turns = (b'.phase id).past ∧
      (∀ more, ∃ b'', (d.through (turns ++ more)).store.book = some b'' ∧
        (b'.phase id).past <+: (b''.phase id).past) ∧
      (∀ reader : Desk, reader.store = (d.through turns).store →
        (reader.Calm → (b'.phase id).Answers id (Desk.get id reader).1) ∧
        (reader.plan.Candid → ReadFailed (Desk.get id reader).1 ∨
          (b'.phase id).Answers id (Desk.get id reader).1)) ∧
      (b'.phase id = .deleted → ∀ (o : Operation) (e : Desk), o.Concerns id →
        e.store = (d.through turns).store → ¬ o.Succeeds e ∧ (o.run e).store = e.store) := by
  have hfree : b.hasHeader id = false := by
    unfold Book.hasHeader
    rw [hheaders]
    rfl
  obtain ⟨b', hb', horderly⟩ := Desk.through_orderly hb hheaders hlines turns
  obtain ⟨b₁, hb₁, hpast⟩ := Desk.through_past hb id turns
  obtain rfl : b₁ = b' := Option.some.inj (hb₁.symm.trans hb')
  rw [Book.phase_of_absent hfree] at hpast
  refine ⟨b₁, hb₁, hpast.symm, fun more => ?_, fun reader hstore => ?_, fun hphase o e ho he => ?_⟩
  · obtain ⟨b'', hb'', hmore⟩ := Desk.through_past hb₁ id more
    rw [Desk.through_append]
    exact ⟨b'', hb'', _, hmore.symm⟩
  · have hread : reader.store.book = some b₁ := by rw [hstore]; exact hb₁
    have hanswers := horderly.answers id
    constructor
    · intro hcalm
      rw [Desk.get_calm hcalm hread fun r hr _ => horderly.legible r hr]
      exact hanswers
    · intro hplan
      rcases Desk.get_told hplan hread horderly with hfailed | hfound
      · exact Or.inl hfailed
      · rw [hfound]
        exact Or.inr hanswers
  · exact Operation.failed_of_deleted ho (by rw [he]; exact hb₁) hphase

namespace Specimen

/-- The transfer is posted and posted again; it is taken back, in vain at first; it is posted once more. -/
def lifetime : List Turn :=
  [⟨request moment "t", [], true⟩, ⟨request moment "t", [], true⟩, ⟨reclaim, troubled, true⟩,
    ⟨reclaim, [], true⟩, ⟨request moment "t", [], true⟩]

end Specimen

theorem one_life_specimen :
    Specimen.desk.events ⟨"t"⟩ Specimen.lifetime = [.posted, .deleted] ∧
      ∃ b', (Specimen.desk.through Specimen.lifetime).store.book = some b' ∧
        b'.phase ⟨"t"⟩ = .deleted := by
  obtain ⟨b', hb', hevents, _⟩ :=
    one_life (d := Specimen.desk) (b := Specimen.book) rfl rfl rfl ⟨"t"⟩ Specimen.lifetime
  have hdone : Specimen.desk.events ⟨"t"⟩ Specimen.lifetime = [.posted, .deleted] := by decide
  refine ⟨hdone, b', hb', ?_⟩
  rw [hdone] at hevents
  cases hphase : b'.phase ⟨"t"⟩ with
  | absent => rw [hphase] at hevents; cases hevents
  | live => rw [hphase] at hevents; cases hevents
  | deleted => rfl

end DoubleEntry
