import DoubleEntry.Proofs.History

/-!
# A failed operation has done nothing

Whatever the state of the store, whatever is asked of it and whichever of its statements fail, a posting
or a reversal that is answered with an error leaves the rows as they were. Where the error is a failure
of the store, the fate of the transaction that it tells is the one that the transaction had, and no other.
-/

namespace DoubleEntry.Desk

open Time

/-- The work has this fate and no other. -/
def Meets {α : Type} (work : Work Stop α) (d : Desk) (outcome : Rollback) : Prop :=
  ∀ fate, Fate work d fate ↔ fate = outcome

theorem Fate.meets {α : Type} {work : Work Stop α} {d : Desk} {outcome : Rollback}
    (h : Fate work d outcome) : Meets work d outcome := by
  intro fate
  constructor
  · exact fun h' => h.unique h'
  · rintro rfl
    exact h

/-- **All or nothing**, of posting and of taking back. -/
theorem all_or_nothing (d d' : Desk) (e : LedgerError) :
    (∀ policy deadline m p, post policy deadline m p d = (.error e, d') →
      d'.store = d.store ∧ ∀ step transaction account cause outcome,
        e = .persistence step transaction account cause outcome →
          ∃ t, p.check m.now ⟨m.fresh⟩ = .ok t ∧
            Meets (writePosting policy ⟨t.id, deadline⟩ (Kept t) m.now.wholeMicros) d outcome) ∧
    (∀ policy now id, delete policy now id d = (.error e, d') →
      d'.store = d.store ∧ ∀ step transaction account cause outcome,
        e = .persistence step transaction account cause outcome →
          Meets (writeReversal policy ⟨id, none⟩ now) d outcome) := by
  constructor
  · intro policy deadline m p h
    obtain ⟨hstore, htold⟩ := post_error h
    refine ⟨hstore, fun step transaction account cause outcome he => ?_⟩
    obtain ⟨t, hcheck, hfate⟩ := htold step transaction account cause outcome he
    exact ⟨t, hcheck, hfate.meets⟩
  · intro policy now id h
    obtain ⟨hstore, htold⟩ := settle_error h
    refine ⟨hstore, fun step transaction account cause outcome he => ?_⟩
    exact (htold step transaction account cause outcome he).meets

/-- The second line is refused and the rollback too; after that, a commit is. -/
def refusals : Plan :=
  [⟨.insertLine, 1, 1, .failure .outOfRange⟩, ⟨.rollback, 0, 1, .failure .outOfRange⟩,
    ⟨.commit, 0, 1, .failure .outOfRange⟩]

theorem all_or_nothing_specimen :
    (post .standard none Specimen.moment (Specimen.transfer "u" Specimen.five Specimen.minusFive)
        { Specimen.posted with plan := refusals }).2.store = Specimen.posted.store ∧
      (delete .standard Specimen.noon ⟨"t"⟩ { Specimen.posted with plan := refusals }).2.store =
        Specimen.posted.store ∧
      Meets (writeReversal .standard ⟨⟨"t"⟩, none⟩ Specimen.noon)
        { Specimen.posted with plan := refusals } .aborted := by
  have hpost : (post .standard none Specimen.moment
      (Specimen.transfer "u" Specimen.five Specimen.minusFive)
      { Specimen.posted with plan := refusals }).1 =
        .error (.persistence .insertLine (some ⟨"u"⟩) (some ⟨"b"⟩)
          "Query Error: error returned from database: bigint out of range"
          (.failed "Query Error: error returned from database: bigint out of range")) := by
    decide
  have hdelete : (delete .standard Specimen.noon ⟨"t"⟩ { Specimen.posted with plan := refusals }).1 =
      .error (.persistence .commit (some ⟨"t"⟩) none
        "Query Error: error returned from database: bigint out of range" .aborted) := by
    decide
  obtain ⟨hposted, _⟩ := (all_or_nothing _ _ _).1 _ _ _ _ (Prod.ext hpost rfl)
  obtain ⟨hdeleted, hfate⟩ := (all_or_nothing _ _ _).2 _ _ _ (Prod.ext hdelete rfl)
  exact ⟨hposted, hdeleted, hfate _ _ _ _ _ rfl⟩

end DoubleEntry.Desk
