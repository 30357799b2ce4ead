import DoubleEntry.Proofs.Calls
import DoubleEntry.Proofs.Retrieval

/-!
# What was posted is read back

A posting is taken apart into rows of two tables, with purposes as texts and times as the store keeps them,
and reading it back puts it together again. In between anything may be posted, taken back or opened, with
whatever goes wrong in the store. None of it reaches the rows of the transaction, as long as the transaction
itself is not taken back: new rows never have its identifier, and rows are marked under another one.
-/

namespace DoubleEntry

open Time

/-! ## Times -/

namespace Time.Timestamp

theorem wholeMicros_idem (t : Timestamp) : t.wholeMicros.wholeMicros = t.wholeMicros := by
  have hnano : (t.nano - t.nano % 1000) % 1000 = 0 := by omega
  unfold wholeMicros
  simp only [hnano, Nat.sub_zero]

/-- A time of whole microseconds is kept as it is, if it is not in a leap second. -/
theorem asKept_wholeMicros {t : Timestamp} (h : t.second ≠ 60) :
    t.wholeMicros.asKept = t.wholeMicros := by
  have hplain : t.wholeMicros.withoutLeap = t.wholeMicros := if_neg h
  have hnano : t.wholeMicros.nano % 1000 = 0 := by
    unfold wholeMicros
    dsimp only
    omega
  unfold asKept
  rw [hplain]
  dsimp only
  split
  · unfold wholeMicrosUp
    rw [if_pos hnano]
  · exact t.wholeMicros_idem

/-- A time in a leap second is kept as the next second. -/
example : (⟨⟨2016, 12, 31, by decide, by decide⟩, 23, 59, 60, 0, by decide, by decide, by decide,
    by decide⟩ : Timestamp).asKept =
    ⟨⟨2017, 1, 1, by decide, by decide⟩, 0, 0, 0, 0, by decide, by decide, by decide, by decide⟩ := by
  decide

end Time.Timestamp

/-- A transaction with both of its times as the store keeps them. -/
def Posted.asKept (p : Posted) : Posted :=
  ⟨{ p.transaction with timestamp := p.transaction.timestamp.asKept }, p.createdAt.asKept⟩

/-! ## The rows of one transaction -/

namespace Book

variable {b : Book} {t : Transaction} {createdAt : Timestamp}

theorem headersOf_enter_self (hnew : b.hasHeader t.id = false) :
    (b.enter t createdAt).headersOf t.id =
      [⟨t.id, t.timestamp.asKept, createdAt.asKept, none⟩] := by
  have hold : (b.headers.filter fun h => decide (h.id = t.id)) = [] := by
    refine List.filter_eq_nil_iff.mpr fun h hh hid => ?_
    exact header_ne_of_new hnew hh (of_decide_eq_true hid)
  unfold headersOf enter
  rw [List.filter_append, hold, List.nil_append]
  exact List.filter_cons_of_pos (decide_eq_true rfl)

theorem headersOf_enter_other {id : TransactionId} (hne : id ≠ t.id) :
    (b.enter t createdAt).headersOf id = b.headersOf id := by
  unfold headersOf enter
  rw [List.filter_append, List.filter_cons_of_neg (by simpa using hne.symm), List.filter_nil,
    List.append_nil]

/-- **A transaction that was just entered is held**, at the times that the store keeps. -/
theorem Holds.entered (hnew : b.hasHeader t.id = false)
    (howned : ∀ l ∈ b.lines, b.hasHeader l.transaction = true) :
    (b.enter t createdAt).Holds (Posted.asKept ⟨t, createdAt⟩) := by
  -- a line of the new identifier would have a header, and there is none
  have hlines : (b.enter t createdAt).linesOf (Posted.asKept ⟨t, createdAt⟩).transaction.id =
      LineRow.ofLines t.id createdAt.asKept 0 t.lines :=
    linesOf_enter_self fun l hl => line_ne_of_new hnew howned hl
  refine ⟨headersOf_enter_self hnew, ?_, ?_, ?_⟩
  all_goals rw [hlines]
  · intro l hl
    rw [LineRow.isLive, (LineRow.mem_ofLines hl).2.2.1]
    rfl
  · refine LineRow.ordered_of_numbered ?_
    rw [LineRow.map_number_ofLines, LineRow.length_ofLines, List.range_eq_range']
  · exact LineRow.legible_ofLines t.id createdAt.asKept 0 t.lines

theorem Marked.headersOf {b' : Book} {id : TransactionId} {moment : Timestamp}
    (h : b.Marked id moment b') (i : TransactionId) :
    b'.headersOf i = (b.headersOf i).map (HeaderRow.mark id moment) := by
  unfold Book.headersOf
  rw [h.headers, List.filter_map]
  refine congrArg (List.map _) (List.filter_congr fun x _ => ?_)
  rw [Function.comp_apply, HeaderRow.mark_id]

/-- Marking one transaction leaves the rows of another as they are. -/
theorem Marked.rows_of_other {b' : Book} {i id : TransactionId} {moment : Timestamp}
    (h : b.Marked i moment b') (hne : id ≠ i) :
    b'.headersOf id = b.headersOf id ∧ b'.linesOf id = b.linesOf id := by
  have hheader : ∀ x ∈ b.headersOf id, x.mark i moment = x := by
    intro x hx
    refine HeaderRow.mark_of_other i moment ?_
    rw [(mem_headersOf.mp hx).2]
    exact hne
  have hline : ∀ l ∈ b.linesOf id, l.mark i moment = l := by
    intro l hl
    refine LineRow.mark_of_other i moment ?_
    rw [(mem_linesOf.mp hl).2]
    exact hne
  constructor
  · rw [h.headersOf]
    exact (List.map_congr_left hheader).trans (List.map_id _)
  · rcases h.linesOf_cases id with hsame | hmarked
    · exact hsame
    · rw [hmarked]
      exact (List.map_congr_left hline).trans (List.map_id _)

end Book

/-! ## Runs that spare it -/

namespace Operation

/-- The operation takes this transaction back, and succeeds. -/
def TakesBack (id : TransactionId) : Operation → Desk → Prop
  | delete policy now i, d => i = id ∧ (Desk.delete policy now i d).1 = .ok ()
  | create _ _, _ => False
  | post _ _ _ _, _ => False

/-- **What is in the books of a transaction stays**, unless the operation takes it back. -/
theorem run_rows {o : Operation} {d : Desk} {b : Book} {id : TransactionId}
    (hb : d.store.book = some b) (hthere : b.hasHeader id = true) (hspared : ¬ o.TakesBack id d) :
    ∃ b', (o.run d).store.book = some b' ∧ b'.headersOf id = b.headersOf id ∧
      b'.linesOf id = b.linesOf id := by
  rcases o.outcome d with ⟨hsame, _⟩ | ⟨_, b₁, b', hb₁, hmade, hstore⟩
  · exact ⟨b, by rw [hsame]; exact hb, rfl, rfl⟩
  · obtain rfl : b₁ = b := Option.some.inj (hb₁.symm.trans hb)
    refine ⟨b', by rw [hstore], ?_⟩
    cases hmade with
    | opened _ _ _ => exact ⟨rfl, rfl⟩
    | @entered _ _ _ _ posted _ _ _ hnew =>
        -- the identifier that was posted was free, and this one is taken
        have hne : id ≠ posted.transaction.id := by
          rintro rfl
          rw [hnew] at hthere
          cases hthere
        exact ⟨Book.headersOf_enter_other hne, Book.linesOf_enter_other hne⟩
    | marked hanswer _ hmarked =>
        have hne : id ≠ _ := fun hid => hspared ⟨hid.symm, hanswer⟩
        exact hmarked.rows_of_other hne

end Operation

/--
The desks that a run comes to from a store without taking this transaction back. Whatever is planned to go
wrong may go wrong, also in attempts to take it back.
-/
inductive Sparing (id : TransactionId) (start : Store) : Desk → Prop where
  | start {d : Desk} (h : d.store = start) : Sparing id start d
  | step {d : Desk} (h : Sparing id start d) (o : Operation) (plan : Plan) (online : Bool)
      (hspared : ¬ o.TakesBack id { d with plan, online }) :
      Sparing id start (o.run { d with plan, online })

/-- **A transaction that is held is held to the end** of a run that spares it. -/
theorem Sparing.holds {start : Store} {b : Book} {p : Posted} (hb : start.book = some b)
    (hp : b.Holds p) {d : Desk} (h : Sparing p.transaction.id start d) :
    ∃ b', d.store.book = some b' ∧ b'.Holds p := by
  induction h with
  | start h => exact ⟨b, by rw [h]; exact hb, hp⟩
  | @step d _ o plan online hspared ih =>
    obtain ⟨b₁, hb₁, hp₁⟩ := ih
    obtain ⟨b', hb', hheaders, hlines⟩ :=
      Operation.run_rows (d := { d with plan, online }) hb₁ hp₁.hasHeader hspared
    exact ⟨b', hb', hp₁.of_rows hheaders hlines⟩

/-! ## The round trip -/

namespace Desk

/-- A posting that succeeded is held, at the times that the store keeps. -/
theorem post_held {policy : FundsPolicy} {deadline : Option Deadline} {m : Moment} {p : Proposal}
    {d d' : Desk} {posted : Posted} {b : Book}
    (h : post policy deadline m p d = (.ok posted, d')) (hb : d.store.book = some b)
    (howned : ∀ l ∈ b.lines, b.hasHeader l.transaction = true) :
    ∃ b', d'.store.book = some b' ∧ b'.Holds posted.asKept := by
  obtain ⟨t, b₁, _, rfl, hb₁, hnew, _, hstore⟩ := post_ok h
  obtain rfl : b₁ = b := Option.some.inj (hb₁.symm.trans hb)
  exact ⟨_, by rw [hstore], Book.Holds.entered hnew howned⟩

/-- The store keeps the times of a posting as they are, if neither is in a leap second. -/
theorem post_times {policy : FundsPolicy} {deadline : Option Deadline} {m : Moment} {p : Proposal}
    {d d' : Desk} {posted : Posted} (h : post policy deadline m p d = (.ok posted, d'))
    (htime : (p.timestamp.getD m.now).second ≠ 60) (hnow : m.now.second ≠ 60) :
    posted.asKept = posted := by
  obtain ⟨t, _, hcheck, rfl, _⟩ := post_ok h
  rw [← (Proposal.check_ok hcheck).2.1] at htime
  unfold Posted.asKept Kept
  dsimp only
  rw [Timestamp.asKept_wholeMicros htime, Timestamp.asKept_wholeMicros hnow]

/-- The answer to a posting is the proposal, put in order. -/
theorem post_answer {policy : FundsPolicy} {deadline : Option Deadline} {m : Moment} {p : Proposal}
    {d d' : Desk} {posted : Posted} (h : post policy deadline m p d = (.ok posted, d')) :
    (∀ id, p.id = some id → id.isBlank = false → posted.transaction.id = id) ∧
      posted.transaction.timestamp = (p.timestamp.getD m.now).wholeMicros ∧
      posted.createdAt = m.now.wholeMicros ∧
      List.Forall₂ (fun q l => l.account = ⟨q.account⟩ ∧
        Purpose.ofText? q.purpose = some l.purpose ∧ l.amount = q.amount)
        p.lines posted.transaction.lines := by
  obtain ⟨t, _, hcheck, rfl, _⟩ := post_ok h
  obtain ⟨hid, htime, _, _, hlines⟩ := Proposal.check_ok hcheck
  refine ⟨fun id hsome hblank => ?_, ?_, rfl, hlines.imp fun q l hl => ?_⟩
  · rw [show (Kept t).id = t.id from rfl, hid, Proposal.identity, hsome]
    dsimp only
    rw [if_neg (by rw [hblank]; simp)]
  · rw [← htime]
    rfl
  · obtain ⟨haccount, hpurpose, hamount, _⟩ := ProposedLine.check_ok hl
    exact ⟨haccount, hpurpose, hamount⟩

/--
**What was posted is read back**, to the end of every run that does not take it back, if the store keeps its
two times as they are; and what was posted is what was proposed.
-/
theorem posted_reads_back {policy : FundsPolicy} {deadline : Option Deadline} {m : Moment}
    {p : Proposal} {d d' : Desk} {posted : Posted} {b : Book} (hb : d.store.book = some b)
    (howned : ∀ l ∈ b.lines, b.hasHeader l.transaction = true)
    (hpost : post policy deadline m p d = (.ok posted, d')) (htimes : posted.asKept = posted)
    {last reader : Desk} (hrun : Sparing posted.transaction.id d'.store last)
    (hcalm : reader.Calm) (hstore : reader.store = last.store) :
    (get posted.transaction.id reader).1 = .ok posted ∧
      (∀ id, p.id = some id → id.isBlank = false → posted.transaction.id = id) ∧
      posted.transaction.timestamp = (p.timestamp.getD m.now).wholeMicros ∧
      posted.createdAt = m.now.wholeMicros ∧
      List.Forall₂ (fun q l => l.account = ⟨q.account⟩ ∧
        Purpose.ofText? q.purpose = some l.purpose ∧ l.amount = q.amount)
        p.lines posted.transaction.lines := by
  obtain ⟨b', hb', hheld⟩ := post_held hpost hb howned
  rw [htimes] at hheld
  obtain ⟨b'', hb'', hstill⟩ := hrun.holds hb' hheld
  have hget := get_held hcalm (by rw [hstore]; exact hb'') hstill
  exact ⟨by rw [hget], post_answer hpost⟩

end Desk

namespace Specimen

/-- A transfer whose purposes are written short. -/
def brief : Proposal := ⟨some ⟨"t"⟩, none, [⟨"a", "credit", five⟩, ⟨"b", "debit", minusFive⟩]⟩

/-- The transaction that it stands for. -/
def recorded : Posted :=
  ⟨⟨⟨"t"⟩, noon, [⟨⟨"a"⟩, .achCredit, five⟩, ⟨⟨"b"⟩, .achDebit, minusFive⟩]⟩, noon⟩

/-- The desk after it is posted. -/
def recording : Desk := (Desk.post .standard none moment brief desk).2

/-- The desk after a failed attempt to take it back and another transfer. -/
def busy : Desk :=
  (Operation.post .standard none moment (transfer "u" five minusFive)).run
    { (Operation.delete .standard noon ⟨"t"⟩).run { recording with plan := troubled, online := true } with
      plan := [], online := true }

theorem recording_answer : Desk.post .standard none moment brief desk = (.ok recorded, recording) :=
  Prod.ext (by decide) rfl

theorem busy_sparing : Sparing ⟨"t"⟩ recording.store busy := by
  have hfailed : ¬ (Operation.delete .standard noon ⟨"t"⟩).TakesBack ⟨"t"⟩
      { recording with plan := troubled, online := true } := fun h => absurd h.2 (by decide)
  have hstart : Sparing ⟨"t"⟩ recording.store recording := .start rfl
  have hattempted := hstart.step _ troubled true hfailed
  exact hattempted.step (.post .standard none moment (transfer "u" five minusFive)) [] true id

end Specimen

theorem Desk.posted_reads_back_specimen :
    (Desk.get ⟨"t"⟩ Specimen.busy).1 = .ok Specimen.recorded ∧
      List.Forall₂ (fun q l => l.account = ⟨q.account⟩ ∧
        Purpose.ofText? q.purpose = some l.purpose ∧ l.amount = q.amount)
        Specimen.brief.lines Specimen.recorded.transaction.lines := by
  have hcalm : Specimen.busy.Calm := ⟨by decide, by decide⟩
  obtain ⟨hread, _, _, _, hlines⟩ := Desk.posted_reads_back (b := Specimen.book) rfl (by decide)
    Specimen.recording_answer (Desk.post_times Specimen.recording_answer (by decide) (by decide))
    Specimen.busy_sparing hcalm rfl
  exact ⟨hread, hlines⟩

end DoubleEntry
