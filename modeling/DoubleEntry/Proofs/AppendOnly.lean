import DoubleEntry.Proofs.Calls
import DoubleEntry.Proofs.RoundTrip

/-!
# Rows are added and never changed

No row of any table is ever removed, moved or overwritten. What may be written into a row that is there is a
time of deletion, once, by the operation that takes its transaction back. Rows are added at the end: one for an
account that was opened, a header and its lines for a transaction that was posted.

This is said of two states of the books, the later extending the earlier, and the relation can be chained. So
what one call keeps is kept to the end of every run, and with it the first time of deletion.
-/

namespace DoubleEntry

open Time

/-! ## Tables that grow -/

/-- The later table has the rows of the earlier one in their places, each related so, and some rows more. -/
def Grown {α : Type} (R : α → α → Prop) (rows new later : List α) : Prop :=
  ∃ kept, List.Forall₂ R rows kept ∧ later = kept ++ new

namespace Grown

variable {α : Type} {R S T : α → α → Prop} {rows new later : List α}

/-- Rows may be related to themselves. -/
theorem of_append (hrefl : ∀ r, R r r) (rows new : List α) : Grown R rows new (rows ++ new) :=
  ⟨rows, List.forall₂_same.mpr fun r _ => hrefl r, rfl⟩

/-- Rows may be related to what one function makes of them. -/
theorem of_map {f : α → α} (hf : ∀ r, R r (f r)) (rows : List α) : Grown R rows [] (rows.map f) := by
  refine ⟨rows.map f, ?_, (List.append_nil _).symm⟩
  exact List.forall₂_map_right_iff.mpr (List.forall₂_same.mpr fun r _ => hf r)

/-- A table that has grown twice has grown. -/
theorem trans {new' last : List α} (hRS : ∀ r s t, R r s → S s t → T r t)
    (h : Grown R rows new later) (h' : Grown S later new' last) : ∃ all, Grown T rows all last := by
  obtain ⟨kept, hkept, rfl⟩ := h
  obtain ⟨kept', hkept', rfl⟩ := h'
  -- row by row; when the first rows are used up, all that is left is new
  induction hkept generalizing kept' with
  | nil => exact ⟨kept' ++ new', [], .nil, rfl⟩
  | @cons r s rows kept hrs _ ih =>
    cases hkept' with
    | @cons _ t _ ts hst hrest =>
      obtain ⟨all, more, hmore, hlast⟩ := ih ts hrest
      refine ⟨all, t :: more, .cons (hRS r s t hrs hst) hmore, ?_⟩
      rw [List.cons_append, hlast, List.cons_append]

/-- No row is lost. -/
theorem exists_kept (h : Grown R rows new later) {r : α} (hr : r ∈ rows) : ∃ s ∈ later, R r s := by
  obtain ⟨kept, hkept, rfl⟩ := h
  induction hkept with
  | nil => exact absurd hr (by simp)
  | @cons x y rows kept hxy _ ih =>
    rcases List.mem_cons.mp hr with rfl | hr
    · exact ⟨y, List.mem_append_left _ List.mem_cons_self, hxy⟩
    · obtain ⟨s, hs, hrs⟩ := ih hr
      exact ⟨s, List.mem_cons_of_mem _ hs, hrs⟩

end Grown

/-! ## Rows that are kept -/

/-- What may become of a time of deletion: it stays, or it is set where there was none. -/
def Stamped (may : Prop) (before after : Option Timestamp) : Prop :=
  after = before ∨ (may ∧ before = none ∧ after ≠ none)

theorem Stamped.trans {may may' : Prop} {t u v : Option Timestamp} (h : Stamped may t u)
    (h' : Stamped may' u v) : Stamped True t v := by
  rcases h with rfl | ⟨_, rfl, hset⟩
  · rcases h' with rfl | ⟨_, hnone, hset⟩
    · exact Or.inl rfl
    · exact Or.inr ⟨trivial, hnone, hset⟩
  · rcases h' with rfl | ⟨_, hnone, _⟩
    · exact Or.inr ⟨trivial, rfl, hset⟩
    · -- a time that was set is not set again
      exact absurd hnone hset

/-- The header as it was written, before any deletion. -/
def HeaderRow.original (h : HeaderRow) : HeaderRow := { h with deletedAt := none }

/-- The line as it was written, before any deletion. -/
def LineRow.original (l : LineRow) : LineRow := { l with deletedAt := none }

/-- The header is the same, but for a first time of deletion where its transaction may be struck. -/
structure HeaderRow.Kept (may : TransactionId → Prop) (before after : HeaderRow) : Prop where
  /-- Nothing else was changed. -/
  original : after.original = before.original
  /-- A time of deletion was set once if at all. -/
  stamped : Stamped (may before.id) before.deletedAt after.deletedAt

/-- The line is the same, but for a first time of deletion where its transaction may be struck. -/
structure LineRow.Kept (may : TransactionId → Prop) (before after : LineRow) : Prop where
  /-- Nothing else was changed. -/
  original : after.original = before.original
  /-- A time of deletion was set once if at all. -/
  stamped : Stamped (may before.transaction) before.deletedAt after.deletedAt

section

variable {may may' : TransactionId → Prop}

theorem HeaderRow.Kept.refl (h : HeaderRow) : h.Kept may h := ⟨rfl, Or.inl rfl⟩

theorem LineRow.Kept.refl (l : LineRow) : l.Kept may l := ⟨rfl, Or.inl rfl⟩

theorem HeaderRow.Kept.trans {h i j : HeaderRow} (hi : h.Kept may i) (hj : i.Kept may' j) :
    h.Kept (fun _ => True) j :=
  ⟨hj.original.trans hi.original, hi.stamped.trans hj.stamped⟩

theorem LineRow.Kept.trans {l m n : LineRow} (hm : l.Kept may m) (hn : m.Kept may' n) :
    l.Kept (fun _ => True) n :=
  ⟨hn.original.trans hm.original, hm.stamped.trans hn.stamped⟩

theorem HeaderRow.Kept.id_eq {h i : HeaderRow} (hi : h.Kept may i) : i.id = h.id := by
  have hid : i.original.id = h.original.id := congrArg HeaderRow.id hi.original
  exact hid

theorem HeaderRow.Kept.createdAt_eq {h i : HeaderRow} (hi : h.Kept may i) :
    i.createdAt = h.createdAt := by
  have hcreated : i.original.createdAt = h.original.createdAt :=
    congrArg HeaderRow.createdAt hi.original
  exact hcreated

/-- A mark keeps every row, and reaches those of its transaction only. -/
theorem HeaderRow.kept_mark {id : TransactionId} (hmay : may id) (moment : Timestamp)
    (h : HeaderRow) : h.Kept may (h.mark id moment) := by
  unfold mark
  split
  · rename_i hmarked
    obtain ⟨hid, hlive⟩ := hmarked
    have hnone : h.deletedAt = none := Option.isNone_iff_eq_none.mp hlive
    refine ⟨rfl, Or.inr ⟨?_, hnone, Option.some_ne_none _⟩⟩
    rw [hid]
    exact hmay
  · exact .refl h

theorem LineRow.kept_mark {id : TransactionId} (hmay : may id) (moment : Timestamp) (l : LineRow) :
    l.Kept may (l.mark id moment) := by
  unfold mark
  split
  · rename_i hmarked
    obtain ⟨hid, hlive⟩ := hmarked
    have hnone : l.deletedAt = none := Option.isNone_iff_eq_none.mp hlive
    refine ⟨rfl, Or.inr ⟨?_, hnone, Option.some_ne_none _⟩⟩
    rw [hid]
    exact hmay
  · exact .refl l

end

/-! ## Books that extend others -/

namespace Book

/--
The later books have every row of the earlier ones in its place, unchanged but for a first time of deletion
where its transaction may be struck, and these rows more.
-/
structure Extends (may : TransactionId → Prop) (b new b' : Book) : Prop where
  /-- Accounts are not changed at all. -/
  accounts : b'.accounts = b.accounts ++ new.accounts
  headers : Grown (HeaderRow.Kept may) b.headers new.headers b'.headers
  lines : Grown (LineRow.Kept may) b.lines new.lines b'.lines

theorem Extends.refl (may : TransactionId → Prop) (b : Book) : b.Extends may .empty b := by
  have hheaders := Grown.of_append (R := HeaderRow.Kept may) .refl b.headers []
  have hlines := Grown.of_append (R := LineRow.Kept may) .refl b.lines []
  rw [List.append_nil] at hheaders hlines
  exact ⟨(List.append_nil _).symm, hheaders, hlines⟩

theorem Extends.trans {may may' : TransactionId → Prop} {b new b' new' b'' : Book}
    (h : b.Extends may new b') (h' : b'.Extends may' new' b'') :
    ∃ all, b.Extends (fun _ => True) all b'' := by
  obtain ⟨headers, hheaders⟩ :=
    h.headers.trans (T := HeaderRow.Kept fun _ => True) (fun _ _ _ hi hj => hi.trans hj) h'.headers
  obtain ⟨lines, hlines⟩ :=
    h.lines.trans (T := LineRow.Kept fun _ => True) (fun _ _ _ hi hj => hi.trans hj) h'.lines
  refine ⟨⟨new.accounts ++ new'.accounts, headers, lines⟩, ?_, hheaders, hlines⟩
  rw [h'.accounts, h.accounts, List.append_assoc]

end Book

/-! ## What one call adds -/

namespace Call

/-- The transaction that the call takes back, if it is answered with a success. -/
def Strikes : Call → Desk → TransactionId → Prop
  | operation o, d, id => o.TakesBack id d
  | question _, _, _ => False

/-- The rows that the call adds to the books. -/
inductive Adds (d : Desk) : Call → Book → Prop where
  /-- A question adds none. -/
  | asked (q : Question) : Adds d (.question q) .empty
  /-- An operation that fails adds none. -/
  | failed {o : Operation} (h : ¬ o.Succeeds d) : Adds d (.operation o) .empty
  /-- Opening an account adds the row of the account that is answered. -/
  | opened {m : Moment} {r : AccountRequest} {row : AccountRow} {account : Account}
      (hanswer : (Desk.createAccount m r d).1 = .ok account) (hrow : row.account .zero = .ok account) :
      Adds d (.operation (.create m r)) ⟨[row], [], []⟩
  /-- Posting adds the header and the lines of the transaction that is answered. -/
  | posted {policy : FundsPolicy} {deadline : Option Deadline} {m : Moment} {p : Proposal}
      {posted : Posted} (hanswer : (Desk.post policy deadline m p d).1 = .ok posted) :
      Adds d (.operation (.post policy deadline m p))
        (Book.empty.enter posted.transaction posted.createdAt)
  /-- Taking back adds none. -/
  | struck {policy : FundsPolicy} {now : Timestamp} {id : TransactionId}
      (hanswer : (Desk.delete policy now id d).1 = .ok ()) :
      Adds d (.operation (.delete policy now id)) .empty

end Call

/-- A change of the books extends them by what the call adds. -/
theorem Operation.Makes.extends {d : Desk} {b b' : Book} {o : Operation} (h : o.Makes d b b') :
    ∃ new, (Call.operation o).Adds d new ∧ b.Extends ((Call.operation o).Strikes d) new b' := by
  cases h with
  | opened hanswer hrow _ =>
      refine ⟨_, .opened hanswer hrow, rfl, ?_, ?_⟩
      · exact (Book.Extends.refl _ b).headers
      · exact (Book.Extends.refl _ b).lines
  | entered hanswer _ _ _ =>
      exact ⟨_, .posted hanswer, (List.append_nil _).symm, Grown.of_append .refl _ _,
        Grown.of_append .refl _ _⟩
  | @marked policy now id b' hanswer _ hmarked =>
      have hmay : (Call.operation (.delete policy now id)).Strikes d id := ⟨rfl, hanswer⟩
      refine ⟨_, .struck hanswer, ?_, ?_, ?_⟩
      · rw [hmarked.accounts]
        exact (List.append_nil _).symm
      · rw [hmarked.headers]
        exact Grown.of_map (HeaderRow.kept_mark hmay now.asKept) b.headers
      · rcases hmarked.lines with hsame | hall
        · -- the store overlooked the lines
          rw [hsame]
          exact (Book.Extends.refl _ b).lines
        · rw [hall]
          exact Grown.of_map (LineRow.kept_mark hmay now.asKept) b.lines

/-- **Every call extends the books** by what it adds, whatever goes wrong. -/
theorem Call.extends (c : Call) {d : Desk} {b : Book} (hb : d.store.book = some b) :
    ∃ new b', (c.run d).store = { d.store with book := some b' } ∧ c.Adds d new ∧
      b.Extends (c.Strikes d) new b' := by
  have hsame : d.store = { d.store with book := some b } := by rw [← hb]
  cases c with
  | question q => exact ⟨.empty, b, (q.run_store d).trans hsame, .asked q, .refl _ b⟩
  | operation o =>
      rcases o.outcome d with ⟨hstore, hfailed⟩ | ⟨_, b₁, b', hb₁, hmade, hstore⟩
      · exact ⟨.empty, b, hstore.trans hsame, .failed hfailed, .refl _ b⟩
      · obtain rfl : b₁ = b := Option.some.inj (hb₁.symm.trans hb)
        obtain ⟨new, hadds, hextends⟩ := hmade.extends
        exact ⟨new, b', hstore, hadds, hextends⟩

/-- **Every run extends the books.** -/
theorem Desk.through_extends {d : Desk} {b : Book} (hb : d.store.book = some b) (turns : List Turn) :
    ∃ new b', (d.through turns).store.book = some b' ∧ b.Extends (fun _ => True) new b' := by
  induction turns generalizing d b with
  | nil => exact ⟨.empty, b, hb, .refl _ b⟩
  | cons t rest ih =>
    have hfacing : (d.facing t).store.book = some b := hb
    obtain ⟨new, b₁, hstore, _, hfirst⟩ := t.call.extends hfacing
    obtain ⟨more, b₂, hb₂, hrest⟩ := ih (d := t.call.run (d.facing t)) (by rw [hstore])
    obtain ⟨all, hall⟩ := hfirst.trans hrest
    exact ⟨all, b₂, hb₂, hall⟩

/--
**The books are append-only.** A call on a store without tables changes nothing. On any other it adds the rows
that its answer tells of and keeps all that are there, and so does, whatever goes wrong, every run.
-/
theorem append_only (c : Call) (d : Desk) :
    (d.store.book = none → (c.run d).store = d.store) ∧
      ∀ b, d.store.book = some b →
        (∃ new b', (c.run d).store = { d.store with book := some b' } ∧ c.Adds d new ∧
          b.Extends (c.Strikes d) new b') ∧
        ∀ turns, ∃ new b', (d.through turns).store.book = some b' ∧
          b.Extends (fun _ => True) new b' := by
  refine ⟨fun hnone => ?_, fun b hb => ⟨c.extends hb, Desk.through_extends hb⟩⟩
  rcases c.outcome d with hsame | ⟨_, _, _, _, hb, _⟩
  · exact hsame
  · rw [hnone] at hb
    cases hb

namespace Specimen

/-- The transfer is taken back by a store that overlooks its lines, and then again by one that does not. -/
def twice : List Turn :=
  [⟨.operation (.delete .standard noon ⟨"t"⟩), [⟨.deleteLines, 0, 1, .noRows⟩], true⟩,
    ⟨.operation (.delete .standard noon ⟨"t"⟩), [], true⟩]

/-- The request to post a transfer under an identifier. -/
def request (m : Moment) (id : String) : Call :=
  .operation (.post .standard none m (transfer id five minusFive))

/-- The request to take the transfer back. -/
def reclaim : Call := .operation (.delete .standard noon ⟨"t"⟩)

end Specimen

theorem append_only_specimen :
    ∃ b, Specimen.posted.store.book = some b ∧
      (∃ new b', (Specimen.reclaim.run Specimen.posted).store.book = some b' ∧
        Specimen.reclaim.Adds Specimen.posted new ∧
        b.Extends (Specimen.reclaim.Strikes Specimen.posted) new b') ∧
      ∃ new b', (Specimen.posted.through Specimen.twice).store.book = some b' ∧
        b.Extends (fun _ => True) new b' := by
  have hbook : Specimen.posted.store.book = some (Specimen.posted.store.book.getD .empty) := by decide
  obtain ⟨_, hkept⟩ := append_only Specimen.reclaim Specimen.posted
  obtain ⟨⟨new, b', hstore, hadds, hextends⟩, hrun⟩ := hkept _ hbook
  exact ⟨_, hbook, ⟨new, b', by rw [hstore], hadds, hextends⟩, hrun Specimen.twice⟩

end DoubleEntry
