import DoubleEntry.Proofs.Entries
import DoubleEntry.Proofs.Loading

/-!
# Reading back what the books hold

A transaction in the books is a header and some lines, each found by the identifier. What it takes to read it
back is said of these rows alone: there is one header, not deleted; no line is deleted; the lines stand in the
order of their numbers and each can be read. A calm desk then reads exactly that transaction, and it finds
none where no row is left that is not deleted. Whatever happens to rows of other transactions does not matter.
-/

namespace DoubleEntry

open Time

/-! ## What it takes -/

namespace Book

/-- The headers of a transaction, deleted or not. -/
def headersOf (b : Book) (id : TransactionId) : List HeaderRow := b.headers.filter fun h => h.id = id

theorem mem_headersOf {b : Book} {id : TransactionId} {h : HeaderRow} :
    h ∈ b.headersOf id ↔ h ∈ b.headers ∧ h.id = id := by
  unfold headersOf
  rw [List.mem_filter, decide_eq_true_eq]

/-- The books hold this transaction, whole and not deleted. -/
structure Holds (b : Book) (p : Posted) : Prop where
  /-- It has one header, which carries its times and is not deleted. -/
  header : b.headersOf p.transaction.id =
    [⟨p.transaction.id, p.transaction.timestamp, p.createdAt, none⟩]
  /-- No line is deleted. -/
  live : ∀ l ∈ b.linesOf p.transaction.id, l.isLive = true
  /-- The lines stand in the order of their numbers. -/
  ordered : (b.linesOf p.transaction.id).Pairwise fun l k => l.number < k.number
  /-- Each of them can be read. -/
  legible : List.Forall₂ (fun r l => LineRow.line r = .ok l) (b.linesOf p.transaction.id)
    p.transaction.lines

/-- Only rows of the transaction matter. -/
theorem Holds.of_rows {b b' : Book} {p : Posted} (h : b.Holds p)
    (hheaders : b'.headersOf p.transaction.id = b.headersOf p.transaction.id)
    (hlines : b'.linesOf p.transaction.id = b.linesOf p.transaction.id) : b'.Holds p := by
  refine ⟨?_, ?_, ?_, ?_⟩
  · rw [hheaders]
    exact h.header
  all_goals rw [hlines]
  · exact h.live
  · exact h.ordered
  · exact h.legible

theorem Holds.header_mem {b : Book} {p : Posted} (h : b.Holds p) :
    ⟨p.transaction.id, p.transaction.timestamp, p.createdAt, none⟩ ∈ b.headers := by
  have hmem : ⟨p.transaction.id, p.transaction.timestamp, p.createdAt, none⟩ ∈
      b.headersOf p.transaction.id := by
    rw [h.header]
    exact List.mem_singleton_self _
  exact (mem_headersOf.mp hmem).1

/-- There is no other header of the transaction. -/
theorem Holds.header_eq {b : Book} {p : Posted} (h : b.Holds p) {x : HeaderRow} (hx : x ∈ b.headers)
    (hid : x.id = p.transaction.id) :
    x = ⟨p.transaction.id, p.transaction.timestamp, p.createdAt, none⟩ := by
  have hmem := mem_headersOf.mpr ⟨hx, hid⟩
  rw [h.header] at hmem
  exact List.mem_singleton.mp hmem

theorem Holds.hasHeader {b : Book} {p : Posted} (h : b.Holds p) :
    b.hasHeader p.transaction.id = true :=
  hasHeader_iff.mpr ⟨_, h.header_mem, rfl⟩

end Book

/-! ## Lines -/

namespace LineRow

theorem line_ok {r : LineRow} {l : Line} (h : r.line = .ok l) :
    l.account = r.account ∧ Purpose.ofText? r.purpose = some l.purpose ∧ l.amount = r.amount := by
  unfold line at h
  split at h
  · rename_i purpose hpurpose
    cases h
    exact ⟨rfl, hpurpose, rfl⟩
  · cases h

/-- Rows that are numbered without gap stand in the order of their numbers. -/
theorem ordered_of_numbered {rows : List LineRow}
    (h : rows.map number = (List.range rows.length).map fun (i : Nat) => (i : Int)) :
    rows.Pairwise fun l k => l.number < k.number := by
  refine List.pairwise_map.mp ?_
  rw [h]
  refine List.pairwise_map.mpr (List.pairwise_lt_range.imp ?_)
  intro i j hij
  exact Int.ofNat_lt.mpr hij

/-- Rows whose purposes can be read are legible. -/
theorem exists_legible {rows : List LineRow}
    (h : ∀ r ∈ rows, ∃ p, Purpose.ofText? r.purpose = some p) :
    ∃ lines, List.Forall₂ (fun r l => line r = .ok l) rows lines := by
  induction rows with
  | nil => exact ⟨[], .nil⟩
  | cons r rest ih =>
    obtain ⟨p, hp⟩ := h r List.mem_cons_self
    obtain ⟨lines, hlines⟩ := ih fun s hs => h s (List.mem_cons_of_mem _ hs)
    refine ⟨⟨r.account, p, r.amount⟩ :: lines, .cons ?_ hlines⟩
    unfold line
    rw [hp]

/-- A row that is legible is read as a line. -/
theorem exists_of_legible {rows : List LineRow} {lines : List Line}
    (h : List.Forall₂ (fun r l => line r = .ok l) rows lines) {r : LineRow} (hr : r ∈ rows) :
    ∃ l ∈ lines, r.line = .ok l := by
  induction h with
  | nil => exact absurd hr (by simp)
  | @cons s l rows lines hline _ ih =>
    rcases List.mem_cons.mp hr with rfl | hr
    · exact ⟨l, List.mem_cons_self, hline⟩
    · obtain ⟨k, hk, hread⟩ := ih hr
      exact ⟨k, List.mem_cons_of_mem _ hk, hread⟩

/-- Rows that were just written can be read, and are what they were written from. -/
theorem legible_ofLines (id : TransactionId) (createdAt : Timestamp) (n : Nat) (lines : List Line) :
    List.Forall₂ (fun r l => line r = .ok l) (ofLines id createdAt n lines) lines := by
  induction lines generalizing n with
  | nil => exact .nil
  | cons l rest ih =>
    refine .cons ?_ (ih (n + 1))
    unfold line
    rw [Purpose.ofText?_canonical]

end LineRow

/-! ## What is held is found -/

namespace Book

variable {b : Book} {p : Posted} {id : TransactionId}

theorem liveHeader?_eq (b : Book) (id : TransactionId) :
    b.liveHeader? id = (b.headersOf id).reverse.find? HeaderRow.isLive := by
  unfold liveHeader? headersOf
  rw [← List.filter_reverse, List.find?_filter]
  refine congrArg (fun p => b.headers.reverse.find? p) (funext fun h => ?_)
  simp only [Bool.decide_and, Bool.decide_eq_true]

theorem liveLines_eq (b : Book) (id : TransactionId) :
    b.liveLines id =
      Order.sort (fun r s => decide (r.number < s.number)) ((b.linesOf id).filter LineRow.isLive) := by
  unfold liveLines linesOf
  rw [List.filter_filter]
  refine congrArg (Order.sort _) (List.filter_congr fun l _ => ?_)
  rw [Bool.and_comm]

/-- **What is held is found.** -/
theorem Holds.posted?_eq (hp : b.Holds p) : b.posted? p.transaction.id = some p := by
  have hlines : (b.liveLines p.transaction.id).filterMap LineRow.line? = p.transaction.lines := by
    have hsorted : (b.linesOf p.transaction.id).Pairwise
        fun r s => decide (s.number < r.number) = false :=
      hp.ordered.imp fun hlt => decide_eq_false (by omega)
    rw [liveLines_eq, List.filter_eq_self.mpr hp.live, Order.sort_of_sorted hsorted]
    exact LineRow.filterMap_line? hp.legible
  unfold posted?
  rw [liveHeader?_eq, hp.header, hlines]
  rfl

theorem Holds.legible_rows (hp : b.Holds p) :
    ∀ r ∈ b.lines, r.transaction = p.transaction.id → r.Legible := by
  intro r hr hid
  obtain ⟨l, _, hline⟩ := LineRow.exists_of_legible hp.legible (mem_linesOf.mpr ⟨hr, hid⟩)
  exact ⟨l.purpose, (LineRow.line_ok hline).2.1⟩

/-- What looking up one transaction answers when nothing goes wrong. -/
def found (b : Book) (id : TransactionId) : Except LedgerError Posted :=
  match b.posted? id with
  | some p => .ok p
  | none => .error (.transactionNotFound id)

theorem posted?_eq_none (hgone : ∀ h ∈ b.headersOf id, h.isLive = false) : b.posted? id = none := by
  have hnone : b.liveHeader? id = none := by
    rw [liveHeader?_eq, List.find?_eq_none]
    intro h hh
    rw [hgone h (List.mem_reverse.mp hh)]
    simp
  rw [posted?, hnone, Option.map_none]

end Book

/-! ## Reading at a calm desk -/

namespace Desk

variable {d : Desk} {b : Book} {id : TransactionId}

/-- **A transaction that the books hold is read as it is.** -/
theorem load_held {p : Posted} (h : d.Calm) (hb : d.store.book = some b) (hp : b.Holds p) :
    load [p.transaction.id] d = (.ok [p], d.ready) := by
  have hlegible : ∀ r ∈ b.lines, r.isLive = true → r.transaction ∈ [p.transaction.id] →
      r.Legible :=
    fun r hr _ hid => hp.legible_rows r hr (List.mem_singleton.mp hid)
  rw [load_calm h hb (by simp), Book.loaded_eq (List.nodup_singleton _) hlegible,
    List.filterMap_cons_some hp.posted?_eq]
  rfl

/-- Nothing is read where no row is left that is not deleted. -/
theorem load_absent (h : d.Calm) (hb : d.store.book = some b)
    (hheaders : ∀ x ∈ b.headersOf id, x.isLive = false)
    (hlines : ∀ l ∈ b.linesOf id, l.isLive = false) : load [id] d = (.ok [], d.ready) := by
  have hlegible : ∀ r ∈ b.lines, r.isLive = true → r.transaction ∈ [id] → r.Legible := by
    intro r hr hlive hid
    rw [hlines r (Book.mem_linesOf.mpr ⟨hr, List.mem_singleton.mp hid⟩)] at hlive
    cases hlive
  rw [load_calm h hb (by simp), Book.loaded_eq (List.nodup_singleton id) hlegible,
    List.filterMap_cons_none (Book.posted?_eq_none hheaders)]
  rfl

theorem openSnapshot_calm (h : d.Calm) : openSnapshot d = (.ok (), d.ready) := by
  rw [openSnapshot, Work.bind_of_ok (control_calm h .begin), orGiveUp,
    Work.bind_of_ok (control_calm h.ready .setTransaction), control_calm h.ready.ready .setTransaction]
  rfl

/-- A reading that leaves a calm desk is answered once the snapshot is closed. -/
theorem closing_calm {α : Type} {reading : Work LedgerError α} {d d' : Desk}
    {r : Except LedgerError α} (hreading : reading d = (r, d')) (hcalm : d'.Calm)
    (wording : StoreError → LedgerError) : closing wording reading d = (r, d'.ready) := by
  have hattempt : (reading.attempt : Work LedgerError (Except LedgerError α)) d = (.ok r, d') := by
    rw [Work.attempt, hreading]
  have hcommit : (orGiveUp (control .commit)).mapError wording d' = (.ok (), d'.ready) := by
    refine Work.mapError_of_ok ?_
    rw [orGiveUp, control_calm hcalm .commit]
  rw [closing, Work.bind_of_ok hattempt, Work.bind_of_ok hcommit]
  rfl

/-- A look-up answers the one transaction that was loaded, if there is one. -/
theorem found_apply (b : Book) (id : TransactionId) (d : Desk) :
    (match [id].filterMap b.posted? with
      | posted :: _ => (pure posted : Work LedgerError Posted)
      | [] => Work.fail (.transactionNotFound id)) d = (b.found id, d) := by
  unfold Book.found
  cases hfound : b.posted? id with
  | none =>
      rw [List.filterMap_cons_none hfound]
      rfl
  | some p =>
      rw [List.filterMap_cons_some hfound]
      rfl

/-- At a calm desk a transaction is answered as it is found, if the lines of it can be read. -/
theorem get_calm (h : d.Calm) (hb : d.store.book = some b)
    (hlegible : ∀ r ∈ b.lines, r.transaction = id → r.Legible) :
    get id d = (b.found id, d.ready) := by
  have hload : load [id] d.ready = (.ok ([id].filterMap b.posted?), d.ready) := by
    rw [load_calm h.ready hb (by simp), Book.loaded_eq (List.nodup_singleton id)]
    · rfl
    · exact fun r hr _ hid => hlegible r hr (List.mem_singleton.mp hid)
  have hclosing := closing_calm hload h.ready (readError (some id) none)
  rw [get, Work.bind_of_ok (Work.mapError_of_ok (openSnapshot_calm h)), Work.bind_of_ok hclosing]
  exact found_apply b id _

/-- **A transaction that the books hold is answered as it is.** -/
theorem get_held {p : Posted} (h : d.Calm) (hb : d.store.book = some b) (hp : b.Holds p) :
    get p.transaction.id d = (.ok p, d.ready) := by
  rw [get_calm h hb hp.legible_rows, Book.found, hp.posted?_eq]

end Desk

end DoubleEntry
