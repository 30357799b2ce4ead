import Mathlib.Data.List.Basic
import DoubleEntry.Reading
import DoubleEntry.Proofs.Order
import DoubleEntry.Proofs.Sending

/-!
# Loading several transactions at once

Transactions are loaded by two looks at the books, one for all the headers and one for all the lines, and put
together by identifier. What comes out is what loading them one by one would give, if none is asked for twice: for
each identifier that has a header, in the order asked, the header's times and the lines of that identifier by
their numbers. Nothing is assumed of the books but that the lines wanted can be read, not even that header and
lines were deleted together.
-/

namespace DoubleEntry

/-! ## Lines as they are read -/

namespace LineRow

/-- The text of the purpose can be read. -/
def Legible (r : LineRow) : Prop := ∃ p, Purpose.ofText? r.purpose = some p

/-- The line that a row stands for, if it can be read. -/
def line? (r : LineRow) : Option Line :=
  (Purpose.ofText? r.purpose).map fun p => ⟨r.account, p, r.amount⟩

theorem line_of_line? {r : LineRow} {l : Line} (h : r.line? = some l) : r.line = .ok l := by
  obtain ⟨p, hp, rfl⟩ := Option.map_eq_some_iff.mp h
  unfold line
  rw [hp]

theorem line?_of_line {r : LineRow} {l : Line} (h : r.line = .ok l) : r.line? = some l := by
  unfold line at h
  split at h
  · rename_i p hp
    cases h
    rw [line?, hp, Option.map_some]
  · cases h

theorem filterMap_line? {rows : List LineRow} {lines : List Line}
    (h : List.Forall₂ (fun r l => line r = .ok l) rows lines) : rows.filterMap line? = lines := by
  induction h with
  | nil => rfl
  | @cons r l rows lines hline _ ih => rw [List.filterMap_cons_some (line?_of_line hline), ih]

theorem Legible.exists_line {r : LineRow} (h : r.Legible) : ∃ l, r.line? = some l := by
  obtain ⟨p, hp⟩ := h
  exact ⟨⟨r.account, p, r.amount⟩, by rw [line?, hp, Option.map_some]⟩

/-- The same line, together with its transaction. -/
def owned? (r : LineRow) : Option (TransactionId × Line) := r.line?.map fun l => (r.transaction, l)

theorem owned?_of_line? {r : LineRow} {l : Line} (h : r.line? = some l) :
    r.owned? = some (r.transaction, l) := by
  rw [owned?, h, Option.map_some]

/-- Legible rows are read, each with its transaction. -/
theorem linesOf_eq {rows : List LineRow} (h : ∀ r ∈ rows, r.Legible) :
    linesOf rows = .ok (rows.filterMap owned?) := by
  induction rows with
  | nil => rfl
  | cons r rest ih =>
    obtain ⟨l, hl⟩ := (h r List.mem_cons_self).exists_line
    have hrest := ih fun s hs => h s (List.mem_cons_of_mem _ hs)
    rw [linesOf, line_of_line? hl, List.filterMap_cons_some (owned?_of_line? hl)]
    dsimp only
    rw [hrest]
    rfl

/-- Of lines that were read together, those of one transaction are those of its rows. -/
theorem lines_of_transaction (rows : List LineRow) (id : TransactionId) :
    ((rows.filterMap owned?).filter fun l => l.1 = id).map Prod.snd =
      (rows.filter fun r => r.transaction = id).filterMap line? := by
  induction rows with
  | nil => rfl
  | cons r rest ih =>
    cases hl : r.line? with
    | none =>
        have howned : r.owned? = none := by rw [owned?, hl, Option.map_none]
        rw [List.filterMap_cons_none howned, ih]
        by_cases hid : r.transaction = id
        · rw [List.filter_cons_of_pos (by simpa using hid), List.filterMap_cons_none hl]
        · rw [List.filter_cons_of_neg (by simpa using hid)]
    | some l =>
        rw [List.filterMap_cons_some (owned?_of_line? hl)]
        by_cases hid : r.transaction = id
        · rw [List.filter_cons_of_pos (by simpa using hid), List.map_cons, ih,
            List.filter_cons_of_pos (by simpa using hid), List.filterMap_cons_some hl]
        · rw [List.filter_cons_of_neg (by simpa using hid), ih,
            List.filter_cons_of_neg (by simpa using hid)]

end LineRow

/-! ## Putting together -/

theorem headerOf?_id {headers : List HeaderRow} {id : TransactionId} {h : HeaderRow}
    (hfind : headerOf? headers id = some h) : h.id = id := by
  unfold headerOf? at hfind
  exact of_decide_eq_true (List.find?_some hfind :)

/-- Among distinct identifiers none takes the lines of another along. -/
theorem assemble_eq {headers : List HeaderRow} {ids : List TransactionId} (hids : ids.Nodup)
    (lines : List (TransactionId × Line)) :
    assemble headers lines ids = ids.filterMap fun id =>
      (headerOf? headers id).map fun h =>
        ⟨⟨id, h.timestamp, (lines.filter fun l => l.1 = id).map Prod.snd⟩, h.createdAt⟩ := by
  induction ids generalizing lines with
  | nil => rfl
  | cons id rest ih =>
    obtain ⟨hnew, hrest⟩ := List.nodup_cons.mp hids
    rw [assemble, List.filterMap_cons]
    cases hheader : headerOf? headers id with
    | none => exact ih hrest lines
    | some h =>
        dsimp only [Option.map_some]
        rw [ih hrest, headerOf?_id hheader]
        refine congrArg (_ :: ·) (List.filterMap_congr fun other hother => ?_)
        have hne : other ≠ id := fun heq => hnew (heq ▸ hother)
        have hkept : (lines.filter fun l => l.1 ≠ id).filter (fun l => l.1 = other) =
            lines.filter fun l => l.1 = other := by
          rw [List.filter_filter]
          refine List.filter_congr fun l _ => ?_
          rw [Bool.eq_iff_iff, Bool.and_eq_true, decide_eq_true_eq, decide_eq_true_eq]
          exact and_iff_left_of_imp fun heq => heq ▸ hne
        rw [hkept]

/-! ## What is looked up -/

namespace Book

/-- The lines are ordered by transaction and, within one, by number. -/
def lineBefore (r s : LineRow) : Bool :=
  decide (r.transaction.text < s.transaction.text) ||
    (decide (r.transaction = s.transaction) && decide (r.number < s.number))

theorem lineBefore_eq_false {r s : LineRow} :
    lineBefore r s = false ↔ ¬ r.transaction.text < s.transaction.text ∧
      (r.transaction = s.transaction → s.number ≤ r.number) := by
  unfold lineBefore
  rw [Bool.or_eq_false_iff, Bool.and_eq_false_imp, decide_eq_false_iff_not]
  refine and_congr_right fun _ => ?_
  rw [decide_eq_true_eq]
  refine imp_congr_right fun _ => ?_
  rw [decide_eq_false_iff_not, Int.not_lt]

theorem lineBefore_asymm (r s : LineRow) (h : lineBefore r s = true) : lineBefore s r = false := by
  rw [lineBefore_eq_false]
  unfold lineBefore at h
  rw [Bool.or_eq_true, Bool.and_eq_true, decide_eq_true_eq, decide_eq_true_eq, decide_eq_true_eq] at h
  rcases h with hlt | ⟨hid, hnumber⟩
  · refine ⟨fun hgt => String.lt_irrefl _ (String.lt_trans hlt hgt), fun hid => ?_⟩
    rw [hid] at hlt
    exact absurd hlt (String.lt_irrefl _)
  · refine ⟨?_, fun _ => Int.le_of_lt hnumber⟩
    rw [hid]
    exact String.lt_irrefl _

theorem lineBefore_negTrans (r s t : LineRow) (hsr : lineBefore s r = false)
    (hts : lineBefore t s = false) : lineBefore t r = false := by
  rw [lineBefore_eq_false] at hsr hts ⊢
  obtain ⟨hsr, hnumber₁⟩ := hsr
  obtain ⟨hts, hnumber₂⟩ := hts
  have hrs : r.transaction.text ≤ s.transaction.text := String.not_lt.mp hsr
  have hst : s.transaction.text ≤ t.transaction.text := String.not_lt.mp hts
  refine ⟨String.not_lt.mpr (String.le_trans hrs hst), fun hid => ?_⟩
  -- the one in the middle is of the same transaction too
  have hmiddle : s.transaction = r.transaction := by
    rw [hid] at hst
    have htext := String.le_antisymm hst hrs
    cases hs : s.transaction
    cases hr : r.transaction
    rw [hs, hr] at htext
    exact congrArg TransactionId.mk htext
  have h₁ := hnumber₁ hmiddle
  have h₂ := hnumber₂ (hid.trans hmiddle.symm)
  omega

variable (b : Book) (ids : List TransactionId)

/-- The headers that are read when these transactions are loaded. -/
def wantedHeaders : List HeaderRow := b.headers.filter fun h => ids.contains h.id && h.isLive

/-- The lines that are read when these transactions are loaded. -/
def wantedLines : List LineRow :=
  Order.sort lineBefore (b.lines.filter fun l => ids.contains l.transaction && l.isLive)

/-- What loading these transactions answers when nothing goes wrong. -/
def loaded : Except LedgerError (List Posted) :=
  (LineRow.linesOf (b.wantedLines ids)).map fun lines => assemble (b.wantedHeaders ids) lines ids

/-- The transaction of this identifier as far as it is not deleted: its header and its lines by number. -/
def posted? (id : TransactionId) : Option Posted :=
  (b.liveHeader? id).map fun h =>
    ⟨⟨id, h.timestamp, (b.liveLines id).filterMap LineRow.line?⟩, h.createdAt⟩

variable {b ids} {id : TransactionId}

/-- Of the headers read together, the one of a transaction is its own. -/
theorem headerOf?_wanted (hid : id ∈ ids) :
    headerOf? (b.wantedHeaders ids) id = b.liveHeader? id := by
  unfold headerOf? wantedHeaders liveHeader?
  rw [← List.filter_reverse, List.find?_filter]
  refine congrArg (fun p => b.headers.reverse.find? p) (funext fun h => ?_)
  rw [Bool.eq_iff_iff]
  simp only [Bool.and_eq_true, decide_eq_true_eq, List.contains_iff_mem]
  constructor
  · rintro ⟨⟨_, hlive⟩, hsame⟩
    exact ⟨hsame, hlive⟩
  · rintro ⟨rfl, hlive⟩
    exact ⟨⟨hid, hlive⟩, rfl⟩

/-- Of the lines read together, those of a transaction are its own, by their numbers. -/
theorem filter_wantedLines (hid : id ∈ ids) :
    (b.wantedLines ids).filter (fun r => r.transaction = id) = b.liveLines id := by
  unfold wantedLines liveLines
  have hrows : (b.lines.filter fun l => ids.contains l.transaction && l.isLive).filter
      (fun r => r.transaction = id) =
        b.lines.filter fun l => decide (l.transaction = id) && l.isLive := by
    rw [List.filter_filter]
    refine List.filter_congr fun l _ => ?_
    rw [Bool.eq_iff_iff]
    simp only [Bool.and_eq_true, decide_eq_true_eq, List.contains_iff_mem]
    constructor
    · rintro ⟨hsame, _, hlive⟩
      exact ⟨hsame, hlive⟩
    · rintro ⟨rfl, hlive⟩
      exact ⟨rfl, hid, hlive⟩
  rw [Order.filter_sort lineBefore_asymm lineBefore_negTrans, hrows]
  -- within one transaction only the numbers decide
  refine Order.sort_congr fun r hr s hs => ?_
  have hrid : r.transaction = id := of_decide_eq_true (Bool.and_eq_true _ _ ▸ (List.mem_filter.mp hr).2).1
  have hsid : s.transaction = id := of_decide_eq_true (Bool.and_eq_true _ _ ▸ (List.mem_filter.mp hs).2).1
  unfold lineBefore
  rw [hrid, hsid, decide_eq_false (String.lt_irrefl _), decide_eq_true rfl, Bool.false_or,
    Bool.true_and]

theorem mem_wantedLines {r : LineRow} :
    r ∈ b.wantedLines ids ↔ r ∈ b.lines ∧ r.transaction ∈ ids ∧ r.isLive = true := by
  unfold wantedLines
  rw [Order.mem_sort, List.mem_filter, Bool.and_eq_true, List.contains_iff_mem]

/-- **Distinct transactions loaded together are what they are one by one.** -/
theorem loaded_eq (hids : ids.Nodup)
    (hlegible : ∀ r ∈ b.lines, r.isLive = true → r.transaction ∈ ids → r.Legible) :
    b.loaded ids = .ok (ids.filterMap b.posted?) := by
  have hread : ∀ r ∈ b.wantedLines ids, r.Legible := by
    intro r hr
    obtain ⟨hmem, hwanted, hlive⟩ := mem_wantedLines.mp hr
    exact hlegible r hmem hlive hwanted
  rw [loaded, LineRow.linesOf_eq hread, Except.map, assemble_eq hids]
  refine congrArg Except.ok (List.filterMap_congr fun id hid => ?_)
  rw [headerOf?_wanted hid, LineRow.lines_of_transaction, filter_wantedLines hid]
  rfl

end Book

/-! ## What a load answers -/

/-- Neither of the two looks that a load takes is answered falsely with no rows. -/
def Plan.Candid (p : Plan) : Prop :=
  ∀ x ∈ p, x.effect = .noRows → x.statement ≠ .readHeaders ∧ x.statement ≠ .readLines

theorem Plan.Candid.within {p q : Plan} (h : q.Candid) (hpq : p.Within q) : p.Candid := by
  intro x hx he
  obtain ⟨y, hy, hys, hye⟩ := hpq x hx
  rw [← hys]
  exact h y hy (hye.trans he)

/-- The reading failed because the store did. -/
def ReadFailed {α : Type} (r : Except LedgerError α) : Prop :=
  ∃ transaction account cause, r = .error (.persistence .read transaction account cause .notAttempted)

namespace Desk

variable {d : Desk} {b : Book} {ids : List TransactionId}

theorem load_looks (ids : List TransactionId) : (load ids).Looks := by
  unfold load
  split
  · exact .pure _
  · refine .bind (ask_looks _ _ _ _).mapError fun _ => ?_
    refine .bind (ask_looks _ _ _ _).mapError fun _ => ?_
    exact .bind (.ofExcept _) fun _ => .pure _

/-- At a calm desk a load answers what is in the books. -/
theorem load_calm (h : d.Calm) (hb : d.store.book = some b) (hne : ids ≠ []) :
    load ids d = (b.loaded ids, d.ready) := by
  have hheaders : readHeaders ids d = (.ok (b.wantedHeaders ids), d.ready) := by
    rw [readHeaders, ask_calm h hb]
    rfl
  have hlines : readLines ids d.ready = (.ok (b.wantedLines ids), d.ready) := by
    rw [readLines, ask_calm h.ready hb]
    rfl
  rw [load, if_neg hne, Work.bind_of_ok (Work.mapError_of_ok hheaders),
    Work.bind_of_ok (Work.mapError_of_ok hlines)]
  unfold Book.loaded
  cases LineRow.linesOf (b.wantedLines ids) <;> rfl

/-- At any desk a load fails because the store does, or it answers what is in the books. -/
theorem load_told (hplan : d.plan.Candid) (hb : d.store.book = some b) (hne : ids ≠ []) :
    ReadFailed (load ids d).1 ∨ (load ids d).1 = b.loaded ids := by
  rw [load, if_neg hne]
  rcases hheaders : readHeaders ids d with ⟨headers, d₁⟩
  cases headers with
  | error e =>
      rw [Work.bind_of_error (Work.mapError_of_error hheaders)]
      exact Or.inl ⟨none, none, e.text, rfl⟩
  | ok headers =>
      obtain ⟨hstore, hseen⟩ := ask_ok hheaders
      have hplan₁ : d₁.plan.Candid := hplan.within ((ask_looks _ _ _ _).of_eq hheaders).plan
      have hfound : headers = b.wantedHeaders ids := by
        rcases hseen with ⟨b₁, hb₁, hanswer⟩ | ⟨_, x, hx, hs, he⟩
        · obtain rfl : b₁ = b := Option.some.inj (hb₁.symm.trans hb)
          exact (Except.ok.inj hanswer).symm
        · exact absurd hs (hplan x hx he).1
      rw [Work.bind_of_ok (Work.mapError_of_ok hheaders), hfound]
      rcases hlines : readLines ids d₁ with ⟨rows, d₂⟩
      cases rows with
      | error e =>
          rw [Work.bind_of_error (Work.mapError_of_error hlines)]
          exact Or.inl ⟨none, none, e.text, rfl⟩
      | ok rows =>
          obtain ⟨_, hseen⟩ := ask_ok hlines
          have hrows : rows = b.wantedLines ids := by
            rcases hseen with ⟨b₁, hb₁, hanswer⟩ | ⟨_, x, hx, hs, he⟩
            · rw [hstore] at hb₁
              obtain rfl : b₁ = b := Option.some.inj (hb₁.symm.trans hb)
              exact (Except.ok.inj hanswer).symm
            · exact absurd hs (hplan₁ x hx he).2
          rw [Work.bind_of_ok (Work.mapError_of_ok hlines), hrows]
          refine Or.inr ?_
          unfold Book.loaded
          cases LineRow.linesOf (b.wantedLines ids) <;> rfl

end Desk

end DoubleEntry
