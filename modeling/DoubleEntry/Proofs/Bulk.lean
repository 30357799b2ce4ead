import DoubleEntry.Proofs.Lifecycle

/-!
# Loading in bulk

What a load of several transactions answers, for any books, header and lines of a transaction deleted together
or not. A load fails if a line that it wants cannot be read, and for no other reason. Otherwise there is one
entry for each transaction asked for whose header is not deleted, in the order asked, and none for the others.
The entries are those of loads of one transaction each.
-/

namespace DoubleEntry

/-! ## Lines that cannot be read -/

namespace LineRow

/-- The line says what the row says. -/
structure Reads (r : LineRow) (l : Line) : Prop where
  account : l.account = r.account
  purpose : Purpose.ofText? r.purpose = some l.purpose
  amount : l.amount = r.amount

theorem not_legible_of_error {r : LineRow} {e : LedgerError} (h : r.line = .error e) :
    ¬ r.Legible := by
  intro hlegible
  obtain ⟨l, hl⟩ := hlegible.exists_line
  rw [line_of_line? hl] at h
  cases h

/-- Every row can be read, or the answer is that for one that cannot. -/
theorem linesOf_cases (rows : List LineRow) :
    (∀ r ∈ rows, r.Legible) ∨ ∃ r ∈ rows, ∃ e, r.line = .error e ∧ linesOf rows = .error e := by
  induction rows with
  | nil => exact Or.inl fun r hr => absurd hr (by simp)
  | cons r rest ih =>
    cases hline : r.line with
    | error e => exact Or.inr ⟨r, List.mem_cons_self, e, hline, by rw [linesOf, hline]⟩
    | ok l =>
        rcases ih with hrest | ⟨s, hs, e, hblurred, hfails⟩
        · refine Or.inl fun s hs => ?_
          rcases List.mem_cons.mp hs with rfl | hs
          · exact ⟨l.purpose, (line_ok hline).2.1⟩
          · exact hrest s hs
        · refine Or.inr ⟨s, List.mem_cons_of_mem _ hs, e, hblurred, ?_⟩
          rw [linesOf, hline, hfails]
          rfl

theorem reads_filterMap {rows : List LineRow} (h : ∀ r ∈ rows, r.Legible) :
    List.Forall₂ Reads rows (rows.filterMap line?) := by
  obtain ⟨lines, hlines⟩ := exists_legible h
  rw [filterMap_line? hlines]
  refine hlines.imp fun r l hline => ?_
  obtain ⟨haccount, hpurpose, hamount⟩ := line_ok hline
  exact ⟨haccount, hpurpose, hamount⟩

end LineRow

/-! ## Entries -/

namespace Book

variable {b : Book} {ids : List TransactionId} {id : TransactionId} {p : Posted}

/-- A line that is wanted for these transactions, and not deleted, has a purpose that cannot be read. -/
def Blurs (b : Book) (ids : List TransactionId) : Prop :=
  ∃ r ∈ b.lines, r.isLive = true ∧ r.transaction ∈ ids ∧ ¬ r.Legible

/-- What a transaction is loaded as: its header and its lines by their numbers, as far as not deleted. -/
structure Records (b : Book) (p : Posted) : Prop where
  header : ∃ h ∈ b.headers, h.isLive = true ∧ h.id = p.transaction.id ∧
    h.timestamp = p.transaction.timestamp ∧ h.createdAt = p.createdAt
  lines : ∃ rows : List LineRow,
    rows.Perm (b.lines.filter fun r => r.transaction = p.transaction.id ∧ r.isLive) ∧
      (rows.Pairwise fun r s => r.number ≤ s.number) ∧
      List.Forall₂ LineRow.Reads rows p.transaction.lines

theorem posted?_id (h : b.posted? id = some p) : p.transaction.id = id := by
  obtain ⟨header, _, rfl⟩ := Option.map_eq_some_iff.mp h
  rfl

theorem liveHeader?_eq_some {h : HeaderRow} (hfound : b.liveHeader? id = some h) :
    h ∈ b.headers ∧ h.id = id ∧ h.isLive = true := by
  unfold liveHeader? at hfound
  have hmem := List.mem_reverse.mp (List.mem_of_find?_eq_some hfound)
  exact ⟨hmem, of_decide_eq_true (List.find?_some hfound :)⟩

theorem posted?_isSome_iff : (b.posted? id).isSome = true ↔ b.Live id := by
  constructor
  · intro h
    obtain ⟨p, hp⟩ := Option.isSome_iff_exists.mp h
    obtain ⟨header, hheader, _⟩ := Option.map_eq_some_iff.mp hp
    obtain ⟨hmem, hid, hlive⟩ := liveHeader?_eq_some hheader
    exact ⟨header, hmem, hid, hlive⟩
  · rintro ⟨h, hmem, hid, hlive⟩
    rw [posted?, Option.isSome_map, liveHeader?, List.find?_isSome]
    exact ⟨h, List.mem_reverse.mpr hmem, decide_eq_true ⟨hid, hlive⟩⟩

theorem liveLines_sorted (b : Book) (id : TransactionId) :
    (b.liveLines id).Pairwise fun r s => r.number ≤ s.number := by
  have hsorted : (b.liveLines id).Pairwise fun r s => decide (s.number < r.number) = false := by
    refine Order.sort_sorted (fun r s h => ?_) (fun r s t hsr hts => ?_) _
    · exact decide_eq_false (Int.lt_asymm (of_decide_eq_true h))
    · rw [decide_eq_false_iff_not] at hsr hts ⊢
      omega
  exact hsorted.imp fun h => Int.not_lt.mp (of_decide_eq_false h)

theorem records_of_posted? (hlegible : ∀ r ∈ b.lines, r.isLive = true → r.transaction = id → r.Legible)
    (h : b.posted? id = some p) : b.Records p := by
  obtain ⟨header, hheader, rfl⟩ := Option.map_eq_some_iff.mp h
  obtain ⟨hmem, hid, hlive⟩ := liveHeader?_eq_some hheader
  refine ⟨⟨header, hmem, hlive, hid, rfl, rfl⟩, b.liveLines id, ?_, b.liveLines_sorted id, ?_⟩
  · refine (Order.sort_perm _ _).trans (List.Perm.of_eq (List.filter_congr fun r _ => ?_))
    rw [Bool.decide_and, Bool.decide_eq_true]
  · refine LineRow.reads_filterMap fun r hr => ?_
    obtain ⟨hr, hkept⟩ := List.mem_filter.mp (Order.mem_sort.mp hr)
    obtain ⟨hid, hlive⟩ := Bool.and_eq_true_iff.mp hkept
    exact hlegible r hr hlive (of_decide_eq_true hid)

/-- There is an entry for each transaction that is not deleted, in the order asked. -/
theorem map_id_posted (b : Book) (ids : List TransactionId) :
    (ids.filterMap b.posted?).map (fun p => p.transaction.id) = ids.filter (b.Live ·) := by
  induction ids with
  | nil => rfl
  | cons id rest ih =>
    cases hp : b.posted? id with
    | none =>
        have hgone : ¬ b.Live id := by
          rw [← posted?_isSome_iff, hp]
          exact Bool.false_ne_true
        rw [List.filterMap_cons_none hp, ih, List.filter_cons_of_neg (by simpa using hgone)]
    | some p =>
        have hlive : b.Live id := posted?_isSome_iff.mp (by rw [hp]; rfl)
        rw [List.filterMap_cons_some hp, List.map_cons, ih, posted?_id hp,
          List.filter_cons_of_pos (by simpa using hlive)]

/-- What is put together for all is what is put together for each, one after the other. -/
theorem flatten_posted (b : Book) (ids : List TransactionId) :
    (ids.map fun id => [id].filterMap b.posted?).flatten = ids.filterMap b.posted? := by
  rw [← List.flatMap_def, List.filterMap_eq_flatMap_toList]
  refine congrArg (ids.flatMap ·) (funext fun id => ?_)
  cases hp : b.posted? id with
  | none => rw [List.filterMap_cons_none hp]; rfl
  | some p => rw [List.filterMap_cons_some hp]; rfl

/-- What is loaded is there for each transaction, or is the error for a line that cannot be read. -/
theorem loaded_cases (b : Book) (hids : ids.Nodup) :
    ((∀ r ∈ b.lines, r.isLive = true → r.transaction ∈ ids → r.Legible) ∧
        b.loaded ids = .ok (ids.filterMap b.posted?)) ∨
      ∃ r ∈ b.lines, r.isLive = true ∧ r.transaction ∈ ids ∧
        ∃ e, r.line = .error e ∧ b.loaded ids = .error e := by
  rcases LineRow.linesOf_cases (b.wantedLines ids) with hall | ⟨r, hr, e, hline, hfails⟩
  · have hlegible : ∀ r ∈ b.lines, r.isLive = true → r.transaction ∈ ids → r.Legible :=
      fun r hr hlive hwanted => hall r (mem_wantedLines.mpr ⟨hr, hwanted, hlive⟩)
    exact Or.inl ⟨hlegible, loaded_eq hids hlegible⟩
  · obtain ⟨hmem, hwanted, hlive⟩ := mem_wantedLines.mp hr
    refine Or.inr ⟨r, hmem, hlive, hwanted, e, hline, ?_⟩
    rw [loaded, hfails]
    rfl

end Book

/-! ## The load -/

namespace Desk

variable {d : Desk} {b : Book}

/-- At a calm desk a load answers what is in the books, be it of no transactions at all. -/
theorem load_answer (h : d.Calm) (hb : d.store.book = some b) (ids : List TransactionId) :
    (load ids d).1 = b.loaded ids := by
  cases ids with
  | nil =>
    have hnone : b.wantedLines [] = [] := by
      have hrows : (b.lines.filter fun l => [].contains l.transaction && l.isLive) = [] :=
        List.filter_eq_nil_iff.mpr fun _ _ => Bool.false_ne_true
      rw [Book.wantedLines, hrows]
      rfl
    rw [Book.loaded, hnone]
    rfl
  | cons id rest => rw [load_calm h hb (List.cons_ne_nil _ _)]

/--
**A load fails for a line that cannot be read, and otherwise answers for each transaction as if it were asked
for alone.** Nothing is assumed of the books.
-/
theorem load_decided (h : d.Calm) (hb : d.store.book = some b) {ids : List TransactionId}
    (hids : ids.Nodup) :
    ((∃ e, (load ids d).1 = .error e) ↔ b.Blurs ids) ∧
      (∀ e, (load ids d).1 = .error e →
        ∃ r ∈ b.lines, r.isLive = true ∧ r.transaction ∈ ids ∧ r.line = .error e) ∧
      ∀ found, (load ids d).1 = .ok found →
        found.map (fun p => p.transaction.id) = ids.filter (b.Live ·) ∧
          (∀ p ∈ found, b.Records p) ∧
          ∃ parts, List.Forall₂ (fun id part => (load [id] d).1 = .ok part) ids parts ∧
            found = parts.flatten := by
  simp only [load_answer h hb]
  rcases b.loaded_cases hids with ⟨hlegible, hloaded⟩ | ⟨r, hr, hlive, hwanted, e, hline, hloaded⟩
  · rw [hloaded]
    refine ⟨⟨?_, ?_⟩, ?_, ?_⟩
    · rintro ⟨e, he⟩
      cases he
    · rintro ⟨r, hr, hlive, hwanted, hblurred⟩
      exact absurd (hlegible r hr hlive hwanted) hblurred
    · intro e he
      cases he
    · intro found hfound
      obtain rfl := Except.ok.inj hfound
      refine ⟨b.map_id_posted ids, ?_, _, ?_, (b.flatten_posted ids).symm⟩
      · intro p hp
        obtain ⟨id, hid, hposted⟩ := List.mem_filterMap.mp hp
        exact Book.records_of_posted? (fun r hr hlive hsame => hlegible r hr hlive (hsame ▸ hid)) hposted
      · rw [List.forall₂_map_right_iff, List.forall₂_same]
        intro id hid
        refine Book.loaded_eq (List.nodup_singleton id) fun r hr hlive hsame => ?_
        exact hlegible r hr hlive (List.mem_singleton.mp hsame ▸ hid)
  · rw [hloaded]
    refine ⟨iff_of_true ⟨e, rfl⟩ ⟨r, hr, hlive, hwanted, LineRow.not_legible_of_error hline⟩, ?_, ?_⟩
    · intro e' he
      obtain rfl := Except.error.inj he
      exact ⟨r, hr, hlive, hwanted, hline⟩
    · intro found hfound
      cases hfound

end Desk

namespace Specimen

/--
Books in which deletion went wrong: of `t` a line was deleted, of `u` the header but not its line, of `v`
the line but not the header, and a line of `w` has a purpose that no longer exists.
-/
def tangled : Book :=
  { book with
    headers := [⟨⟨"t"⟩, noon, noon, none⟩, ⟨⟨"u"⟩, noon, noon, some noon⟩, ⟨⟨"v"⟩, noon, noon, none⟩,
      ⟨⟨"w"⟩, noon, noon, none⟩]
    lines := [⟨⟨"t"⟩, 2, ⟨"b"⟩, "gift", five, noon, some noon⟩,
      ⟨⟨"t"⟩, 1, ⟨"b"⟩, "debit", minusFive, noon, none⟩,
      ⟨⟨"v"⟩, 0, ⟨"a"⟩, "fee", five, noon, some noon⟩, ⟨⟨"u"⟩, 0, ⟨"a"⟩, "fee", five, noon, none⟩,
      ⟨⟨"w"⟩, 0, ⟨"a"⟩, "gift", five, noon, none⟩, ⟨⟨"t"⟩, 0, ⟨"a"⟩, "transfer", five, noon, none⟩] }

def tangledDesk : Desk := ⟨⟨some tangled, none⟩, [], true, false⟩

/-- What is read of `t`. -/
def untangled : Posted :=
  ⟨⟨⟨"t"⟩, noon, [⟨⟨"a"⟩, .transfer, five⟩, ⟨⟨"b"⟩, .achDebit, minusFive⟩]⟩, noon⟩

end Specimen

theorem Desk.load_decided_specimen :
    (∃ found, (load [⟨"v"⟩, ⟨"u"⟩, ⟨"t"⟩] Specimen.tangledDesk).1 = .ok found ∧
        found.map (fun p => p.transaction.id) = [⟨"v"⟩, ⟨"t"⟩] ∧ Specimen.untangled ∈ found ∧
        Specimen.tangled.Records Specimen.untangled) ∧
      ∃ e, (load [⟨"t"⟩, ⟨"w"⟩] Specimen.tangledDesk).1 = .error e := by
  have hcalm : Specimen.tangledDesk.Calm := ⟨rfl, by decide⟩
  have hvut : ([⟨"v"⟩, ⟨"u"⟩, ⟨"t"⟩] : List TransactionId).Nodup := by decide
  have htw : ([⟨"t"⟩, ⟨"w"⟩] : List TransactionId).Nodup := by decide
  obtain ⟨_, _, hanswers⟩ := load_decided (b := Specimen.tangled) hcalm rfl hvut
  obtain ⟨hfails, _, _⟩ := load_decided (b := Specimen.tangled) hcalm rfl htw
  constructor
  · have hfound : (load [⟨"v"⟩, ⟨"u"⟩, ⟨"t"⟩] Specimen.tangledDesk).1 =
        .ok [⟨⟨⟨"v"⟩, Specimen.noon, []⟩, Specimen.noon⟩, Specimen.untangled] := by decide
    obtain ⟨hids, hrecords, _⟩ := hanswers _ hfound
    have hmem : Specimen.untangled ∈
        [⟨⟨⟨"v"⟩, Specimen.noon, []⟩, Specimen.noon⟩, Specimen.untangled] := by decide
    exact ⟨_, hfound, hids, hmem, hrecords _ hmem⟩
  · refine hfails.mpr ⟨⟨⟨"w"⟩, 0, ⟨"a"⟩, "gift", Specimen.five, Specimen.noon, none⟩, by decide,
      rfl, by decide, ?_⟩
    rintro ⟨p, hp⟩
    exact absurd hp (by simp [Purpose.ofText?])

/-- A transaction that is asked for twice has its lines once. -/
example :
    (Desk.load [⟨"t"⟩, ⟨"t"⟩] Specimen.tangledDesk).1 = .ok [Specimen.untangled,
      { Specimen.untangled with transaction.lines := [] }] := by decide

end DoubleEntry
