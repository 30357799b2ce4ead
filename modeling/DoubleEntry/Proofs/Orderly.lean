import DoubleEntry.Proofs.Calls
import DoubleEntry.Proofs.RoundTrip
import DoubleEntry.Proofs.Soundness

/-!
# Books in order

Whether the books balance depends on a store that tells the truth. Whether they can be read does not. However
the store lies about the balances that were asked for or the lines that were to be marked, transactions have
one header each, lines have a header and are in place under it, and the lines of a transaction that is not
deleted are not deleted either. Such books are in order. In them each transaction that is not deleted is held
whole, and looking transactions up finds these and no others.
-/

namespace DoubleEntry

open Time

namespace Book

/-- Books in which every transaction that is not deleted can be read. -/
structure Orderly (b : Book) : Prop where
  /-- Transaction identifiers are unique. -/
  unique : (b.headers.map HeaderRow.id).Nodup
  /-- No line lacks a header. -/
  owned : ∀ l ∈ b.lines, b.hasHeader l.transaction = true
  /-- The texts of the purposes can be read. -/
  legible : ∀ l ∈ b.lines, l.Legible
  /-- The lines of a transaction stand in the order of their numbers. -/
  ordered : ∀ id, (b.linesOf id).Pairwise fun l k => l.number < k.number
  /-- Lines were created with their header. -/
  created : ∀ h ∈ b.headers, ∀ l ∈ b.linesOf h.id, l.createdAt = h.createdAt
  /-- No line of a header that is not deleted is deleted. -/
  live : ∀ h ∈ b.headers, h.isLive = true → ∀ l ∈ b.linesOf h.id, l.isLive = true

variable {b b' : Book} {id : TransactionId}

theorem orderly_init (hheaders : b.headers = []) (hlines : b.lines = []) : b.Orderly where
  unique := by rw [hheaders]; exact List.nodup_nil
  owned := by rw [hlines]; exact fun l hl => absurd hl (by simp)
  legible := by rw [hlines]; exact fun l hl => absurd hl (by simp)
  ordered := by
    intro id
    unfold linesOf
    rw [hlines]
    exact List.Pairwise.nil
  created := by rw [hheaders]; exact fun h hh => absurd hh (by simp)
  live := by rw [hheaders]; exact fun h hh => absurd hh (by simp)

/-! ## Sound books are in order -/

/-- A line in sound books is owed to a header, and is as live as that. -/
theorem Sound.header_of_line (hb : b.Sound) {l : LineRow} (hl : l ∈ b.linesOf id) :
    ∃ h ∈ b.headers, h.id = id ∧ l ∈ b.linesOf h.id ∧ l.deletedAt = h.deletedAt := by
  obtain ⟨hmem, hid⟩ := mem_linesOf.mp hl
  obtain ⟨h, hh, hhl⟩ := hasHeader_iff.mp (hb.owned l hmem)
  have hown : l ∈ b.linesOf h.id := mem_linesOf.mpr ⟨hmem, hhl.symm⟩
  exact ⟨h, hh, hhl.trans hid, hown, (hb.whole h hh).together l hown⟩

theorem Sound.ordered (hb : b.Sound) (id : TransactionId) :
    (b.linesOf id).Pairwise fun l k => l.number < k.number := by
  cases hlines : b.linesOf id with
  | nil => exact List.Pairwise.nil
  | cons l rest =>
    have hl : l ∈ b.linesOf id := by
      rw [hlines]
      exact List.mem_cons_self
    obtain ⟨h, hh, rfl, _⟩ := hb.header_of_line hl
    rw [← hlines]
    exact LineRow.ordered_of_numbered (hb.whole h hh).numbered

theorem Sound.orderly (hb : b.Sound) : b.Orderly where
  unique := hb.unique
  owned := hb.owned
  legible := by
    intro l hl
    obtain ⟨h, hh, _, hown, _⟩ := hb.header_of_line (mem_linesOf.mpr ⟨hl, rfl⟩)
    exact (hb.whole h hh).purposes l hown
  ordered := hb.ordered
  created := fun h hh => (hb.whole h hh).created
  live := by
    intro h hh hkept l hl
    rw [LineRow.isLive, (hb.whole h hh).together l hl]
    exact hkept

/-! ## Every change keeps the order -/

theorem Orderly.entered (hb : b.Orderly) {t : Transaction} {createdAt : Timestamp}
    (hnew : b.hasHeader t.id = false) : (b.enter t createdAt).Orderly := by
  have hlines : ∀ l ∈ b.lines, l.transaction ≠ t.id := fun l hl => line_ne_of_new hnew hb.owned hl
  -- the lines of a header are its old ones, or all of them are new
  have hother : ∀ h ∈ b.headers, (b.enter t createdAt).linesOf h.id = b.linesOf h.id :=
    fun h hh => linesOf_enter_other (header_ne_of_new hnew hh)
  have hself : (b.enter t createdAt).linesOf t.id = LineRow.ofLines t.id createdAt.asKept 0 t.lines :=
    linesOf_enter_self hlines
  refine ⟨unique_enter hb.unique hnew, owned_enter hb.owned, ?_, ?_, ?_, ?_⟩
  · intro l hl
    rcases List.mem_append.mp hl with hl | hl
    · exact hb.legible l hl
    · obtain ⟨_, _, _, k, _, _, hpurpose, _⟩ := LineRow.mem_ofLines hl
      exact ⟨k.purpose, by rw [hpurpose]; exact Purpose.ofText?_canonical _⟩
  · intro id
    by_cases hid : id = t.id
    · rw [hid, hself]
      refine LineRow.ordered_of_numbered ?_
      rw [LineRow.map_number_ofLines, LineRow.length_ofLines, List.range_eq_range']
    · rw [linesOf_enter_other hid]
      exact hb.ordered id
  · intro h hh
    rcases List.mem_append.mp hh with hh | hh
    · rw [hother h hh]
      exact hb.created h hh
    · obtain rfl := List.mem_singleton.mp hh
      rw [hself]
      intro l hl
      exact (LineRow.mem_ofLines hl).2.1
  · intro h hh hkept
    rcases List.mem_append.mp hh with hh | hh
    · rw [hother h hh]
      exact hb.live h hh hkept
    · obtain rfl := List.mem_singleton.mp hh
      rw [hself]
      intro l hl
      rw [LineRow.isLive, (LineRow.mem_ofLines hl).2.2.1]
      rfl

theorem Orderly.marked (hb : b.Orderly) {moment : Timestamp} (h : b.Marked id moment b') :
    b'.Orderly := by
  refine ⟨?_, h.owned hb.owned, ?_, ?_, ?_, ?_⟩
  · rw [h.map_id_headers]
    exact hb.unique
  · intro r hr
    obtain ⟨l, hl, hrow⟩ := h.exists_line (mem_linesOf.mpr ⟨hr, rfl⟩)
    rw [hrow]
    exact hb.legible l (mem_linesOf.mp hl).1
  · intro i
    rcases h.linesOf_cases i with hsame | hmarked
    · rw [hsame]
      exact hb.ordered i
    · rw [hmarked]
      refine List.pairwise_map.mpr ((hb.ordered i).imp fun hlt => ?_)
      rw [LineRow.mark_number, LineRow.mark_number]
      exact hlt
  · intro x hx r hr
    rw [h.headers] at hx
    obtain ⟨k, hk, rfl⟩ := List.mem_map.mp hx
    rw [HeaderRow.mark_id] at hr
    obtain ⟨l, hl, hrow⟩ := h.exists_line hr
    rw [hrow, HeaderRow.mark_createdAt]
    exact hb.created k hk l hl
  · intro x hx hkept
    rw [h.headers] at hx
    obtain ⟨k, hk, rfl⟩ := List.mem_map.mp hx
    obtain ⟨hne, hlive⟩ := HeaderRow.not_marked _ _ hkept
    -- its lines are those of another transaction
    rw [HeaderRow.mark_id, (h.rows_of_other hne).2]
    exact hb.live k hk hlive

/-- **Every change of the books keeps their order**, whatever it was that the store told. -/
theorem Orderly.made (hb : b.Orderly) {d : Desk} {o : Operation} (h : o.Makes d b b') :
    b'.Orderly := by
  cases h with
  | opened _ _ _ => exact ⟨hb.unique, hb.owned, hb.legible, hb.ordered, hb.created, hb.live⟩
  | entered _ _ _ hnew => exact hb.entered hnew
  | marked _ _ hmarked => exact hb.marked hmarked

end Book

/-- **The books are in order after every run** from a store without transactions. -/
theorem Desk.through_orderly {d : Desk} {b : Book} (hb : d.store.book = some b)
    (hheaders : b.headers = []) (hlines : b.lines = []) (turns : List Turn) :
    ∃ b', (d.through turns).store.book = some b' ∧ b'.Orderly :=
  Desk.through_induct hb (Book.orderly_init hheaders hlines) (fun _ _ _ _ hb hmade => hb.made hmade) turns

/-! ## What is in order is held -/

/-- Where keys are not repeated, the key of a row picks out this row. -/
theorem filter_key_eq {α κ : Type} [DecidableEq κ] {key : α → κ} {rows : List α}
    (hnodup : (rows.map key).Nodup) {r : α} (hr : r ∈ rows) :
    (rows.filter fun x => decide (key x = key r)) = [r] := by
  induction rows with
  | nil => exact absurd hr (by simp)
  | cons x rest ih =>
    obtain ⟨hx, hrest⟩ := List.nodup_cons.mp hnodup
    rcases List.mem_cons.mp hr with rfl | hr
    · have hnone : (rest.filter fun x => decide (key x = key r)) = [] := by
        refine List.filter_eq_nil_iff.mpr fun y hy hkey => hx ?_
        exact List.mem_map.mpr ⟨y, hy, of_decide_eq_true hkey⟩
      rw [List.filter_cons_of_pos (by simp), hnone]
    · have hne : key x ≠ key r := by
        intro hkey
        exact hx (List.mem_map.mpr ⟨r, hr, hkey.symm⟩)
      rw [List.filter_cons_of_neg (by simpa using hne), ih hrest hr]

namespace Book

variable {b : Book} {id : TransactionId} {p : Posted}

theorem Orderly.headersOf_eq (hb : b.Orderly) {h : HeaderRow} (hh : h ∈ b.headers) :
    b.headersOf h.id = [h] :=
  filter_key_eq hb.unique hh

theorem Orderly.holds (hb : b.Orderly) (hlive : b.Live id) :
    ∃ p, p.transaction.id = id ∧ b.Holds p := by
  obtain ⟨h, hh, rfl, hkept⟩ := hlive
  have hnone : h.deletedAt = none := Option.isNone_iff_eq_none.mp hkept
  have hpurposes : ∀ l ∈ b.linesOf h.id, ∃ p, Purpose.ofText? l.purpose = some p :=
    fun l hl => hb.legible l (mem_linesOf.mp hl).1
  obtain ⟨lines, hlegible⟩ := LineRow.exists_legible hpurposes
  refine ⟨⟨⟨h.id, h.timestamp, lines⟩, h.createdAt⟩, rfl, ?_, hb.live h hh hkept, hb.ordered h.id,
    hlegible⟩
  have hheader : h = ⟨h.id, h.timestamp, h.createdAt, none⟩ := by rw [← hnone]
  rw [hb.headersOf_eq hh]
  exact congrArg (fun x => [x]) hheader

/-! ## What is held is found -/

theorem not_live_header (hgone : ¬ b.Live id) : ∀ h ∈ b.headersOf id, h.isLive = false := by
  intro h hh
  obtain ⟨hmem, hid⟩ := mem_headersOf.mp hh
  by_contra hkept
  exact hgone ⟨h, hmem, hid, by simpa using hkept⟩

theorem posted?_of_not_live (hgone : ¬ b.Live id) : b.posted? id = none :=
  posted?_eq_none (not_live_header hgone)

theorem Holds.live_header (hp : b.Holds p) : b.Live p.transaction.id :=
  ⟨_, hp.header_mem, rfl, rfl⟩

/-- **In books that are in order, what is found is what is held.** -/
theorem Orderly.posted?_eq_some (hb : b.Orderly) :
    b.posted? id = some p ↔ p.transaction.id = id ∧ b.Holds p := by
  constructor
  · intro hfound
    by_cases hlive : b.Live id
    · obtain ⟨q, rfl, hq⟩ := hb.holds hlive
      rw [hq.posted?_eq] at hfound
      obtain rfl := Option.some.inj hfound
      exact ⟨rfl, hq⟩
    · rw [posted?_of_not_live hlive] at hfound
      cases hfound
  · rintro ⟨rfl, hp⟩
    exact hp.posted?_eq

end Book

end DoubleEntry
