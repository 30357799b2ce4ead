import DoubleEntry.Proofs.Books

/-!
# The two changes of the books

A posting enters a header and its lines at the end of the tables; taking a transaction back marks its
header and its lines with one time. No other row changes. Either way every balance moves by exactly the
net of the transaction, up or down.
-/

namespace DoubleEntry

open Time

/-! ## Entering -/

/-- Lines as rows of a transaction, numbered from `n` on. -/
def LineRow.ofLines (id : TransactionId) (createdAt : Timestamp) : Nat → List Line → List LineRow
  | _, [] => []
  | n, l :: rest =>
    ⟨id, n, l.account, l.purpose.canonical, l.amount, createdAt, none⟩ ::
      ofLines id createdAt (n + 1) rest

/-- The books with a transaction entered. -/
def Book.enter (b : Book) (t : Transaction) (createdAt : Timestamp) : Book :=
  { b with
    headers := b.headers ++ [⟨t.id, t.timestamp.asKept, createdAt.asKept, none⟩]
    lines := b.lines ++ LineRow.ofLines t.id createdAt.asKept 0 t.lines }

namespace LineRow

variable {id : TransactionId} {createdAt : Timestamp}

theorem mem_ofLines {n : Nat} {lines : List Line} {r : LineRow}
    (h : r ∈ ofLines id createdAt n lines) :
    r.transaction = id ∧ r.createdAt = createdAt ∧ r.deletedAt = none ∧
      ∃ l ∈ lines, r.account = l.account ∧ r.purpose = l.purpose.canonical ∧ r.amount = l.amount := by
  induction lines generalizing n with
  | nil => exact absurd h (by simp [ofLines])
  | cons l rest ih =>
    rcases List.mem_cons.mp h with rfl | h
    · exact ⟨rfl, rfl, rfl, l, List.mem_cons_self, rfl, rfl, rfl⟩
    · obtain ⟨hid, hcreated, hlive, l', hl', hsame⟩ := ih h
      exact ⟨hid, hcreated, hlive, l', List.mem_cons_of_mem _ hl', hsame⟩

/-- Rows are numbered without gap or repetition. -/
theorem map_number_ofLines (n : Nat) (lines : List Line) :
    (ofLines id createdAt n lines).map LineRow.number =
      (List.range' n lines.length).map fun (i : Nat) => (i : Int) := by
  induction lines generalizing n with
  | nil => rfl
  | cons l rest ih =>
    rw [ofLines, List.map_cons, ih, List.length_cons, List.range'_succ, List.map_cons]

theorem length_ofLines (n : Nat) (lines : List Line) :
    (ofLines id createdAt n lines).length = lines.length := by
  rw [← List.length_map (f := LineRow.number), map_number_ofLines, List.length_map,
    List.length_range']

theorem map_amount_ofLines (n : Nat) (lines : List Line) :
    (ofLines id createdAt n lines).map LineRow.amount = lines.map Line.amount := by
  induction lines generalizing n with
  | nil => rfl
  | cons l rest ih => rw [ofLines, List.map_cons, ih, List.map_cons]

theorem map_account_ofLines (n : Nat) (lines : List Line) :
    (ofLines id createdAt n lines).map LineRow.account = lines.map Line.account := by
  induction lines generalizing n with
  | nil => rfl
  | cons l rest ih => rw [ofLines, List.map_cons, ih, List.map_cons]

/-- New rows add the net of the lines they were made from. -/
theorem sum_share_ofLines (n : Nat) (lines : List Line) (a : AccountId) :
    ((ofLines id createdAt n lines).map (share a)).sum = Line.net lines a := by
  rw [Line.net_eq_sum, sum_filter_map]
  induction lines generalizing n with
  | nil => rfl
  | cons l rest ih =>
    rw [ofLines, List.map_cons, List.sum_cons, ih, List.map_cons, List.sum_cons]
    refine congrArg (· + _) (if_congr ?_ rfl rfl)
    rw [decide_eq_true_eq]
    exact and_iff_left rfl

end LineRow

namespace Book

variable {b : Book} {t : Transaction} {createdAt : Timestamp}

/-- **Entering moves every balance by the net.** -/
theorem balance_enter (b : Book) (t : Transaction) (createdAt : Timestamp) (a : AccountId) :
    (b.enter t createdAt).balance a = b.balance a + t.net a := by
  rw [balance_eq_sum, balance_eq_sum, enter, List.map_append, List.sum_append,
    LineRow.sum_share_ofLines]
  rfl

theorem linesOf_enter_self (hnew : ∀ l ∈ b.lines, l.transaction ≠ t.id) :
    (b.enter t createdAt).linesOf t.id = LineRow.ofLines t.id createdAt.asKept 0 t.lines := by
  have hold : (b.lines.filter fun l => decide (l.transaction = t.id)) = [] :=
    List.filter_eq_nil_iff.mpr fun l hl => by simpa using hnew l hl
  unfold linesOf enter
  rw [List.filter_append, hold, List.nil_append]
  refine List.filter_eq_self.mpr fun r hr => ?_
  rw [(LineRow.mem_ofLines hr).1]
  exact decide_eq_true rfl

theorem linesOf_enter_other {id : TransactionId} (hne : id ≠ t.id) :
    (b.enter t createdAt).linesOf id = b.linesOf id := by
  have hnone : ((LineRow.ofLines t.id createdAt.asKept 0 t.lines).filter
      fun l => decide (l.transaction = id)) = [] := by
    refine List.filter_eq_nil_iff.mpr fun r hr => ?_
    rw [(LineRow.mem_ofLines hr).1, decide_eq_true_eq]
    exact hne.symm
  unfold linesOf enter
  rw [List.filter_append, hnone, List.append_nil]

/-- A free identifier is that of no header. -/
theorem header_ne_of_new {id : TransactionId} (hnew : b.hasHeader id = false) {h : HeaderRow}
    (hh : h ∈ b.headers) : h.id ≠ id := by
  intro hid
  have htaken := hasHeader_iff.mpr ⟨h, hh, hid⟩
  rw [hnew] at htaken
  cases htaken

/-- Nor is it that of a line, where every line has a header. -/
theorem line_ne_of_new {id : TransactionId} (hnew : b.hasHeader id = false)
    (howned : ∀ l ∈ b.lines, b.hasHeader l.transaction = true) {l : LineRow} (hl : l ∈ b.lines) :
    l.transaction ≠ id := by
  intro hid
  have htaken := howned l hl
  rw [hid, hnew] at htaken
  cases htaken

theorem unique_enter (hunique : (b.headers.map HeaderRow.id).Nodup)
    (hnew : b.hasHeader t.id = false) : ((b.enter t createdAt).headers.map HeaderRow.id).Nodup := by
  unfold enter
  rw [List.map_append, List.nodup_append]
  refine ⟨hunique, List.nodup_singleton _, ?_⟩
  rintro i hi j hj rfl
  obtain ⟨h, hh, hhi⟩ := List.mem_map.mp hi
  exact header_ne_of_new hnew hh (hhi.trans (List.mem_singleton.mp hj))

theorem owned_enter (howned : ∀ l ∈ b.lines, b.hasHeader l.transaction = true) :
    ∀ l ∈ (b.enter t createdAt).lines, (b.enter t createdAt).hasHeader l.transaction = true := by
  intro l hl
  rcases List.mem_append.mp hl with hl | hl
  · obtain ⟨h, hh, hhl⟩ := hasHeader_iff.mp (howned l hl)
    exact hasHeader_iff.mpr ⟨h, List.mem_append_left _ hh, hhl⟩
  · refine hasHeader_iff.mpr ⟨_, List.mem_append_right _ (List.mem_singleton_self _), ?_⟩
    exact (LineRow.mem_ofLines hl).1.symm

end Book

/-! ## Striking -/

/-- The header, marked deleted if it is the transaction's and not deleted yet. -/
def HeaderRow.mark (id : TransactionId) (moment : Timestamp) (h : HeaderRow) : HeaderRow :=
  if h.id = id ∧ h.isLive then { h with deletedAt := some moment } else h

/-- The line, marked deleted if it is the transaction's and not deleted yet. -/
def LineRow.mark (id : TransactionId) (moment : Timestamp) (l : LineRow) : LineRow :=
  if l.transaction = id ∧ l.isLive then { l with deletedAt := some moment } else l

/-- The books with a transaction marked deleted. -/
def Book.strike (b : Book) (id : TransactionId) (moment : Timestamp) : Book :=
  { b with
    headers := b.headers.map (HeaderRow.mark id moment)
    lines := b.lines.map (LineRow.mark id moment) }

/-- Books in which the header of a transaction was marked deleted, and its lines too or none of them. -/
structure Book.Marked (b : Book) (id : TransactionId) (moment : Timestamp) (b' : Book) : Prop where
  /-- The accounts are the same. -/
  accounts : b'.accounts = b.accounts
  /-- The header is marked. -/
  headers : b'.headers = b.headers.map (HeaderRow.mark id moment)
  /-- The lines are marked, or overlooked. -/
  lines : b'.lines = b.lines ∨ b'.lines = b.lines.map (LineRow.mark id moment)

section

variable (id : TransactionId) (moment : Timestamp)

@[simp] theorem HeaderRow.mark_id (h : HeaderRow) : (h.mark id moment).id = h.id := by
  unfold mark
  split <;> rfl

@[simp] theorem HeaderRow.mark_createdAt (h : HeaderRow) :
    (h.mark id moment).createdAt = h.createdAt := by
  unfold mark
  split <;> rfl

theorem HeaderRow.mark_of_other {h : HeaderRow} (hne : h.id ≠ id) : h.mark id moment = h :=
  if_neg fun hh => hne hh.1

/-- A header that is not deleted after a marking was not marked. -/
theorem HeaderRow.not_marked {h : HeaderRow} (hkept : (h.mark id moment).isLive = true) :
    h.id ≠ id ∧ h.isLive = true := by
  unfold mark at hkept
  split at hkept
  · cases hkept
  · rename_i hnot
    exact ⟨fun hid => hnot ⟨hid, hkept⟩, hkept⟩

theorem LineRow.mark_of_other {l : LineRow} (hne : l.transaction ≠ id) : l.mark id moment = l :=
  if_neg fun hl => hne hl.1

/-- A mark changes nothing but the time of deletion. -/
theorem LineRow.mark_eq (l : LineRow) :
    l.mark id moment = { l with deletedAt := (l.mark id moment).deletedAt } := by
  unfold mark
  split <;> rfl

@[simp] theorem LineRow.mark_transaction (l : LineRow) :
    (l.mark id moment).transaction = l.transaction := by
  rw [mark_eq]

@[simp] theorem LineRow.mark_number (l : LineRow) : (l.mark id moment).number = l.number := by
  rw [mark_eq]

@[simp] theorem LineRow.mark_account (l : LineRow) : (l.mark id moment).account = l.account := by
  rw [mark_eq]

@[simp] theorem LineRow.mark_purpose (l : LineRow) : (l.mark id moment).purpose = l.purpose := by
  rw [mark_eq]

@[simp] theorem LineRow.mark_amount (l : LineRow) : (l.mark id moment).amount = l.amount := by
  rw [mark_eq]

@[simp] theorem LineRow.mark_createdAt (l : LineRow) :
    (l.mark id moment).createdAt = l.createdAt := by
  rw [mark_eq]

/-- A header and a line of one transaction that were deleted alike stay so. -/
theorem mark_deletedAt_eq {h : HeaderRow} {l : LineRow} (hid : l.transaction = h.id)
    (hsame : l.deletedAt = h.deletedAt) :
    (l.mark id moment).deletedAt = (h.mark id moment).deletedAt := by
  have hiff : (l.transaction = id ∧ l.isLive = true) ↔ (h.id = id ∧ h.isLive = true) := by
    unfold LineRow.isLive HeaderRow.isLive
    rw [hid, hsame]
  unfold LineRow.mark HeaderRow.mark
  by_cases hm : h.id = id ∧ h.isLive = true
  · rw [if_pos hm, if_pos (hiff.mpr hm)]
  · rw [if_neg hm, if_neg (mt hiff.mp hm), hsame]

/-- A marked line has no share in any balance. -/
theorem LineRow.share_mark (a : AccountId) (l : LineRow) :
    (l.mark id moment).share a = if l.transaction = id then 0 else l.share a := by
  by_cases hid : l.transaction = id
  · rw [if_pos hid]
    refine share_of_dead ?_ a
    unfold mark
    split
    · exact Option.some_ne_none _
    · rename_i hdead
      intro hlive
      exact hdead ⟨hid, by rw [isLive, hlive]; rfl⟩
  · rw [if_neg hid, mark_of_other id moment hid]

end

namespace Book

theorem linesOf_strike (b : Book) (id : TransactionId) (moment : Timestamp) (i : TransactionId) :
    (b.strike id moment).linesOf i = (b.linesOf i).map (LineRow.mark id moment) := by
  unfold linesOf strike
  rw [List.filter_map]
  refine congrArg (List.map _) (List.filter_congr fun l _ => ?_)
  rw [Function.comp_apply, LineRow.mark_transaction]

/-- **Striking takes the shares of the transaction's lines away.** -/
theorem balance_strike (b : Book) (id : TransactionId) (moment : Timestamp) (a : AccountId) :
    (b.strike id moment).balance a =
      b.balance a - ((b.linesOf id).map (LineRow.share a)).sum := by
  rw [balance_eq_sum, balance_eq_sum, strike, linesOf, sum_filter_map]
  dsimp only
  -- line by line: a marked line loses its share, any other keeps it
  induction b.lines with
  | nil => rfl
  | cons l rest ih =>
    rw [List.map_cons, List.map_cons, List.sum_cons, ih, List.map_cons, List.sum_cons,
      List.map_cons, List.sum_cons, LineRow.share_mark]
    by_cases hid : l.transaction = id
    · rw [if_pos hid, if_pos (decide_eq_true hid)]
      omega
    · rw [if_neg hid, if_neg (by simpa using hid)]
      omega

namespace Marked

variable {b b' : Book} {id : TransactionId} {moment : Timestamp}

/-- Striking marks all that is to be marked. -/
theorem strike (b : Book) (id : TransactionId) (moment : Timestamp) :
    b.Marked id moment (b.strike id moment) :=
  ⟨rfl, rfl, Or.inr rfl⟩

theorem map_id_headers (h : b.Marked id moment b') :
    b'.headers.map HeaderRow.id = b.headers.map HeaderRow.id := by
  rw [h.headers, List.map_map]
  exact List.map_congr_left fun x _ => HeaderRow.mark_id id moment x

theorem hasHeader (h : b.Marked id moment b') {i : TransactionId} (hi : b.hasHeader i = true) :
    b'.hasHeader i = true := by
  obtain ⟨x, hx, hxi⟩ := hasHeader_iff.mp hi
  refine hasHeader_iff.mpr ⟨x.mark id moment, ?_, (HeaderRow.mark_id id moment x).trans hxi⟩
  rw [h.headers]
  exact List.mem_map_of_mem hx

/-- The lines of each transaction are marked, or overlooked. -/
theorem linesOf_cases (h : b.Marked id moment b') (i : TransactionId) :
    b'.linesOf i = b.linesOf i ∨ b'.linesOf i = (b.linesOf i).map (LineRow.mark id moment) := by
  rcases h.lines with hlines | hlines
  · refine Or.inl ?_
    unfold linesOf
    rw [hlines]
  · refine Or.inr ?_
    rw [← linesOf_strike]
    unfold linesOf
    rw [hlines]
    rfl

/-- A line of the later books is one of the earlier, but for a time of deletion. -/
theorem exists_line (h : b.Marked id moment b') {i : TransactionId} {r : LineRow}
    (hr : r ∈ b'.linesOf i) : ∃ l ∈ b.linesOf i, r = { l with deletedAt := r.deletedAt } := by
  rcases h.linesOf_cases i with hsame | hmarked
  · rw [hsame] at hr
    exact ⟨r, hr, rfl⟩
  · rw [hmarked] at hr
    obtain ⟨l, hl, rfl⟩ := List.mem_map.mp hr
    exact ⟨l, hl, LineRow.mark_eq id moment l⟩

theorem owned (h : b.Marked id moment b')
    (howned : ∀ l ∈ b.lines, b.hasHeader l.transaction = true) :
    ∀ l ∈ b'.lines, b'.hasHeader l.transaction = true := by
  intro r hr
  obtain ⟨l, hl, _⟩ := h.exists_line (mem_linesOf.mpr ⟨hr, rfl⟩)
  obtain ⟨hmem, hid⟩ := mem_linesOf.mp hl
  rw [← hid]
  exact h.hasHeader (howned l hmem)

end Marked

end Book

end DoubleEntry
