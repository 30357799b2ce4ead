import DoubleEntry.Reversal
import DoubleEntry.Proofs.Posting
import DoubleEntry.Proofs.Retrieval

/-!
# What taking a transaction back has done when it succeeds

The transaction that the funds check is made on is put together from rows that were read, so it has to be
shown that it is the one in the books: its nets are the opposites of the shares that the lines to be marked
have in the balances. A store that reports no lines is found out by the funds check, which refuses a
transaction without lines. What was checked is then marked, header and lines with one time.
-/

namespace DoubleEntry

open Time

/-! ## Rows read as lines -/

/-- The lines of a transaction, as read, have the nets that the rows have. -/
theorem LineRow.net_of_linesOf {rows : List LineRow} {ls : List (TransactionId × Line)}
    (h : linesOf rows = .ok ls) (id : TransactionId) (a : AccountId) :
    Line.net ((ls.filter fun l => l.1 = id).map Prod.snd) a =
      (rows.map fun r => if r.transaction = id ∧ r.account = a then r.amount.value else 0).sum := by
  rw [Line.net_eq_sum]
  induction rows generalizing ls with
  | nil =>
    cases h
    rfl
  | cons r rest ih =>
    rw [linesOf] at h
    cases hline : r.line with
    | error e => rw [hline] at h; cases h
    | ok l =>
        rw [hline] at h
        cases hrest : linesOf rest with
        | error e => rw [hrest] at h; cases h
        | ok ls' =>
            rw [hrest] at h
            cases h
            obtain ⟨haccount, _, hamount⟩ := line_ok hline
            -- a row counts if it is of the transaction and on the account
            rw [List.map_cons, List.sum_cons, ← ih hrest, ← haccount, ← hamount]
            by_cases hid : r.transaction = id
            · rw [List.filter_cons_of_pos (by simpa using hid), List.map_cons]
              by_cases ha : l.account = a
              · rw [List.filter_cons_of_pos (by simpa using ha), List.map_cons, List.sum_cons,
                  if_pos ⟨hid, ha⟩]
              · rw [List.filter_cons_of_neg (by simpa using ha), if_neg fun h => ha h.2,
                  Int.zero_add]
            · rw [List.filter_cons_of_neg (by simpa using hid), if_neg fun h => hid h.1,
                Int.zero_add]

/-- A line that was read is that of a row, on the same account. -/
theorem LineRow.exists_of_linesOf {rows : List LineRow} {ls : List (TransactionId × Line)}
    (h : linesOf rows = .ok ls) {x : TransactionId × Line} (hx : x ∈ ls) :
    ∃ r ∈ rows, r.transaction = x.1 ∧ r.account = x.2.account := by
  induction rows generalizing ls with
  | nil =>
    cases h
    exact absurd hx (by simp)
  | cons r rest ih =>
    rw [linesOf] at h
    cases hline : r.line with
    | error e => rw [hline] at h; cases h
    | ok l =>
        rw [hline] at h
        cases hrest : linesOf rest with
        | error e => rw [hrest] at h; cases h
        | ok ls' =>
            rw [hrest] at h
            cases h
            rcases List.mem_cons.mp hx with rfl | hx
            · exact ⟨r, List.mem_cons_self, rfl, (line_ok hline).1.symm⟩
            · obtain ⟨s, hs, hsame⟩ := ih hrest hx
              exact ⟨s, List.mem_cons_of_mem _ hs, hsame⟩

/-! ## The opposite transaction -/

namespace Transaction

theorem reversedLines_accounts {lines rs : List Line} (h : reversedLines lines = .ok rs) :
    rs.map Line.account = lines.map Line.account := by
  induction lines generalizing rs with
  | nil =>
    cases h
    rfl
  | cons l rest ih =>
    rw [reversedLines] at h
    cases hl : l.reversed? with
    | none => rw [hl] at h; cases h
    | some r =>
        rw [hl] at h
        cases hrest : reversedLines rest with
        | error e => rw [hrest] at h; cases h
        | ok rs' =>
            rw [hrest] at h
            cases h
            obtain ⟨amount, _, rfl⟩ := Option.map_eq_some_iff.mp hl
            rw [List.map_cons, List.map_cons, ih hrest]

theorem net_reversedLines {lines rs : List Line} (h : reversedLines lines = .ok rs) (a : AccountId) :
    Line.net rs a = -Line.net lines a := by
  rw [Line.net_eq_sum, Line.net_eq_sum]
  induction lines generalizing rs with
  | nil =>
    cases h
    rfl
  | cons l rest ih =>
    rw [reversedLines] at h
    cases hl : l.reversed? with
    | none => rw [hl] at h; cases h
    | some r =>
        rw [hl] at h
        cases hrest : reversedLines rest with
        | error e => rw [hrest] at h; cases h
        | ok rs' =>
            rw [hrest] at h
            cases h
            obtain ⟨amount, hneg, rfl⟩ := Option.map_eq_some_iff.mp hl
            have hamount : amount.value = -l.amount.value := Amount.ofInt?_eq_some.mp hneg
            by_cases ha : l.account = a
            · rw [List.filter_cons_of_pos (by simpa using ha),
                List.filter_cons_of_pos (by simpa using ha), List.map_cons, List.map_cons,
                List.sum_cons, List.sum_cons, ih hrest]
              dsimp only
              omega
            · rw [List.filter_cons_of_neg (by simpa using ha),
                List.filter_cons_of_neg (by simpa using ha), ih hrest]

theorem net_reversed {t r : Transaction} (h : t.reversed = .ok r) (a : AccountId) :
    r.net a = -t.net a := by
  unfold reversed at h
  cases hlines : reversedLines t.lines with
  | error l => rw [hlines] at h; cases h
  | ok rs =>
      rw [hlines] at h
      cases h
      exact net_reversedLines hlines a

end Transaction

/-- A transaction that takes back what the lines of one in the books have done. -/
structure Book.TakenBack (b : Book) (id : TransactionId) (r : Transaction) : Prop where
  /-- There is something to take back. -/
  lines : r.lines ≠ []
  /-- The nets are the opposites of the shares in the balances. -/
  net : ∀ a, r.net a = -((b.linesOf id).map (LineRow.share a)).sum

theorem Book.TakenBack.balance_strike {b : Book} {id : TransactionId} {r : Transaction}
    (h : b.TakenBack id r) (moment : Timestamp) (a : AccountId) :
    (b.strike id moment).balance a = b.balance a + r.net a := by
  rw [b.balance_strike, h.net a]
  omega

/-- The live rows of a transaction, in any order, have the shares of all its lines. -/
theorem Book.sum_share_of_perm {b : Book} {id : TransactionId} {rows : List LineRow}
    (h : rows.Perm (b.lines.filter fun l => [id].contains l.transaction && l.isLive))
    (a : AccountId) :
    (rows.map fun r => if r.transaction = id ∧ r.account = a then r.amount.value else 0).sum =
      ((b.linesOf id).map (LineRow.share a)).sum := by
  rw [(h.map _).sum_eq, linesOf, sum_filter_map, sum_filter_map]
  refine congrArg List.sum (List.map_congr_left fun l _ => ?_)
  unfold LineRow.share LineRow.isLive
  by_cases hid : l.transaction = id
  · cases hlive : l.deletedAt <;> simp [hid]
  · simp [hid]

namespace Desk

/-! ## Loading -/

theorem readLines_ok {id : TransactionId} {d d' : Desk} {rows : List LineRow}
    (h : readLines [id] d = (.ok rows, d')) :
    rows = [] ∨ ∃ b, d.store.book = some b ∧
      rows.Perm (b.lines.filter fun l => [id].contains l.transaction && l.isLive) := by
  obtain ⟨_, ⟨b, hb, hrows⟩ | ⟨hnil, _⟩⟩ := ask_ok h
  · refine Or.inr ⟨b, hb, ?_⟩
    rw [← Except.ok.inj hrows]
    exact Order.sort_perm _ _
  · exact Or.inl hnil

theorem loadForReversal_looks (id : TransactionId) : (loadForReversal id).Looks := by
  refine .bind (load_looks _).mapError fun found => ?_
  split
  · exact .pure _
  · exact .fail _

theorem reversalOf_ok {t r : Transaction} (h : reversalOf t = .ok r) :
    r.lines.map Line.account = t.lines.map Line.account ∧ ∀ a, r.net a = -t.net a := by
  unfold reversalOf at h
  split at h
  · rename_i r' hreversed
    cases h
    refine ⟨?_, Transaction.net_reversed hreversed⟩
    unfold Transaction.reversed at hreversed
    cases hlines : Transaction.reversedLines t.lines with
    | error l => rw [hlines] at hreversed; cases hreversed
    | ok rs =>
        rw [hlines] at hreversed
        cases hreversed
        exact Transaction.reversedLines_accounts hlines
  · cases h

/-- A transaction that was loaded has the lines that were read for it. -/
theorem loadForReversal_rows {id : TransactionId} {d d' : Desk} {posted : Posted}
    (h : loadForReversal id d = (.ok posted, d')) :
    ∃ rows ls, LineRow.linesOf rows = .ok ls ∧
      posted.transaction.lines = (ls.filter fun l => l.1 = id).map Prod.snd ∧
      (rows = [] ∨ ∃ b, d.store.book = some b ∧
        rows.Perm (b.lines.filter fun l => [id].contains l.transaction && l.isLive)) := by
  obtain ⟨found, d₁, hload, hfound⟩ := Work.bind_ok h
  have hload := Work.mapError_ok hload
  rw [load, if_neg (by simp)] at hload
  obtain ⟨hs, d₂, hheaders, hafter⟩ := Work.bind_ok hload
  have hstore₂ := (ask_ok (Work.mapError_ok hheaders)).1
  obtain ⟨rows, d₃, hrows, hread⟩ := Work.bind_ok hafter
  obtain ⟨ls, d₄, hmade, hassembled⟩ := Work.bind_ok hread
  obtain ⟨hlines, _⟩ := Work.ofExcept_ok hmade
  refine ⟨rows, ls, hlines, ?_, ?_⟩
  · cases hassembled
    rw [assemble] at hfound
    cases hheader : headerOf? hs id with
    | none =>
        -- without a header nothing was found
        rw [hheader] at hfound
        cases hfound
    | some header =>
        rw [hheader] at hfound
        cases hfound
        rfl
  · rw [← hstore₂]
    exact readLines_ok (Work.mapError_ok hrows)

/-- A transaction that was loaded has no lines, or it has those in the books. -/
theorem loadForReversal_ok {id : TransactionId} {d d' : Desk} {posted : Posted} {b : Book}
    (h : loadForReversal id d = (.ok posted, d')) (hb : d.store.book = some b) :
    posted.transaction.lines = [] ∨
      ∀ a, posted.transaction.net a = ((b.linesOf id).map (LineRow.share a)).sum := by
  obtain ⟨rows, ls, hlines, hposted, rfl | ⟨b', hb', hperm⟩⟩ := loadForReversal_rows h
  · -- the store reported no row, so there is no line either
    cases hlines
    exact Or.inl hposted
  · obtain rfl : b' = b := Option.some.inj (hb'.symm.trans hb)
    refine Or.inr fun a => ?_
    rw [Transaction.net, hposted]
    exact (LineRow.net_of_linesOf hlines id a).trans (Book.sum_share_of_perm hperm a)

/-- A transaction that was loaded is on accounts of lines in the books. -/
theorem loadForReversal_accounts {id : TransactionId} {d d' : Desk} {posted : Posted}
    (h : loadForReversal id d = (.ok posted, d')) {l : Line} (hl : l ∈ posted.transaction.lines) :
    ∃ b, d.store.book = some b ∧ ∃ r ∈ b.linesOf id, r.account = l.account := by
  obtain ⟨rows, ls, hlines, hposted, hrows⟩ := loadForReversal_rows h
  rw [hposted] at hl
  obtain ⟨x, hx, rfl⟩ := List.mem_map.mp hl
  obtain ⟨hmem, hid⟩ := List.mem_filter.mp hx
  obtain ⟨r, hr, hrid, haccount⟩ := LineRow.exists_of_linesOf hlines hmem
  rcases hrows with rfl | ⟨b, hb, hperm⟩
  · exact absurd hr (by simp)
  · have hmem := (List.mem_filter.mp (hperm.mem_iff.mp hr)).1
    exact ⟨b, hb, r, Book.mem_linesOf.mpr ⟨hmem, hrid.trans (of_decide_eq_true hid)⟩, haccount⟩

/-! ## Marking -/

theorem deleteHeader_ok {id : TransactionId} {moment : Timestamp} {d d' : Desk} {n : Nat}
    (h : deleteHeader id moment d = (.ok n, d')) (hn : n ≠ 0) :
    ∃ b, d.store.book = some b ∧ (∃ x ∈ b.headers, x.id = id ∧ x.isLive = true) ∧
      d'.store = { d.store with
        book := some { b with headers := b.headers.map (HeaderRow.mark id moment.asKept) } } := by
  rcases change_outcome h with ⟨n', b, b', hn', hb, hrun, hstore⟩ | ⟨_, hnothing⟩
  · obtain ⟨hcount, hbook⟩ := Prod.mk.inj (Except.ok.inj hrun)
    refine ⟨b, hb, ?_, by rw [hstore, ← hbook]; rfl⟩
    have hmarked : (b.headers.filter fun h => decide (h.id = id) && h.isLive) ≠ [] := by
      intro hnil
      rw [hnil] at hcount
      exact hn (by rw [Except.ok.inj hn', ← hcount]; rfl)
    obtain ⟨x, hx⟩ := List.exists_mem_of_ne_nil _ hmarked
    obtain ⟨hmem, hx⟩ := List.mem_filter.mp hx
    rw [Bool.and_eq_true, decide_eq_true_eq] at hx
    exact ⟨x, hmem, hx⟩
  · exact absurd (hnothing n rfl).1 hn

/-- Lines that were marked are those of the transaction; a store that is not truthful may mark none. -/
theorem deleteLines_ok {id : TransactionId} {moment : Timestamp} {d d' : Desk} {n : Nat} {b : Book}
    (h : deleteLines id moment d = (.ok n, d')) (hb : d.store.book = some b) :
    ∃ lines, (lines = b.lines ∨ lines = b.lines.map (LineRow.mark id moment.asKept)) ∧
      (d.plan.Truthful → lines = b.lines.map (LineRow.mark id moment.asKept)) ∧
      d'.store = { d.store with book := some { b with lines } } := by
  rcases change_outcome h with ⟨n', b₁, b', hn', hb₁, hrun, hstore⟩ | ⟨hsame, hnothing⟩
  · obtain rfl : b₁ = b := Option.some.inj (hb₁.symm.trans hb)
    obtain ⟨_, hbook⟩ := Prod.mk.inj (Except.ok.inj hrun)
    exact ⟨_, Or.inr rfl, fun _ => rfl, by rw [hstore, ← hbook]; rfl⟩
  · refine ⟨b.lines, Or.inl rfl, fun htruth => ?_, by rw [hsame, ← hb]⟩
    obtain ⟨_, x, hx, hs, he⟩ := hnothing n rfl
    exact absurd hs (htruth x hx he).2

/-! ## The work inside the transaction -/

/-- Rows that were marked are those of the transaction, and its header was live. -/
theorem markRows_ok {scope : Scope} {now : Timestamp} {d d' : Desk}
    (h : markRows scope now d = (.ok (), d')) :
    ∃ b b', d.store.book = some b ∧ (∃ x ∈ b.headers, x.id = scope.transaction ∧ x.isLive = true) ∧
      b.Marked scope.transaction now.asKept b' ∧
      (d.plan.Truthful → b' = b.strike scope.transaction now.asKept) ∧
      d'.store = { d.store with book := some b' } := by
  obtain ⟨marked, d₁, hheader, hmarked⟩ := Work.bind_ok h
  split at hmarked
  · cases hmarked
  · rename_i hsome
    obtain ⟨b, hb, hlive, hstore₁⟩ := deleteHeader_ok (Work.mapError_ok hheader) hsome
    obtain ⟨_, d₂, hlines, hdone⟩ := Work.bind_ok hmarked
    cases hdone
    obtain ⟨lines, hrows, hall, hstore₂⟩ := deleteLines_ok (Work.mapError_ok hlines) (by rw [hstore₁])
    refine ⟨b, { b with headers := b.headers.map (HeaderRow.mark scope.transaction now.asKept), lines },
      hb, hlive, ⟨rfl, rfl, hrows⟩, fun htruth => ?_, by rw [hstore₂, hstore₁]⟩
    rw [hall ((change_truthful _ _ _ _).mapError.of_eq hheader htruth)]
    rfl

/--
**Work that succeeded has struck the transaction**, and only after the opposite was cleared. A store that is
not truthful may have overlooked the lines and had anything cleared.
-/
theorem writeReversal_ok {policy : FundsPolicy} {scope : Scope} {now : Timestamp} {d d' : Desk}
    (h : writeReversal policy scope now d = (.ok (), d')) :
    ∃ b b', d.store.book = some b ∧ (∃ x ∈ b.headers, x.id = scope.transaction ∧ x.isLive = true) ∧
      b.Marked scope.transaction now.asKept b' ∧
      (d.plan.Truthful → b' = b.strike scope.transaction now.asKept ∧
        ∃ r, b.TakenBack scope.transaction r ∧ (b.Keyed → Cleared policy b r)) ∧
      d'.store = { d.store with book := some b' } := by
  rw [writeReversal] at h
  obtain ⟨posted, d₁, hload, hafter⟩ := Work.bind_ok h
  have hloaded := (loadForReversal_looks _).of_eq hload
  obtain ⟨r, d₂, hreverse, hrest⟩ := Work.bind_ok hafter
  obtain ⟨hreversal, rfl⟩ := Work.ofExcept_ok (Work.mapError_ok hreverse)
  obtain ⟨_, d₃, hclear, hmarked⟩ := Work.bind_ok hrest
  have hcleared := (clear_looks policy scope r).of_eq hclear
  obtain ⟨b, b', hb, hlive, hrows, hall, hstore⟩ := markRows_ok hmarked
  rw [hcleared.store, hloaded.store] at hb
  refine ⟨b, b', hb, hlive, hrows, fun htruth => ?_, by
    rw [hstore, hcleared.store, hloaded.store]⟩
  have htruth₁ := htruth.within hloaded.plan
  obtain ⟨_, hlines, b₁, hb₁, hfound⟩ := clear_ok hclear htruth₁
  obtain rfl : b₁ = b := Option.some.inj (hb₁.symm.trans (by rw [hloaded.store]; exact hb))
  refine ⟨hall (htruth₁.within hcleared.plan), r, ⟨hlines, fun a => ?_⟩, hfound⟩
  obtain ⟨haccounts, hopposite⟩ := reversalOf_ok hreversal
  rw [hopposite a]
  rcases loadForReversal_ok hload hb with hnil | hnet
  · rw [hnil, List.map_nil, List.map_eq_nil_iff] at haccounts
    exact absurd haccounts hlines
  · rw [hnet a]

/-- **Taking back that succeeded** has marked the transaction, and nothing else. -/
theorem delete_ok {policy : FundsPolicy} {now : Timestamp} {id : TransactionId} {d d' : Desk}
    (h : delete policy now id d = (.ok (), d')) :
    ∃ b b', d.store.book = some b ∧ (∃ x ∈ b.headers, x.id = id ∧ x.isLive = true) ∧
      b.Marked id now.asKept b' ∧
      (d.plan.Truthful → b' = b.strike id now.asKept ∧
        ∃ r, b.TakenBack id r ∧ (b.Keyed → Cleared policy b r)) ∧
      d'.store = { d.store with book := some b' } := by
  obtain ⟨opened, done, hopened, hwork, hstore⟩ := settle_ok h
  obtain ⟨b, b', hb, hlive, hrows, hall, hdone⟩ := writeReversal_ok hwork
  rw [hopened.store] at hb hdone
  exact ⟨b, b', hb, hlive, hrows, fun htruth => hall (htruth.within hopened.plan),
    hstore.trans hdone⟩

end Desk

end DoubleEntry
