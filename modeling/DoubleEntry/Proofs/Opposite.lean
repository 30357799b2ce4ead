import DoubleEntry.Proofs.Orderly
import DoubleEntry.Proofs.Retraction

/-!
# The opposite of what the books hold

Sound books hold each transaction that is not deleted, whole, so reading it gives its rows again. What is
read is turned line by line into its opposite, and the first line that cannot be turned is that of the row
with the least number among those that cannot. Where all lines can be turned, the opposite involves the
accounts of the rows and moves each by the opposite of their net. So a transaction is taken back in one way
only, and each balance loses what the transaction had given.
-/

namespace DoubleEntry

open Time

/-! ## Sound books hold what is not deleted -/

namespace Book

variable {b : Book} {id : TransactionId}

theorem Sound.holds (hb : b.Sound) (hlive : b.Live id) :
    ∃ p, p.transaction.id = id ∧ b.Holds p :=
  hb.orderly.holds hlive

/-- Where no header is live, no line is. -/
theorem Sound.not_live (hb : b.Sound) (hgone : ¬ b.Live id) :
    (∀ h ∈ b.headersOf id, h.isLive = false) ∧ ∀ l ∈ b.linesOf id, l.isLive = false := by
  refine ⟨not_live_header hgone, fun l hl => ?_⟩
  obtain ⟨h, hh, hid, _, hsame⟩ := hb.header_of_line hl
  rw [LineRow.isLive, hsame]
  exact not_live_header hgone h (mem_headersOf.mpr ⟨hh, hid⟩)

end Book

/-! ## Rows and lines move the same -/

/-- Which account a line is on, and what it moves there. -/
def Line.movement (l : Line) : AccountId × Amount := (l.account, l.amount)

def LineRow.movement (r : LineRow) : AccountId × Amount := (r.account, r.amount)

theorem LineRow.map_movement {rows : List LineRow} {lines : List Line}
    (h : List.Forall₂ (fun r l => line r = .ok l) rows lines) :
    lines.map Line.movement = rows.map movement := by
  induction h with
  | nil => rfl
  | @cons r l rows lines hline _ ih =>
    obtain ⟨haccount, _, hamount⟩ := line_ok hline
    have hsame : l.movement = r.movement := by
      unfold Line.movement movement
      rw [haccount, hamount]
    rw [List.map_cons, List.map_cons, ih, hsame]

namespace Book.Holds

variable {b : Book} {p : Posted}

theorem net_eq (hp : b.Holds p) (a : AccountId) :
    p.transaction.net a = b.netOf p.transaction.id a := by
  -- both are the total over the movements on the account
  have hlines : p.transaction.net a =
      total (((p.transaction.lines.map Line.movement).filter fun m => m.1 = a).map Prod.snd) := by
    rw [List.filter_map, List.map_map]
    rfl
  have hrows : b.netOf p.transaction.id a = total ((((b.linesOf p.transaction.id).map
      LineRow.movement).filter fun m => m.1 = a).map Prod.snd) := by
    rw [List.filter_map, List.map_map]
    rfl
  rw [hlines, hrows, LineRow.map_movement hp.legible]

theorem mem_accounts_iff (hp : b.Holds p) (a : AccountId) :
    a ∈ p.transaction.lines.map Line.account ↔ b.Involves p.transaction.id a := by
  have hlines : p.transaction.lines.map Line.account =
      (p.transaction.lines.map Line.movement).map Prod.fst := by
    rw [List.map_map]
    rfl
  rw [hlines, LineRow.map_movement hp.legible, List.map_map]
  exact List.mem_map

/-- The first line with the least amount is that of the row of the least number. -/
theorem first_bottom (hp : b.Holds p) {l : Line}
    (hfind : p.transaction.lines.find? (fun l => l.amount = .bottom) = some l) :
    ∃ r ∈ b.linesOf p.transaction.id, r.account = l.account ∧ r.amount = .bottom ∧
      ∀ k ∈ b.linesOf p.transaction.id, k.amount = .bottom → r.number ≤ k.number := by
  have hmoved : ((p.transaction.lines.map Line.movement).find? fun m => decide (m.2 = .bottom)) =
      some l.movement := by
    rw [List.find?_map]
    exact congrArg (Option.map Line.movement) hfind
  rw [LineRow.map_movement hp.legible, List.find?_map] at hmoved
  obtain ⟨r, hr, hsame⟩ := Option.map_eq_some_iff.mp hmoved
  obtain ⟨hmem, hbottom, hfirst⟩ := Order.find?_first hp.ordered hr
  refine ⟨r, hmem, congrArg Prod.fst hsame, of_decide_eq_true hbottom, ?_⟩
  intro k hk hkbottom
  rcases hfirst k hk (decide_eq_true hkbottom) with rfl | hlt
  · exact Int.le_refl _
  · exact Int.le_of_lt hlt

end Book.Holds

/-! ## Turning lines -/

/-- Lines are turned together if none has the least amount; otherwise the first that has it is named. -/
theorem Transaction.reversedLines_cases (lines : List Line) :
    ((∃ rs, reversedLines lines = .ok rs ∧ rs.map Line.account = lines.map Line.account) ∧
        ∀ l ∈ lines, l.amount ≠ .bottom) ∨
      ∃ l, reversedLines lines = .error l ∧
        lines.find? (fun l => l.amount = .bottom) = some l := by
  induction lines with
  | nil => exact Or.inl ⟨⟨[], rfl, rfl⟩, fun l hl => absurd hl (by simp)⟩
  | cons l rest ih =>
    rw [reversedLines, Line.reversed?]
    by_cases hbottom : l.amount = .bottom
    · rw [hbottom, Amount.neg?_bottom]
      exact Or.inr ⟨l, rfl, List.find?_cons_of_pos (decide_eq_true hbottom)⟩
    · obtain ⟨x, hx⟩ := Amount.neg?_of_ne hbottom
      rw [hx]
      rcases ih with ⟨⟨rs, hrs, haccounts⟩, hall⟩ | ⟨k, hk, hfind⟩
      · refine Or.inl ⟨⟨{ l with amount := x } :: rs, ?_, ?_⟩, ?_⟩
        · dsimp only [Option.map_some]
          rw [hrs]
          rfl
        · rw [List.map_cons, haccounts, List.map_cons]
        · intro k hk
          rcases List.mem_cons.mp hk with rfl | hk
          · exact hbottom
          · exact hall k hk
      · refine Or.inr ⟨k, ?_, ?_⟩
        · dsimp only [Option.map_some]
          rw [hk]
          rfl
        · rw [List.find?_cons_of_neg (by simpa using hbottom)]
          exact hfind

theorem Transaction.touches_iff_mem {t : Transaction} {a : AccountId} :
    t.touches a = true ↔ a ∈ t.lines.map Line.account :=
  touches_iff.trans List.mem_map.symm

namespace Book

variable {b : Book} {id : TransactionId}

/-- Lines that were read and turned are an opposite of the rows. -/
theorem Sound.opposes (hb : b.Sound) {p : Posted} (hp : b.Holds p) {rs : List Line}
    (hlines : Transaction.reversedLines p.transaction.lines = .ok rs)
    (haccounts : rs.map Line.account = p.transaction.lines.map Line.account) :
    b.Opposes p.transaction.id { p.transaction with lines := rs } := by
  have htouches : ∀ a, Transaction.touches { p.transaction with lines := rs } a = true ↔
      b.Involves p.transaction.id a := by
    intro a
    rw [Transaction.touches_iff_mem, haccounts, hp.mem_accounts_iff]
  refine ⟨rfl, htouches, ?_, ?_⟩
  · intro a
    exact (Transaction.net_reversedLines hlines a).trans (congrArg Neg.neg (hp.net_eq a))
  · obtain ⟨h, hh, hid⟩ := hasHeader_iff.mp hp.hasHeader
    obtain ⟨l, hl, k, hk, hne⟩ := (hb.whole h hh).between
    rw [hid] at hl hk
    have hlmem := Transaction.mem_accounts.mpr ((htouches l.account).mpr ⟨l, hl, rfl⟩)
    have hkmem := Transaction.mem_accounts.mpr ((htouches k.account).mpr ⟨k, hk, rfl⟩)
    exact two_le_length_of_ne hlmem hkmem hne

/-- **A transaction that is held has an opposite**, or a first line that has none. -/
theorem Sound.reversal (hb : b.Sound) {p : Posted} (hp : b.Holds p) :
    (∃ r, p.transaction.reversed = .ok r ∧ b.Opposes p.transaction.id r ∧
        ∀ l ∈ b.linesOf p.transaction.id, l.amount ≠ .bottom) ∨
      ∃ l, p.transaction.reversed = .error l ∧
        ∃ r ∈ b.linesOf p.transaction.id, r.account = l.account ∧ r.amount = .bottom ∧
          ∀ k ∈ b.linesOf p.transaction.id, k.amount = .bottom → r.number ≤ k.number := by
  rcases Transaction.reversedLines_cases p.transaction.lines with
    ⟨⟨rs, hrs, haccounts⟩, hall⟩ | ⟨l, hl, hfind⟩
  · have hreversed : p.transaction.reversed = .ok { p.transaction with lines := rs } := by
      rw [Transaction.reversed, hrs]
      rfl
    refine Or.inl ⟨_, hreversed, hb.opposes hp hrs haccounts, ?_⟩
    intro r hr hbottom
    have hmoved : r.movement ∈ p.transaction.lines.map Line.movement := by
      rw [LineRow.map_movement hp.legible]
      exact List.mem_map_of_mem hr
    obtain ⟨l, hl, hsame⟩ := List.mem_map.mp hmoved
    exact hall l hl ((congrArg Prod.snd hsame).trans hbottom)
  · have hreversed : p.transaction.reversed = .error l := by
      rw [Transaction.reversed, hl]
      rfl
    exact Or.inr ⟨l, hreversed, hp.first_bottom hfind⟩

theorem Sound.exists_opposes (hb : b.Sound) (hreversible : b.Reversible id) :
    ∃ r, b.Opposes id r := by
  obtain ⟨p, rfl, hp⟩ := hb.holds hreversible.live
  rcases hb.reversal hp with ⟨r, _, hopposes, _⟩ | ⟨l, _, k, hk, _, hbottom, _⟩
  · exact ⟨r, hopposes⟩
  · exact absurd hbottom (hreversible.opposable k hk)

end Book

/-! ## One judgement -/

/-- Taking back is judged in one way. -/
theorem Retraction.unique {policy : FundsPolicy} {b : Book} {id : TransactionId} (hb : b.Sound)
    {r r' : Except LedgerError Unit} (h : Retraction policy b id r) (h' : Retraction policy b id r') :
    r' = r := by
  cases h with
  | unknown hgone =>
      cases h' with
      | unknown _ => rfl
      | irreversible hlive _ _ _ => exact absurd hlive hgone
      | judged hreversible _ => exact absurd hreversible.live hgone
  | @irreversible l hlive hl hbottom hfirst =>
      cases h' with
      | unknown hgone => exact absurd hlive hgone
      | @irreversible k _ hk hkbottom hkfirst =>
          -- each has the least number, and lines are told apart by their numbers
          have hnumber : k.number = l.number :=
            Int.le_antisymm (hkfirst l hl hbottom) (hfirst k hk hkbottom)
          have hnodup : ((b.linesOf id).map LineRow.number).Nodup :=
            List.pairwise_map.mpr ((hb.ordered id).imp fun hlt => Int.ne_of_lt hlt)
          rw [List.inj_on_of_nodup_map hnodup hk hl hnumber]
      | judged hreversible _ => exact absurd hbottom (hreversible.opposable l hl)
  | judged hreversible hrelease =>
      cases h' with
      | unknown hgone => exact absurd hreversible.live hgone
      | @irreversible l _ hl hbottom _ => exact absurd hbottom (hreversible.opposable l hl)
      | judged _ hrelease' =>
          obtain ⟨t, ht⟩ := hb.exists_opposes hreversible
          exact ((release_iff ht).mp hrelease).unique ((release_iff ht).mp hrelease')

/-! ## What taking back does -/

namespace Book.Holds

variable {b : Book} {p : Posted}

/-- Nothing of a transaction that is held was deleted before, so marking deletes it whole. -/
theorem strike_eq (hp : b.Holds p) (moment : Timestamp) :
    b.strike p.transaction.id moment = b.retract p.transaction.id moment := by
  have hheaders : b.headers.map (HeaderRow.mark p.transaction.id moment) = b.headers.map
      fun h => if h.id = p.transaction.id then { h with deletedAt := some moment } else h := by
    refine List.map_congr_left fun h hh => ?_
    unfold HeaderRow.mark
    refine if_congr (and_iff_left_of_imp fun hid => ?_) rfl rfl
    rw [hp.header_eq hh hid]
    rfl
  have hlines : b.lines.map (LineRow.mark p.transaction.id moment) = b.lines.map
      fun l => if l.transaction = p.transaction.id then { l with deletedAt := some moment } else l := by
    refine List.map_congr_left fun l hl => ?_
    unfold LineRow.mark
    exact if_congr (and_iff_left_of_imp fun hid => hp.live l (mem_linesOf.mpr ⟨hl, hid⟩)) rfl rfl
  unfold strike retract
  rw [hheaders, hlines]

/-- **Each balance loses what the transaction had given.** -/
theorem balance_retract (hp : b.Holds p) (moment : Timestamp) (a : AccountId) :
    (b.retract p.transaction.id moment).balance a = b.balance a - b.netOf p.transaction.id a := by
  have hshares : ((b.linesOf p.transaction.id).map (LineRow.share a)).sum =
      b.netOf p.transaction.id a := by
    rw [netOf, total_eq_sum, List.map_map, sum_filter_map]
    refine congrArg List.sum (List.map_congr_left fun l hl => ?_)
    have hkept : l.deletedAt = none := Option.isNone_iff_eq_none.mp (hp.live l hl)
    refine if_congr ?_ rfl rfl
    rw [decide_eq_true_eq]
    exact and_iff_left hkept
  rw [← hp.strike_eq, balance_strike, hshares]

end Book.Holds

end DoubleEntry
