import DoubleEntry.Proofs.History

/-!
# Books that add up

No table enforces that the books balance. What does is an invariant over all three tables: every line has
a header, and every header has all of its lines, balanced among themselves and deleted together or not at
all. The three changes of the books preserve it, and from it follows that the balances of all accounts
sum to zero.
-/

namespace DoubleEntry

open Time

namespace Book

/-- A header together with the lines that it is owed. -/
structure Whole (b : Book) (h : HeaderRow) : Prop where
  /-- There are at least two lines. -/
  several : 2 ≤ (b.linesOf h.id).length
  /-- They are numbered from 0 on without gap or repetition. -/
  numbered : (b.linesOf h.id).map LineRow.number =
    (List.range (b.linesOf h.id).length).map fun (i : Nat) => (i : Int)
  /-- None is of amount zero. -/
  nonzero : ∀ l ∈ b.linesOf h.id, l.amount.value ≠ 0
  /-- The amounts sum to zero. -/
  balanced : total ((b.linesOf h.id).map LineRow.amount) = 0
  /-- Two lines are on different accounts. -/
  between : ∃ l ∈ b.linesOf h.id, ∃ k ∈ b.linesOf h.id, l.account ≠ k.account
  /-- The accounts exist. -/
  existing : ∀ l ∈ b.linesOf h.id, b.hasAccount l.account = true
  /-- The texts of the purposes can be read. -/
  purposes : ∀ l ∈ b.linesOf h.id, ∃ p, Purpose.ofText? l.purpose = some p
  /-- The lines were created with the header. -/
  created : ∀ l ∈ b.linesOf h.id, l.createdAt = h.createdAt
  /-- Header and lines are live together or were deleted at one time. -/
  together : ∀ l ∈ b.linesOf h.id, l.deletedAt = h.deletedAt

/-- Books in which nothing is missing, left over or done by halves. -/
structure Sound (b : Book) : Prop where
  /-- Account identifiers are unique. -/
  keyed : b.Keyed
  /-- Transaction identifiers are unique. -/
  unique : (b.headers.map HeaderRow.id).Nodup
  /-- No line lacks a header. -/
  owned : ∀ l ∈ b.lines, b.hasHeader l.transaction = true
  /-- No header lacks lines. -/
  whole : ∀ h ∈ b.headers, b.Whole h

/-! ## The invariant holds at the start -/

theorem sound_init {b : Book} (hkeyed : b.Keyed) (hheaders : b.headers = []) (hlines : b.lines = []) :
    b.Sound where
  keyed := hkeyed
  unique := by rw [hheaders]; exact List.nodup_nil
  owned := by rw [hlines]; exact fun l hl => absurd hl (by simp)
  whole := by rw [hheaders]; exact fun h hh => absurd hh (by simp)

/-! ## Opening an account preserves it -/

variable {b : Book}

theorem Keyed.opened (hb : b.Keyed) {row : AccountRow} (hnew : b.hasAccount row.id = false) :
    { b with accounts := b.accounts ++ [row] }.Keyed := by
  unfold Keyed
  rw [List.map_append, List.nodup_append]
  refine ⟨hb, List.nodup_singleton _, ?_⟩
  rintro a ha _ hrow rfl
  obtain ⟨r, hr, hra⟩ := List.mem_map.mp ha
  have htaken : b.hasAccount row.id = true :=
    hasAccount_iff.mpr ⟨r, hr, hra.trans (List.mem_singleton.mp hrow)⟩
  rw [hnew] at htaken
  cases htaken

theorem Sound.opened (hb : b.Sound) {row : AccountRow} (hnew : b.hasAccount row.id = false) :
    { b with accounts := b.accounts ++ [row] }.Sound where
  keyed := hb.keyed.opened hnew
  unique := hb.unique
  owned := hb.owned
  whole h hh := { hb.whole h hh with
    existing := fun l hl => by
      obtain ⟨r, hr, hra⟩ := hasAccount_iff.mp ((hb.whole h hh).existing l hl)
      exact hasAccount_iff.mpr ⟨r, List.mem_append_left _ hr, hra⟩ }

/-! ## Posting preserves it -/

theorem hasAccount_of_live {a : AccountId} (h : b.hasLiveAccount a = true) :
    b.hasAccount a = true := by
  obtain ⟨r, hr, hra, _⟩ := hasLiveAccount_iff.mp h
  exact hasAccount_iff.mpr ⟨r, hr, hra⟩

/-- Two accounts among some lines are two lines on different accounts. -/
theorem between_of_accounts {lines : List Line} (h : 2 ≤ (Line.accounts lines).length) :
    ∃ l ∈ lines, ∃ k ∈ lines, l.account ≠ k.account := by
  have hnodup := Line.accounts_nodup lines
  match haccounts : Line.accounts lines, h, hnodup with
  | a :: c :: _, _, hnodup =>
    have ha : a ∈ Line.accounts lines := by rw [haccounts]; simp
    have hc : c ∈ Line.accounts lines := by rw [haccounts]; simp
    obtain ⟨l, hl, rfl⟩ := Line.mem_accounts.mp ha
    obtain ⟨k, hk, rfl⟩ := Line.mem_accounts.mp hc
    refine ⟨l, hl, k, hk, ?_⟩
    intro hsame
    exact (List.nodup_cons.mp hnodup).1 (by rw [hsame]; simp)

theorem two_le_length_of_ne {α : Type} {l : List α} {x y : α} (hx : x ∈ l) (hy : y ∈ l)
    (hne : x ≠ y) : 2 ≤ l.length := by
  match l, hx, hy with
  | [z], hx, hy =>
    rw [List.mem_singleton.mp hx, List.mem_singleton.mp hy] at hne
    exact absurd rfl hne
  | _ :: _ :: _, _, _ => exact Nat.le_add_left _ _

/-- A header that was just entered has all of its lines. -/
theorem whole_entered {t : Transaction} {createdAt : Timestamp} {policy : FundsPolicy}
    (hnew : ∀ l ∈ b.lines, l.transaction ≠ t.id) (hchecked : t.Checked)
    (hcleared : Desk.Cleared policy b t) {h : HeaderRow} (hid : h.id = t.id)
    (hcreated : h.createdAt = createdAt.asKept) (hlive : h.deletedAt = none) :
    (b.enter t createdAt).Whole h := by
  -- its lines in the books are the new rows and no others
  have hrows : (b.enter t createdAt).linesOf h.id =
      LineRow.ofLines t.id createdAt.asKept 0 t.lines := by
    rw [hid]
    exact linesOf_enter_self hnew
  have hline : ∀ r ∈ (b.enter t createdAt).linesOf h.id, r.createdAt = createdAt.asKept ∧
      r.deletedAt = none ∧ ∃ l ∈ t.lines, r.account = l.account ∧
        r.purpose = l.purpose.canonical ∧ r.amount = l.amount := by
    rw [hrows]
    exact fun r hr => (LineRow.mem_ofLines hr).2
  have hbetween : ∃ l ∈ (b.enter t createdAt).linesOf h.id,
      ∃ k ∈ (b.enter t createdAt).linesOf h.id, l.account ≠ k.account := by
    obtain ⟨l, hl, k, hk, hne⟩ := between_of_accounts hcleared.several
    have haccounts : ((b.enter t createdAt).linesOf h.id).map LineRow.account =
        t.lines.map Line.account := by
      rw [hrows, LineRow.map_account_ofLines]
    have hrow : ∀ x ∈ t.lines, ∃ r ∈ (b.enter t createdAt).linesOf h.id, r.account = x.account := by
      intro x hx
      refine List.mem_map.mp ?_
      rw [haccounts]
      exact List.mem_map_of_mem hx
    obtain ⟨r, hr, hrl⟩ := hrow l hl
    obtain ⟨s, hs, hsk⟩ := hrow k hk
    exact ⟨r, hr, s, hs, by rw [hrl, hsk]; exact hne⟩
  have hseveral : 2 ≤ ((b.enter t createdAt).linesOf h.id).length := by
    obtain ⟨l, hl, k, hk, hne⟩ := hbetween
    exact two_le_length_of_ne hl hk fun hsame => hne (congrArg LineRow.account hsame)
  refine ⟨hseveral, ?_, ?_, ?_, hbetween, ?_, ?_, ?_, ?_⟩
  · rw [hrows, LineRow.map_number_ofLines, LineRow.length_ofLines, List.range_eq_range']
  · intro r hr
    obtain ⟨_, _, l, hl, _, _, hamount⟩ := hline r hr
    rw [hamount]
    exact hchecked.nonzero l hl
  · rw [hrows, LineRow.map_amount_ofLines]
    exact hchecked.balanced
  · intro r hr
    obtain ⟨_, _, l, hl, haccount, _, _⟩ := hline r hr
    rw [haccount]
    exact hasAccount_of_live (hcleared.found _ (Transaction.touches_iff.mpr ⟨l, hl, rfl⟩))
  · intro r hr
    obtain ⟨_, _, l, _, _, hpurpose, _⟩ := hline r hr
    exact ⟨l.purpose, by rw [hpurpose]; exact Purpose.ofText?_canonical _⟩
  · intro r hr
    rw [(hline r hr).1, hcreated]
  · intro r hr
    rw [(hline r hr).2.1, hlive]

/-- A header that was there before keeps its lines. -/
theorem Whole.entered {t : Transaction} {createdAt : Timestamp} {h : HeaderRow} (hh : b.Whole h)
    (hne : h.id ≠ t.id) : (b.enter t createdAt).Whole h := by
  have hrows : (b.enter t createdAt).linesOf h.id = b.linesOf h.id := linesOf_enter_other hne
  constructor
  all_goals rw [hrows]
  · exact hh.several
  · exact hh.numbered
  · exact hh.nonzero
  · exact hh.balanced
  · exact hh.between
  · exact hh.existing
  · exact hh.purposes
  · exact hh.created
  · exact hh.together

theorem Sound.entered (hb : b.Sound) {policy : FundsPolicy} {t : Transaction}
    {createdAt : Timestamp} (hchecked : t.Checked) (hnew : b.hasHeader t.id = false)
    (hcleared : Desk.Cleared policy b t) : (b.enter t createdAt).Sound where
  keyed := hb.keyed
  unique := unique_enter hb.unique hnew
  owned := owned_enter hb.owned
  whole := by
    intro h hh
    rcases List.mem_append.mp hh with hh | hh
    · exact (hb.whole h hh).entered (header_ne_of_new hnew hh)
    · obtain rfl := List.mem_singleton.mp hh
      have hlines : ∀ l ∈ b.lines, l.transaction ≠ t.id := fun l hl => line_ne_of_new hnew hb.owned hl
      exact whole_entered hlines hchecked hcleared rfl rfl rfl

/-! ## Taking back preserves it -/

/-- What a mark does not touch is the same of all lines. -/
theorem map_mark {α : Type} (f : LineRow → α) {id : TransactionId} {moment : Timestamp}
    (hf : ∀ l, f (l.mark id moment) = f l) (lines : List LineRow) :
    (lines.map (LineRow.mark id moment)).map f = lines.map f := by
  rw [List.map_map]
  exact List.map_congr_left fun l _ => hf l

theorem Whole.struck (id : TransactionId) (moment : Timestamp) {h : HeaderRow} (hh : b.Whole h) :
    (b.strike id moment).Whole (h.mark id moment) := by
  have hrows : (b.strike id moment).linesOf (h.mark id moment).id =
      (b.linesOf h.id).map (LineRow.mark id moment) := by
    rw [HeaderRow.mark_id, linesOf_strike]
  constructor
  all_goals rw [hrows]
  · rw [List.length_map]
    exact hh.several
  · rw [map_mark _ (LineRow.mark_number id moment), List.length_map]
    exact hh.numbered
  · intro r hr
    obtain ⟨l, hl, rfl⟩ := List.mem_map.mp hr
    rw [LineRow.mark_amount]
    exact hh.nonzero l hl
  · rw [map_mark _ (LineRow.mark_amount id moment)]
    exact hh.balanced
  · obtain ⟨l, hl, k, hk, hne⟩ := hh.between
    refine ⟨_, List.mem_map_of_mem hl, _, List.mem_map_of_mem hk, ?_⟩
    rw [LineRow.mark_account, LineRow.mark_account]
    exact hne
  · intro r hr
    obtain ⟨l, hl, rfl⟩ := List.mem_map.mp hr
    rw [LineRow.mark_account]
    exact hh.existing l hl
  · intro r hr
    obtain ⟨l, hl, rfl⟩ := List.mem_map.mp hr
    rw [LineRow.mark_purpose]
    exact hh.purposes l hl
  · intro r hr
    obtain ⟨l, hl, rfl⟩ := List.mem_map.mp hr
    rw [LineRow.mark_createdAt, HeaderRow.mark_createdAt]
    exact hh.created l hl
  · intro r hr
    obtain ⟨l, hl, rfl⟩ := List.mem_map.mp hr
    exact mark_deletedAt_eq id moment (mem_linesOf.mp hl).2 (hh.together l hl)

theorem Sound.struck (hb : b.Sound) (id : TransactionId) (moment : Timestamp) :
    (b.strike id moment).Sound where
  keyed := hb.keyed
  unique := by
    rw [(Marked.strike b id moment).map_id_headers]
    exact hb.unique
  owned := (Marked.strike b id moment).owned hb.owned
  whole := by
    intro h hh
    obtain ⟨k, hk, rfl⟩ := List.mem_map.mp hh
    exact (hb.whole k hk).struck id moment

theorem Sound.change {allowed : FundsPolicy → Prop} {b b' : Book} (hb : b.Sound)
    (h : b.Change allowed b') : b'.Sound := by
  cases h with
  | opened row hnew => exact hb.opened hnew
  | entered policy t createdAt _ hchecked hnew hcleared =>
      exact hb.entered hchecked hnew (hcleared hb.keyed)
  | struck policy id r moment => exact hb.struck id moment

/-! ## What it is good for -/

/-- Lines that balance and are live together, or deleted together, weigh nothing. -/
theorem Whole.weightless {h : HeaderRow} (hh : b.Whole h) :
    ((b.linesOf h.id).map LineRow.weight).sum = 0 := by
  cases hdeleted : h.deletedAt with
  | none =>
      rw [← hh.balanced, total_eq_sum, List.map_map]
      refine congrArg List.sum (List.map_congr_left fun l hl => ?_)
      exact if_pos ((hh.together l hl).trans hdeleted)
  | some moment =>
      have hzero : (b.linesOf h.id).map LineRow.weight = (b.linesOf h.id).map fun _ => 0 := by
        refine List.map_congr_left fun l hl => if_neg ?_
        rw [hh.together l hl, hdeleted]
        exact Option.some_ne_none _
      rw [hzero]
      simp

theorem Sound.mem_accounts (hb : b.Sound) {l : LineRow} (hl : l ∈ b.lines) :
    l.account ∈ b.accounts.map AccountRow.id := by
  obtain ⟨h, hh, hhl⟩ := hasHeader_iff.mp (hb.owned l hl)
  obtain ⟨r, hr, hra⟩ :=
    hasAccount_iff.mp ((hb.whole h hh).existing l (mem_linesOf.mpr ⟨hl, hhl.symm⟩))
  exact List.mem_map.mpr ⟨r, hr, hra⟩

theorem Sound.mem_headers (hb : b.Sound) {l : LineRow} (hl : l ∈ b.lines) :
    l.transaction ∈ b.headers.map HeaderRow.id := by
  obtain ⟨h, hh, hhl⟩ := hasHeader_iff.mp (hb.owned l hl)
  exact List.mem_map.mpr ⟨h, hh, hhl⟩

/-- **The balances of sound books sum to zero.** -/
theorem Sound.sum_balances (hb : b.Sound) :
    (b.accounts.map fun r => b.balance r.id).sum = 0 := by
  -- the weights of all lines, taken account by account and then header by header
  calc (b.accounts.map fun r => b.balance r.id).sum
      = ((b.accounts.map AccountRow.id).map fun a =>
          ((b.lines.filter fun l => l.account = a).map LineRow.weight).sum).sum := by
        rw [List.map_map]
        exact congrArg List.sum (List.map_congr_left fun r _ => balance_eq_weights b r.id)
    _ = (b.lines.map LineRow.weight).sum := sum_by_key hb.keyed fun _ hl => hb.mem_accounts hl
    _ = ((b.headers.map HeaderRow.id).map fun i =>
          ((b.lines.filter fun l => l.transaction = i).map LineRow.weight).sum).sum :=
        (sum_by_key hb.unique fun _ hl => hb.mem_headers hl).symm
    _ = 0 := by
        refine List.sum_eq_zero fun n hn => ?_
        rw [List.map_map] at hn
        obtain ⟨h, hh, rfl⟩ := List.mem_map.mp hn
        exact (hb.whole h hh).weightless

end Book

/-! ## In every run -/

/-- A store whose tables are there and hold accounts at most. -/
structure Store.Unused (start : Store) (b : Book) : Prop where
  /-- The tables are there. -/
  book : start.book = some b
  /-- Account identifiers are unique. -/
  keyed : b.Keyed
  /-- There is no transaction. -/
  headers : b.headers = []
  /-- There is no line. -/
  lines : b.lines = []

theorem Reached.sound {allowed : FundsPolicy → Prop} {start : Store} {b : Book}
    (hstart : start.Unused b) {d : Desk} (h : Reached allowed start d) :
    ∃ b', d.store.book = some b' ∧ b'.Sound :=
  h.induct hstart.book (Book.sound_init hstart.keyed hstart.headers hstart.lines)
    fun _ _ hb hchange => hb.change hchange

/-- **The books are sound and add up in every reachable state.** -/
theorem books_add_up {allowed : FundsPolicy → Prop} {start : Store} {b : Book}
    (hstart : start.Unused b) {d : Desk} (h : Reached allowed start d) :
    ∃ b', d.store.book = some b' ∧ b'.Sound ∧
      (b'.accounts.map fun r => b'.balance r.id).sum = 0 := by
  obtain ⟨b', hb', hsound⟩ := h.sound hstart
  exact ⟨b', hb', hsound, hsound.sum_balances⟩

theorem books_add_up_specimen :
    ∃ b', Specimen.retried.store.book = some b' ∧ b'.Sound ∧
      (b'.accounts.map fun r => b'.balance r.id).sum = 0 :=
  books_add_up (b := Specimen.book) ⟨rfl, by decide, rfl, rfl⟩ Specimen.retried_reached

/-- The balances that sum to zero need not be zero. -/
example : Specimen.retried.store.book.map (fun b => b.balance ⟨"a"⟩) = some 5 := by decide

end DoubleEntry
