import DoubleEntry.Proofs.History
import DoubleEntry.Proofs.Judgement

/-!
# The answer to a posting

At a store that does what it is asked, a posting without a deadline is answered as it is judged, and the
books are those from before or have the one transaction more. That the rows can be written at all needs
every line in the books to have a header: then no line of a new transaction is in the way.
-/

namespace DoubleEntry.Desk

open Time

variable {d : Desk} {b : Book}

/-! ## Doing work wholly or not at all -/

section

variable {α : Type} (scope : Scope) {work : Work Stop α}

/-- Work that succeeds is kept. -/
theorem settle_calm_ok (h : d.Calm) {done : Desk} {a : α} (hwork : work d.ready = (.ok a, done))
    (hdone : done.Calm) : settle scope work d = (.ok a, done.ready) := by
  unfold settle
  rw [openTransaction_calm h]
  dsimp only
  rw [hwork]
  dsimp only
  rw [orGiveUp, control_calm hdone]

/-- Work that stops is rolled back. -/
theorem settle_calm_error (h : d.Calm) {stopped : Desk} {e : LedgerError}
    (hwork : work d.ready = (.error (.error e), stopped)) (hstopped : stopped.Calm) :
    settle scope work d = (.error (e.withRollback .rolledBack), stopped.ready.restore d.store) := by
  unfold settle
  rw [openTransaction_calm h]
  dsimp only
  rw [hwork]
  dsimp only
  rw [orGiveUp, control_calm hstopped]
  rfl

end

/-! ## Writing the rows -/

theorem inserted_calm (h : d.Calm) (hb : d.store.book = some b) {s : Statement} {table : String}
    {run : Book → Except Refusal (Bool × Book)} {b' : Book} (hrun : run b = .ok (true, b')) :
    inserted (change s table run false) d = (.ok (), d.ready.holding b') := by
  have hchange : change s table run false d = (.ok true, d.ready.holding b') := by
    rw [change_calm h hb, hrun]
  rw [inserted, Work.bind_of_ok hchange]
  rfl

theorem inserted_calm_refused (h : d.Calm) (hb : d.store.book = some b) {s : Statement}
    {table : String} {run : Book → Except Refusal (Bool × Book)} {refusal : Refusal}
    (hrun : run b = .error refusal) :
    inserted (change s table run false) d = (.error (.refused s refusal), d.ready) := by
  have hchange : change s table run false d = (.error (.refused s refusal), d.ready) := by
    rw [change_calm h hb, hrun]
  rw [inserted, Work.bind_of_error hchange]

/-- Lines numbered from `n` on can be written when those in the books have lesser numbers. -/
theorem insertLines_calm (h : d.Calm) (hb : d.store.book = some b) (scope : Scope)
    (createdAt : Timestamp) {n : Nat} {lines : List Line} (hrange : n + lines.length ≤ 2147483648)
    (hbelow : ∀ l ∈ b.lines, l.transaction = scope.transaction → l.number < n) :
    insertLines scope createdAt n lines d.ready = (.ok (), d.ready.holding { b with
      lines := b.lines ++ LineRow.ofLines scope.transaction createdAt.asKept n lines }) := by
  induction lines generalizing n d b with
  | nil =>
    have hsame : d.ready.holding b = d.ready := holding_self hb
    rw [LineRow.ofLines, List.append_nil]
    exact congrArg (Prod.mk (Except.ok ())) hsame.symm
  | cons l rest ih =>
    rw [List.length_cons] at hrange
    -- all lines of the transaction so far have lesser numbers than this one
    have hnew : b.hasLine scope.transaction n = false := by
      cases hline : b.hasLine scope.transaction n with
      | false => rfl
      | true =>
          obtain ⟨k, hk, hid, hnumber⟩ := Book.hasLine_iff.mp hline
          have := hbelow k hk hid
          omega
    generalize hrow : (⟨scope.transaction, n, l.account, l.purpose.canonical, l.amount,
      createdAt.asKept, none⟩ : LineRow) = row
    have hinsert : scope.guarded .insertLine (some l.account) (inserted (insertLine row)) d.ready =
        (.ok (), (d.holding { b with lines := b.lines ++ [row] }).ready) := by
      refine Work.mapError_of_ok (inserted_calm h.ready hb ?_)
      rw [← hrow, hnew]
      rfl
    have hnext : ∀ k ∈ b.lines ++ [row], k.transaction = scope.transaction →
        k.number < (n + 1 : Nat) := by
      intro k hk hid
      rcases List.mem_append.mp hk with hk | hk
      · have := hbelow k hk hid
        omega
      · rw [List.mem_singleton.mp hk, ← hrow]
        dsimp only
        omega
    rw [insertLines, if_pos (by omega), hrow, Work.bind_of_ok hinsert,
      ih (h.holding _) rfl (by omega) hnext, LineRow.ofLines, hrow, List.append_assoc]
    rfl

/-- A transaction under a new identifier is entered whole. -/
theorem enterRows_calm (h : d.Calm) (hb : d.store.book = some b)
    (howned : ∀ l ∈ b.lines, b.hasHeader l.transaction = true) {scope : Scope} {t : Transaction}
    (hscope : scope.transaction = t.id) (createdAt : Timestamp)
    (hrange : t.lines.length ≤ 2147483648) (hnew : b.hasHeader t.id = false) :
    enterRows scope t createdAt d.ready = (.ok (), d.ready.holding (b.enter t createdAt)) := by
  have hheader : (inserted (insertHeader ⟨t.id, t.timestamp.asKept, createdAt.asKept, none⟩)).mapError
      (headerStop scope) d.ready = (.ok (), (d.holding { b with
        headers := b.headers ++ [⟨t.id, t.timestamp.asKept, createdAt.asKept, none⟩] }).ready) := by
    refine Work.mapError_of_ok (inserted_calm h.ready hb ?_)
    exact if_neg (by rw [hnew]; simp)
  have hfree : ∀ l ∈ b.lines, l.transaction = scope.transaction → l.number < (0 : Nat) := by
    intro l hl hid
    exact absurd (hid.trans hscope) (Book.line_ne_of_new hnew howned hl)
  have hrows := insertLines_calm (h.holding { b with
    headers := b.headers ++ [⟨t.id, t.timestamp.asKept, createdAt.asKept, none⟩] }) rfl scope createdAt
    (n := 0) (by rw [Nat.zero_add]; exact hrange) hfree
  rw [enterRows, Work.bind_of_ok hheader, hrows, hscope]
  rfl

/-- An identifier that is taken stops the writing. -/
theorem enterRows_calm_taken (h : d.Calm) (hb : d.store.book = some b) {scope : Scope}
    {t : Transaction} (hscope : scope.transaction = t.id) (createdAt : Timestamp)
    (htaken : b.hasHeader t.id = true) :
    enterRows scope t createdAt d.ready = (.error (.error (.duplicateTransaction t.id)), d.ready) := by
  have hheader : (inserted (insertHeader ⟨t.id, t.timestamp.asKept, createdAt.asKept, none⟩)).mapError
      (headerStop scope) d.ready =
        (.error (headerStop scope (.refused .insertHeader (.duplicateKey "transactions_pkey"))),
          d.ready) := by
    refine Work.mapError_of_error (inserted_calm_refused h.ready hb ?_)
    exact if_pos htaken
  rw [enterRows, Work.bind_of_error hheader, ← hscope]
  rfl

/-! ## The answer -/

/-- What a posting at a calm desk answers to its judgement, and the desk that it leaves. -/
def answered (d : Desk) (b : Book) (t : Transaction) (createdAt : Timestamp) :
    Except LedgerError Unit → Except LedgerError Posted × Desk
  | .error e => (.error e, d.ready)
  | .ok _ => (.ok ⟨t, createdAt⟩, d.ready.holding (b.enter t createdAt))

/-- The work of a posting at a calm desk, by its judgement. -/
theorem writePosting_calm (h : d.Calm) (hb : d.store.book = some b) (hkeyed : b.Keyed)
    (howned : ∀ l ∈ b.lines, b.hasHeader l.transaction = true) (policy : FundsPolicy)
    {t : Transaction} (createdAt : Timestamp) (hlines : t.lines ≠ [])
    (hrange : t.lines.length ≤ 2147483648) :
    (Judgement policy b t (.ok ()) ∧ writePosting policy ⟨t.id, none⟩ t createdAt d.ready =
      (.ok (), d.ready.holding (b.enter t createdAt))) ∨
    ∃ e, Judgement policy b t (.error (e.withRollback .rolledBack)) ∧
      writePosting policy ⟨t.id, none⟩ t createdAt d.ready = (.error (.error e), d.ready) := by
  have hwork : writePosting policy ⟨t.id, none⟩ t createdAt d.ready =
      (clear policy ⟨t.id, none⟩ t >>= fun _ => enterRows ⟨t.id, none⟩ t createdAt) d.ready := by
    rw [writePosting]
    rfl
  rw [hwork]
  rcases clear_calm h.ready hb hkeyed policy ⟨t.id, none⟩ rfl hlines with
    ⟨hclearing, hclear⟩ | ⟨e, hclearing, hclear⟩
  · have hcleared : Cleared policy b t := by
      cases hclearing
      assumption
    rw [Work.bind_of_ok hclear, ready_ready]
    cases hheader : b.hasHeader t.id with
    | true =>
        refine Or.inr ⟨.duplicateTransaction t.id, .taken hcleared hheader, ?_⟩
        exact enterRows_calm_taken h hb rfl createdAt hheader
    | false =>
        refine Or.inl ⟨.accepted hcleared hheader, ?_⟩
        exact enterRows_calm h hb howned rfl createdAt hrange hheader
  · exact Or.inr ⟨e, .refused hclearing, Work.bind_of_error hclear _⟩

/--
**A posting is answered as it is judged.** A proposal that fails its own checks is answered with its first
fault. Any other is judged in one way, the answer is that of the judgement, and the books have the
transaction more if and only if it was accepted.
-/
theorem post_decided (h : d.Calm) (hb : d.store.book = some b) (hkeyed : b.Keyed)
    (howned : ∀ l ∈ b.lines, b.hasHeader l.transaction = true) (policy : FundsPolicy) (m : Moment)
    (p : Proposal) (hrange : p.lines.length ≤ 2147483648) :
    (∀ e, p.check m.now ⟨m.fresh⟩ = .error e → post policy none m p d = (.error e, d)) ∧
      ∀ t, p.check m.now ⟨m.fresh⟩ = .ok t → ∃ r, Judgement policy b (Kept t) r ∧
        (∀ r', Judgement policy b (Kept t) r' → r' = r) ∧
        post policy none m p d = answered d b (Kept t) m.now.wholeMicros r := by
  constructor
  · intro e hcheck
    unfold post
    rw [hcheck]
  · intro t hcheck
    obtain ⟨_, _, _, hlines, hforall⟩ := Proposal.check_ok hcheck
    have hpost : post policy none m p d = persist policy none m.now t d := by
      unfold post
      rw [hcheck]
      exact if_neg (by simp)
    have hkept : (Kept t).lines ≠ [] := hlines
    have hlength : (Kept t).lines.length ≤ 2147483648 := by
      rw [show (Kept t).lines = t.lines from rfl, ← hforall.length_eq]
      exact hrange
    rw [hpost, persist_eq]
    rcases writePosting_calm h hb hkeyed howned policy m.now.wholeMicros hkept hlength with
      ⟨hjudged, hwork⟩ | ⟨e, hjudged, hwork⟩
    · have hsettle := settle_calm_ok ⟨t.id, none⟩ h hwork (h.ready.holding _)
      refine ⟨_, hjudged, fun r' hr' => hjudged.unique hr', ?_⟩
      exact Work.bind_of_ok hsettle _
    · have hsettle := settle_calm_error ⟨t.id, none⟩ h hwork h.ready
      refine ⟨_, hjudged, fun r' hr' => hjudged.unique hr', ?_⟩
      exact Work.bind_of_error hsettle _

/-- A transfer of one more than the first account has. -/
def excess : Proposal := Specimen.transfer "u" ⟨-6, by decide, by decide⟩ ⟨6, by decide, by decide⟩

theorem post_decided_specimen :
    ∃ t b r, excess.check Specimen.noon ⟨"fresh"⟩ = .ok t ∧
      Specimen.posted.store.book = some b ∧ Judgement .standard b (Kept t) r ∧
      post .standard none Specimen.moment excess Specimen.posted =
        answered Specimen.posted b (Kept t) Specimen.noon.wholeMicros r := by
  have hbook : Specimen.posted.store.book = some (Specimen.posted.store.book.getD .empty) := by
    decide
  obtain ⟨_, hdecided⟩ := post_decided ⟨by decide, by decide⟩ hbook (by decide) (by decide)
    .standard Specimen.moment excess (by decide)
  obtain ⟨r, hjudged, _, hpost⟩ := hdecided _ rfl
  exact ⟨_, _, r, rfl, hbook, hjudged, hpost⟩

/-- It is refused in the name of that account. -/
example : (post .standard none Specimen.moment excess Specimen.posted).1 =
    .error (.insufficientFunds ⟨"a"⟩ Specimen.five 6) := by decide

end DoubleEntry.Desk
