import DoubleEntry.Proofs.Answer
import DoubleEntry.Proofs.Opposite
import DoubleEntry.Proofs.Removal

/-!
# The answer to taking back

At a store that does what it is asked, taking a transaction back is answered as it is judged: the transaction
is loaded and turned, the opposite is cleared like a posting, and the rows are marked. The loading finds what
sound books hold and nothing else, so the answer depends on the rows alone, and it is never one of the two
complaints about the funds check itself.
-/

namespace DoubleEntry

open Time

namespace Desk

variable {d : Desk} {b : Book} {id : TransactionId}

/-! ## Loading -/

theorem loadForReversal_held {p : Posted} (h : d.Calm) (hb : d.store.book = some b)
    (hp : b.Holds p) : loadForReversal p.transaction.id d = (.ok p, d.ready) := by
  rw [loadForReversal, Work.bind_of_ok (Work.mapError_of_ok (load_held h hb hp))]
  rfl

theorem loadForReversal_gone (h : d.Calm) (hb : d.store.book = some b) (hsound : b.Sound)
    (hgone : ¬ b.Live id) :
    loadForReversal id d = (.error (.error (.transactionNotFound id)), d.ready) := by
  obtain ⟨hheaders, hlines⟩ := hsound.not_live hgone
  have hload := load_absent h hb hheaders hlines
  rw [loadForReversal, Work.bind_of_ok (Work.mapError_of_ok hload)]
  rfl

/-! ## Marking -/

theorem deleteHeader_calm (h : d.Calm) (hb : d.store.book = some b) (hlive : b.Live id)
    (moment : Timestamp) :
    ∃ n, n ≠ 0 ∧ deleteHeader id moment d = (.ok n, d.ready.holding
      { b with headers := b.headers.map (HeaderRow.mark id moment.asKept) }) := by
  refine ⟨_, ?_, change_calm h hb _ _ _ _⟩
  obtain ⟨x, hx, hid, hkept⟩ := hlive
  have hmem : x ∈ b.headers.filter fun h => decide (h.id = id) && h.isLive := by
    refine List.mem_filter.mpr ⟨hx, ?_⟩
    rw [hkept, Bool.and_true]
    exact decide_eq_true hid
  exact Nat.ne_of_gt (List.length_pos_of_mem hmem)

theorem deleteLines_calm (h : d.Calm) (hb : d.store.book = some b) (id : TransactionId)
    (moment : Timestamp) :
    ∃ n, deleteLines id moment d = (.ok n, d.ready.holding
      { b with lines := b.lines.map (LineRow.mark id moment.asKept) }) :=
  ⟨_, change_calm h hb _ _ _ _⟩

/-- The rows of a transaction that is not deleted are marked, all of them. -/
theorem markRows_calm (h : d.Calm) (hb : d.store.book = some b) (scope : Scope)
    (hlive : b.Live scope.transaction) (now : Timestamp) :
    markRows scope now d = (.ok (), d.ready.holding (b.strike scope.transaction now.asKept)) := by
  obtain ⟨n, hn, hheader⟩ := deleteHeader_calm h hb hlive now
  -- the lines are marked in books whose header is marked already
  obtain ⟨k, hlines⟩ := deleteLines_calm (h.ready.holding
    { b with headers := b.headers.map (HeaderRow.mark scope.transaction now.asKept) }) rfl
    scope.transaction now
  have hfirst := Work.mapError_of_ok (f := scope.stop .softDelete none) hheader
  have hsecond := Work.mapError_of_ok (f := scope.stop .softDelete none) hlines
  rw [markRows, Scope.guarded, Work.bind_of_ok hfirst, if_neg hn]
  dsimp only
  rw [Scope.guarded, Work.bind_of_ok hsecond]
  rfl

/-! ## The answer -/

/-- What taking back at a calm desk answers to its judgement, and the desk that it leaves. -/
def retracted (d : Desk) (b : Book) (id : TransactionId) (moment : Timestamp) :
    Except LedgerError Unit → Except LedgerError Unit × Desk
  | .error e => (.error e, d.ready)
  | .ok _ => (.ok (), d.ready.holding (b.retract id moment))

theorem retracted_answer (d : Desk) (b : Book) (id : TransactionId) (moment : Timestamp)
    (r : Except LedgerError Unit) : (retracted d b id moment r).1 = r := by
  cases r <;> rfl

/-- The work of taking back at a calm desk, by its judgement. -/
theorem writeReversal_calm (h : d.Calm) (hb : d.store.book = some b) (hsound : b.Sound)
    (policy : FundsPolicy) (now : Timestamp) (id : TransactionId) :
    (Retraction policy b id (.ok ()) ∧ writeReversal policy ⟨id, none⟩ now d.ready =
      (.ok (), d.ready.holding (b.retract id now.asKept))) ∨
    ∃ e, Retraction policy b id (.error (e.withRollback .rolledBack)) ∧
      writeReversal policy ⟨id, none⟩ now d.ready = (.error (.error e), d.ready) := by
  rw [writeReversal]
  by_cases hlive : b.Live id
  · obtain ⟨p, rfl, hp⟩ := hsound.holds hlive
    rw [Work.bind_of_ok (loadForReversal_held h.ready hb hp), ready_ready]
    -- what was loaded can be turned and is judged, or it has a first line that cannot be turned
    rcases hsound.reversal hp with ⟨r, hreversed, hopposes, hall⟩ |
      ⟨l, hreversed, k, hk, haccount, hbottom, hfirst⟩
    · have hreverse : reversalOf p.transaction = .ok r := by rw [reversalOf, hreversed]
      rw [hreverse]
      have hreversible : b.Reversible p.transaction.id := ⟨hlive, hall⟩
      rcases clear_calm h.ready hb hsound.keyed policy ⟨p.transaction.id, none⟩
        hopposes.named.symm hopposes.lines_ne_nil with ⟨hclearing, hclear⟩ | ⟨e, hclearing, hclear⟩
      · refine Or.inl ⟨.judged hreversible ((release_iff hopposes).mpr hclearing), ?_⟩
        have hmarked := markRows_calm h.ready hb ⟨p.transaction.id, none⟩ hlive now
        rw [hp.strike_eq] at hmarked
        exact (Work.bind_of_ok hclear _).trans hmarked
      · refine Or.inr ⟨e, .judged hreversible ((release_iff hopposes).mpr hclearing), ?_⟩
        exact Work.bind_of_error hclear _
    · have hreverse : reversalOf p.transaction = .error (.persistence .softDelete
          (some p.transaction.id) (some l.account) "amount cannot be negated" .notAttempted) := by
        rw [reversalOf, hreversed]
      rw [hreverse]
      refine Or.inr ⟨_, ?_, rfl⟩
      rw [← haccount]
      exact .irreversible hlive hk hbottom hfirst
  · refine Or.inr ⟨.transactionNotFound id, .unknown hlive, ?_⟩
    exact Work.bind_of_error (loadForReversal_gone h.ready hb hsound hlive) _

/-- **Taking back is answered as it is judged.** -/
theorem delete_calm (h : d.Calm) (hb : d.store.book = some b) (hsound : b.Sound)
    (policy : FundsPolicy) (now : Timestamp) (id : TransactionId) :
    ∃ r, Retraction policy b id r ∧
      delete policy now id d = retracted d b id now.asKept r := by
  rcases writeReversal_calm h hb hsound policy now id with ⟨hjudged, hwork⟩ | ⟨e, hjudged, hwork⟩
  · have hsettle := settle_calm_ok ⟨id, none⟩ h hwork (h.ready.holding _)
    exact ⟨_, hjudged, hsettle⟩
  · have hsettle := settle_calm_error ⟨id, none⟩ h hwork h.ready
    exact ⟨_, hjudged, hsettle⟩

/--
**Taking back is decided by the rows**, after every run and whatever accounts were removed on the way. It is
judged in one way, answered so, and the rows of the transaction are marked if and only if nothing is in the
way; then none of them was deleted before, and each balance loses what the transaction had given. The funds
check never complains of what it was given.
-/
theorem delete_decided {allowed : FundsPolicy → Prop} {start : Store} {b₀ : Book}
    (hstart : start.Unused b₀) {last : Desk} (hrun : Visited allowed start last) (h : d.Calm)
    (hstore : d.store = last.store) (policy : FundsPolicy) (now : Timestamp) (id : TransactionId) :
    ∃ b r, d.store.book = some b ∧ Retraction policy b id r ∧
      (∀ r', Retraction policy b id r' → r' = r) ∧
      delete policy now id d = retracted d b id now.asKept r ∧
      (r = .ok () → ∃ p, p.transaction.id = id ∧ b.Holds p ∧
        ∀ a, (b.retract id now.asKept).balance a = b.balance a - b.netOf id a) ∧
      (∀ accounts lines, r ≠ .error (.invalidCheckInput accounts lines)) ∧
      ∀ a, r ≠ .error (.noMatchingLine a) := by
  obtain ⟨b, hb, hsound⟩ := hrun.sound hstart
  rw [← hstore] at hb
  obtain ⟨r, hjudged, hdelete⟩ := delete_calm h hb hsound policy now id
  refine ⟨b, r, hb, hjudged, fun r' h' => hjudged.unique hsound h', hdelete, ?_, ?_, ?_⟩
  · rintro rfl
    cases hjudged with
    | judged hreversible _ =>
        obtain ⟨p, rfl, hp⟩ := hsound.holds hreversible.live
        exact ⟨p, rfl, hp, hp.balance_retract now.asKept⟩
  · rintro accounts lines rfl
    cases hjudged with
    | judged _ hrelease => cases hrelease
  · rintro a rfl
    cases hjudged with
    | judged _ hrelease => cases hrelease

end Desk

namespace Specimen

/-- The desk after a transfer and the removal of the account that paid. -/
def orphaned : Desk := { posted with store := posted.store.remove ⟨"b"⟩ noon }

theorem orphaned_visited : Visited (fun _ => True) store orphaned :=
  .removed (.reached posted_reached) ⟨"b"⟩ noon (.start rfl)

end Specimen

theorem Desk.delete_decided_specimen :
    ∃ b r, Specimen.orphaned.store.book = some b ∧ Retraction .standard b ⟨"t"⟩ r ∧
      Desk.delete .standard Specimen.noon ⟨"t"⟩ Specimen.orphaned =
        Desk.retracted Specimen.orphaned b ⟨"t"⟩ Specimen.noon.asKept r := by
  have hstart : Specimen.store.Unused Specimen.book := ⟨rfl, by decide, rfl, rfl⟩
  obtain ⟨b, r, hb, hjudged, _, hdelete, _⟩ := Desk.delete_decided hstart Specimen.orphaned_visited
    ⟨by decide, by decide⟩ rfl .standard Specimen.noon ⟨"t"⟩
  exact ⟨b, r, hb, hjudged, hdelete⟩

/-- Money cannot be returned to an account that is gone. -/
example : (Desk.delete .standard Specimen.noon ⟨"t"⟩ Specimen.orphaned).1 =
    .error (.accountNotFound ⟨"b"⟩) := by decide

end DoubleEntry
