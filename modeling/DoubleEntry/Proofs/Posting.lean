import DoubleEntry.Posting
import DoubleEntry.Proofs.Entries
import DoubleEntry.Proofs.Locking
import DoubleEntry.Proofs.Proposal
import DoubleEntry.Proofs.Settlement

/-!
# What a posting has done when it succeeds

However the store misbehaves, a posting that is answered with a transaction has found every account
involved, read its true balance, passed the funds check on these balances, met no header of its
identifier, and entered the transaction whole. One that is answered with an error has left the store
alone.
-/

namespace DoubleEntry.Desk

open Time

/-! ## Writing -/

theorem inserted_ok {w : Work StoreError Bool} {d d' : Desk} (h : inserted w d = (.ok (), d')) :
    w d = (.ok true, d') := by
  obtain ⟨there, d₁, hw, hrest⟩ := Work.bind_ok h
  cases there with
  | true =>
      cases hrest
      exact hw
  | false => cases hrest

theorem insertHeader_ok {row : HeaderRow} {d d' : Desk}
    (h : inserted (insertHeader row) d = (.ok (), d')) :
    ∃ b, d.store.book = some b ∧ b.hasHeader row.id = false ∧
      d'.store = { d.store with book := some { b with headers := b.headers ++ [row] } } := by
  rcases change_outcome (inserted_ok h) with ⟨a, b, b', _, hb, hrun, hstore⟩ | ⟨_, hnothing⟩
  · split at hrun
    · cases hrun
    · rename_i hnew
      cases hrun
      exact ⟨b, hb, by simpa using hnew, hstore⟩
  · exact absurd (hnothing true rfl).1 (by simp)

theorem insertLine_ok {row : LineRow} {d d' : Desk}
    (h : inserted (insertLine row) d = (.ok (), d')) :
    ∃ b, d.store.book = some b ∧
      d'.store = { d.store with book := some { b with lines := b.lines ++ [row] } } := by
  rcases change_outcome (inserted_ok h) with ⟨a, b, b', _, hb, hrun, hstore⟩ | ⟨_, hnothing⟩
  · split at hrun
    · cases hrun
    · cases hrun
      exact ⟨b, hb, hstore⟩
  · exact absurd (hnothing true rfl).1 (by simp)

/-- Lines that were written are there, in order and numbered on. -/
theorem insertLines_ok {scope : Scope} {createdAt : Timestamp} {n : Nat} {lines : List Line}
    {d d' : Desk} {b : Book} (h : insertLines scope createdAt n lines d = (.ok (), d'))
    (hb : d.store.book = some b) :
    d'.store = { d.store with
      book := some { b with
        lines := b.lines ++ LineRow.ofLines scope.transaction createdAt.asKept n lines } } := by
  -- number, desk and books all move on with each line
  induction lines generalizing n d b with
  | nil =>
    cases h
    rw [LineRow.ofLines, List.append_nil, ← hb]
  | cons l rest ih =>
    rw [insertLines] at h
    split at h
    · obtain ⟨_, d₁, hinsert, hrest⟩ := Work.bind_ok h
      obtain ⟨b₁, hb₁, hstore₁⟩ := insertLine_ok (Work.mapError_ok hinsert)
      obtain rfl : b₁ = b := Option.some.inj (hb₁.symm.trans hb)
      rw [ih hrest (by rw [hstore₁]), hstore₁, LineRow.ofLines, List.append_assoc,
        List.singleton_append]
    · cases h

/-! ## The work inside the transaction -/

theorem configure_looks (scope : Scope) : (configure scope).Looks := by
  unfold configure
  split
  · exact (limitStatements_looks _).mapError
  · exact .pure _

/-- Rows that were written are those of the transaction, under a new header. -/
theorem enterRows_ok {scope : Scope} {t : Transaction} {createdAt : Timestamp} {d d' : Desk}
    (hscope : scope.transaction = t.id) (h : enterRows scope t createdAt d = (.ok (), d')) :
    ∃ b, d.store.book = some b ∧ b.hasHeader t.id = false ∧
      d'.store = { d.store with book := some (b.enter t createdAt) } := by
  obtain ⟨_, d₁, hheader, hlines⟩ := Work.bind_ok h
  obtain ⟨b, hb, hnew, hstore₁⟩ := insertHeader_ok (Work.mapError_ok hheader)
  refine ⟨b, hb, hnew, ?_⟩
  rw [insertLines_ok hlines (by rw [hstore₁]), hstore₁, hscope]
  rfl

/--
**Work that succeeded has entered the transaction whole**, and only after it was cleared. A store that is not
truthful may have had it cleared on other balances, but not entered otherwise.
-/
theorem writePosting_ok {policy : FundsPolicy} {scope : Scope} {t : Transaction}
    {createdAt : Timestamp} {d d' : Desk} (hscope : scope.transaction = t.id)
    (h : writePosting policy scope t createdAt d = (.ok (), d')) :
    ∃ b, d.store.book = some b ∧ b.hasHeader t.id = false ∧
      (d.plan.Truthful → b.Keyed → Cleared policy b t) ∧
      d'.store = { d.store with book := some (b.enter t createdAt) } := by
  rw [writePosting] at h
  obtain ⟨_, d₁, hconfigure, hrest⟩ := Work.bind_ok h
  have hconfigured := (configure_looks scope).of_eq hconfigure
  obtain ⟨_, d₂, hclear, hwritten⟩ := Work.bind_ok hrest
  have hcleared := (clear_looks policy scope t).of_eq hclear
  obtain ⟨b, hb, hnew, hstore⟩ := enterRows_ok hscope hwritten
  rw [hcleared.store] at hb
  refine ⟨b, by rw [← hconfigured.store]; exact hb, hnew, fun htruth hkeyed => ?_, ?_⟩
  · obtain ⟨_, _, b', hb', hfound⟩ := clear_ok hclear (htruth.within hconfigured.plan)
    obtain rfl : b' = b := Option.some.inj (hb'.symm.trans hb)
    exact hfound hkeyed
  · rw [hstore, hcleared.store, hconfigured.store]

/-! ## The whole posting -/

/-- The transaction that a posting keeps: business time to the microsecond. -/
def Kept (t : Transaction) : Transaction := { t with timestamp := t.timestamp.wholeMicros }

theorem persist_eq (policy : FundsPolicy) (deadline : Option Deadline) (now : Timestamp)
    (t : Transaction) :
    persist policy deadline now t =
      (settle ⟨t.id, deadline⟩ (writePosting policy ⟨t.id, deadline⟩ (Kept t) now.wholeMicros) >>=
        fun _ => pure ⟨Kept t, now.wholeMicros⟩) := rfl

/-- **A posting that succeeded** entered the transaction its proposal stands for. -/
theorem post_ok {policy : FundsPolicy} {deadline : Option Deadline} {m : Moment} {p : Proposal}
    {d d' : Desk} {posted : Posted} (h : post policy deadline m p d = (.ok posted, d')) :
    ∃ t b, p.check m.now ⟨m.fresh⟩ = .ok t ∧ posted = ⟨Kept t, m.now.wholeMicros⟩ ∧
      d.store.book = some b ∧ b.hasHeader t.id = false ∧
      (d.plan.Truthful → b.Keyed → Cleared policy b (Kept t)) ∧
      d'.store = { d.store with book := some (b.enter (Kept t) m.now.wholeMicros) } := by
  unfold post at h
  split at h
  · cases h
  · rename_i t hcheck
    split at h
    · cases h
    · obtain ⟨_, d₁, hsettle, hposted⟩ := Work.bind_ok h
      cases hposted
      obtain ⟨opened, done, hopened, hwork, hstore⟩ := settle_ok hsettle
      obtain ⟨b, hb, hnew, hcleared, hdone⟩ := writePosting_ok rfl hwork
      rw [hopened.store] at hb hdone
      exact ⟨t, b, hcheck, rfl, hb, hnew, fun htruth => hcleared (htruth.within hopened.plan),
        hstore.trans hdone⟩

/-- A transaction that was posted is on the accounts that were proposed, as they were written. -/
theorem post_accounts {policy : FundsPolicy} {deadline : Option Deadline} {m : Moment}
    {p : Proposal} {d d' : Desk} {posted : Posted}
    (h : post policy deadline m p d = (.ok posted, d')) :
    posted.transaction.lines.map Line.account = p.lines.map fun l => ⟨l.account⟩ := by
  obtain ⟨t, _, hcheck, rfl, _⟩ := post_ok h
  obtain ⟨_, _, _, _, hlines⟩ := Proposal.check_ok hcheck
  exact ProposedLine.accounts_of_check hlines

/-- **A posting that failed** left the store alone and tells what became of its transaction. -/
theorem post_error {policy : FundsPolicy} {deadline : Option Deadline} {m : Moment} {p : Proposal}
    {d d' : Desk} {e : LedgerError} (h : post policy deadline m p d = (.error e, d')) :
    d'.store = d.store ∧ ∀ step transaction account cause rollback,
      e = .persistence step transaction account cause rollback →
        ∃ t, p.check m.now ⟨m.fresh⟩ = .ok t ∧
          Fate (writePosting policy ⟨t.id, deadline⟩ (Kept t) m.now.wholeMicros) d rollback := by
  unfold post at h
  split at h
  · rename_i x hcheck
    cases h
    refine ⟨rfl, fun step transaction account cause rollback he => ?_⟩
    exact absurd he (Proposal.check_ne_persistence hcheck _ _ _ _ _)
  · rename_i t hcheck
    split at h
    · cases h
      exact ⟨rfl, fun step transaction account cause rollback he => by cases he⟩
    · rw [persist_eq] at h
      rcases hsettle : settle ⟨t.id, deadline⟩
        (writePosting policy ⟨t.id, deadline⟩ (Kept t) m.now.wholeMicros) d with ⟨r, d₁⟩
      cases r with
      | ok _ =>
          rw [Work.bind_of_ok hsettle] at h
          cases h
      | error x =>
          rw [Work.bind_of_error hsettle] at h
          cases h
          obtain ⟨hstore, hfate⟩ := settle_error hsettle
          exact ⟨hstore, fun step transaction account cause rollback he =>
            ⟨t, hcheck, hfate step transaction account cause rollback he⟩⟩

end DoubleEntry.Desk
