import DoubleEntry.Proofs.Readability
import DoubleEntry.Proofs.Serving
import DoubleEntry.Proofs.TakingBack

/-!
# What can be taken back

What was posted can be taken back as far as the funds allow, with two exceptions at the bounds of what 64
bits can hold. Posting admits the least amount, which has no opposite, and it admits credits that take a
balance out of range, which cannot be read from then on. In either case taking back fails as if the store
had, and the service answers that it is at fault itself. Both are told from the rows and balances, and there
is no third case.
-/

namespace DoubleEntry

open Time Http

/-! ## As far as funds allow -/

/-- The transaction was taken back, or the funds do not allow it. -/
def AsFundsAllow (r : Except LedgerError Unit) : Prop :=
  r = .ok () ∨ ∃ a balance debit, r = .error (.insufficientFunds a balance debit)

/-- The operation failed as it does when the store fails, and was rolled back. -/
def FailsAsStore (id : TransactionId) (r : Except LedgerError Unit) : Prop :=
  ∃ step account cause, r = .error (.persistence step (some id) account cause .rolledBack)

/-- Every amount has an opposite, and every balance involved can be read. -/
structure Book.Revocable (b : Book) (id : TransactionId) : Prop where
  /-- No amount is the least. -/
  opposable : ∀ l ∈ b.linesOf id, l.amount ≠ .bottom
  /-- No balance is out of range. -/
  fits : ∀ a, b.Involves id a → Amount.Fits (b.balance a)

section

variable {policy : FundsPolicy} {b : Book} {id : TransactionId} {r : Except LedgerError Unit}

/-- **There are two exceptions and no third**, where the transaction and its accounts are there. -/
theorem Retraction.revocable (h : Retraction policy b id r) (hlive : b.Live id)
    (hfound : ∀ a, b.Involves id a → b.hasLiveAccount a = true) :
    (b.Revocable id ∧ AsFundsAllow r) ∨ (¬ b.Revocable id ∧ FailsAsStore id r) := by
  cases h with
  | unknown hgone => exact absurd hlive hgone
  | irreversible _ hl hbottom _ =>
      exact Or.inr ⟨fun hrevocable => hrevocable.opposable _ hl hbottom, _, _, _, rfl⟩
  | judged hreversible hrelease =>
      cases hrelease with
      | missing hleast =>
          obtain ⟨⟨hinvolved, hmissing⟩, _⟩ := hleast
          rw [hfound _ hinvolved] at hmissing
          cases hmissing
      | unreadable _ hunfit =>
          obtain ⟨a, hinvolved, hnot⟩ := hunfit
          exact Or.inr ⟨fun hrevocable => hnot (hrevocable.fits a hinvolved), _, _, _, rfl⟩
      | overdrawn _ hfits _ _ =>
          exact Or.inl ⟨⟨hreversible.opposable, hfits⟩, Or.inr ⟨_, _, _, rfl⟩⟩
      | released _ hfits _ => exact Or.inl ⟨⟨hreversible.opposable, hfits⟩, Or.inl rfl⟩

end

/-! ## What the service answers -/

namespace Http

/-- A request to take back the transaction of this identifier. -/
structure AsksBack (r : Request) (id : TransactionId) : Prop where
  /-- The method is that of deletion. -/
  method : r.method = "DELETE"
  /-- The path names the transaction. -/
  named : ∃ segment, resource? (splitTarget r.target).1 = some (.transaction segment) ∧
    identifier segment = .ok id.text

/-- The status that answers a request to take back. -/
def deletionStatus : Except LedgerError Unit → Nat
  | .ok _ => 204
  | .error e => e.problem.status

/-- **The service answers what the ledger answered.** -/
theorem status_of_delete {r : Request} {id : TransactionId} (h : AsksBack r id)
    (settings : LedgerSettings) (m : Moment) (d : Desk) :
    (serve settings m r d).1.status =
      deletionStatus (Desk.delete settings.policy m.now id d).1 := by
  obtain ⟨segment, hpath, hid⟩ := h.named
  have hserve : serve settings m r d = respond (deleteTransaction settings m segment) d :=
    serve_eq_respond (by rw [h.method]; decide) (by rw [h.method]; decide) hpath
      (by rw [h.method]; rfl) d
  have hwork : deleteTransaction settings m segment =
      (ledger (Desk.delete settings.policy m.now id) >>= fun _ => pure ⟨204, .empty⟩) := by
    unfold deleteTransaction
    rw [hid]
    rfl
  rw [hserve, hwork, respond_ledger]
  cases (Desk.delete settings.policy m.now id d).1 <;> rfl

theorem deletionStatus_of_allowed {r : Except LedgerError Unit} (h : AsFundsAllow r) :
    deletionStatus r = 204 ∨ deletionStatus r = 422 := by
  rcases h with rfl | ⟨a, balance, debit, rfl⟩
  · exact Or.inl rfl
  · exact Or.inr rfl

theorem deletionStatus_of_failed {id : TransactionId} {r : Except LedgerError Unit}
    (h : FailsAsStore id r) : deletionStatus r = 500 := by
  obtain ⟨step, account, cause, rfl⟩ := h
  rfl

end Http

/-! ## What can and what cannot -/

/--
**What is revocable can be taken back as far as funds allow, and what is not cannot be at all**, after every
run and whatever other accounts were removed on the way. The service is at fault in the second case only.
-/
theorem revocable_as_funds_allow {allowed : FundsPolicy → Prop} {start : Store} {b₀ : Book}
    (hstart : start.Unused b₀) {last : Desk} (hrun : Visited allowed start last) {d : Desk}
    (h : d.Calm) (hstore : d.store = last.store) (id : TransactionId) :
    ∃ b, d.store.book = some b ∧
      (b.Live id → (∀ a, b.Involves id a → b.hasLiveAccount a = true) →
        (b.Revocable id →
          (∀ policy now, AsFundsAllow (Desk.delete policy now id d).1) ∧
          ∀ settings m r, AsksBack r id →
            (serve settings m r d).1.status = 204 ∨ (serve settings m r d).1.status = 422) ∧
        (¬ b.Revocable id →
          (∀ policy now, FailsAsStore id (Desk.delete policy now id d).1) ∧
          ∀ settings m r, AsksBack r id → (serve settings m r d).1.status = 500)) := by
  obtain ⟨b, hb, hsound⟩ := hrun.sound hstart
  rw [← hstore] at hb
  refine ⟨b, hb, fun hlive hfound => ?_⟩
  have hdecided : ∀ policy now,
      (b.Revocable id ∧ AsFundsAllow (Desk.delete policy now id d).1) ∨
        (¬ b.Revocable id ∧ FailsAsStore id (Desk.delete policy now id d).1) := by
    intro policy now
    obtain ⟨r, hjudged, hdelete⟩ := Desk.delete_calm h hb hsound policy now id
    rw [hdelete, Desk.retracted_answer]
    exact hjudged.revocable hlive hfound
  constructor
  · intro hrevocable
    have hallowed : ∀ policy now, AsFundsAllow (Desk.delete policy now id d).1 :=
      fun policy now => ((hdecided policy now).resolve_right fun hnot => hnot.1 hrevocable).2
    refine ⟨hallowed, fun settings m r hr => ?_⟩
    rw [status_of_delete hr]
    exact deletionStatus_of_allowed (hallowed _ _)
  · intro hirrevocable
    have hfailed : ∀ policy now, FailsAsStore id (Desk.delete policy now id d).1 :=
      fun policy now => ((hdecided policy now).resolve_left fun his => hirrevocable his.1).2
    refine ⟨hfailed, fun settings m r hr => ?_⟩
    rw [status_of_delete hr]
    exact deletionStatus_of_failed (hfailed _ _)

namespace Specimen

/-- The request to take the transfer back. -/
def revocation : Request := ⟨"DELETE", "/api/v1/transactions/t", none, ""⟩

theorem revocation_asks : AsksBack revocation ⟨"t"⟩ := ⟨rfl, ['t'], by decide, rfl⟩

end Specimen

theorem revocable_as_funds_allow_specimen :
    (∀ policy now, AsFundsAllow (Desk.delete policy now ⟨"t"⟩ Specimen.posted).1) ∧
      ((serve .standard Specimen.moment Specimen.revocation Specimen.posted).1.status = 204 ∨
        (serve .standard Specimen.moment Specimen.revocation Specimen.posted).1.status = 422) := by
  have hstart : Specimen.store.Unused Specimen.book := ⟨rfl, by decide, rfl, rfl⟩
  obtain ⟨b, hb, hcases⟩ := revocable_as_funds_allow hstart (.reached Specimen.posted_reached)
    ⟨by decide, by decide⟩ rfl ⟨"t"⟩
  have hbook : Specimen.posted.store.book = some (Specimen.posted.store.book.getD .empty) := by decide
  obtain rfl := Option.some.inj (hbook.symm.trans hb)
  -- what is asked of the lines and of their accounts can be looked up
  have hrows : ∀ l ∈ (Specimen.posted.store.book.getD .empty).linesOf ⟨"t"⟩,
      (Specimen.posted.store.book.getD .empty).hasLiveAccount l.account = true ∧
        l.amount ≠ .bottom ∧
        -9223372036854775808 ≤ (Specimen.posted.store.book.getD .empty).balance l.account ∧
        (Specimen.posted.store.book.getD .empty).balance l.account ≤ 9223372036854775807 := by
    decide
  have hlive : (Specimen.posted.store.book.getD .empty).Live ⟨"t"⟩ := by
    unfold Book.Live
    decide
  obtain ⟨hrevocable, _⟩ := hcases hlive (by rintro a ⟨l, hl, rfl⟩; exact (hrows l hl).1)
  obtain ⟨hallowed, hstatus⟩ := hrevocable
    ⟨fun l hl => (hrows l hl).2.1, by rintro a ⟨l, hl, rfl⟩; exact (hrows l hl).2.2⟩
  exact ⟨hallowed, hstatus .standard Specimen.moment _ Specimen.revocation_asks⟩

/-! ## Two transactions that cannot be taken back -/

namespace Specimen

/-- A transfer in which the first account is charged the least amount and given one back. -/
def extreme : Proposal :=
  ⟨some ⟨"t"⟩, none, [⟨"a", "transfer", .bottom⟩, ⟨"a", "transfer", ⟨1, by decide, by decide⟩⟩,
    ⟨"b", "transfer", most⟩]⟩

/-- The desk after it is posted. -/
def stuck : Desk := (Operation.post .standard none moment extreme).run desk

theorem stuck_reached : Reached (· = .standard) store stuck := by
  have hstart : Reached (· = .standard) store desk := .start rfl
  exact hstart.step (.post .standard none moment extreme) rfl [] (by decide) true

end Specimen

/--
**A posting of the least amount cannot be taken back**, with all accounts there, and neither can one whose
accounts went out of range since. The service answers with a fault of its own.
-/
theorem irrevocable_reached :
    Specimen.store.Unused Specimen.book ∧
      (Reached (· = .standard) Specimen.store Specimen.stuck ∧ Specimen.stuck.Calm ∧
        (∃ b, Specimen.stuck.store.book = some b ∧ b.Live ⟨"t"⟩ ∧
          ∀ l ∈ b.linesOf ⟨"t"⟩, b.hasLiveAccount l.account = true) ∧
        (Desk.delete .standard Specimen.noon ⟨"t"⟩ Specimen.stuck).1 =
          .error (.persistence .softDelete (some ⟨"t"⟩) (some ⟨"a"⟩) "amount cannot be negated"
            .rolledBack) ∧
        (serve .standard Specimen.moment Specimen.revocation Specimen.stuck).1.status = 500) ∧
      (Reached (· = .standard) Specimen.store Specimen.strained ∧ Specimen.strained.Calm ∧
        (∃ b, Specimen.strained.store.book = some b ∧ b.Live ⟨"t"⟩ ∧
          ∀ l ∈ b.linesOf ⟨"t"⟩, b.hasLiveAccount l.account = true) ∧
        (Desk.delete .standard Specimen.noon ⟨"t"⟩ Specimen.strained).1 =
          .error (.persistence .readBalance (some ⟨"t"⟩) none unreadableText .rolledBack) ∧
        (serve .standard Specimen.moment Specimen.revocation Specimen.strained).1.status = 500) := by
  refine ⟨⟨rfl, by decide, rfl, rfl⟩,
    ⟨Specimen.stuck_reached, ⟨by decide, by decide⟩, ?_, by decide, by decide⟩,
    ⟨Specimen.strained_reached, ⟨by decide, by decide⟩, ?_, by decide, by decide⟩⟩
  · exact ⟨Specimen.stuck.store.book.getD .empty, by decide, by unfold Book.Live; decide, by decide⟩
  · exact ⟨Specimen.strained.store.book.getD .empty, by decide, by unfold Book.Live; decide, by decide⟩

end DoubleEntry
