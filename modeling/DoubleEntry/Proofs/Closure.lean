import DoubleEntry.Proofs.History
import DoubleEntry.Proofs.Unseen

/-!
# Closed accounts

An account is closed by its status and has a time of closing. Neither is looked at by posting or by taking back:
whatever the accounts are labelled, both operations answer the same, write the same rows, and leave the labels as
they are. So a closed account is posted to like any other.
-/

namespace DoubleEntry

open Time

/-! ## Labels -/

/-- What is told of an account's closing: its status and its time of closing. -/
abbrev Labels := AccountId → String × Option Timestamp

/-- The account with what is told of its closing replaced. -/
def AccountRow.relabel (labels : Labels) (r : AccountRow) : AccountRow :=
  { r with status := (labels r.id).1, closedAt := (labels r.id).2 }

/-- The books with all accounts relabelled. -/
def Book.relabel (labels : Labels) (b : Book) : Book :=
  { b with accounts := b.accounts.map (AccountRow.relabel labels) }

/-- The desk with all accounts in its store relabelled. -/
def Desk.relabel (labels : Labels) (d : Desk) : Desk :=
  { d with store := { d.store with book := d.store.book.map (Book.relabel labels) } }

/-- The same accounts are there, labelled otherwise. -/
theorem Book.liveAccounts_relabel (labels : Labels) (b : Book) (wanted : List AccountId) :
    (b.relabel labels).liveAccounts wanted =
      (b.liveAccounts wanted).map (AccountRow.relabel labels) := by
  unfold liveAccounts relabel
  rw [List.filter_map, Order.sort_map fun _ _ => rfl]
  rfl

/-- **Labels are not seen.** -/
theorem relabel_unseen (labels : Labels) :
    Unseen (fun b b' => b' = b.relabel labels) fun _ => True where
  locked := by
    rintro b _ rfl wanted
    rw [Book.liveAccounts_relabel, List.map_map]
    rfl
  liveHeaders := by rintro b _ rfl; rfl
  linesAlive := by rintro b _ rfl; rfl
  hasHeader := by rintro b _ rfl id _; rfl
  hasLine := by rintro b _ rfl id _ n; rfl
  addHeader := by rintro b _ rfl row; rfl
  addLine := by rintro b _ rfl row; rfl
  markHeaders := by rintro b _ rfl id moment; rfl
  markLines := by rintro b _ rfl id moment; rfl

namespace Desk

variable {labels : Labels}

theorem beside_relabel (labels : Labels) (d : Desk) :
    d.Beside (fun b b' => b' = b.relabel labels) (d.relabel labels) := by
  refine ⟨⟨?_, rfl⟩, rfl, rfl, rfl⟩
  unfold relabel
  cases d.store.book with
  | none => exact .none
  | some b => exact .some rfl

theorem Beside.eq_relabel {d d' : Desk} (h : d.Beside (fun b b' => b' = b.relabel labels) d') :
    d' = d.relabel labels := by
  obtain ⟨⟨book, versions⟩, plan, online, unended⟩ := d
  obtain ⟨⟨book', versions'⟩, plan', online', unended'⟩ := d'
  obtain ⟨⟨hbook, rfl⟩, rfl, rfl, rfl⟩ := h
  cases hbook with
  | none => rfl
  | some hb => rw [hb]; rfl

/-- Work that agrees has one answer, however the accounts are labelled, and leaves the labels alone. -/
theorem relabelled_of_agrees {ε α : Type} {w : Work ε α}
    (h : w.Agrees fun b b' => b' = b.relabel labels) (d : Desk) :
    w (d.relabel labels) = ((w d).1, (w d).2.relabel labels) := by
  have hd := beside_relabel labels d
  exact Prod.ext (h.answer hd) (h.beside hd).eq_relabel

end Desk

/-! ## Closed or not -/

/--
**Whether an account is closed makes no difference to posting and taking back.** Had the accounts been labelled
otherwise, opened or closed at whatever time, then at any desk the answer would have been the same and so would the
books, the labels apart.
-/
theorem closing_disregarded (labels : Labels) (d : Desk) :
    (∀ policy deadline m p, Desk.post policy deadline m p (d.relabel labels) =
      ((Desk.post policy deadline m p d).1, (Desk.post policy deadline m p d).2.relabel labels)) ∧
    ∀ policy now id, Desk.delete policy now id (d.relabel labels) =
      ((Desk.delete policy now id d).1, (Desk.delete policy now id d).2.relabel labels) := by
  have hunseen := relabel_unseen labels
  constructor
  · intro policy deadline m p
    exact Desk.relabelled_of_agrees (Desk.post_agrees hunseen policy deadline trivial) d
  · intro policy now id
    exact Desk.relabelled_of_agrees (Desk.delete_agrees hunseen policy now id) d

namespace Specimen

/-- The first of the two accounts is closed. -/
def partlyClosed : Labels := fun a => if a = ⟨"a"⟩ then ("closed", some noon) else ("open", none)

/-- The desk before a transfer to the closed account. -/
def closed : Desk := desk.relabel partlyClosed

/-- The desk after the transfer. -/
def paidIn : Desk := (Operation.post .standard none moment (transfer "t" five minusFive)).run closed

/-- The desk after the transfer is taken back. -/
def paidBack : Desk := (Operation.delete .standard noon ⟨"t"⟩).run paidIn

end Specimen

/--
**A closed account can be posted to**: a transfer to it succeeds, adds a line to it and changes its balance, and
taking the transfer back succeeds and changes the balance again. The account is closed all the while.
-/
theorem closed_account_moves :
    (∀ d ∈ [Specimen.closed, Specimen.paidIn, Specimen.paidBack], ∃ b, d.store.book = some b ∧
      ∃ r ∈ b.accounts, r.id = ⟨"a"⟩ ∧ AccountStatus.ofText? r.status = some .closed) ∧
    (∃ posted, (Desk.post .standard none Specimen.moment
      (Specimen.transfer "t" Specimen.five Specimen.minusFive) Specimen.closed).1 = .ok posted) ∧
    (Desk.delete .standard Specimen.noon ⟨"t"⟩ Specimen.paidIn).1 = .ok () ∧
    [Specimen.closed, Specimen.paidIn, Specimen.paidBack].map
      (fun d => d.store.book.map fun b =>
        (b.balance ⟨"a"⟩, (b.lines.filter fun l => l.account = ⟨"a"⟩).length)) =
      [some (0, 0), some (5, 1), some (0, 1)] := by
  refine ⟨?_, ⟨_, rfl⟩, by decide, by decide⟩
  intro d hd
  refine ⟨d.store.book.getD .empty, ?_, ?_⟩
  · revert d
    decide
  · revert d
    decide

end DoubleEntry
