import DoubleEntry.Proofs.Judgement

/-!
# How taking back is judged

Taking a transaction back is judged on its rows, in a fixed order: whether it is there and not deleted,
whether each of its amounts has an opposite, whether the accounts involved are there, whether their balances
fit, and whether the opposite movement overdraws an account. From the third point on this is the judgement of
a posting, of any transaction that undoes account by account what the rows have done.
-/

namespace DoubleEntry

open Time

/-! ## The judgement -/

/-- Taking back so much would take it from a protected balance and leave it below zero. -/
def FundsPolicy.Retains (policy : FundsPolicy) (balance net : Int) : Prop :=
  policy.Protects balance ∧ 0 < net ∧ balance - net < 0

theorem FundsPolicy.retains_iff {policy : FundsPolicy} {balance net : Int} :
    policy.Retains balance net ↔ policy.Forbids balance (-net) := by
  unfold Retains Forbids
  rw [show (-net < 0) ↔ 0 < net by omega, show balance + -net < 0 ↔ balance - net < 0 by omega]

namespace Book

/-- There is a transaction of this identifier that is not deleted. -/
def Live (b : Book) (id : TransactionId) : Prop := ∃ h ∈ b.headers, h.id = id ∧ h.isLive = true

/-- A line of the transaction is on this account. -/
def Involves (b : Book) (id : TransactionId) (a : AccountId) : Prop := ∃ l ∈ b.linesOf id, l.account = a

/-- The exact net of the transaction's lines on one account. -/
def netOf (b : Book) (id : TransactionId) (a : AccountId) : Int :=
  total (((b.linesOf id).filter fun l => l.account = a).map LineRow.amount)

/-- A transaction that is there, and of which every amount has an opposite. -/
structure Reversible (b : Book) (id : TransactionId) : Prop where
  /-- It is not deleted. -/
  live : b.Live id
  /-- No amount is the least. -/
  opposable : ∀ l ∈ b.linesOf id, l.amount ≠ .bottom

/-- The books with a transaction deleted: its header and all of its lines, with one time. -/
def retract (b : Book) (id : TransactionId) (moment : Timestamp) : Book :=
  { b with
    headers := b.headers.map fun h => if h.id = id then { h with deletedAt := some moment } else h
    lines := b.lines.map fun l =>
      if l.transaction = id then { l with deletedAt := some moment } else l }

end Book

/-- How the movement that takes a transaction back is judged. -/
inductive Release (policy : FundsPolicy) (b : Book) (id : TransactionId) :
    Except LedgerError Unit → Prop where
  /-- An account is missing or deleted. -/
  | missing {a : AccountId}
      (hleast : Least (fun x => b.Involves id x ∧ b.hasLiveAccount x = false) a) :
      Release policy b id (.error (.accountNotFound a))
  /-- A balance does not fit. -/
  | unreadable (hfound : ∀ a, b.Involves id a → b.hasLiveAccount a = true)
      (hunfit : ∃ a, b.Involves id a ∧ ¬ Amount.Fits (b.balance a)) :
      Release policy b id
        (.error (.persistence .readBalance (some id) none unreadableText .rolledBack))
  /-- A protected account would be overdrawn. -/
  | overdrawn {a : AccountId} {balance : Amount}
      (hfound : ∀ a, b.Involves id a → b.hasLiveAccount a = true)
      (hfits : ∀ a, b.Involves id a → Amount.Fits (b.balance a))
      (hleast : Least (fun x => b.Involves id x ∧ policy.Retains (b.balance x) (b.netOf id x)) a)
      (hbalance : balance.value = b.balance a) :
      Release policy b id (.error (.insufficientFunds a balance (b.netOf id a)))
  /-- Nothing is in the way. -/
  | released (hfound : ∀ a, b.Involves id a → b.hasLiveAccount a = true)
      (hfits : ∀ a, b.Involves id a → Amount.Fits (b.balance a))
      (hallowed : ∀ a, b.Involves id a → ¬ policy.Retains (b.balance a) (b.netOf id a)) :
      Release policy b id (.ok ())

/-- How taking a transaction back is judged. -/
inductive Retraction (policy : FundsPolicy) (b : Book) (id : TransactionId) :
    Except LedgerError Unit → Prop where
  /-- There is no such transaction, or it is deleted. -/
  | unknown (hgone : ¬ b.Live id) : Retraction policy b id (.error (.transactionNotFound id))
  /-- An amount has no opposite; the first line of such an amount is named. -/
  | irreversible {l : LineRow} (hlive : b.Live id) (hl : l ∈ b.linesOf id)
      (hbottom : l.amount = .bottom)
      (hfirst : ∀ k ∈ b.linesOf id, k.amount = .bottom → l.number ≤ k.number) :
      Retraction policy b id (.error (.persistence .softDelete (some id) (some l.account)
        "amount cannot be negated" .rolledBack))
  /-- The opposite movement decides. -/
  | judged {r : Except LedgerError Unit} (hreversible : b.Reversible id)
      (hrelease : Release policy b id r) : Retraction policy b id r

/-! ## The opposite movement is judged like a posting -/

/-- A transaction that undoes, account by account, what one in the books has done. -/
structure Book.Opposes (b : Book) (id : TransactionId) (t : Transaction) : Prop where
  /-- It goes by the same identifier. -/
  named : t.id = id
  /-- The same accounts are involved. -/
  touches : ∀ a, t.touches a = true ↔ b.Involves id a
  /-- Each net is the opposite. -/
  net : ∀ a, t.net a = -(b.netOf id a)
  /-- At least two accounts are involved. -/
  several : 2 ≤ t.accounts.length

/-- There is something to post. -/
theorem Book.Opposes.lines_ne_nil {b : Book} {id : TransactionId} {t : Transaction}
    (h : b.Opposes id t) : t.lines ≠ [] := by
  intro hnil
  have hnone : t.accounts = [] := by
    rw [Transaction.accounts, hnil]
    rfl
  have hseveral := h.several
  rw [hnone] at hseveral
  exact absurd hseveral (by decide)

theorem Least.congr {P Q : AccountId → Prop} (h : ∀ x, P x ↔ Q x) {a : AccountId}
    (ha : Least P a) : Least Q a :=
  ⟨(h a).mp ha.1, fun x hx => ha.2 x ((h x).mpr hx)⟩

section

variable {policy : FundsPolicy} {b : Book} {id : TransactionId} {t : Transaction}

/-- **Taking back is judged as posting the opposite.** -/
theorem release_iff (ht : b.Opposes id t) {r : Except LedgerError Unit} :
    Release policy b id r ↔ Clearing policy b t r := by
  have hretains : ∀ a, policy.Retains (b.balance a) (b.netOf id a) ↔
      policy.Forbids (b.balance a) (t.net a) := by
    intro a
    rw [ht.net, FundsPolicy.retains_iff]
  -- the cases correspond to each other, but for the lone account, which an opposite never has
  constructor
  · intro h
    cases h with
    | missing hleast => exact .missing (hleast.congr fun x => and_congr_left' (ht.touches x).symm)
    | unreadable hfound hunfit =>
        obtain ⟨a, ha, hnot⟩ := hunfit
        rw [← ht.named]
        exact .unreadable (fun x hx => hfound x ((ht.touches x).mp hx))
          ⟨a, (ht.touches a).mpr ha, hnot⟩
    | @overdrawn a balance hfound hfits hleast hbalance =>
        rw [show b.netOf id a = -(t.net a) by rw [ht.net, Int.neg_neg]]
        exact .overdrawn (fun x hx => hfound x ((ht.touches x).mp hx))
          (fun x hx => hfits x ((ht.touches x).mp hx)) ht.several
          (hleast.congr fun x => and_congr (ht.touches x).symm (hretains x)) hbalance
    | released hfound hfits hallowed =>
        exact .cleared ⟨fun x hx => hfound x ((ht.touches x).mp hx),
          fun x hx => hfits x ((ht.touches x).mp hx), ht.several,
          fun x hx hforbidden => hallowed x ((ht.touches x).mp hx) ((hretains x).mpr hforbidden)⟩
  · intro h
    cases h with
    | missing hleast => exact .missing (hleast.congr fun x => and_congr_left' (ht.touches x))
    | unreadable hfound hunfit =>
        obtain ⟨a, ha, hnot⟩ := hunfit
        rw [ht.named]
        exact .unreadable (fun x hx => hfound x ((ht.touches x).mpr hx))
          ⟨a, (ht.touches a).mp ha, hnot⟩
    | lone _ _ hlone => exact absurd hlone (Nat.not_lt.mpr ht.several)
    | @overdrawn a balance hfound hfits _ hleast hbalance =>
        rw [show -(t.net a) = b.netOf id a by rw [ht.net, Int.neg_neg]]
        exact .overdrawn (fun x hx => hfound x ((ht.touches x).mpr hx))
          (fun x hx => hfits x ((ht.touches x).mpr hx))
          (hleast.congr fun x => and_congr (ht.touches x) (hretains x).symm) hbalance
    | cleared hcleared =>
        exact .released (fun x hx => hcleared.found x ((ht.touches x).mpr hx))
          (fun x hx => hcleared.fits x ((ht.touches x).mpr hx))
          fun x hx hretained => hcleared.allowed x ((ht.touches x).mpr hx) ((hretains x).mp hretained)

end

end DoubleEntry
