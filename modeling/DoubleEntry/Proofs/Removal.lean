import DoubleEntry.Proofs.Soundness

/-!
# Accounts that are removed

No operation removes an account. It is done from outside, by marking the row, and it may be done at any
point of a run. The books stay sound, because nothing that they owe to a transaction depends on its accounts
being there for good: an account that was marked still exists.
-/

namespace DoubleEntry

open Time

/-! ## Marking an account -/

/-- The row, marked deleted if it is the account's and not deleted yet. -/
def AccountRow.mark (id : AccountId) (moment : Timestamp) (r : AccountRow) : AccountRow :=
  if r.id = id ∧ r.isLive then { r with deletedAt := some moment } else r

@[simp] theorem AccountRow.mark_id (id : AccountId) (moment : Timestamp) (r : AccountRow) :
    (r.mark id moment).id = r.id := by
  unfold mark
  split <;> rfl

/-- The books with an account removed. -/
def Book.remove (b : Book) (a : AccountId) (moment : Timestamp) : Book :=
  { b with accounts := b.accounts.map (AccountRow.mark a moment) }

/-- The store with an account removed, if it has books at all. -/
def Store.remove (s : Store) (a : AccountId) (moment : Timestamp) : Store :=
  { s with book := s.book.map fun b => b.remove a moment }

namespace Book

variable {b : Book}

theorem map_id_remove (b : Book) (a : AccountId) (moment : Timestamp) :
    (b.remove a moment).accounts.map AccountRow.id = b.accounts.map AccountRow.id := by
  unfold remove
  rw [List.map_map]
  exact List.map_congr_left fun r _ => AccountRow.mark_id a moment r

theorem hasAccount_remove (b : Book) (a : AccountId) (moment : Timestamp) {x : AccountId}
    (h : b.hasAccount x = true) : (b.remove a moment).hasAccount x = true := by
  obtain ⟨r, hr, rfl⟩ := hasAccount_iff.mp h
  exact hasAccount_iff.mpr ⟨_, List.mem_map_of_mem hr, AccountRow.mark_id a moment r⟩

theorem Sound.removed (hb : b.Sound) (a : AccountId) (moment : Timestamp) :
    (b.remove a moment).Sound where
  keyed := by
    unfold Keyed
    rw [map_id_remove]
    exact hb.keyed
  unique := hb.unique
  owned := hb.owned
  whole h hh := { hb.whole h hh with
    existing := fun l hl => b.hasAccount_remove a moment ((hb.whole h hh).existing l hl) }

end Book

/-! ## Runs with removals -/

/-- The desks that a run comes to when accounts may be removed on the way, whichever and whenever. -/
inductive Visited (allowed : FundsPolicy → Prop) (start : Store) : Desk → Prop where
  | reached {d : Desk} (h : Reached allowed start d) : Visited allowed start d
  | removed {d d' : Desk} (h : Visited allowed start d) (a : AccountId) (moment : Timestamp)
      (hrest : Reached allowed (d.store.remove a moment) d') : Visited allowed start d'

/-- **What every run preserves and every removal, they preserve together.** -/
theorem Visited.induct {allowed : FundsPolicy → Prop} {start : Store} {b : Book} {P : Book → Prop}
    (hb : start.book = some b) (hstart : P b)
    (hreached : ∀ {start' : Store} {x : Book} {d' : Desk}, start'.book = some x → P x →
      Reached allowed start' d' → ∃ y, d'.store.book = some y ∧ P y)
    (hremoved : ∀ x a moment, P x → P (Book.remove x a moment)) {d : Desk}
    (h : Visited allowed start d) : ∃ b', d.store.book = some b' ∧ P b' := by
  induction h with
  | reached h => exact hreached hb hstart h
  | @removed d d' _ a moment hrest ih =>
    obtain ⟨b₁, hb₁, hkept⟩ := ih
    -- from here the run goes on as from any other store
    have hremain : (d.store.remove a moment).book = some (b₁.remove a moment) := by
      unfold Store.remove
      rw [hb₁]
      rfl
    exact hreached hremain (hremoved b₁ a moment hkept) hrest

/-- **The books stay sound**, whatever accounts are removed. -/
theorem Visited.sound {allowed : FundsPolicy → Prop} {start : Store} {b : Book}
    (hstart : start.Unused b) {d : Desk} (h : Visited allowed start d) :
    ∃ b', d.store.book = some b' ∧ b'.Sound :=
  h.induct hstart.book (Book.sound_init hstart.keyed hstart.headers hstart.lines)
    (fun hx hsound hrun => hrun.induct hx hsound fun _ _ hb hchange => hb.change hchange)
    fun _ a moment hx => hx.removed a moment

end DoubleEntry
