import DoubleEntry.Store.Work

/-!
# Taking work apart

Work that succeeded did so piece by piece: from the answer of a sequence of works one gets back the
answer of each and the desk in between. And whatever a desk keeps through every piece it keeps through
the whole, whether the work succeeded or not. Nothing here knows what any statement does.
-/

namespace DoubleEntry.Work

variable {ε ε' α β : Type}

/-! ## Success comes from success -/

theorem bind_of_ok {w : Work ε α} {d d' : Desk} {a : α} (h : w d = (.ok a, d'))
    (f : α → Work ε β) : (w >>= f) d = f a d' := by
  rw [bind_apply, h]

theorem bind_of_error {w : Work ε α} {d d' : Desk} {e : ε} (h : w d = (.error e, d'))
    (f : α → Work ε β) : (w >>= f) d = (.error e, d') := by
  rw [bind_apply, h]

/-- A sequence that succeeded has a first part that did, and a rest that did from there. -/
theorem bind_ok {w : Work ε α} {f : α → Work ε β} {d d' : Desk} {b : β}
    (h : (w >>= f) d = (.ok b, d')) :
    ∃ a d₁, w d = (.ok a, d₁) ∧ f a d₁ = (.ok b, d') := by
  rcases hw : w d with ⟨r, d₁⟩
  cases r with
  | error e =>
      rw [bind_of_error hw] at h
      exact absurd (congrArg Prod.fst h) (by simp)
  | ok a =>
      rw [bind_of_ok hw] at h
      exact ⟨a, d₁, rfl, h⟩

theorem mapError_of_ok {f : ε → ε'} {w : Work ε α} {d d' : Desk} {a : α}
    (h : w d = (.ok a, d')) : w.mapError f d = (.ok a, d') := by
  rw [mapError, h]

theorem mapError_of_error {f : ε → ε'} {w : Work ε α} {d d' : Desk} {e : ε}
    (h : w d = (.error e, d')) : w.mapError f d = (.error (f e), d') := by
  rw [mapError, h]

theorem mapError_ok {f : ε → ε'} {w : Work ε α} {d d' : Desk} {a : α}
    (h : w.mapError f d = (.ok a, d')) : w d = (.ok a, d') := by
  rcases hw : w d with ⟨r, d₁⟩
  cases r with
  | error e =>
      rw [mapError_of_error hw] at h
      exact absurd (congrArg Prod.fst h) (by simp)
  | ok b =>
      rw [mapError_of_ok hw] at h
      cases h
      rfl

theorem ofExcept_ok {r : Except ε α} {d d' : Desk} {a : α}
    (h : (ofExcept r : Work ε α) d = (.ok a, d')) : r = .ok a ∧ d' = d :=
  ⟨congrArg Prod.fst h, (congrArg Prod.snd h).symm⟩

/-- Failures of a sequence are worded part by part. -/
theorem mapError_bind (g : ε → ε') (w : Work ε α) (f : α → Work ε β) :
    (w >>= f).mapError g = (w.mapError g >>= fun a => (f a).mapError g) := by
  funext d
  rcases hw : w d with ⟨r, d₁⟩
  cases r with
  | error e =>
      rw [mapError_of_error (bind_of_error hw f), bind_of_error (mapError_of_error hw)]
  | ok a =>
      rw [bind_of_ok (mapError_of_ok hw), mapError, mapError, bind_of_ok hw]

/-- A sequence is worded as another if its parts are. -/
theorem mapError_bind_eq {g : ε → ε'} {w : Work ε α} {w' : Work ε' α} {f : α → Work ε β}
    {f' : α → Work ε' β} (hw : w.mapError g = w') (hf : ∀ a, (f a).mapError g = f' a) :
    (w >>= f).mapError g = (w' >>= f') := by
  rw [mapError_bind, hw]
  exact bind_congr hf

/-- Failures that are worded twice are worded once. -/
theorem mapError_mapError {ε'' : Type} (f : ε → ε') (g : ε' → ε'') (w : Work ε α) :
    (w.mapError f).mapError g = w.mapError fun e => g (f e) := by
  funext d
  rcases hw : w d with ⟨r, d₁⟩
  cases r with
  | error e => rw [mapError_of_error (mapError_of_error hw), mapError_of_error hw]
  | ok a => rw [mapError_of_ok (mapError_of_ok hw), mapError_of_ok hw]

/-! ## What is kept -/

/-- Whatever `P` says of the desk, it still says when the work is over. -/
def Keeps (P : Desk → Prop) (w : Work ε α) : Prop := ∀ d, P d → P (w d).2

variable {P : Desk → Prop}

theorem Keeps.of_eq {w : Work ε α} (h : w.Keeps P) {d d' : Desk} {r : Except ε α}
    (hw : w d = (r, d')) (hd : P d) : P d' := by
  have := h d hd
  rw [hw] at this
  exact this

theorem Keeps.pure (a : α) : (Pure.pure a : Work ε α).Keeps P := fun _ h => h

theorem Keeps.fail (e : ε) : (Work.fail e : Work ε α).Keeps P := fun _ h => h

theorem Keeps.ofExcept (r : Except ε α) : (Work.ofExcept r).Keeps P := fun _ h => h

theorem Keeps.bind {w : Work ε α} {f : α → Work ε β} (hw : w.Keeps P)
    (hf : ∀ a, (f a).Keeps P) : (w >>= f).Keeps P := by
  intro d hd
  have h₁ := hw d hd
  rcases hwd : w d with ⟨r, d₁⟩
  rw [hwd] at h₁
  cases r with
  | error e => rw [bind_of_error hwd]; exact h₁
  | ok a => rw [bind_of_ok hwd]; exact hf a d₁ h₁

theorem Keeps.mapError {f : ε → ε'} {w : Work ε α} (hw : w.Keeps P) :
    (w.mapError f).Keeps P := by
  intro d hd
  have h₁ := hw d hd
  rcases hwd : w d with ⟨r, d₁⟩
  rw [hwd] at h₁
  cases r with
  | error e => rw [mapError_of_error hwd]; exact h₁
  | ok a => rw [mapError_of_ok hwd]; exact h₁

end DoubleEntry.Work
