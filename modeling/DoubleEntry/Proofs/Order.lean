import DoubleEntry.Order

/-!
# What a sorted listing keeps

Sorting by insertion loses nothing and adds nothing, and the list of distinct texts holds exactly the
texts it was made from, strictly ascending. Two consequences carry the rest of the library: two
ascending lists with the same elements are the same list, and the first element of an ascending list
that has some property is the least that has it.
-/

namespace DoubleEntry.Order

variable {α : Type}

/-! ## Sorting permutes -/

theorem insert_perm (before : α → α → Bool) (a : α) (l : List α) :
    (insert before a l).Perm (a :: l) := by
  induction l with
  | nil => exact List.Perm.refl _
  | cons b rest ih =>
    rw [insert]
    split
    · exact (ih.cons b).trans (List.Perm.swap a b rest)
    · exact List.Perm.refl _

theorem sort_perm (before : α → α → Bool) (l : List α) : (sort before l).Perm l := by
  induction l with
  | nil => exact List.Perm.refl _
  | cons a rest ih => exact (insert_perm before a (sort before rest)).trans (ih.cons a)

theorem mem_sort {before : α → α → Bool} {a : α} {l : List α} : a ∈ sort before l ↔ a ∈ l :=
  (sort_perm before l).mem_iff

/-! ## Sorting sorts -/

section

variable {before : α → α → Bool} (asymm : ∀ a b, before a b = true → before b a = false)
  (negTrans : ∀ a b c, before b a = false → before c b = false → before c a = false)

include asymm negTrans

theorem insert_sorted {a : α} {l : List α} (h : l.Pairwise fun x y => before y x = false) :
    (insert before a l).Pairwise fun x y => before y x = false := by
  induction l with
  | nil => exact List.pairwise_singleton _ _
  | cons b rest ih =>
    obtain ⟨hb, hrest⟩ := List.pairwise_cons.mp h
    rw [insert]
    split
    · rename_i hba
      refine List.pairwise_cons.mpr ⟨?_, ih hrest⟩
      intro x hx
      rcases List.mem_cons.mp ((insert_perm before a rest).mem_iff.mp hx) with rfl | hx
      · exact asymm b x hba
      · exact hb x hx
    · rename_i hba
      have hba : before b a = false := by simpa using hba
      refine List.pairwise_cons.mpr ⟨?_, h⟩
      intro x hx
      rcases List.mem_cons.mp hx with rfl | hx
      · exact hba
      · exact negTrans a b x hba (hb x hx)

/-- No element of a sorted list comes before one that stands ahead of it. -/
theorem sort_sorted (l : List α) : (sort before l).Pairwise fun x y => before y x = false := by
  induction l with
  | nil => exact List.Pairwise.nil
  | cons a rest ih => exact insert_sorted asymm negTrans ih

omit asymm in
theorem filter_insert (p : α → Bool) {a : α} {l : List α}
    (h : l.Pairwise fun x y => before y x = false) :
    (insert before a l).filter p = if p a then insert before a (l.filter p) else l.filter p := by
  induction l with
  | nil => cases ha : p a <;> simp [insert, ha]
  | cons b rest ih =>
    obtain ⟨hb, hrest⟩ := List.pairwise_cons.mp h
    have hih := ih hrest
    rw [insert]
    split
    · rename_i hba
      -- the new element comes later, whether or not this one is kept
      cases hpb : p b with
      | true =>
          rw [List.filter_cons_of_pos hpb, hih, List.filter_cons_of_pos hpb, insert, if_pos hba]
          split <;> rfl
      | false =>
          have hpb : ¬ p b = true := by simp [hpb]
          rw [List.filter_cons_of_neg hpb, hih, List.filter_cons_of_neg hpb]
    · rename_i hba
      have hba : before b a = false := by simpa using hba
      cases hpa : p a with
      | false => rw [List.filter_cons_of_neg (by simp [hpa])]; rfl
      | true =>
          -- nothing that is kept comes before the new element
          have hnone : ∀ x ∈ (b :: rest).filter p, before x a = false := by
            intro x hx
            rcases List.mem_cons.mp (List.mem_filter.mp hx).1 with rfl | hx
            · exact hba
            · exact negTrans a b x hba (hb x hx)
          rw [List.filter_cons_of_pos hpa, if_pos rfl]
          cases hkept : (b :: rest).filter p with
          | nil => rfl
          | cons x _ =>
              have hx : before x a = false := hnone x (by rw [hkept]; exact List.mem_cons_self)
              rw [insert, if_neg (by simp [hx])]

/-- **Sorting commutes with leaving out.** -/
theorem filter_sort (p : α → Bool) (l : List α) :
    (sort before l).filter p = sort before (l.filter p) := by
  induction l with
  | nil => rfl
  | cons a rest ih =>
    have hsorted := sort_sorted asymm negTrans rest
    have hstep : (sort before (a :: rest)).filter p = (insert before a (sort before rest)).filter p :=
      rfl
    rw [hstep, filter_insert negTrans p hsorted, ih]
    cases hpa : p a with
    | true => rw [if_pos rfl, List.filter_cons_of_pos hpa]; rfl
    | false => rw [if_neg (by simp), List.filter_cons_of_neg (by simp [hpa])]

end

theorem insert_congr {before before' : α → α → Bool} {a : α} {l : List α}
    (h : ∀ b ∈ l, before b a = before' b a) : insert before a l = insert before' a l := by
  induction l with
  | nil => rfl
  | cons b rest ih =>
    rw [insert, insert, h b List.mem_cons_self, ih fun x hx => h x (List.mem_cons_of_mem _ hx)]

/-- Only the order of the elements to each other matters. -/
theorem sort_congr {before before' : α → α → Bool} {l : List α}
    (h : ∀ a ∈ l, ∀ b ∈ l, before b a = before' b a) : sort before l = sort before' l := by
  induction l with
  | nil => rfl
  | cons a rest ih =>
    have hrest : sort before rest = sort before' rest :=
      ih fun x hx y hy => h x (List.mem_cons_of_mem _ hx) y (List.mem_cons_of_mem _ hy)
    have hinsert : ∀ b ∈ sort before' rest, before b a = before' b a := by
      intro b hb
      exact h a List.mem_cons_self b (List.mem_cons_of_mem _ (mem_sort.mp hb))
    have hstep : sort before (a :: rest) = insert before a (sort before rest) := rfl
    rw [hstep, hrest, insert_congr hinsert]
    rfl

/-- Sorting commutes with what keeps the order of the elements to each other. -/
theorem sort_map {β : Type} {before : α → α → Bool} {before' : β → β → Bool} {f : α → β}
    (h : ∀ a b, before' (f a) (f b) = before a b) (l : List α) :
    sort before' (l.map f) = (sort before l).map f := by
  have hinsert : ∀ (a : α) (m : List α),
      insert before' (f a) (m.map f) = (insert before a m).map f := by
    intro a m
    induction m with
    | nil => rfl
    | cons b rest ih =>
      rw [List.map_cons, insert, insert, h b a, ih]
      split <;> rfl
  induction l with
  | nil => rfl
  | cons a rest ih =>
    have hstep : sort before' ((a :: rest).map f) = insert before' (f a) (sort before' (rest.map f)) :=
      rfl
    rw [hstep, ih, hinsert]
    rfl

/-- What is sorted already is left as it is. -/
theorem sort_of_sorted {before : α → α → Bool} {l : List α}
    (h : l.Pairwise fun x y => before y x = false) : sort before l = l := by
  induction l with
  | nil => rfl
  | cons a rest ih =>
    obtain ⟨ha, hrest⟩ := List.pairwise_cons.mp h
    rw [show sort before (a :: rest) = insert before a (sort before rest) from rfl, ih hrest]
    cases rest with
    | nil => rfl
    | cons b _ =>
      rw [insert, if_neg]
      rw [ha b List.mem_cons_self]
      simp

/-! ## Distinct texts -/

theorem mem_addText {s x : String} {l : List String} : x ∈ addText s l ↔ x = s ∨ x ∈ l := by
  induction l with
  | nil => simp [addText]
  | cons t rest ih =>
    rw [addText]
    split
    · rename_i hst
      subst hst
      simp
    · split
      · simp
      · rw [List.mem_cons, ih, List.mem_cons]
        exact or_left_comm

theorem mem_distinctTexts {x : String} {l : List String} : x ∈ distinctTexts l ↔ x ∈ l := by
  induction l with
  | nil => simp [distinctTexts]
  | cons s rest ih =>
    rw [show distinctTexts (s :: rest) = addText s (distinctTexts rest) from rfl, mem_addText, ih,
      List.mem_cons]

theorem lt_of_not_lt {s t : String} (hne : s ≠ t) (h : ¬ s < t) : t < s := by
  rcases Classical.em (t < s) with hts | hts
  · exact hts
  · exact absurd (String.le_antisymm (String.not_lt.mp hts) (String.not_lt.mp h)) hne

theorem addText_sorted {s : String} {l : List String} (h : l.Pairwise (· < ·)) :
    (addText s l).Pairwise (· < ·) := by
  induction l with
  | nil => exact List.pairwise_singleton _ _
  | cons t rest ih =>
    obtain ⟨ht, hrest⟩ := List.pairwise_cons.mp h
    rw [addText]
    split
    · exact h
    · rename_i hne
      split
      · rename_i hst
        refine List.pairwise_cons.mpr ⟨?_, h⟩
        intro x hx
        rcases List.mem_cons.mp hx with rfl | hx
        · exact hst
        · exact String.lt_trans hst (ht x hx)
      · rename_i hst
        refine List.pairwise_cons.mpr ⟨?_, ih hrest⟩
        intro x hx
        rcases mem_addText.mp hx with rfl | hx
        · exact lt_of_not_lt hne hst
        · exact ht x hx

/-- Distinct texts are listed strictly ascending. -/
theorem distinctTexts_sorted (l : List String) : (distinctTexts l).Pairwise (· < ·) := by
  induction l with
  | nil => exact List.Pairwise.nil
  | cons s rest ih => exact addText_sorted ih

/-! ## What ascending lists are good for -/

theorem nodup_of_sorted {key : α → String} {l : List α} (h : l.Pairwise fun a b => key a < key b) :
    l.Nodup := by
  refine h.imp ?_
  intro a b hab heq
  subst heq
  exact String.lt_irrefl _ hab

/-- Two strictly ascending lists with the same elements are the same list. -/
theorem eq_of_sorted {key : α → String} {l₁ l₂ : List α}
    (h₁ : l₁.Pairwise fun a b => key a < key b) (h₂ : l₂.Pairwise fun a b => key a < key b)
    (hmem : ∀ a, a ∈ l₁ ↔ a ∈ l₂) : l₁ = l₂ := by
  -- without repeats, the same elements are the same up to order, and there is only one order
  have hperm : l₁.Perm l₂ :=
    (List.perm_ext_iff_of_nodup (nodup_of_sorted h₁) (nodup_of_sorted h₂)).mpr hmem
  refine hperm.eq_of_pairwise ?_ h₁ h₂
  intro a b _ _ hab hba
  exact absurd (String.lt_trans hab hba) (String.lt_irrefl _)

/-- What is found first in an ordered list stands before all else that could have been found. -/
theorem find?_first {R : α → α → Prop} {p : α → Bool} {l : List α} {a : α} (h : l.Pairwise R)
    (hfind : l.find? p = some a) : a ∈ l ∧ p a = true ∧ ∀ b ∈ l, p b = true → b = a ∨ R a b := by
  induction l with
  | nil => simp at hfind
  | cons x rest ih =>
    obtain ⟨hx, hrest⟩ := List.pairwise_cons.mp h
    rw [List.find?_cons] at hfind
    split at hfind
    · rename_i hpx
      obtain rfl := Option.some.inj hfind
      refine ⟨List.mem_cons_self, hpx, ?_⟩
      intro b hb _
      rcases List.mem_cons.mp hb with rfl | hb
      · exact Or.inl rfl
      · exact Or.inr (hx b hb)
    · rename_i hpx
      obtain ⟨ha, hpa, hfirst⟩ := ih hrest hfind
      refine ⟨List.mem_cons_of_mem _ ha, hpa, ?_⟩
      intro b hb hpb
      rcases List.mem_cons.mp hb with rfl | hb
      · rw [hpb] at hpx
        exact absurd hpx (by simp)
      · exact hfirst b hb hpb

end DoubleEntry.Order
