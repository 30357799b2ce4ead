import DoubleEntry.AccountBook
import DoubleEntry.Proofs.Order
import DoubleEntry.Proofs.Unseen

/-!
# Rows under a mask

A row may hold a text that names no purpose or no status. A mask takes such a text away and leaves a row alone that
can be read. Books are *akin* if their rows are the same under the mask. Next to nothing looks at the texts, so next
to nothing tells akin books apart: what is seen of a row through the mask is seen of the books, and what is written
keeps them akin.
-/

namespace DoubleEntry

open Time

/-! ## Texts that may be unreadable -/

/-- A text that a row holds, and which texts can be read there. -/
structure TextField (α : Type) where
  get : α → String
  put : α → String → α
  reads : String → Bool
  get_put : ∀ r s, get (put r s) = s
  put_put : ∀ r s t, put (put r s) t = put r t
  /-- An empty text is not readable. -/
  reads_empty : reads "" = false

/-- What does not look at the text. -/
def Blind {α β : Type} (f : TextField α) (g : α → β) : Prop := ∀ r s, g (f.put r s) = g r

namespace TextField

variable {α β : Type} {f : TextField α} {r r' : α}

/-- The row without its text, if that cannot be read. -/
def mask (f : TextField α) (r : α) : α := if f.reads (f.get r) then r else f.put r ""

theorem mask_of_reads (h : f.reads (f.get r) = true) : f.mask r = r := if_pos h

theorem mask_of_unread (h : f.reads (f.get r) = false) : f.mask r = f.put r "" := by
  rw [mask, h]
  rfl

end TextField

/-- What does not look at the text is the same under the mask. -/
theorem Blind.apply_mask {α β : Type} {f : TextField α} {g : α → β} (hg : Blind f g) (r : α) :
    g (f.mask r) = g r := by
  unfold TextField.mask
  split
  · rfl
  · exact hg r ""

namespace TextField

variable {α β : Type} {f : TextField α} {r r' : α}

/-- Whatever text that cannot be read is put there, the row is the same under the mask. -/
theorem mask_put (r : α) {s : String} (hs : f.reads s = false) : f.mask (f.put r s) = f.put r "" := by
  have hunread : f.reads (f.get (f.put r s)) = false := by rw [f.get_put, hs]
  rw [mask_of_unread hunread, f.put_put]

/-- Rows that are masked alike have everything in common but the text. -/
theorem apply_eq_of_mask_eq (h : f.mask r' = f.mask r) {g : α → β} (hg : Blind f g) : g r' = g r := by
  have hmasked : ∀ x, g (f.mask x) = g x := fun x => hg.apply_mask x
  rw [← hmasked r', h, hmasked r]

/-- A row that can be read is told apart under the mask from every other. -/
theorem eq_of_mask_eq (h : f.mask r' = f.mask r) (hr : f.reads (f.get r) = true) : r' = r := by
  rw [mask_of_reads hr] at h
  by_cases hr' : f.reads (f.get r') = true
  · rwa [mask_of_reads hr'] at h
  · -- nothing can be read from a row that was masked
    rw [mask_of_unread (by simpa using hr')] at h
    rw [← h, f.get_put, f.reads_empty] at hr
    cases hr

end TextField

/-! ## Lists under a mask -/

/-- The lists are the same under the mask. -/
def SameMasked {α : Type} (f : TextField α) (l l' : List α) : Prop := l'.map f.mask = l.map f.mask

namespace SameMasked

variable {α β : Type} {f : TextField α} {l l' : List α}

theorem map_eq (h : SameMasked f l l') {g : α → β} (hg : Blind f g) : l'.map g = l.map g := by
  have hmasked : ∀ m : List α, m.map g = (m.map f.mask).map g := by
    intro m
    rw [List.map_map]
    exact List.map_congr_left fun x _ => (hg.apply_mask x).symm
  rw [hmasked l', hmasked l, h]

theorem length_eq (h : SameMasked f l l') : l'.length = l.length := by
  have hlengths := congrArg List.length h
  rwa [List.length_map, List.length_map] at hlengths

theorem any_eq (h : SameMasked f l l') {p : α → Bool} (hp : Blind f p) : l'.any p = l.any p := by
  have hmap := congrArg (fun m => m.any id) (h.map_eq hp)
  simpa only [List.any_map, Function.id_comp] using hmap

theorem filter (h : SameMasked f l l') {p : α → Bool} (hp : Blind f p) :
    SameMasked f (l.filter p) (l'.filter p) := by
  have hmasked : ∀ m : List α, (m.filter p).map f.mask = (m.map f.mask).filter p := by
    intro m
    rw [List.filter_map]
    exact congrArg (List.map f.mask) (List.filter_congr fun x _ => (hp.apply_mask x).symm)
  unfold SameMasked
  rw [hmasked, hmasked, h]

theorem sort (h : SameMasked f l l') {before : α → α → Bool} (hbefore : Blind f before)
    (hsecond : ∀ x, Blind f (before x)) :
    SameMasked f (Order.sort before l) (Order.sort before l') := by
  have horder : ∀ x y, before (f.mask x) (f.mask y) = before x y := by
    intro x y
    rw [hbefore.apply_mask x, (hsecond x).apply_mask y]
  unfold SameMasked
  rw [← Order.sort_map horder, ← Order.sort_map horder, h]

theorem find?_map_eq (h : SameMasked f l l') {p : α → Bool} (hp : Blind f p) {g : α → β}
    (hg : Blind f g) : (l'.find? p).map g = (l.find? p).map g := by
  have hfirst : ∀ m : List α, (m.find? p).map g = ((m.filter p).map g).head? := by
    intro m
    rw [List.head?_map, List.head?_filter]
  rw [hfirst, hfirst, (h.filter hp).map_eq hg]

theorem append (h : SameMasked f l l') (more : List α) : SameMasked f (l ++ more) (l' ++ more) := by
  unfold SameMasked
  rw [List.map_append, List.map_append, h]

/-- What commutes with the mask may be done to all. -/
theorem map (h : SameMasked f l l') {g : α → α} (hg : ∀ x, f.mask (g x) = g (f.mask x)) :
    SameMasked f (l.map g) (l'.map g) := by
  have hmasked : ∀ m : List α, (m.map g).map f.mask = (m.map f.mask).map g := by
    intro m
    rw [List.map_map, List.map_map]
    exact List.map_congr_left fun x _ => hg x
  unfold SameMasked
  rw [hmasked, hmasked, h]

end SameMasked

/-! ## The two texts of the books -/

/-- The status of an account. -/
def AccountRow.statusText : TextField AccountRow where
  get := AccountRow.status
  put r s := { r with status := s }
  reads s := (AccountStatus.ofText? s).isSome
  get_put _ _ := rfl
  put_put _ _ _ := rfl
  reads_empty := by decide

/-- The purpose of a line. -/
def LineRow.purposeText : TextField LineRow where
  get := LineRow.purpose
  put r s := { r with purpose := s }
  reads s := (Purpose.ofText? s).isSome
  get_put _ _ := rfl
  put_put _ _ _ := rfl
  reads_empty := by decide

/-- A deletion is marked beside the purpose. -/
theorem LineRow.mask_mark (id : TransactionId) (moment : Timestamp) (r : LineRow) :
    purposeText.mask (mark id moment r) = mark id moment (purposeText.mask r) := by
  have hput : ∀ s, mark id moment (purposeText.put r s) = purposeText.put (mark id moment r) s := by
    intro s
    unfold mark
    by_cases hmarked : r.transaction = id ∧ r.isLive = true
    · rw [if_pos hmarked]
      exact if_pos hmarked
    · rw [if_neg hmarked]
      exact if_neg hmarked
  have hget : purposeText.get (mark id moment r) = purposeText.get r := mark_purpose id moment r
  unfold TextField.mask
  rw [hget]
  split
  · rfl
  · exact (hput "").symm

/-! ## Akin books -/

/-- The books are the same but for texts of rows that name no status or no purpose. -/
structure Book.Akin (b b' : Book) : Prop where
  accounts : SameMasked AccountRow.statusText b.accounts b'.accounts
  headers : b'.headers = b.headers
  lines : SameMasked LineRow.purposeText b.lines b'.lines

namespace Book.Akin

variable {b b' : Book}

/-! ### What is seen in them -/

theorem liveAccounts (h : b.Akin b') (wanted : List AccountId) :
    SameMasked AccountRow.statusText (b.liveAccounts wanted) (b'.liveAccounts wanted) := by
  have hkept := h.accounts.filter (p := fun r => wanted.contains r.id && r.isLive) fun _ _ => rfl
  exact hkept.sort (fun _ _ => rfl) fun _ _ _ => rfl

theorem wantedHeaders (h : b.Akin b') (ids : List TransactionId) :
    b'.wantedHeaders ids = b.wantedHeaders ids := by
  rw [Book.wantedHeaders, Book.wantedHeaders, h.headers]

theorem wantedLines (h : b.Akin b') (ids : List TransactionId) :
    SameMasked LineRow.purposeText (b.wantedLines ids) (b'.wantedLines ids) := by
  have hkept := h.lines.filter (p := fun l => ids.contains l.transaction && l.isLive) fun _ _ => rfl
  exact hkept.sort (fun _ _ => rfl) fun _ _ _ => rfl

theorem hasAccount (h : b.Akin b') (id : AccountId) : b'.hasAccount id = b.hasAccount id :=
  h.accounts.any_eq fun _ _ => rfl

theorem hasNumber (h : b.Akin b') (number routing : String) :
    b'.hasNumber number routing = b.hasNumber number routing :=
  h.accounts.any_eq fun _ _ => rfl

theorem found (h : b.Akin b') {p : AccountRow → Bool} (hp : ∀ r s, p { r with status := s } = p r) :
    (b'.accounts.find? p).map AccountRow.id = (b.accounts.find? p).map AccountRow.id :=
  h.accounts.find?_map_eq hp fun _ _ => rfl

theorem owned (h : b.Akin b') (customer : CustomerId) :
    (Order.sort (fun r s => r.createdAt.before s.createdAt)
        (b'.accounts.filter fun a => decide (a.customer = customer) && a.isLive)).map AccountRow.id =
      (Order.sort (fun r s => r.createdAt.before s.createdAt)
        (b.accounts.filter fun a => decide (a.customer = customer) && a.isLive)).map AccountRow.id := by
  have hkept := h.accounts.filter (p := fun a => decide (a.customer = customer) && a.isLive)
    fun _ _ => rfl
  refine SameMasked.map_eq (f := AccountRow.statusText) ?_ fun _ _ => rfl
  exact hkept.sort (fun _ _ => rfl) fun _ _ _ => rfl

theorem latestOn (h : b.Akin b') (account : AccountId) (id : TransactionId) :
    b'.latestOn account id = b.latestOn account id := by
  have hkept := h.lines.filter
    (p := fun l => decide (l.account = account ∧ l.transaction = id) && l.isLive) fun _ _ => rfl
  have htimes := hkept.map_eq (g := LineRow.createdAt) fun _ _ => rfl
  unfold Book.latestOn
  rw [htimes]

theorem historyOf (h : b.Akin b') (account : AccountId) :
    b'.historyOf account = b.historyOf account := by
  have hlatest : (fun s => ((⟨s⟩ : TransactionId), b'.latestOn account ⟨s⟩)) =
      fun s => (⟨s⟩, b.latestOn account ⟨s⟩) :=
    funext fun s => by rw [h.latestOn]
  have hkept := h.lines.filter (p := fun l => decide (l.account = account) && l.isLive) fun _ _ => rfl
  have hids := hkept.map_eq (g := fun l => l.transaction.text) fun _ _ => rfl
  unfold Book.historyOf
  rw [hids, hlatest]

/-- As many lines are left to be marked. -/
theorem linesLeft (h : b.Akin b') (id : TransactionId) :
    (b'.lines.filter fun l => decide (l.transaction = id) && l.isLive).length =
      (b.lines.filter fun l => decide (l.transaction = id) && l.isLive).length := by
  have hkept := h.lines.filter (p := fun l => decide (l.transaction = id) && l.isLive) fun _ _ => rfl
  exact hkept.length_eq

/-! ### What is written in them -/

theorem addAccount (h : b.Akin b') (row : AccountRow) :
    Akin { b with accounts := b.accounts ++ [row] } { b' with accounts := b'.accounts ++ [row] } :=
  ⟨h.accounts.append [row], h.headers, h.lines⟩

theorem markHeaders (h : b.Akin b') (id : TransactionId) (moment : Timestamp) :
    Akin { b with headers := b.headers.map (HeaderRow.mark id moment) }
      { b' with headers := b'.headers.map (HeaderRow.mark id moment) } :=
  ⟨h.accounts, congrArg (List.map (HeaderRow.mark id moment)) h.headers, h.lines⟩

theorem markLines (h : b.Akin b') (id : TransactionId) (moment : Timestamp) :
    Akin { b with lines := b.lines.map (LineRow.mark id moment) }
      { b' with lines := b'.lines.map (LineRow.mark id moment) } :=
  ⟨h.accounts, h.headers, h.lines.map (LineRow.mask_mark id moment)⟩

end Book.Akin

/-- Posting does not look at the texts of rows. -/
theorem akin_posting (id : TransactionId) : Unseen.Posting Book.Akin id fun _ => True where
  locked h wanted := (h.liveAccounts wanted).map_eq fun _ _ => rfl
  balance {b b'} h a _ := by
    have hentries := h.lines.map_eq (g := LineRow.entry) fun _ _ => rfl
    rw [Book.balance, Book.balance, hentries]
  hasHeader {b b'} h := by rw [Book.hasHeader, Book.hasHeader, h.headers]
  hasLine h n := h.lines.any_eq fun _ _ => rfl
  addHeader h row _ := ⟨h.accounts, congrArg (· ++ [row]) h.headers, h.lines⟩
  addLine h row _ _ := ⟨h.accounts, h.headers, h.lines.append [row]⟩

end DoubleEntry
