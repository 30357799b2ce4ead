import DoubleEntry.Proofs.Answer
import DoubleEntry.Proofs.Lookup

/-!
# Opening an account

A request for an account is complete or names the first field that is not. A complete one is given the first of
five numbers that no row has under its routing number. Rows of deleted accounts count, though no lookup ever
shows them, because the table counts them too: a number that the search called free is free for the table. So
an undisturbed insertion cannot fail, and the search and the constraint need no second attempt.

The constraint alone keeps the numbers apart over a run. Whatever the search was told on the way, a row is only
added under a number that was free.
-/

namespace DoubleEntry

open Time

/-! ## Ten digits -/

/-- A text of ten decimal digits. -/
def Text.TenDigits (s : String) : Prop := s.length = 10 ∧ ∀ c ∈ s.toList, c.isDigit = true

theorem Text.tenDigits_decimal {n : Nat} (hlow : 1000000000 ≤ n) (hhigh : n < 10000000000) :
    TenDigits (decimal n) := by
  have htext : (decimal n).toList = Nat.toDigits 10 n := String.toList_ofList
  constructor
  · have hmost : (Nat.toDigits 10 n).length ≤ 10 :=
      (Nat.length_toDigits_le_iff (by decide) (by decide)).mpr hhigh
    have hleast : ¬ (Nat.toDigits 10 n).length ≤ 9 := by
      rw [Nat.length_toDigits_le_iff (by decide) (by decide)]
      omega
    rw [← String.length_toList, htext]
    omega
  · rw [htext]
    exact fun c hc => Nat.isDigit_of_mem_toDigits (by decide) (by decide) hc

namespace Moment

/-- The account number that is drawn as the `n`th, counted from zero. -/
def number (m : Moment) (n : Nat) : String := Text.decimal (m.draw n)

/-- Account numbers are drawn from those of ten digits. -/
def DrawsTenDigits (m : Moment) : Prop := ∀ n, 1000000000 ≤ m.draw n ∧ m.draw n < 10000000000

theorem DrawsTenDigits.number {m : Moment} (h : m.DrawsTenDigits) (n : Nat) :
    Text.TenDigits (m.number n) :=
  Text.tenDigits_decimal (h n).1 (h n).2

theorem drawnNumbers_eq (m : Moment) : Desk.drawnNumbers m = (List.range 5).map m.number := rfl

end Moment

/-! ## What a request must not leave blank -/

namespace AccountRequest

/-- The fields that must not be blank, by name, in the order in which they are looked at. -/
def required (r : AccountRequest) : List (String × String) :=
  [("customer ID", r.customer.text), ("name", r.name), ("type", r.kind),
    ("routing number", r.routing)]

/-- The field is the first that is blank. -/
def Lacks (r : AccountRequest) (field : String) : Prop :=
  ∃ before text after, r.required = before ++ (field, text) :: after ∧
    (∀ f ∈ before, Text.isBlank f.2 = false) ∧ Text.isBlank text = true

/-- No field is blank. -/
def Complete (r : AccountRequest) : Prop := ∀ f ∈ r.required, Text.isBlank f.2 = false

variable {r : AccountRequest}

theorem missing?_eq (r : AccountRequest) :
    r.missing? = (r.required.find? fun f => Text.isBlank f.2).map Prod.fst := by
  unfold missing? CustomerId.isBlank required
  by_cases hcustomer : Text.isBlank r.customer.text = true
  · simp [hcustomer]
  by_cases hname : Text.isBlank r.name = true
  · simp [hcustomer, hname]
  by_cases hkind : Text.isBlank r.kind = true
  · simp [hcustomer, hname, hkind]
  by_cases hrouting : Text.isBlank r.routing = true
  · simp [hcustomer, hname, hkind, hrouting]
  · simp [hcustomer, hname, hkind, hrouting]

theorem lacks_iff {field : String} : r.Lacks field ↔ r.missing? = some field := by
  rw [missing?_eq, Option.map_eq_some_iff]
  constructor
  · rintro ⟨before, text, after, hfields, hbefore, hblank⟩
    refine ⟨(field, text), List.find?_eq_some_iff_append.mpr ⟨hblank, before, after, hfields, ?_⟩, rfl⟩
    intro f hf
    rw [hbefore f hf]
    rfl
  · rintro ⟨⟨_, text⟩, hfind, rfl⟩
    obtain ⟨hblank, before, after, hfields, hbefore⟩ := List.find?_eq_some_iff_append.mp hfind
    refine ⟨before, text, after, hfields, fun f hf => ?_, hblank⟩
    simpa using hbefore f hf

theorem complete_iff : r.Complete ↔ r.missing? = none := by
  rw [missing?_eq, Option.map_eq_none_iff, List.find?_eq_none]
  simp only [Complete, Bool.not_eq_true]

end AccountRequest

/-! ## How a request is decided -/

/-- How a request for an account is decided on the books: refused, or given a row. -/
inductive Opening (b : Book) (m : Moment) (r : AccountRequest) :
    Except AccountError AccountRow → Prop where
  /-- A field is blank. -/
  | incomplete {field : String} (hlacks : r.Lacks field) :
      Opening b m r (.error (.missingField field))
  /-- One of five numbers is free, and none before it was. -/
  | numbered {n : Nat} (hcomplete : r.Complete) (hn : n < 5)
      (hfree : b.hasNumber (m.number n) r.routing = false)
      (hfirst : ∀ k < n, b.hasNumber (m.number k) r.routing = true) :
      Opening b m r (.ok (Desk.newRow m r (m.number n)))
  /-- All five are taken. -/
  | exhausted (hcomplete : r.Complete) (htaken : ∀ n < 5, b.hasNumber (m.number n) r.routing = true) :
      Opening b m r (.error (.duplicateNumber (m.number 4) r.routing))

namespace Opening

variable {b : Book} {m : Moment} {r : AccountRequest} {answer answer' : Except AccountError AccountRow}

theorem not_complete {field : String} (hlacks : r.Lacks field) (hcomplete : r.Complete) : False := by
  rw [AccountRequest.lacks_iff, AccountRequest.complete_iff.mp hcomplete] at hlacks
  cases hlacks

/-- A request is decided in one way. -/
theorem unique (h : Opening b m r answer) (h' : Opening b m r answer') : answer' = answer := by
  cases h with
  | incomplete hlacks =>
      cases h' with
      | incomplete hlacks' =>
          rw [AccountRequest.lacks_iff] at hlacks hlacks'
          rw [Option.some.inj (hlacks'.symm.trans hlacks)]
      | numbered hcomplete _ _ _ => exact (not_complete hlacks hcomplete).elim
      | exhausted hcomplete _ => exact (not_complete hlacks hcomplete).elim
  | @numbered n hcomplete hn hfree hfirst =>
      cases h' with
      | incomplete hlacks => exact (not_complete hlacks hcomplete).elim
      | @numbered k _ _ hfree' hfirst' =>
          -- whichever comes first would be taken on account of the other
          rcases Nat.lt_trichotomy k n with hlt | rfl | hgt
          · rw [hfirst k hlt] at hfree'
            cases hfree'
          · rfl
          · rw [hfirst' n hgt] at hfree
            cases hfree
      | exhausted _ htaken =>
          rw [htaken n hn] at hfree
          cases hfree
  | exhausted hcomplete htaken =>
      cases h' with
      | incomplete hlacks => exact (not_complete hlacks hcomplete).elim
      | @numbered k _ hk hfree _ =>
          rw [htaken k hk] at hfree
          cases hfree
      | exhausted _ _ => rfl

/-- A request is decided in some way. -/
theorem exists_answer (b : Book) (m : Moment) (r : AccountRequest) : ∃ answer, Opening b m r answer := by
  cases hmissing : r.missing? with
  | some field => exact ⟨_, .incomplete (AccountRequest.lacks_iff.mpr hmissing)⟩
  | none =>
      have hcomplete := AccountRequest.complete_iff.mpr hmissing
      cases hfind : (List.range 5).find? fun n => !b.hasNumber (m.number n) r.routing with
      | some n =>
          obtain ⟨hfree, hn, hfirst⟩ := List.find?_range_eq_some.mp hfind
          refine ⟨_, .numbered (n := n) hcomplete (List.mem_range.mp hn) (by simpa using hfree) ?_⟩
          intro k hk
          simpa using hfirst k hk
      | none =>
          refine ⟨_, .exhausted hcomplete fun n hn => ?_⟩
          simpa using List.find?_range_eq_none.mp hfind n hn

/-- The draws up to the fifth, or up to one that is free, settle how a request is decided. -/
theorem of_same_draws {m' : Moment} {n : Nat} (hnow : m'.now = m.now) (hfresh : m'.fresh = m.fresh)
    (hdraws : ∀ k ≤ n, m'.draw k = m.draw k)
    (hlast : n = 4 ∨ b.hasNumber (m.number n) r.routing = false) (h : Opening b m r answer) :
    Opening b m' r answer := by
  have hnumber : ∀ k ≤ n, m'.number k = m.number k := by
    intro k hk
    rw [Moment.number, Moment.number, hdraws k hk]
  cases h with
  | incomplete hlacks => exact .incomplete hlacks
  | @numbered k hcomplete hk hfree hfirst =>
      have hkn : k ≤ n := by
        rcases hlast with rfl | hfree'
        · omega
        · by_contra hlater
          rw [hfirst n (by omega)] at hfree'
          cases hfree'
      have hrow : Desk.newRow m r (m.number k) = Desk.newRow m' r (m'.number k) := by
        rw [Desk.newRow, Desk.newRow, hnow, hfresh, hnumber k hkn]
      rw [hrow]
      refine .numbered hcomplete hk ?_ ?_
      · rw [hnumber k hkn]
        exact hfree
      · intro j hj
        rw [hnumber j (by omega)]
        exact hfirst j hj
  | exhausted hcomplete htaken =>
      have hfifth : 4 ≤ n := by
        rcases hlast with rfl | hfree
        · omega
        · by_contra hearly
          rw [htaken n (by omega)] at hfree
          cases hfree
      rw [← hnumber 4 hfifth]
      refine .exhausted hcomplete fun j hj => ?_
      rw [hnumber j (by omega)]
      exact htaken j hj

end Opening

namespace Book

/-- Nothing in the books goes by the identifier, be it a row or a line. -/
def Unknown (b : Book) (a : AccountId) : Prop :=
  b.hasAccount a = false ∧ ∀ l ∈ b.lines, l.account ≠ a

/-- The books once a request was decided. -/
def receive (b : Book) : Except AccountError AccountRow → Book
  | .error _ => b
  | .ok row => { b with accounts := b.accounts ++ [row] }

variable {b : Book}

/-- Opening an account moves no money. -/
theorem balance_receive (b : Book) (answer : Except AccountError AccountRow) (a : AccountId) :
    (b.receive answer).balance a = b.balance a := by
  cases answer <;> rfl

theorem balance_of_unknown {a : AccountId} (h : b.Unknown a) : b.balance a = 0 := by
  have hnone : (b.lines.filter fun l => l.account = a) = [] := by
    refine List.filter_eq_nil_iff.mpr fun l hl hla => ?_
    exact h.2 l hl (by simpa using hla)
  rw [balance_eq_weights, hnone]
  rfl

/-- A row under a number that is free leaves the numbers apart. -/
theorem Numbered.opened (h : b.Numbered) {row : AccountRow}
    (hfree : b.hasNumber row.number row.routing = false) :
    { b with accounts := b.accounts ++ [row] }.Numbered := by
  unfold Numbered
  rw [List.map_append, List.nodup_append]
  refine ⟨h, List.nodup_singleton _, ?_⟩
  rintro a ha _ hrow rfl
  obtain ⟨r, hr, hra⟩ := List.mem_map.mp ha
  have hsame := Prod.mk.inj (hra.trans (List.mem_singleton.mp hrow))
  have htaken : b.hasNumber row.number row.routing = true := hasNumber_iff.mpr ⟨r, hr, hsame⟩
  rw [hfree] at htaken
  cases htaken

end Book

/-! ## At a calm desk -/

namespace Desk

variable {d : Desk} {b : Book} {m : Moment} {r : AccountRequest}

theorem findNumber_calm (h : d.Calm) (hb : d.store.book = some b) (number routing : String) :
    findNumber number routing d = (.ok (b.hasNumber number routing), d.ready) := by
  rw [findNumber, send_calm h, hb]
  rfl

/-- The search stops at the first number that is free, or names the last when it has tried them all. -/
theorem freeNumber_calm (h : d.Calm) (hb : d.store.book = some b) (routing number : String)
    (rest : List String) (last : String) :
    freeNumber routing (number :: rest) last d =
      (match (number :: rest).find? fun n => !b.hasNumber n routing with
        | some n => .ok n
        | none => .error (.duplicateNumber (rest.getLastD number) routing), d.ready) := by
  induction rest generalizing number last d with
  | nil =>
    rw [freeNumber, Work.bind_of_ok (Work.mapError_of_ok (findNumber_calm h hb number routing))]
    cases htaken : b.hasNumber number routing with
    | true =>
        rw [List.find?_cons_of_neg (by simp [htaken])]
        rfl
    | false =>
        rw [List.find?_cons_of_pos (by simp [htaken])]
        rfl
  | cons next rest ih =>
    rw [freeNumber, Work.bind_of_ok (Work.mapError_of_ok (findNumber_calm h hb number routing))]
    cases htaken : b.hasNumber number routing with
    | true =>
        rw [List.find?_cons_of_neg (by simp [htaken]), if_pos rfl, List.getLastD_cons]
        exact ih h.ready hb next number
    | false =>
        rw [List.find?_cons_of_pos (by simp [htaken])]
        rfl

/-- Of the numbers drawn for one account, five are tried. -/
theorem freeNumber_drawn (h : d.Calm) (hb : d.store.book = some b) (m : Moment) (routing : String) :
    freeNumber routing (drawnNumbers m) "" d =
      (match (List.range 5).find? fun n => !b.hasNumber (m.number n) routing with
        | some n => .ok (m.number n)
        | none => .error (.duplicateNumber (m.number 4) routing), d.ready) := by
  have hfind : (drawnNumbers m).find? (fun n => !b.hasNumber n routing) =
      ((List.range 5).find? fun n => !b.hasNumber (m.number n) routing).map m.number :=
    List.find?_map
  have hcalm := freeNumber_calm h hb routing (m.number 0) ([1, 2, 3, 4].map m.number) ""
  rw [show m.number 0 :: [1, 2, 3, 4].map m.number = drawnNumbers m from rfl, hfind] at hcalm
  rw [hcalm]
  cases (List.range 5).find? fun n => !b.hasNumber (m.number n) routing <;> rfl

/-- A row under keys that are free is added. -/
theorem addAccount_calm (h : d.Calm) (hb : d.store.book = some b)
    (hfresh : b.hasAccount ⟨m.fresh⟩ = false) {number : String}
    (hfree : b.hasNumber number r.routing = false) :
    addAccount m r number d = ((newRow m r number).account .zero,
      d.ready.holding (b.receive (.ok (newRow m r number)))) := by
  have hinsert : inserted (insertAccount (newRow m r number)) d =
      (.ok (), d.ready.holding (b.receive (.ok (newRow m r number)))) := by
    refine inserted_calm h hb ?_
    have hnew : b.hasAccount (newRow m r number).id = false := hfresh
    have hunused : b.hasNumber (newRow m r number).number (newRow m r number).routing = false := hfree
    rw [hnew, hunused]
    rfl
  rw [addAccount, Work.bind_of_ok (Work.mapError_of_ok hinsert)]
  rfl

/-- **At a calm desk a request is answered as it is decided**, and the books have the row if there is one. -/
theorem createAccount_calm (h : d.Calm) (hb : d.store.book = some b)
    (hfresh : b.hasAccount ⟨m.fresh⟩ = false) {answer : Except AccountError AccountRow}
    (hdecided : Opening b m r answer) :
    (createAccount m r d).1 = (answer >>= fun row => row.account .zero) ∧
      (createAccount m r d).2.store = { d.store with book := some (b.receive answer) } := by
  have hsame : d.store = { d.store with book := some b } := by rw [← hb]
  cases hdecided with
  | incomplete hlacks =>
      unfold createAccount
      rw [AccountRequest.lacks_iff.mp hlacks]
      exact ⟨rfl, hsame⟩
  | @numbered n hcomplete hn hfree hfirst =>
      have hfind : ((List.range 5).find? fun k => !b.hasNumber (m.number k) r.routing) = some n := by
        refine List.find?_range_eq_some.mpr ⟨by rw [hfree]; rfl, List.mem_range.mpr hn, ?_⟩
        intro k hk
        rw [hfirst k hk]
        rfl
      have hnumber : freeNumber r.routing (drawnNumbers m) "" d = (.ok (m.number n), d.ready) := by
        rw [freeNumber_drawn h hb, hfind]
      rw [createAccount_eq (AccountRequest.complete_iff.mp hcomplete), Work.bind_of_ok hnumber,
        addAccount_calm h.ready hb hfresh hfree]
      exact ⟨rfl, rfl⟩
  | exhausted hcomplete htaken =>
      have hfind : ((List.range 5).find? fun k => !b.hasNumber (m.number k) r.routing) = none := by
        refine List.find?_range_eq_none.mpr fun n hn => ?_
        rw [htaken n hn]
        rfl
      have hnumber : freeNumber r.routing (drawnNumbers m) "" d =
          (.error (.duplicateNumber (m.number 4) r.routing), d.ready) := by
        rw [freeNumber_drawn h hb, hfind]
      rw [createAccount_eq (AccountRequest.complete_iff.mp hcomplete), Work.bind_of_error hnumber]
      exact ⟨rfl, hsame⟩

end Desk

/-! ## Over a run -/

/-- If the turn opens an account, numbers are drawn from those of ten digits. -/
def Turn.DrawsTenDigits (t : Turn) : Prop :=
  ∀ m r, t.call = .operation (.create m r) → m.DrawsTenDigits

/-- **A call adds no account, or one under a number that was drawn and was free**, whatever goes wrong. -/
theorem Call.accounts_outcome (c : Call) {d : Desk} {b : Book} (hb : d.store.book = some b) :
    ∃ b', (c.run d).store.book = some b' ∧ (b'.accounts = b.accounts ∨ ∃ m r number,
      c = .operation (.create m r) ∧ number ∈ Desk.drawnNumbers m ∧
        b.hasNumber number r.routing = false ∧
        b'.accounts = b.accounts ++ [Desk.newRow m r number]) := by
  rcases c.outcome d with hsame | ⟨o, b₁, b', rfl, hb₁, hmade, hstore⟩
  · exact ⟨b, by rw [hsame]; exact hb, Or.inl rfl⟩
  · obtain rfl : b₁ = b := Option.some.inj (hb₁.symm.trans hb)
    refine ⟨b', by rw [hstore], ?_⟩
    cases hmade with
    | entered _ _ _ _ => exact Or.inl rfl
    | marked _ _ hmarked => exact Or.inl hmarked.accounts
    | @opened m r number account hanswer _ _ =>
        -- the change alone does not tell where the number came from
        have hrun : Desk.createAccount m r d = (.ok account, (Desk.createAccount m r d).2) :=
          Prod.ext hanswer rfl
        rcases Desk.createAccount_outcome hrun with ⟨_, e, he⟩ |
          ⟨b₂, number', _, _, _, hb₂, _, hdrawn, hfree, hstore'⟩
        · cases he
        · obtain rfl : b₂ = b₁ := Option.some.inj (hb₂.symm.trans hb)
          have hbooks := congrArg Store.book (hstore.symm.trans hstore')
          exact Or.inr ⟨m, r, number', rfl, hdrawn, hfree,
            congrArg Book.accounts (Option.some.inj hbooks)⟩

/-- **Numbers are kept apart by every run**, and those that are given have ten digits. -/
theorem Desk.through_numbered (turns : List Turn) (hturns : ∀ t ∈ turns, t.DrawsTenDigits) {d : Desk}
    {b : Book} (hb : d.store.book = some b) (hnumbered : b.Numbered) :
    ∃ b' new, (d.through turns).store.book = some b' ∧ b'.Numbered ∧
      b'.accounts = b.accounts ++ new ∧ ∀ row ∈ new, Text.TenDigits row.number := by
  induction turns generalizing d b with
  | nil => exact ⟨b, [], hb, hnumbered, (List.append_nil _).symm, fun row hrow => absurd hrow (by simp)⟩
  | cons t rest ih =>
    have hfacing : (d.facing t).store.book = some b := hb
    have hrest : ∀ t ∈ rest, t.DrawsTenDigits := fun t ht => hturns t (List.mem_cons_of_mem _ ht)
    obtain ⟨b₁, hb₁, hsame | ⟨m, r, number, hcall, hdrawn, hfree, hadded⟩⟩ :=
      t.call.accounts_outcome hfacing
    · have hnumbered₁ : b₁.Numbered := by
        unfold Book.Numbered
        rw [hsame]
        exact hnumbered
      obtain ⟨b', new, hb', hkept, haccounts, hnew⟩ := ih hrest hb₁ hnumbered₁
      exact ⟨b', new, hb', hkept, by rw [haccounts, hsame], hnew⟩
    · have hnumbered₁ : b₁.Numbered := by
        have hopened : { b with accounts := b.accounts ++ [Desk.newRow m r number] }.Numbered :=
          hnumbered.opened hfree
        unfold Book.Numbered at hopened ⊢
        rw [hadded]
        exact hopened
      obtain ⟨b', new, hb', hkept, haccounts, hnew⟩ := ih hrest hb₁ hnumbered₁
      refine ⟨b', Desk.newRow m r number :: new, hb', hkept, ?_, ?_⟩
      · rw [haccounts, hadded, List.append_assoc]
        rfl
      · intro row hrow
        rcases List.mem_cons.mp hrow with rfl | hrow
        · rw [Moment.drawnNumbers_eq] at hdrawn
          obtain ⟨n, _, rfl⟩ := List.mem_map.mp hdrawn
          exact (hturns t List.mem_cons_self m r hcall).number n
        · exact hnew row hrow

/-! ## Opening -/

/-- What comes of a request for an account on these books. -/
structure Desk.Opens (d : Desk) (b : Book) (m : Moment) (r : AccountRequest) : Prop where
  /-- It is decided in one way, answered so, and the books have the row if there is one. -/
  decided : ∃ answer, Opening b m r answer ∧ (∀ answer', Opening b m r answer' → answer' = answer) ∧
    (createAccount m r d).1 = (answer >>= fun row => row.account .zero) ∧
    (createAccount m r d).2.store = { d.store with book := some (b.receive answer) }
  /-- It succeeds if and only if no field is blank and one of five draws is free. -/
  succeeds : (∃ account, (createAccount m r d).1 = .ok account) ↔
    r.Complete ∧ ∃ n < 5, b.hasNumber (m.number n) r.routing = false
  /-- The account is open, not deleted, has a number of ten digits and no money. -/
  opened : ∀ row, Opening b m r (.ok row) → row.isLive = true ∧ Text.TenDigits row.number ∧
    (b.receive (.ok row)).balance row.id = 0 ∧
    ∃ account, row.account .zero = .ok account ∧ account.status = .opened
  /-- Draws after the fifth, or after one that is free, make no difference. -/
  later : ∀ n (m' : Moment), n = 4 ∨ b.hasNumber (m.number n) r.routing = false → m'.now = m.now →
    m'.fresh = m.fresh → (∀ k ≤ n, m'.draw k = m.draw k) →
      (createAccount m' r d).1 = (createAccount m r d).1 ∧
        (createAccount m' r d).2.store = (createAccount m r d).2.store

/-- A request is answered with an account if and only if it is complete and one of five draws is free. -/
theorem Opening.succeeds_iff {b : Book} {m : Moment} {r : AccountRequest}
    {answer : Except AccountError AccountRow} (h : Opening b m r answer) :
    (∃ account, (answer >>= fun row => row.account .zero) = .ok account) ↔
      r.Complete ∧ ∃ n < 5, b.hasNumber (m.number n) r.routing = false := by
  cases h with
  | incomplete hlacks =>
      refine iff_of_false (by rintro ⟨_, hok⟩; cases hok) ?_
      rintro ⟨hcomplete, _⟩
      exact Opening.not_complete hlacks hcomplete
  | @numbered n hcomplete hn hfree _ =>
      exact iff_of_true (Desk.newRow_account m r (m.number n)) ⟨hcomplete, n, hn, hfree⟩
  | exhausted _ htaken =>
      refine iff_of_false (by rintro ⟨_, hok⟩; cases hok) ?_
      rintro ⟨_, n, hn, hfree⟩
      rw [htaken n hn] at hfree
      cases hfree

/-- What is opened is open, not deleted, has a number of ten digits and no money. -/
theorem Opening.opened {b : Book} {m : Moment} {r : AccountRequest} {row : AccountRow}
    (hdraws : m.DrawsTenDigits) (hfresh : b.Unknown ⟨m.fresh⟩) (h : Opening b m r (.ok row)) :
    row.isLive = true ∧ Text.TenDigits row.number ∧ (b.receive (.ok row)).balance row.id = 0 ∧
      ∃ account, row.account .zero = .ok account ∧ account.status = .opened := by
  cases h with
  | @numbered n _ _ _ _ =>
      have hstatus : AccountStatus.ofText? (Desk.newRow m r (m.number n)).status = some .opened :=
        AccountStatus.ofText?_canonical .standard
      refine ⟨rfl, hdraws.number n, ?_, _, AccountRow.account_of_status hstatus .zero, rfl⟩
      rw [Book.balance_receive]
      exact Book.balance_of_unknown hfresh

theorem Desk.opens {d : Desk} {b : Book} {m : Moment} (h : d.Calm) (hb : d.store.book = some b)
    (hdraws : m.DrawsTenDigits) (hfresh : b.Unknown ⟨m.fresh⟩) (r : AccountRequest) :
    d.Opens b m r := by
  obtain ⟨answer, hdecided⟩ := Opening.exists_answer b m r
  obtain ⟨hanswer, hstore⟩ := createAccount_calm h hb hfresh.1 hdecided
  refine ⟨⟨answer, hdecided, fun _ h' => hdecided.unique h', hanswer, hstore⟩, ?_,
    fun row hrow => hrow.opened hdraws hfresh, ?_⟩
  · rw [hanswer]
    exact hdecided.succeeds_iff
  · intro n m' hlast hnow hid hsame
    have hfresh' : b.hasAccount ⟨m'.fresh⟩ = false := by
      rw [hid]
      exact hfresh.1
    obtain ⟨hanswer', hstore'⟩ :=
      createAccount_calm h hb hfresh' (hdecided.of_same_draws hnow hid hsame hlast)
    exact ⟨hanswer'.trans hanswer.symm, hstore'.trans hstore.symm⟩

/--
**Opening an account is decided by the books and the draws.** At a calm desk a request is refused for its first
blank field, or given the first of five numbers that no row has, deleted or not, or refused in the name of the
fifth. At any desk a request that is refused changes nothing, and no run of calls, whatever goes wrong, gives a
number that is taken or has not ten digits.
-/
theorem account_opening_decided (d : Desk) (b : Book) (hb : d.store.book = some b) :
    (d.Calm → ∀ m : Moment, m.DrawsTenDigits → b.Unknown ⟨m.fresh⟩ → ∀ r, d.Opens b m r) ∧
      (∀ m r e, (Desk.createAccount m r d).1 = .error e →
        (Desk.createAccount m r d).2.store = d.store) ∧
      ∀ turns : List Turn, (∀ t ∈ turns, t.DrawsTenDigits) → b.Numbered →
        ∃ b' new, (d.through turns).store.book = some b' ∧ b'.Numbered ∧
          b'.accounts = b.accounts ++ new ∧ ∀ row ∈ new, Text.TenDigits row.number := by
  refine ⟨fun h m hdraws hfresh r => Desk.opens h hb hdraws hfresh r, ?_, ?_⟩
  · intro m r e he
    have hrun : Desk.createAccount m r d = (.error e, (Desk.createAccount m r d).2) :=
      Prod.ext he rfl
    rcases Desk.createAccount_outcome hrun with ⟨hsame, _⟩ | ⟨_, _, account, haccount, _⟩
    · exact hsame
    · cases haccount
  · intro turns hturns hnumbered
    exact Desk.through_numbered turns hturns hb hnumbered

namespace Specimen

/-- An account of the first two numbers that will be drawn; the second is deleted. -/
def crowd : List AccountRow :=
  [{ account "a" with number := "1000000000" },
    { account "b" with number := "1000000001", deletedAt := some noon }]

def crowded : Desk := ⟨⟨some ⟨crowd, [], []⟩, none⟩, [], true, false⟩

/-- The first draw that is free is the third. -/
def drawing : Moment := ⟨noon, "fresh", fun n => 1000000000 + n % 3⟩

def application : AccountRequest := ⟨⟨"customer"⟩, "Savings", "savings", "routing"⟩

/-- The same is applied for twice, and the store calls the number free that the first was given. -/
def applications : List Turn :=
  [⟨.operation (.create drawing application), [], true⟩,
    ⟨.operation (.create drawing application), [⟨.findNumber, 0, 1, .noRows⟩], true⟩]

theorem drawing_drawsTenDigits : drawing.DrawsTenDigits := by
  intro n
  have hdraw : drawing.draw n = 1000000000 + n % 3 := rfl
  omega

end Specimen

theorem account_opening_decided_specimen :
    Specimen.crowded.Opens ⟨Specimen.crowd, [], []⟩ Specimen.drawing Specimen.application ∧
      (Desk.createAccount Specimen.drawing { Specimen.application with kind := " " }
        Specimen.crowded).2.store = Specimen.crowded.store ∧
      ∃ b', (Specimen.crowded.through Specimen.applications).store.book = some b' ∧ b'.Numbered := by
  obtain ⟨hopens, hrefused, hrun⟩ :=
    account_opening_decided Specimen.crowded ⟨Specimen.crowd, [], []⟩ rfl
  have hdraws : ∀ t ∈ Specimen.applications, t.DrawsTenDigits := by
    intro t ht m r hcall
    simp only [Specimen.applications, List.mem_cons, List.not_mem_nil, or_false] at ht
    rcases ht with rfl | rfl
    · cases hcall
      exact Specimen.drawing_drawsTenDigits
    · cases hcall
      exact Specimen.drawing_drawsTenDigits
  refine ⟨?_, ?_, ?_⟩
  · exact hopens ⟨by decide, by decide⟩ _ Specimen.drawing_drawsTenDigits
      ⟨by decide, by simp⟩ Specimen.application
  · exact hrefused _ _ (.missingField "type") (by decide)
  · obtain ⟨b', _, hb', hnumbered, _⟩ := hrun Specimen.applications hdraws (by decide)
    exact ⟨b', hb', hnumbered⟩

/-- The third draw is given, since a deleted account keeps its number. -/
example : ((Desk.createAccount Specimen.drawing Specimen.application Specimen.crowded).1.map
    Account.number).toOption = some "1000000002" := by decide

end DoubleEntry
