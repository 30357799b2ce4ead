import DoubleEntry.Proofs.Verdict
import DoubleEntry.Proofs.WrittenTime
import DoubleEntry.Wire.Account
import DoubleEntry.Wire.Proposal
import DoubleEntry.Wire.Transaction

/-!
# What is read is written in one form

A record may come as an object or as an array, with a purpose in any spelling, without the fields that may be
left out, and with times in any offset. Written, it has one form, and that form is read as the same record and
written the same again. What is written of a posted transaction can be proposed, and is accepted as the
transaction that it was.
-/

namespace DoubleEntry.Wire

open Time

/-! ## Reading members that were written -/

/-- The value is that of a member whose name is a proper text. -/
def Named (v : Json) : Prop := ∀ w, v ≠ .misnamed w

@[simp] theorem named_str (s : String) : Named (.str s) := fun _ h => by cases h

@[simp] theorem named_int (n : Int) : Named (.int n) := fun _ h => by cases h

@[simp] theorem named_arr (items : List Json) : Named (.arr items) := fun _ h => by cases h

@[simp] theorem named_optional (s : Option String) : Named (.optional s) := by
  cases s with
  | none => exact fun _ h => by cases h
  | some s => exact named_str s

@[simp] theorem named_timestampJson (t : Timestamp) : Named (timestampJson t) := named_str t.text

@[simp] theorem named_timestampOrNull (t : Option Timestamp) : Named (timestampOrNull t) := by
  cases t with
  | none => exact fun _ h => by cases h
  | some t => exact named_timestampJson t

section

variable {δ α : Type} {field : δ → String → Json → Except Fault δ}

theorem readMember_named {d : δ} {name : String} {v : Json} (h : Named v) :
    readMember field d name v = field d name v := by
  cases v with
  | misnamed w => exact absurd rfl (h w)
  | _ => rfl

@[simp] theorem members_nil (d : δ) : members field d [] = .ok d := rfl

/-- Members are read one after the other. -/
theorem members_cons {name : String} {v : Json} (h : Named v) (d : δ) (ms : List (String × Json)) :
    members field d ((name, v) :: ms) = (field d name v).bind fun d' => members field d' ms := by
  rw [members, List.foldlM_cons, readMember_named h]
  rfl

/-- The first value of a field is kept. -/
theorem once_none (read : Json → Except Fault α) (v : Json) : once none read v = (read v).map some := rfl

end

/-! ## Single values -/

@[simp] theorem string_str (s : String) : string (.str s) = .ok s := rfl

@[simp] theorem amount_int (a : Amount) : amount (.int a.value) = .ok a := by
  rw [Json.int, amount, Amount.ofInt?_value]

@[simp] theorem timestamp_timestampJson (t : Timestamp) : timestamp (timestampJson t) = .ok t := by
  rw [timestampJson, timestamp, Timestamp.ofText?_text]

@[simp] theorem nullable_str (s : String) : nullable string (.str s) = .ok (some s) := rfl

@[simp] theorem nullable_timestampJson (t : Timestamp) : nullable timestamp (timestampJson t) = .ok (some t) := by
  have hread : nullable timestamp (timestampJson t) = (timestamp (timestampJson t)).map some := rfl
  rw [hread, timestamp_timestampJson]
  rfl

@[simp] theorem nullable_optional (s : Option String) : nullable string (.optional s) = .ok s := by
  cases s <;> rfl

@[simp] theorem nullable_timestampOrNull (t : Option Timestamp) :
    nullable timestamp (timestampOrNull t) = .ok t := by
  cases t with
  | none => rfl
  | some t => exact nullable_timestampJson t

@[simp] theorem purpose_canonical (p : Purpose) : purpose (.str p.canonical) = .ok p := by
  rw [purpose, choice, Purpose.ofText?_canonical]

@[simp] theorem gatheredPurpose_canonical (p : Purpose) : gatheredPurpose (.str p.canonical) = .ok p :=
  purpose_canonical p

@[simp] theorem status_canonical (s : AccountStatus) : status (.str s.canonical) = .ok s := by
  cases s <;> rfl

/-- An array of values that are read back is read back. -/
theorem array_map {α : Type} {read : Json → Except Fault α} {write : α → Json}
    (h : ∀ a, read (write a) = .ok a) (as : List α) : array read (.arr (as.map write)) = .ok as := by
  rw [array]
  induction as with
  | nil => rfl
  | cons a as ih =>
    rw [List.map_cons, List.mapM_cons, h, ih]
    rfl

/-! ## Records -/

theorem proposedLine_json (l : ProposedLine) : proposedLine (proposedLineJson l) = .ok l := by
  have hdraft : record ["accountId", "purpose", "amount"] proposedLineField ⟨none, none, none⟩
      (proposedLineJson l) = .ok ⟨some l.account, some l.purpose, some l.amount⟩ := by
    simp [proposedLineJson, record, members_cons, proposedLineField, once_none, Except.map, Except.bind]
  rw [proposedLine, hdraft]
  rfl

theorem proposal_proposalJson (p : Proposal) : proposal (proposalJson p) = .ok p := by
  have hdraft : record ["id", "timestamp", "lines"] proposalField ⟨none, none, none⟩ (proposalJson p) =
      .ok ⟨some (p.id.map TransactionId.text), some p.timestamp, some p.lines⟩ := by
    simp [proposalJson, record, members_cons, proposalField, once_none, array_map proposedLine_json,
      Except.map, Except.bind]
  rw [proposal, hdraft]
  obtain ⟨id, timestamp, lines⟩ := p
  cases id <;> rfl

/-- A line is read back, whether or not its fields are gathered first. -/
theorem line_lineJson {readPurpose : Json → Except Fault Purpose}
    (h : ∀ p : Purpose, readPurpose (.str p.canonical) = .ok p) (l : Line) :
    line readPurpose (lineJson l) = .ok l := by
  have hdraft : record ["accountId", "purpose", "amount"] (lineField readPurpose) ⟨none, none, none⟩
      (lineJson l) = .ok ⟨some l.account.text, some l.purpose, some l.amount⟩ := by
    simp [lineJson, record, members_cons, lineField, once_none, h, Except.map, Except.bind]
  rw [line, hdraft]
  rfl

theorem transaction_transactionJson (t : Transaction) : transaction (transactionJson t) = .ok t := by
  have hlines := array_map (line_lineJson purpose_canonical) t.lines
  have hdraft : record ["id", "timestamp", "lines"] (transactionField purpose) .start (transactionJson t) =
      .ok ⟨some t.id.text, some t.timestamp, some t.lines, none⟩ := by
    simp [transactionJson, transactionFields, record, members_cons, transactionField,
      TransactionDraft.start, once_none, hlines, Except.map, Except.bind]
  rw [transaction, hdraft]
  rfl

theorem posted_postedJson (p : Posted) : posted (postedJson p) = .ok p := by
  have hlines := array_map (line_lineJson gatheredPurpose_canonical) p.transaction.lines
  have hdraft : members postedField .start
      (transactionFields p.transaction ++ [("createdAt", timestampJson p.createdAt)]) =
        .ok ⟨some p.transaction.id.text, some p.transaction.timestamp, some p.transaction.lines,
          some p.createdAt⟩ := by
    simp [transactionFields, members_cons, postedField, transactionField, TransactionDraft.start,
      once_none, hlines, Except.map, Except.bind]
  rw [postedJson, posted, hdraft]
  rfl

theorem account_accountJson (a : Account) : account (accountJson a) = .ok a := by
  have hdraft : record accountNames accountField .start (accountJson a) =
      .ok ⟨some a.id.text, some a.customer.text, some a.name, some a.number, some a.routing,
        some a.status, some a.kind, some a.balance, some a.createdAt, some a.closedAt,
        some a.lastModified⟩ := by
    simp [accountJson, record, members_cons, accountField, AccountDraft.start, once_none, Except.map,
      Except.bind]
  rw [account, hdraft]
  rfl

/-! ## Reading one value in two ways -/

theorem bind_ok {α β : Type} {x : Except Fault α} {f : α → Except Fault β} {b : β}
    (h : x.bind f = .ok b) : ∃ a, x = .ok a ∧ f a = .ok b := by
  cases x with
  | error fault => cases h
  | ok a => exact ⟨a, rfl, h⟩

theorem once_ok {α δ : Type} {slot : Option α} {read : Json → Except Fault α} {v : Json}
    {keep : Option α → δ} {d : δ} (h : (once slot read v).map keep = .ok d) :
    ∃ a, read v = .ok a ∧ d = keep (some a) := by
  cases slot with
  | some a => cases h
  | none =>
      rw [once_none] at h
      cases hread : read v with
      | error fault => rw [hread] at h; cases h
      | ok a =>
          rw [hread] at h
          cases h
          exact ⟨a, rfl, rfl⟩

theorem skip_ok {δ : Type} {d d' : δ} {v : Json} (h : skip d v = .ok d') : d' = d := by
  rw [skip] at h
  split at h
  · cases h
    rfl
  · cases h

theorem string_ok {v : Json} {s : String} (h : string v = .ok s) : v = .str s := by
  cases v <;> cases h
  rfl

/-- A purpose that is read is spelled by the text that stands there. -/
theorem gatheredPurpose_ok {v : Json} {p : Purpose} {s : String} (hp : gatheredPurpose v = .ok p)
    (hs : string v = .ok s) : s ∈ p.spellings := by
  cases string_ok hs
  have hread : gatheredPurpose (.str s) = choice Purpose.ofText? (.str s) := rfl
  rw [hread, choice] at hp
  split at hp
  · rename_i hp'
    cases hp
    exact Purpose.ofText?_iff.mp hp'
  · cases hp

/-- What cannot be null is read the same where null is allowed. -/
theorem nullable_ok {α : Type} {read : Json → Except Fault α} (hnull : ∀ a, read .null ≠ .ok a) {v : Json}
    {a : α} {b : Option α} (ha : read v = .ok a) (hb : nullable read v = .ok b) : b = some a := by
  cases v with
  | null => exact absurd ha (hnull a)
  | _ =>
      rw [nullable, ha] at hb
      · cases hb
        rfl
      · exact fun h => by cases h

/-- Two readers that agree on each item agree on an array. -/
theorem array_related {α β : Type} {read : Json → Except Fault α} {read' : Json → Except Fault β}
    {P : α → β → Prop} (h : ∀ v a b, read v = .ok a → read' v = .ok b → P a b) {v : Json}
    {as : List α} {bs : List β} (ha : array read v = .ok as) (hb : array read' v = .ok bs) :
    List.Forall₂ P as bs := by
  cases v with
  | arr items =>
      rw [array] at ha hb
      induction items generalizing as bs with
      | nil =>
        cases ha
        cases hb
        exact .nil
      | cons v items ih =>
        rw [List.mapM_cons] at ha hb
        obtain ⟨a, hav, ha⟩ := bind_ok ha
        obtain ⟨as', has, ha⟩ := bind_ok ha
        obtain ⟨b, hbv, hb⟩ := bind_ok hb
        obtain ⟨bs', hbs, hb⟩ := bind_ok hb
        cases ha
        cases hb
        exact .cons (h v a b hav hbv) (ih has hbs)
  | _ => cases ha

section

variable {δ ε : Type} {field : δ → String → Json → Except Fault δ}
  {field' : ε → String → Json → Except Fault ε} {R : δ → ε → Prop}
  (hstep : ∀ d e name v d' e', R d e → field d name v = .ok d' → field' e name v = .ok e' → R d' e')

include hstep

/-- Two readers that go through the same members keep what holds between their drafts. -/
theorem members_related {ms : List (String × Json)} {d d' : δ} {e e' : ε} (hstart : R d e)
    (hd : members field d ms = .ok d') (he : members field' e ms = .ok e') : R d' e' := by
  induction ms generalizing d e with
  | nil =>
    cases hd
    cases he
    exact hstart
  | cons m ms ih =>
    obtain ⟨name, v⟩ := m
    by_cases hv : Named v
    · rw [members_cons hv] at hd he
      obtain ⟨d₁, hd₁, hd⟩ := bind_ok hd
      obtain ⟨e₁, he₁, he⟩ := bind_ok he
      exact ih (hstep d e name v d₁ e₁ hstart hd₁ he₁) hd he
    · -- a member that has no proper name is read by neither
      obtain ⟨w, rfl⟩ : ∃ w, v = .misnamed w := by simpa [Named] using hv
      cases hd

theorem record_related {names : List String} {v : Json} {d d' : δ} {e e' : ε} (hstart : R d e)
    (hd : record names field d v = .ok d') (he : record names field' e v = .ok e') : R d' e' := by
  cases v with
  | obj ms => exact members_related hstep hstart hd he
  | arr items =>
      rw [record] at hd he
      split at hd
      · cases hd
      · rename_i d₁ hd₁
        split at he
        · cases he
        · rename_i e₁ he₁
          have hrelated := members_related hstep hstart hd₁ he₁
          split at hd
          · rename_i hlength
            rw [if_pos hlength] at he
            cases hd
            cases he
            exact hrelated
          · cases hd
  | _ => cases hd

end

/-! ## What was posted, read as a proposal -/

/-- The drafts of a line and of a proposed line hold the same fields. -/
structure LineDraft.Matches (d : LineDraft) (e : ProposedLineDraft) : Prop where
  account : e.account = d.account
  purpose : Option.Rel (fun (p : Purpose) s => s ∈ p.spellings) d.purpose e.purpose
  amount : e.amount = d.amount

theorem lineField_matches (d : LineDraft) (e : ProposedLineDraft) (name : String) (v : Json)
    (d' : LineDraft) (e' : ProposedLineDraft) (h : d.Matches e)
    (hd : lineField gatheredPurpose d name v = .ok d') (he : proposedLineField e name v = .ok e') :
    d'.Matches e' := by
  unfold lineField at hd
  split at hd
  · obtain ⟨a, ha, rfl⟩ := once_ok hd
    obtain ⟨b, hb, rfl⟩ := once_ok he
    cases ha.symm.trans hb
    exact ⟨rfl, h.purpose, h.amount⟩
  · obtain ⟨p, hp, rfl⟩ := once_ok hd
    obtain ⟨s, hs, rfl⟩ := once_ok he
    exact ⟨h.account, .some (gatheredPurpose_ok hp hs), h.amount⟩
  · obtain ⟨a, ha, rfl⟩ := once_ok hd
    obtain ⟨b, hb, rfl⟩ := once_ok he
    cases ha.symm.trans hb
    exact ⟨h.account, h.purpose, rfl⟩
  · rename_i haccount hpurpose hamount
    unfold proposedLineField at he
    split at he
    · exact absurd rfl haccount
    · exact absurd rfl hpurpose
    · exact absurd rfl hamount
    · rw [skip_ok hd, skip_ok he]
      exact h

/-- What a value is read as, as a line and as a proposed line, agrees. -/
theorem line_saidBy {v : Json} {l : Line} {q : ProposedLine} (hl : line gatheredPurpose v = .ok l)
    (hq : proposedLine v = .ok q) : l.SaidBy q := by
  obtain ⟨d, hd, hl⟩ := bind_ok hl
  obtain ⟨e, he, hq⟩ := bind_ok hq
  obtain ⟨haccount, hpurpose, hamount⟩ := record_related lineField_matches ⟨rfl, .none, rfl⟩ hd he
  -- a line has all of its fields
  rcases d with ⟨_ | account, _ | purpose, _ | amount⟩ <;> try cases hl
  obtain ⟨account', purpose', amount'⟩ := e
  cases haccount
  cases hamount
  cases hpurpose with
  | some hspelled =>
      cases hq
      exact ⟨rfl, hspelled, rfl⟩

/-- The drafts of a posted transaction and of a proposal hold the same fields. -/
structure TransactionDraft.Matches (d : TransactionDraft) (e : ProposalDraft) : Prop where
  id : e.id = d.id.map some
  timestamp : e.timestamp = d.timestamp.map some
  lines : Option.Rel (List.Forall₂ Line.SaidBy) d.lines e.lines

theorem postedField_matches (d : TransactionDraft) (e : ProposalDraft) (name : String) (v : Json)
    (d' : TransactionDraft) (e' : ProposalDraft) (h : d.Matches e)
    (hd : postedField d name v = .ok d') (he : proposalField e name v = .ok e') : d'.Matches e' := by
  unfold postedField at hd
  split at hd
  · -- the creation time is passed over in a proposal
    obtain ⟨a, ha, rfl⟩ := once_ok hd
    rw [skip_ok he]
    exact ⟨h.id, h.timestamp, h.lines⟩
  · unfold transactionField at hd
    split at hd
    · obtain ⟨a, ha, rfl⟩ := once_ok hd
      obtain ⟨b, hb, rfl⟩ := once_ok he
      cases nullable_ok (fun a ha => by cases ha) ha hb
      exact ⟨rfl, h.timestamp, h.lines⟩
    · obtain ⟨a, ha, rfl⟩ := once_ok hd
      obtain ⟨b, hb, rfl⟩ := once_ok he
      cases nullable_ok (fun a ha => by cases ha) ha hb
      exact ⟨h.id, rfl, h.lines⟩
    · obtain ⟨a, ha, rfl⟩ := once_ok hd
      obtain ⟨b, hb, rfl⟩ := once_ok he
      exact ⟨h.id, h.timestamp, .some (array_related (fun _ _ _ => line_saidBy) ha hb)⟩
    · rename_i hid htimestamp hlines
      unfold proposalField at he
      split at he
      · exact absurd rfl hid
      · exact absurd rfl htimestamp
      · exact absurd rfl hlines
      · rw [skip_ok hd, skip_ok he]
        exact h

/-- What a value is read as, as a posted transaction and as a proposal, agrees. -/
theorem posted_saidBy {v : Json} {p : Posted} {q : Proposal} (hp : posted v = .ok p)
    (hq : proposal v = .ok q) : p.transaction.SaidBy q := by
  cases v with
  | obj ms =>
      obtain ⟨d, hd, hp⟩ := bind_ok hp
      obtain ⟨e, he, hq⟩ := bind_ok hq
      obtain ⟨hid, htimestamp, hlines⟩ := members_related postedField_matches ⟨rfl, rfl, .none⟩ hd he
      -- a posted transaction has all of its fields
      rcases d with ⟨_ | id, _ | timestamp, _ | lines, _ | createdAt⟩ <;> try cases hp
      obtain ⟨id', timestamp', lines'⟩ := e
      cases hid
      cases htimestamp
      cases hlines with
      | some hsaid =>
          cases hq
          exact ⟨rfl, rfl, hsaid⟩
  | _ => cases hp

/-- A posted transaction can be read as a proposal where it was written. -/
theorem proposal_postedJson (p : Posted) : proposal (postedJson p) = .ok p.transaction.proposal := by
  have hlines : array proposedLine (.arr (p.transaction.lines.map lineJson)) =
      .ok (p.transaction.lines.map Line.proposed) := by
    have hjson : lineJson = proposedLineJson ∘ Line.proposed := rfl
    rw [hjson, ← List.map_map, array_map proposedLine_json]
  have hdraft : record ["id", "timestamp", "lines"] proposalField ⟨none, none, none⟩ (postedJson p) =
      .ok ⟨some (some p.transaction.id.text), some (some p.transaction.timestamp),
        some (p.transaction.lines.map Line.proposed)⟩ := by
    have hwhole : (timestampJson p.createdAt).isWhole = true := rfl
    simp [postedJson, transactionFields, record, members_cons, proposalField, once_none, hlines, skip,
      hwhole, Except.map, Except.bind]
  rw [proposal, hdraft]
  rfl

/-! ## Round trips -/

/-- A value as it is written once it is read. -/
def rewritten {α : Type} (read : Json → Except Fault α) (write : α → Json) (v : Json) : Except Fault Json :=
  (read v).map write

/-- What is accepted is written in a form that is read the same and written the same again. -/
def RoundTrips {α : Type} (read : Json → Except Fault α) (write : α → Json) : Prop :=
  ∀ v w, rewritten read write v = .ok w → read w = read v ∧ rewritten read write w = .ok w

theorem roundTrips_of_read_write {α : Type} {read : Json → Except Fault α} {write : α → Json}
    (h : ∀ a, read (write a) = .ok a) : RoundTrips read write := by
  intro v w hw
  unfold rewritten at hw ⊢
  cases hread : read v with
  | error fault => rw [hread] at hw; cases hw
  | ok a =>
      rw [hread] at hw
      cases hw
      rw [h]
      exact ⟨rfl, rfl⟩

/--
**Records make the round trip**, in whatever form they came. A posted transaction that is well-formed can be
proposed as it is written, and whatever it is read from is accepted as the same transaction if it can be read
as a proposal.
-/
theorem wire_round_trips :
    RoundTrips proposal proposalJson ∧ RoundTrips posted postedJson ∧ RoundTrips account accountJson ∧
      RoundTrips transaction transactionJson ∧
      ∀ v p, posted v = .ok p → p.transaction.WellFormed →
        (∀ q, proposal v = .ok q → ∀ now fresh, q.check now fresh = .ok p.transaction) ∧
          ∃ q, proposal (postedJson p) = .ok q ∧ ∀ now fresh, q.check now fresh = .ok p.transaction := by
  refine ⟨roundTrips_of_read_write proposal_proposalJson, roundTrips_of_read_write posted_postedJson,
    roundTrips_of_read_write account_accountJson, roundTrips_of_read_write transaction_transactionJson, ?_⟩
  intro v p hp hwell
  refine ⟨fun q hq => ?_, p.transaction.proposal, proposal_postedJson p, hwell.check_proposal⟩
  exact hwell.check_of_saidBy (posted_saidBy hp hq)

end DoubleEntry.Wire

namespace DoubleEntry

open Time Wire

namespace Specimen

/-- A posted transaction as it may come: a line as an array, purposes written short, a leap second. -/
def received : Json :=
  .obj [("createdAt", .str "2026-03-01t13:01:02.000003+01:00"),
    ("lines", .arr [.arr [.str "a", .str "credit", .int 5],
      .obj [("amount", .int (-5)), ("purpose", .str "debit"), ("accountId", .str "b")]]),
    ("id", .str "t"), ("timestamp", .str "2016-12-31 18:59:60.5-05:00")]

def leapSecond : Timestamp :=
  ⟨⟨2016, 12, 31, by decide, by decide⟩, 23, 59, 60, 500000000, by decide, by decide, by decide,
    by decide⟩

def receivedPosted : Posted :=
  ⟨⟨⟨"t"⟩, leapSecond, [⟨⟨"a"⟩, .achCredit, five⟩, ⟨⟨"b"⟩, .achDebit, minusFive⟩]⟩, noon⟩

theorem posted_received : Wire.posted received = .ok receivedPosted := by rfl

end Specimen

theorem Wire.wire_round_trips_specimen :
    (∃ w, rewritten posted postedJson Specimen.received = .ok w ∧ posted w = .ok Specimen.receivedPosted ∧
        rewritten posted postedJson w = .ok w) ∧
      ∃ q, proposal Specimen.received = .ok q ∧
        ∀ now fresh, q.check now fresh = .ok Specimen.receivedPosted.transaction := by
  obtain ⟨_, htrips, _, _, hproposed⟩ := wire_round_trips
  have hwell : Specimen.receivedPosted.transaction.WellFormed :=
    ⟨by decide, by decide, by decide, by decide, by decide⟩
  have hwritten : rewritten posted postedJson Specimen.received =
      .ok (postedJson Specimen.receivedPosted) := by
    rw [rewritten, Specimen.posted_received]
    rfl
  obtain ⟨hread, hagain⟩ := htrips _ _ hwritten
  obtain ⟨q, hq⟩ : ∃ q, proposal Specimen.received = .ok q := ⟨_, rfl⟩
  exact ⟨⟨_, hwritten, hread.trans Specimen.posted_received, hagain⟩, q, hq,
    (hproposed _ _ Specimen.posted_received hwell).1 q hq⟩

end DoubleEntry
