import Mathlib.Data.List.DropRight
import DoubleEntry.Json.Writer
import DoubleEntry.Proofs.History
import DoubleEntry.Proofs.Serving

/-!
# Posting on behalf of an account

A transaction is posted under the path of an account that one of its lines must be on. The service looks for such
a line by the account as it is written in the line, less the white space around it. The ledger takes the account as
it is written. Where the accounts of the lines have no white space around them this comes to the same. Where they
do, it does not, and an account whose identifier has white space around it cannot be posted for at all.
-/

namespace DoubleEntry

open Time Http

/-! ## Trimming -/

namespace Text

theorem toList_trim (s : String) :
    (trim s).toList = (s.toList.dropWhile isSpace).rdropWhile isSpace :=
  String.toList_ofList

/-- A text that was trimmed has no white space left to trim. -/
theorem trim_trim (s : String) : trim (trim s) = trim s := by
  refine String.toList_inj.mp ?_
  rw [toList_trim, toList_trim]
  -- a last part was left out, so what the text starts with is what it started with before
  have hstart : ((s.toList.dropWhile isSpace).rdropWhile isSpace).dropWhile isSpace =
      (s.toList.dropWhile isSpace).rdropWhile isSpace := by
    rw [List.dropWhile_eq_self_iff]
    intro hlength
    obtain ⟨rest, hrest⟩ := List.rdropWhile_prefix isSpace (l := s.toList.dropWhile isSpace)
    have hfirst := List.dropWhile_eq_self_iff.mp (List.dropWhile_idempotent isSpace s.toList)
    generalize (s.toList.dropWhile isSpace).rdropWhile isSpace = kept at *
    rw [← hrest] at hfirst
    have := hfirst (by rw [List.length_append]; omega)
    rwa [List.getElem_append_left hlength] at this
  rw [hstart, List.rdropWhile_idempotent]

end Text

namespace Http

/-! ## The request -/

/-- A request to post this proposal on behalf of an account. -/
structure AsksToPost (r : Request) (account : String) (p : Proposal) : Prop where
  /-- The method is that of posting. -/
  method : r.method = "POST"
  /-- The path names the account. -/
  named : ∃ segment, resource? (splitTarget r.target).1 = some (.accountTransactions segment) ∧
    identifier segment = .ok account
  /-- The body is the proposal. -/
  body : bodyAs Wire.proposal r = .ok p

/-- The response to what the ledger answered to a posting. -/
def postingResponse : Except LedgerError Posted → Response :=
  answered fun posted => reply 201 (Wire.postedJson posted)

variable {r : Request} {account : String} {p : Proposal}

theorem serve_post (h : AsksToPost r account p) (settings : LedgerSettings) (m : Moment) (d : Desk) :
    serve settings m r d =
      if concerns p account then
        (postingResponse (Desk.post settings.policy settings.deadline m p d).1,
          (Desk.post settings.policy settings.deadline m p d).2)
      else (.ofProblem (notConcerned account), d) := by
  obtain ⟨segment, hpath, haccount⟩ := h.named
  have hserve : serve settings m r d = respond (postTransaction settings m segment r) d :=
    serve_eq_respond (by rw [h.method]; decide) (by rw [h.method]; decide) hpath
      (by rw [h.method]; rfl) d
  have hwork : postTransaction settings m segment r =
      if concerns p account then
        ledger (Desk.post settings.policy settings.deadline m p) >>= fun posted =>
          pure (reply 201 (Wire.postedJson posted))
      else Work.fail (.ofProblem (notConcerned account)) := by
    unfold postTransaction
    rw [haccount, h.body]
    rfl
  rw [hserve, hwork]
  split
  · exact respond_ledger _ _ d
  · rfl

/-- The ledger never answers that the account in the path is not concerned: it does not know of it. -/
theorem postingResponse_ne (answer : Except LedgerError Posted) (account : String) :
    postingResponse answer ≠ .ofProblem (notConcerned account) := by
  intro hsame
  cases answer with
  | ok posted =>
      have hstatus := congrArg Response.status hsame
      cases hstatus
  | error e =>
      have hcode : e.problem.code = "ACCOUNT_NOT_IN_TRANSACTION" := code_eq_of_ofProblem hsame
      cases e with
      | invalidLine transaction index text reason =>
          cases reason <;> simp [LedgerError.problem, LedgerError.code, LineError.code, Problem.code] at hcode
      | _ => simp [LedgerError.problem, LedgerError.code, Problem.code] at hcode

theorem ok_of_created {answer : Except LedgerError Posted}
    (h : (postingResponse answer).status = 201) : ∃ posted, answer = .ok posted := by
  cases answer with
  | ok posted => exact ⟨posted, rfl⟩
  | error e =>
      have hstatus : e.problem.status = 201 := h
      have hle := le_status e.problem
      omega

end Http

/-! ## The lines -/

/-- A posting has left a line in the books for every line proposed, on the account as it was written. -/
theorem Desk.post_lines {policy : FundsPolicy} {deadline : Option Deadline} {m : Moment}
    {p : Proposal} {d d' : Desk} {posted : Posted}
    (h : Desk.post policy deadline m p d = (.ok posted, d')) :
    posted.transaction.lines.map Line.account = (p.lines.map fun l => ⟨l.account⟩) ∧
      ∃ b, d'.store.book = some b ∧ ∀ l ∈ p.lines, ∃ row ∈ b.lines,
        row.transaction = posted.transaction.id ∧ row.account = ⟨l.account⟩ := by
  have haccounts := post_accounts h
  obtain ⟨t, b, _, rfl, _, _, _, hstore⟩ := post_ok h
  refine ⟨haccounts, b.enter (Kept t) m.now.wholeMicros, by rw [hstore], fun l hl => ?_⟩
  have hrows : (⟨l.account⟩ : AccountId) ∈
      (LineRow.ofLines t.id m.now.wholeMicros.asKept 0 t.lines).map LineRow.account := by
    rw [LineRow.map_account_ofLines]
    exact haccounts ▸ List.mem_map_of_mem hl
  obtain ⟨row, hrow, haccount⟩ := List.mem_map.mp hrows
  exact ⟨row, List.mem_append_right _ hrow, (LineRow.mem_ofLines hrow).1, haccount⟩

namespace Http

/-! ## On behalf of whom -/

/-- The line names the account, when the white space around the name is left out. -/
def Names (account : String) (l : ProposedLine) : Prop := Text.trim l.account = account

/-- What was posted on behalf of an account: a line names it, and is on it if no name has white space around it. -/
structure PostedFor (account : String) (p : Proposal) (posted : Posted) (b : Book) : Prop where
  /-- A line in the books names the account. -/
  named : ∃ row ∈ b.lines, row.transaction = posted.transaction.id ∧
    Text.trim row.account.text = account
  /-- Where all names are trimmed, the transaction touches the account. -/
  touches : (∀ l ∈ p.lines, Text.trim l.account = l.account) →
    posted.transaction.touches ⟨account⟩ = true
  /-- So does the line in the books. -/
  line : (∀ l ∈ p.lines, Text.trim l.account = l.account) →
    ∃ row ∈ b.lines, row.transaction = posted.transaction.id ∧ row.account = ⟨account⟩

variable {r : Request} {account : String} {p : Proposal}

theorem concerns_iff : concerns p account = true ↔ p.lines = [] ∨ ∃ l ∈ p.lines, Names account l := by
  unfold concerns Names
  rw [Bool.or_eq_true, List.isEmpty_iff, List.any_eq_true]
  simp only [decide_eq_true_eq]

theorem refused_iff (h : AsksToPost r account p) (settings : LedgerSettings) (m : Moment) (d : Desk) :
    (serve settings m r d).1 = .ofProblem (notConcerned account) ↔
      p.lines ≠ [] ∧ ∀ l ∈ p.lines, ¬ Names account l := by
  rw [serve_post h]
  by_cases hconcerns : concerns p account = true
  · rw [if_pos hconcerns]
    refine iff_of_false (postingResponse_ne _ account) ?_
    rintro ⟨hlines, hnone⟩
    rcases concerns_iff.mp hconcerns with hnil | ⟨l, hl, hnamed⟩
    · exact hlines hnil
    · exact hnone l hl hnamed
  · rw [if_neg hconcerns]
    refine iff_of_true rfl ⟨fun hnil => ?_, fun l hl hnamed => ?_⟩
    · exact hconcerns (concerns_iff.mpr (Or.inl hnil))
    · exact hconcerns (concerns_iff.mpr (Or.inr ⟨l, hl, hnamed⟩))

/-- What the ledger posted, when a line names the account, was posted on behalf of it. -/
theorem PostedFor.of_post {policy : FundsPolicy} {deadline : Option Deadline} {m : Moment}
    {d d' : Desk} {posted : Posted} (h : Desk.post policy deadline m p d = (.ok posted, d'))
    (hconcerns : concerns p account = true) :
    ∃ b, d'.store.book = some b ∧ PostedFor account p posted b := by
  obtain ⟨haccounts, b, hb, hrows⟩ := Desk.post_lines h
  -- a posting without lines does not succeed
  have hlines : p.lines ≠ [] := by
    intro hnil
    unfold Desk.post Proposal.check at h
    rw [if_pos hnil] at h
    cases h
  obtain ⟨l, hl, hnamed⟩ := (concerns_iff.mp hconcerns).resolve_left hlines
  obtain ⟨row, hrow, hid, haccount⟩ := hrows l hl
  have hexact : (∀ l ∈ p.lines, Text.trim l.account = l.account) → l.account = account :=
    fun htrimmed => (htrimmed l hl).symm.trans hnamed
  refine ⟨b, hb, ⟨row, hrow, hid, by rw [haccount]; exact hnamed⟩, fun htrimmed => ?_,
    fun htrimmed => ⟨row, hrow, hid, by rw [haccount, hexact htrimmed]⟩⟩
  have hmem : (⟨account⟩ : AccountId) ∈ posted.transaction.lines.map Line.account := by
    rw [haccounts, ← hexact htrimmed]
    exact List.mem_map_of_mem hl
  obtain ⟨k, hk, hkaccount⟩ := List.mem_map.mp hmem
  exact Transaction.touches_iff.mpr ⟨k, hk, hkaccount⟩

/--
**The service posts for the account that a line names when it is trimmed.** A request is refused as not concerning
the account in its path exactly if it has lines and none of them names the account; any other gets the ledger's
answer, and what is created was posted on behalf of the account. For an account that has no white space around its
identifier it is enough that a line is on exactly that account. An account that has is refused whatever the lines.
-/
theorem posted_for_trimmed_account (h : AsksToPost r account p) (settings : LedgerSettings)
    (m : Moment) (d : Desk) :
    ((serve settings m r d).1 = .ofProblem (notConcerned account) ↔
      p.lines ≠ [] ∧ ∀ l ∈ p.lines, ¬ Names account l) ∧
    ((serve settings m r d).1 ≠ .ofProblem (notConcerned account) →
      serve settings m r d =
        (postingResponse (Desk.post settings.policy settings.deadline m p d).1,
          (Desk.post settings.policy settings.deadline m p d).2)) ∧
    ((serve settings m r d).1.status = 201 →
      ∃ posted b, (Desk.post settings.policy settings.deadline m p d).1 = .ok posted ∧
        (serve settings m r d).2.store.book = some b ∧ PostedFor account p posted b) ∧
    (Text.trim account = account → (∃ l ∈ p.lines, l.account = account) →
      (serve settings m r d).1 ≠ .ofProblem (notConcerned account)) ∧
    (Text.trim account ≠ account → p.lines ≠ [] →
      (serve settings m r d).1 = .ofProblem (notConcerned account)) := by
  have hserve := serve_post h settings m d
  have hrefused := refused_iff h settings m d
  refine ⟨hrefused, fun hanswered => ?_, fun hcreated => ?_, fun htrimmed hexact hnot => ?_,
    fun hspaced hlines => hrefused.mpr ⟨hlines, fun l _ hnamed => hspaced ?_⟩⟩
  · rw [hserve] at hanswered ⊢
    by_cases hconcerns : concerns p account = true
    · rw [if_pos hconcerns]
    · rw [if_neg hconcerns] at hanswered
      exact absurd rfl hanswered
  · rw [hserve] at hcreated ⊢
    by_cases hconcerns : concerns p account = true
    · rw [if_pos hconcerns] at hcreated ⊢
      obtain ⟨posted, hposted⟩ := ok_of_created hcreated
      obtain ⟨b, hb, hfor⟩ := PostedFor.of_post (Prod.ext hposted rfl) hconcerns
      exact ⟨posted, b, hposted, hb, hfor⟩
    · rw [if_neg hconcerns] at hcreated
      cases hcreated
  · obtain ⟨_, hnone⟩ := hrefused.mp hnot
    obtain ⟨l, hl, rfl⟩ := hexact
    exact hnone l hl htrimmed
  · rw [← hnamed, Text.trim_trim]

/-- A body is read by its type and its text alone. -/
theorem bodyAs_congr {α : Type} (read : Json → Except Wire.Fault α) (r r' : Request)
    (htype : r.contentType = r'.contentType) (hbody : r.body = r'.body) :
    bodyAs read r = bodyAs read r' := by
  unfold bodyAs
  rw [htype, hbody]

end Http

/-! ## White space that matters -/

namespace Specimen

/-- A transfer whose first line is on an account with white space around its identifier. -/
def spaced : Proposal :=
  ⟨some ⟨"t"⟩, none, [⟨" a ", "transfer", five⟩, ⟨"b", "transfer", minusFive⟩]⟩

/-- The request to post it on behalf of the account in a path segment. -/
def onBehalf (segment : String) : Request :=
  ⟨"POST", "/api/v1/accounts/" ++ segment ++ "/transactions", some "application/json",
    (Wire.proposalJson spaced).text⟩

/-- A desk with the accounts of the transfer. -/
def roomy : Desk := { desk with store := ⟨some ⟨[account " a ", account "b"], [], []⟩, none⟩ }

theorem onBehalf_body (segment : String) : bodyAs Wire.proposal (onBehalf segment) = .ok spaced := by
  have hread : (bodyAs Wire.proposal (onBehalf "")).toOption = some spaced := by decide +kernel
  rw [bodyAs_congr Wire.proposal (onBehalf segment) (onBehalf "") rfl rfl]
  cases hbody : bodyAs Wire.proposal (onBehalf "") with
  | error e => rw [hbody] at hread; cases hread
  | ok p => rw [hbody] at hread; cases hread; rfl

theorem asks_for_a : AsksToPost (onBehalf "a") "a" spaced :=
  ⟨rfl, ⟨['a'], by decide, rfl⟩, onBehalf_body "a"⟩

theorem asks_for_b : AsksToPost (onBehalf "b") "b" spaced :=
  ⟨rfl, ⟨['b'], by decide, rfl⟩, onBehalf_body "b"⟩

theorem asks_for_spaced : AsksToPost (onBehalf "%20a%20") " a " spaced :=
  ⟨rfl, ⟨"%20a%20".toList, by decide, rfl⟩, onBehalf_body "%20a%20"⟩

end Specimen

theorem Http.posted_for_trimmed_account_specimen :
    ∃ posted b, (serve .standard Specimen.moment (Specimen.onBehalf "b") Specimen.roomy).2.store.book =
      some b ∧ PostedFor "b" Specimen.spaced posted b := by
  obtain ⟨_, hanswered, hcreated, hexact, _⟩ := posted_for_trimmed_account Specimen.asks_for_b .standard
    Specimen.moment Specimen.roomy
  have hnot := hexact (by decide) ⟨⟨"b", "transfer", Specimen.minusFive⟩, by decide, rfl⟩
  obtain ⟨posted, b, _, hb, hfor⟩ := hcreated (by rw [hanswered hnot]; rfl)
  exact ⟨posted, b, hb, hfor⟩

/--
**White space misleads the service.** What is created on behalf of one account may have no line on it, and a
transaction that the ledger would post is refused on behalf of an account that a line is on exactly.
-/
theorem Http.white_space_misleads :
    (AsksToPost (Specimen.onBehalf "a") "a" Specimen.spaced ∧
      (serve .standard Specimen.moment (Specimen.onBehalf "a") Specimen.roomy).1.status = 201 ∧
      ∃ b, (serve .standard Specimen.moment (Specimen.onBehalf "a") Specimen.roomy).2.store.book = some b ∧
        b.lines ≠ [] ∧ ∀ row ∈ b.lines, row.account ≠ ⟨"a"⟩) ∧
    (AsksToPost (Specimen.onBehalf "%20a%20") " a " Specimen.spaced ∧
      (∃ l ∈ Specimen.spaced.lines, l.account = " a ") ∧
      (∃ posted, (Desk.post LedgerSettings.standard.policy LedgerSettings.standard.deadline
        Specimen.moment Specimen.spaced Specimen.roomy).1 = .ok posted) ∧
      (serve .standard Specimen.moment (Specimen.onBehalf "%20a%20") Specimen.roomy).1 =
        .ofProblem (notConcerned " a ")) := by
  refine ⟨⟨Specimen.asks_for_a, ?_⟩, Specimen.asks_for_spaced, ⟨_, List.mem_cons_self, rfl⟩,
    ⟨_, rfl⟩, ?_⟩
  · have hconcerns : concerns Specimen.spaced "a" = true := by decide
    rw [serve_post Specimen.asks_for_a, if_pos hconcerns]
    refine ⟨rfl, (Desk.post LedgerSettings.standard.policy LedgerSettings.standard.deadline
      Specimen.moment Specimen.spaced Specimen.roomy).2.store.book.getD .empty, ?_, ?_, ?_⟩
    · decide
    · decide
    · decide
  · exact (refused_iff Specimen.asks_for_spaced _ _ _).mpr ⟨by decide, by unfold Names; decide⟩

end DoubleEntry
