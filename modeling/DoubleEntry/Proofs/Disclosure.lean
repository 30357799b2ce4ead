import DoubleEntry.Proofs.Discretion
import DoubleEntry.Proofs.Revocable

/-!
# What a response discloses

A failure of the store or of the program is told in one sentence, whatever it was, and all of the service is discreet
about the rest. So a response does not depend on the words of the store, on how a rollback went, or on what a row
says that cannot be read.
-/

namespace DoubleEntry.Http

open Time

/-! ## The words of a problem -/

/-- A response that something went wrong inside says that an error occurred, and no more than a code besides. -/
def Response.Reticent (r : Response) : Prop :=
  r.status = 500 →
    ∃ code, r.body = .json (.obj [("error", .str code), ("message", .str "An error occurred")])

theorem Response.ofProblem_reticent (p : Problem) : (Response.ofProblem p).Reticent := by
  intro h
  cases p with
  | database message => exact ⟨_, rfl⟩
  | internal message => exact ⟨_, rfl⟩
  | _ => cases h

/-- Akin errors of the ledger have one response. -/
theorem ofProblem_ledger {e e' : LedgerError} (h : e.Akin e') :
    Response.ofProblem e.problem = Response.ofProblem e'.problem := by
  cases h with
  | persistence => rfl
  | refl => rfl

/-- Akin errors on accounts have one response. -/
theorem ofProblem_account {e e' : AccountError} (h : e.Akin e') :
    Response.ofProblem e.problem = Response.ofProblem e'.problem := by
  cases h with
  | store => rfl
  | refl => rfl

/-! ## Handlers -/

/-- The handlers that a request may be given to. -/
inductive IsHandler (settings : LedgerSettings) (m : Moment) (r : Request) (query : List Char) :
    Handler → Prop where
  | showHealth : IsHandler settings m r query showHealth
  | listAccounts (customer : List Char) : IsHandler settings m r query (listAccounts customer)
  | openAccount (customer : List Char) :
    IsHandler settings m r query (openAccount settings m customer r)
  | searchAccounts : IsHandler settings m r query (searchAccounts query)
  | listTransactions (account : List Char) : IsHandler settings m r query (listTransactions account)
  | postTransaction (account : List Char) :
    IsHandler settings m r query (postTransaction settings m account r)
  | showTransaction (id : List Char) : IsHandler settings m r query (showTransaction id)
  | deleteTransaction (id : List Char) :
    IsHandler settings m r query (deleteTransaction settings m id)

theorem isHandler {settings : LedgerSettings} {m : Moment} {r : Request} {query : List Char}
    {method : String} {resource : Resource} {h : Handler}
    (hh : handler? settings m r query method resource = some h) :
    IsHandler settings m r query h := by
  unfold handler? at hh
  split at hh
  · exact Option.some.inj hh ▸ .showHealth
  · exact Option.some.inj hh ▸ .listAccounts _
  · exact Option.some.inj hh ▸ .openAccount _
  · exact Option.some.inj hh ▸ .searchAccounts
  · exact Option.some.inj hh ▸ .listTransactions _
  · exact Option.some.inj hh ▸ .postTransaction _
  · exact Option.some.inj hh ▸ .showTransaction _
  · exact Option.some.inj hh ▸ .deleteTransaction _
  · cases hh

/-! ### What they answer -/

section Answers

variable {α : Type}

theorem ledger_answers {w : Work LedgerError α} (hw : w.Answers LedgerError.Akin Eq w) :
    (ledger w).Answers Eq Eq (ledger w) :=
  hw.mapError fun _ _ h => ofProblem_ledger h

theorem ledger_discreet {w : Work LedgerError α} (hw : w.Discreet LedgerError.Akin) :
    (ledger w).Discreet Eq :=
  hw.mapError fun _ _ h => ofProblem_ledger h

theorem accountDesk_discreet {w : Work AccountError α} (hw : w.Discreet AccountError.Akin) :
    (accountDesk w).Discreet Eq :=
  hw.mapError fun _ _ h => ofProblem_account h

/-- What is decoded from a request is the same at any desk. -/
theorem decoded_discreet (r : Except Response α) : (Work.ofExcept r).Discreet Eq :=
  .ofExcept (.refl (fun _ => rfl) r)

end Answers

theorem listAccounts_discreet (segment : List Char) : (listAccounts segment).Discreet Eq := by
  refine (decoded_discreet _).bind fun customer => ?_
  have hfind := accountDesk_discreet (Desk.accountsOf_discreet ⟨customer⟩)
  exact hfind.bind fun _ => .pure rfl

theorem openAccount_discreet (settings : LedgerSettings) (m : Moment) (segment : List Char)
    (r : Request) : (openAccount settings m segment r).Discreet Eq := by
  refine (decoded_discreet _).bind fun customer => (decoded_discreet _).bind fun body => ?_
  have hcreate : ∀ a, (accountDesk (Desk.createAccount m a)).Discreet Eq :=
    fun a => accountDesk_discreet (Desk.createAccount_discreet m a)
  exact (hcreate _).bind fun _ => .pure rfl

theorem searchAccounts_discreet (query : List Char) : (searchAccounts query).Discreet Eq := by
  -- three parameters are decoded, and then asked for
  refine (decoded_discreet _).bind fun _ => (decoded_discreet _).bind fun _ =>
    (decoded_discreet _).bind fun _ => ?_
  refine (decoded_discreet _).bind fun number => (decoded_discreet _).bind fun routing =>
    (decoded_discreet _).bind fun kind => ?_
  have hfind := accountDesk_discreet (Desk.search_discreet number routing kind)
  refine hfind.bind fun found => ?_
  cases found with
  | none => exact .fail rfl
  | some account => exact .pure rfl

theorem listTransactions_discreet (segment : List Char) :
    (listTransactions segment).Discreet Eq := by
  refine (decoded_discreet _).bind fun account => ?_
  have hhistory := ledger_discreet (Desk.history_discreet ⟨account⟩)
  exact hhistory.bind fun _ => .pure rfl

theorem showTransaction_discreet (segment : List Char) : (showTransaction segment).Discreet Eq := by
  refine (decoded_discreet _).bind fun id => ?_
  have hget := ledger_discreet (Desk.get_discreet ⟨id⟩)
  exact hget.bind fun _ => .pure rfl

theorem postTransaction_answers (settings : LedgerSettings) (m : Moment) (segment : List Char)
    (r : Request) : (postTransaction settings m segment r).Answers Eq Eq
      (postTransaction settings m segment r) := by
  refine (decoded_discreet _).bind_answers ?_
  rintro account _ rfl
  refine (decoded_discreet _).bind_answers ?_
  rintro proposal _ rfl
  split
  · have hpost := ledger_answers (Desk.post_answers settings.policy settings.deadline m proposal)
    refine hpost.map ?_
    rintro posted _ rfl
    rfl
  · have hrefused : (Work.fail (.ofProblem (notConcerned account)) : Handler).Discreet Eq :=
      .fail rfl
    exact hrefused.answers

theorem deleteTransaction_answers (settings : LedgerSettings) (m : Moment) (segment : List Char) :
    (deleteTransaction settings m segment).Answers Eq Eq (deleteTransaction settings m segment) := by
  refine (decoded_discreet _).bind_answers ?_
  rintro id _ rfl
  have hdelete := ledger_answers (Desk.delete_answers settings.policy m.now ⟨id⟩)
  exact hdelete.map fun _ _ _ => rfl

/-- **Every handler answers alike** at akin desks. -/
theorem IsHandler.answers {settings : LedgerSettings} {m : Moment} {r : Request} {query : List Char}
    {h : Handler} (hh : IsHandler settings m r query h) : h.Answers Eq Eq h := by
  cases hh with
  | showHealth => exact fun _ _ _ => .ok rfl
  | listAccounts customer => exact (listAccounts_discreet customer).answers
  | openAccount customer => exact (openAccount_discreet settings m customer r).answers
  | searchAccounts => exact (searchAccounts_discreet query).answers
  | listTransactions account => exact (listTransactions_discreet account).answers
  | postTransaction account => exact postTransaction_answers settings m account r
  | showTransaction id => exact (showTransaction_discreet id).answers
  | deleteTransaction id => exact deleteTransaction_answers settings m id

/-- Handlers that answer alike have one response. -/
theorem respond_eq {h : Handler} (hh : h.Answers Eq Eq h) {d d' : Desk} (hd : d.Akin d') :
    (respond h d').1 = (respond h d).1 := by
  have hanswer := hh hd
  unfold respond
  generalize h d = x, h d' = x' at hanswer ⊢
  obtain ⟨r, e⟩ := x
  obtain ⟨r', e'⟩ := x'
  dsimp only at hanswer
  cases hanswer with
  | ok h => exact h.symm
  | error h => exact h.symm

/-! ### What they say of failures -/

section Failures

variable {α : Type}

/-- Whatever response the work fails with is reticent. -/
def FailsReticently (w : Work Response α) : Prop := ∀ d e, (w d).1 = .error e → e.Reticent

/-- Whatever the handler responds is reticent. -/
def Handler.Reticent (h : Handler) : Prop := ∀ d, (respond h d).1.Reticent

theorem decoded_reticent {r : Except Response α} (h : ∀ e, r = .error e → e.Reticent) :
    FailsReticently (Work.ofExcept r) := fun _ => h

theorem ofProblem_failsReticently {ε : Type} (problem : ε → Problem) (w : Work ε α) :
    FailsReticently (w.mapError fun e => .ofProblem (problem e)) := by
  intro d e h
  rw [Work.mapError_apply] at h
  generalize (w d).1 = r at h
  cases r with
  | ok a => cases h
  | error x =>
      cases h
      exact Response.ofProblem_reticent _

/-- A request that cannot be read is nothing that went wrong inside. -/
theorem Response.unreadable_reticent {status : Nat} (h : status ≠ 500) :
    (Response.unreadable status).Reticent := fun hstatus => absurd hstatus h

theorem identifier_reticent (segment : List Char) : FailsReticently (Work.ofExcept (identifier segment)) := by
  refine decoded_reticent fun e he => ?_
  unfold identifier at he
  split at he
  · cases he
  · cases he
    exact Response.unreadable_reticent (by decide)

theorem bodyAs_reticent (read : Json → Except Wire.Fault α) (r : Request) :
    FailsReticently (Work.ofExcept (bodyAs read r)) := by
  refine decoded_reticent fun e he => ?_
  unfold bodyAs at he
  split at he
  · dsimp only at he
    split at he
    · cases he
      exact Response.unreadable_reticent (by decide)
    · cases he
      exact Response.unreadable_reticent (by decide)
    · split at he
      · cases he
      · cases he
        exact Response.unreadable_reticent (by decide)
  · cases he
    exact Response.unreadable_reticent (by decide)

theorem parameter_reticent (pairs : List (String × String)) (name : String) :
    FailsReticently (Work.ofExcept (parameter pairs name)) := by
  refine decoded_reticent fun e he => ?_
  unfold parameter at he
  split at he
  · cases he
  · cases he
  · cases he
    exact Response.unreadable_reticent (by decide)

theorem requiredParameter_reticent (name : String) (value : Option String) :
    FailsReticently (Work.ofExcept (requiredParameter name value)) := by
  refine decoded_reticent fun e he => ?_
  unfold requiredParameter at he
  split at he
  · cases he
  · cases he
    exact Response.ofProblem_reticent _

theorem FailsReticently.bind {w : Work Response α} {f : α → Handler} (hw : FailsReticently w)
    (hf : ∀ a, (f a).Reticent) : Handler.Reticent (w >>= f) := by
  intro d
  have herror := hw d
  unfold respond
  rw [Work.bind_apply]
  generalize w d = x at herror
  obtain ⟨r, e⟩ := x
  cases r with
  | ok a => exact hf a e
  | error response => exact herror response rfl

theorem pure_reticent {r : Response} (h : r.status ≠ 500) : Handler.Reticent (pure r) :=
  fun _ hstatus => absurd hstatus h

theorem reply_reticent {status : Nat} (h : status ≠ 500) (value : Json) :
    Handler.Reticent (pure (reply status value)) := pure_reticent h

theorem fail_reticent (p : Problem) : Handler.Reticent (Work.fail (.ofProblem p)) :=
  fun _ => Response.ofProblem_reticent p

end Failures

/-- **No handler says more of a failure inside than that it occurred.** -/
theorem IsHandler.reticent {settings : LedgerSettings} {m : Moment} {r : Request} {query : List Char}
    {h : Handler} (hh : IsHandler settings m r query h) : h.Reticent := by
  cases hh with
  | showHealth => exact reply_reticent (by decide) _
  | listAccounts customer =>
      refine (identifier_reticent customer).bind fun customer => ?_
      exact (ofProblem_failsReticently _ _).bind fun _ => reply_reticent (by decide) _
  | openAccount customer =>
      refine (identifier_reticent customer).bind fun customer => ?_
      refine (bodyAs_reticent Wire.accountBody r).bind fun body => ?_
      exact (ofProblem_failsReticently _ _).bind fun _ => reply_reticent (by decide) _
  | searchAccounts =>
      refine (parameter_reticent _ _).bind fun number? => (parameter_reticent _ _).bind fun routing? => ?_
      refine (parameter_reticent _ _).bind fun kind? => ?_
      refine (requiredParameter_reticent _ _).bind fun number => ?_
      refine (requiredParameter_reticent _ _).bind fun routing => ?_
      refine (requiredParameter_reticent _ _).bind fun kind => ?_
      refine (ofProblem_failsReticently _ _).bind fun found => ?_
      cases found with
      | none => exact fail_reticent _
      | some account => exact reply_reticent (by decide) _
  | listTransactions account =>
      refine (identifier_reticent account).bind fun account => ?_
      exact (ofProblem_failsReticently _ _).bind fun _ => reply_reticent (by decide) _
  | postTransaction account =>
      refine (identifier_reticent account).bind fun account => ?_
      refine (bodyAs_reticent Wire.proposal r).bind fun proposal => ?_
      split
      · exact (ofProblem_failsReticently _ _).bind fun _ => reply_reticent (by decide) _
      · exact fail_reticent _
  | showTransaction id =>
      refine (identifier_reticent id).bind fun id => ?_
      exact (ofProblem_failsReticently _ _).bind fun _ => reply_reticent (by decide) _
  | deleteTransaction id =>
      refine (identifier_reticent id).bind fun id => ?_
      exact (ofProblem_failsReticently _ _).bind fun _ => pure_reticent (by decide)

/-! ## Requests -/

/-- **A response discloses nothing of what is for the log**: at desks that differ in words only it is the same, and
where something went wrong inside it says that an error occurred. -/
theorem nothing_disclosed (settings : LedgerSettings) (m : Moment) (r : Request) :
    (∀ d d' : Desk, d.Akin d' → (serve settings m r d').1 = (serve settings m r d).1) ∧
      ∀ method resource query h d, handler? settings m r query method resource = some h →
        (respond h d).1.status = 500 → ∃ code, (respond h d).1.body =
          .json (.obj [("error", .str code), ("message", .str "An error occurred")]) := by
  constructor
  · intro d d' hd
    unfold serve
    split
    · rfl
    · dsimp only
      split
      · rfl
      · rename_i resource _
        split
        · rfl
        · rename_i h hhandler
          have hsame := respond_eq (isHandler hhandler).answers hd
          dsimp only
          rw [hsame]
  · intro method resource query h d hhandler
    exact (isHandler hhandler).reticent d

end DoubleEntry.Http

namespace DoubleEntry

open Http

namespace Specimen

/-- A desk with an account of this status and a line of this purpose, at which this is planned to go wrong. -/
def muddled (status purpose : String) (plan : Plan) : Desk :=
  ⟨⟨some ⟨[{ account "a" with status }, account "b"], [⟨⟨"t"⟩, noon, noon, none⟩],
    [⟨⟨"t"⟩, 0, ⟨"a"⟩, purpose, five, noon, none⟩,
      ⟨⟨"t"⟩, 1, ⟨"b"⟩, "transfer", minusFive, noon, none⟩]⟩, none⟩, plan, true, false⟩

/-- The lines cannot be read, and the rollback fails. -/
def brokenOff : Plan :=
  [⟨.readLines, 0, 1, .failure ⟨"XX000", "disk full"⟩⟩,
    ⟨.rollback, 0, 1, .breakdown "connection lost"⟩]

/-- The lines cannot be read, which is put in other words. -/
def unread : Plan := [⟨.readLines, 0, 1, .failure ⟨"XX000", "invalid page in block 7"⟩⟩]

/-- The request to list the accounts of the customer. -/
def listing : Request := ⟨"GET", "/api/v1/customers/customer/accounts", none, ""⟩

theorem brokenOff_reworded : brokenOff.Reworded unread := by
  refine ⟨?_, by decide, by decide⟩
  exact .cons ⟨rfl, rfl, rfl, .failure _ _ _⟩ .nil

/-- Whatever the texts are that cannot be read, and however the same is put that goes wrong. -/
theorem muddled_akin {status status' purpose purpose' : String} {p p' : Plan}
    (hstatus : AccountStatus.ofText? status = none) (hstatus' : AccountStatus.ofText? status' = none)
    (hpurpose : Purpose.ofText? purpose = none) (hpurpose' : Purpose.ofText? purpose' = none)
    (h : p.Akin p') : (muddled status purpose p).Akin (muddled status' purpose' p') := by
  refine ⟨⟨.some ⟨?_, rfl, ?_⟩, rfl⟩, h, rfl, rfl⟩
  · have hmasked := AccountRow.statusText.mask_put (account "a") (congrArg Option.isSome hstatus)
    have hmasked' := AccountRow.statusText.mask_put (account "a") (congrArg Option.isSome hstatus')
    exact congrArg (· :: [AccountRow.statusText.mask (account "b")]) (hmasked'.trans hmasked.symm)
  · have hmasked := LineRow.purposeText.mask_put
      ⟨⟨"t"⟩, 0, ⟨"a"⟩, "", five, noon, none⟩ (congrArg Option.isSome hpurpose)
    have hmasked' := LineRow.purposeText.mask_put
      ⟨⟨"t"⟩, 0, ⟨"a"⟩, "", five, noon, none⟩ (congrArg Option.isSome hpurpose')
    exact congrArg (· :: [LineRow.purposeText.mask ⟨⟨"t"⟩, 1, ⟨"b"⟩, "transfer", minusFive, noon, none⟩])
      (hmasked'.trans hmasked.symm)

end Specimen

theorem Http.nothing_disclosed_specimen :
    (Specimen.muddled "frozen" "gift" Specimen.brokenOff).Akin
        (Specimen.muddled "in arrears" "loan" Specimen.unread) ∧
      (∀ r : Request,
        (serve .standard Specimen.moment r
            (Specimen.muddled "in arrears" "loan" Specimen.unread)).1 =
          (serve .standard Specimen.moment r
            (Specimen.muddled "frozen" "gift" Specimen.brokenOff)).1) ∧
      (serve .standard Specimen.moment Specimen.revocation
        (Specimen.muddled "frozen" "gift" Specimen.brokenOff)).1.status = 500 ∧
      (serve .standard Specimen.moment Specimen.listing
        (Specimen.muddled "frozen" "gift" Specimen.brokenOff)).1.status = 500 ∧
      ∃ code, (respond (deleteTransaction .standard Specimen.moment ['t'])
          (Specimen.muddled "frozen" "gift" Specimen.brokenOff)).1.body =
        .json (.obj [("error", .str code), ("message", .str "An error occurred")]) := by
  have hakin : (Specimen.muddled "frozen" "gift" Specimen.brokenOff).Akin
      (Specimen.muddled "in arrears" "loan" Specimen.unread) :=
    Specimen.muddled_akin (by decide) (by decide) (by decide) (by decide)
      Specimen.brokenOff_reworded.akin
  refine ⟨hakin, fun r => (nothing_disclosed .standard Specimen.moment r).1 _ _ hakin, by decide,
    by decide, ?_⟩
  exact (nothing_disclosed .standard Specimen.moment Specimen.revocation).2 "DELETE"
    (.transaction ['t']) [] _ _ rfl (by decide)

end DoubleEntry
