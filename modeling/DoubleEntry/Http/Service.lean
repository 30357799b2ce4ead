import DoubleEntry.AccountBook
import DoubleEntry.Http.MediaType
import DoubleEntry.Http.Message
import DoubleEntry.Http.Route
import DoubleEntry.Json.Reader
import DoubleEntry.Reversal
import DoubleEntry.Settings.Basic
import DoubleEntry.Wire.Account
import DoubleEntry.Wire.Proposal
import DoubleEntry.Wire.Transaction

/-!
# The service

Each request is decoded, carried out at the desk and answered. Whatever goes wrong on the way has one
response: a request that cannot be read is refused before anything is asked of the store, and a failed
operation is answered by its problem.
-/

namespace DoubleEntry.Http

/-- Work whose failure is a response too. -/
abbrev Handler := Work Response Response

def version : String := "0.1.0"

def reply (status : Nat) (value : Json) : Response := ⟨status, .json value⟩

/-- Work of the ledger, with its errors as responses. -/
def ledger {α : Type} (w : Work LedgerError α) : Work Response α :=
  w.mapError fun e => .ofProblem e.problem

/-- Work on accounts, with its errors as responses. -/
def accountDesk {α : Type} (w : Work AccountError α) : Work Response α :=
  w.mapError fun e => .ofProblem e.problem

def identifier (segment : List Char) : Except Response String :=
  match Text.pathText? segment with
  | some s => .ok s
  | none => .error (.unreadable 400)

/-- The body of a request, read as a record. -/
def bodyAs {α : Type} (read : Json → Except Wire.Fault α) (r : Request) : Except Response α :=
  if ((r.contentType.bind MediaType.ofText?).map MediaType.isJson).getD false then
    match Json.ofText r.body with
    | (value, complete) =>
      match read value with
      | .error .malformed => .error (.unreadable 400)
      | .error .shape => .error (.unreadable 422)
      | .ok a => if complete then .ok a else .error (.unreadable 400)
  else .error (.unreadable 415)

/-- The one value of a name in a query; a name that is repeated makes the query unreadable. -/
def parameter (pairs : List (String × String)) (name : String) : Except Response (Option String) :=
  match pairs.filter fun p => p.1 = name with
  | [] => .ok none
  | [p] => .ok (some p.2)
  | _ => .error (.unreadable 400)

/-- A parameter that must not be blank. -/
def requiredParameter (name : String) (value : Option String) : Except Response String :=
  match value.filter fun v => !Text.isBlank v with
  | some v => .ok v
  | none => .error (.ofProblem (.validation "MISSING_PARAMETER" (name ++ " is required")))

/-! ## Handlers -/

/-- Opens an account for the customer in the path. -/
def openAccount (settings : LedgerSettings) (m : Moment) (segment : List Char) (r : Request) :
    Handler := do
  let customer ← Work.ofExcept (identifier segment)
  let body ← Work.ofExcept (bodyAs Wire.accountBody r)
  let routing := (body.routing.filter fun s => !Text.isBlank s).getD settings.routing
  let account ← accountDesk (Desk.createAccount m ⟨⟨customer⟩, body.name, body.kind, routing⟩)
  pure (reply 201 (Wire.accountJson account))

/-- Lists the accounts of the customer in the path. -/
def listAccounts (segment : List Char) : Handler := do
  let customer ← Work.ofExcept (identifier segment)
  let accounts ← accountDesk (Desk.accountsOf ⟨customer⟩)
  pure (reply 200 (.obj [("accounts", .arr (accounts.map Wire.accountJson))]))

/-- The problem of a search that found nothing. -/
def notFoundBySearch (number routing kind : String) : Problem :=
  .notFound "ACCOUNT_NOT_FOUND"
    ("No " ++ kind ++ " account " ++ number ++ " at routing number " ++ routing)

/-- Finds the account that the query describes. -/
def searchAccounts (query : List Char) : Handler := do
  let pairs := Text.queryPairs query
  let number? ← Work.ofExcept (parameter pairs "number")
  let routing? ← Work.ofExcept (parameter pairs "routingNumber")
  let kind? ← Work.ofExcept (parameter pairs "type")
  let number ← Work.ofExcept (requiredParameter "number" number?)
  let routing ← Work.ofExcept (requiredParameter "routingNumber" routing?)
  let kind ← Work.ofExcept (requiredParameter "type" kind?)
  match ← accountDesk (Desk.search number routing kind) with
  | some account => pure (reply 200 (Wire.accountJson account))
  | none => Work.fail (.ofProblem (notFoundBySearch number routing kind))

/-- Lists the transactions of the account in the path. -/
def listTransactions (segment : List Char) : Handler := do
  let account ← Work.ofExcept (identifier segment)
  let posted ← ledger (Desk.history ⟨account⟩)
  pure (reply 200 (.obj [("transactions", .arr (posted.map Wire.postedJson))]))

/-- A proposal concerns an account if a line is on it, or if there is no line at all. -/
def concerns (p : Proposal) (account : String) : Bool :=
  p.lines.isEmpty || p.lines.any fun l => Text.trim l.account = account

/-- The problem of a proposal that has no line on the account in the path. -/
def notConcerned (account : String) : Problem :=
  .validation "ACCOUNT_NOT_IN_TRANSACTION" ("Transaction has no line for account " ++ account)

/-- Posts a transaction on behalf of the account in the path. -/
def postTransaction (settings : LedgerSettings) (m : Moment) (segment : List Char) (r : Request) :
    Handler := do
  let account ← Work.ofExcept (identifier segment)
  let proposal ← Work.ofExcept (bodyAs Wire.proposal r)
  if concerns proposal account then
    let posted ← ledger (Desk.post settings.policy settings.deadline m proposal)
    pure (reply 201 (Wire.postedJson posted))
  else Work.fail (.ofProblem (notConcerned account))

def showTransaction (segment : List Char) : Handler := do
  let id ← Work.ofExcept (identifier segment)
  let posted ← ledger (Desk.get ⟨id⟩)
  pure (reply 200 (Wire.postedJson posted))

/-- Takes back the transaction in the path. -/
def deleteTransaction (settings : LedgerSettings) (m : Moment) (segment : List Char) : Handler := do
  let id ← Work.ofExcept (identifier segment)
  ledger (Desk.delete settings.policy m.now ⟨id⟩)
  pure ⟨204, .empty⟩

def showHealth : Handler :=
  pure (reply 200 (.obj [("status", .str "healthy"), ("version", .str version)]))

/-! ## Dispatch -/

/-- The handler of a method on a resource. -/
def handler? (settings : LedgerSettings) (m : Moment) (r : Request) (query : List Char) :
    String → Resource → Option Handler
  | "GET", .health => some showHealth
  | "GET", .customerAccounts customer => some (listAccounts customer)
  | "POST", .customerAccounts customer => some (openAccount settings m customer r)
  | "GET", .accountSearch => some (searchAccounts query)
  | "GET", .accountTransactions account => some (listTransactions account)
  | "POST", .accountTransactions account => some (postTransaction settings m account r)
  | "GET", .transaction id => some (showTransaction id)
  | "DELETE", .transaction id => some (deleteTransaction settings m id)
  | _, _ => none

/-- The response of a handler, whether it succeeded or failed. -/
def respond (h : Handler) (d : Desk) : Response × Desk :=
  match h d with
  | (.ok r, d') => (r, d')
  | (.error r, d') => (r, d')

/--
Answers a request. Every path may be asked for its options; asking for the head of a resource gives what
reading it gives, without the body.
-/
def serve (settings : LedgerSettings) (m : Moment) (r : Request) (d : Desk) : Response × Desk :=
  if r.method = "OPTIONS" then (⟨200, .empty⟩, d)
  else
    match splitTarget r.target with
    | (path, query) =>
      match resource? path with
      | none => (⟨404, .empty⟩, d)
      | some resource =>
        let isHead := r.method = "HEAD"
        match handler? settings m r query (if isHead then "GET" else r.method) resource with
        | none => (⟨405, .empty⟩, d)
        | some h =>
          let answer := respond h d
          (if isHead then answer.1.withoutBody else answer.1, answer.2)

end DoubleEntry.Http
