import DoubleEntry.Amount
import DoubleEntry.Json.Basic
import DoubleEntry.Time.Text

/-!
# The shape of a value

Records are read from JSON values field by field, in the order in which the text has them, and the first
fault decides. There are two kinds: the text stops being JSON, or it is JSON of the wrong shape. Unknown
fields are passed over, known ones may come once, and a record may also be an array of its fields in
their declared order.
-/

namespace DoubleEntry.Wire

/-- Why a value cannot be read as a record. -/
inductive Fault where
  /-- The text is not JSON. -/
  | malformed
  /-- The value has another shape. -/
  | shape
  deriving DecidableEq, Repr

/-- What is wrong with a value where one of another kind is wanted. -/
def mismatch : Json → Fault
  | .cut | .halfPair => .malformed
  | .num n => if n.overflows then .malformed else .shape
  | _ => .shape

/-! ## Single values -/

def string : Json → Except Fault String
  | .str s => .ok s
  | v => .error (mismatch v)

/-- A whole number of 64 signed bits. -/
def amount : Json → Except Fault Amount
  | .num (.whole n) =>
    match Amount.ofInt? n with
    | some a => .ok a
    | none => .error (mismatch (.num (.whole n)))
  | v => .error (mismatch v)

def timestamp : Json → Except Fault Time.Timestamp
  | .str s =>
    match Time.Timestamp.ofText? s with
    | some t => .ok t
    | none => .error .shape
  | v => .error (mismatch v)

def timestampJson (t : Time.Timestamp) : Json := .str t.text

def timestampOrNull (t : Option Time.Timestamp) : Json := (t.map timestampJson).getD .null

def nullable {α : Type} (read : Json → Except Fault α) : Json → Except Fault (Option α)
  | .null => .ok none
  | v => (read v).map some

/-- A choice among names: the name, or an object whose one member has that name and is null. -/
def choice {α : Type} (named : String → Option α) : Json → Except Fault α
  | .str s =>
    match named s with
    | some a => .ok a
    | none => .error .shape
  | .obj [(name, .null)] =>
    match named name with
    | some a => .ok a
    | none => .error .shape
  | v => .error (mismatch v)

/-- An array of values of one kind. -/
def array {α : Type} (read : Json → Except Fault α) : Json → Except Fault (List α)
  | .arr items => items.mapM read
  | v => .error (mismatch v)

/-! ## Records -/

/-- A field that may come once. -/
def once {α : Type} (slot : Option α) (read : Json → Except Fault α) (v : Json) :
    Except Fault (Option α) :=
  match slot with
  | some _ => .error .shape
  | none => (read v).map some

/-- Passes over an unknown field, which must at least be JSON. -/
def skip {δ : Type} (draft : δ) (v : Json) : Except Fault δ :=
  if v.isWhole then .ok draft else .error .malformed

/-- A field that has to be there. -/
def required {α : Type} : Option α → Except Fault α
  | some a => .ok a
  | none => .error .shape

/-- Reads one member into a draft; its name must be a proper text. -/
def readMember {δ : Type} (field : δ → String → Json → Except Fault δ) (draft : δ) (name : String) :
    Json → Except Fault δ
  | .misnamed _ => .error .malformed
  | v => field draft name v

/-- Reads the members of an object into a draft, in order. -/
def members {δ : Type} (field : δ → String → Json → Except Fault δ) (start : δ)
    (ms : List (String × Json)) : Except Fault δ :=
  ms.foldlM (fun draft m => readMember field draft m.1 m.2) start

/-- Reads a record from an object, or from an array of its fields; too long an array is malformed. -/
def record {δ : Type} (names : List String) (field : δ → String → Json → Except Fault δ) (start : δ) :
    Json → Except Fault δ
  | .obj ms => members field start ms
  | .arr items =>
    match members field start (names.zip items) with
    | .error e => .error e
    | .ok draft => if items.length ≤ names.length then .ok draft else .error .malformed
  | v => .error (mismatch v)

end DoubleEntry.Wire
