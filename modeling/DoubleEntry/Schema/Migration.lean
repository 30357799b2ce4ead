import DoubleEntry.Schema.Table
import DoubleEntry.Store.Work

/-!
# Installing the tables

The tables come and go by versions. The store remembers the versions that are installed in a table of
its own, which is made whenever it is missing. There is one version, and it makes or drops all three
tables of the books. Moving to other versions is done wholly or not at all; a version that is recorded
and not known stops everything, since nothing can be said of what it did.
-/

namespace DoubleEntry

namespace Schema

/-- The versions that are known, the oldest first. -/
def versions : List String := ["m20260301_000001_ledger"]

/-- The table in which installed versions are recorded. -/
def versionTable : String := "seaql_migrations"

/-- What is said of a version that is recorded and not known. -/
def unknownVersion (version : String) : String :=
  "Migration file of version '" ++ version ++
    "' is missing, this migration has been applied but its file is missing"

/-- The known versions by whether they are recorded, unless one is recorded that is not known. -/
def progress (recorded : List String) : Except StoreError (List String × List String) :=
  match (Order.distinctTexts recorded).filter fun v => !versions.contains v with
  | [] =>
    .ok (versions.filter recorded.contains, versions.filter fun v => !recorded.contains v)
  | unknown => .error (.custom ("\n".intercalate (unknown.map unknownVersion)))

inductive Direction where
  /-- Installs what is not installed, up to a number of versions. -/
  | up (limit : Option Nat)
  /-- Removes what is installed, up to a number of versions, the newest first. -/
  | down (limit : Option Nat)
  /-- Removes everything and installs it again. -/
  | refresh
  /-- Removes everything. -/
  | reset
  deriving DecidableEq, Repr

/-- The first versions of a list, as many as there may be. -/
def upTo (limit : Option Nat) (l : List String) : List String :=
  match limit with
  | some n => l.take n
  | none => l

end Schema

/-- The names of all tables there are, ascending. -/
def Store.tableNames (s : Store) : List String :=
  Order.distinctTexts
    ((if s.book.isSome then Schema.Table.all.map Schema.Table.name else []) ++
      (if s.versions.isSome then [Schema.versionTable] else []))

namespace Desk

/-- A change of the table of versions, which must be there; says whether it was made. -/
def changeVersions (s : Statement) (run : List String → List String) : Work StoreError Bool :=
  send s
    (fun store =>
      match store.versions with
      | none => .error (.missingTable Schema.versionTable)
      | some vs => .ok (true, { store with versions := some (run vs) }))
    fun found => if found then none else some false

def recordVersion (version : String) : Work StoreError Unit := do
  if ← changeVersions .recordMigration (· ++ [version]) then pure ()
  else Work.fail .noneInserted

/-- Strikes a version from the records; it need not be there. -/
def forgetVersion (version : String) : Work StoreError Unit := do
  let _ ← changeVersions .forgetMigration fun vs => vs.filter (· != version)
  pure ()

/-- Makes the table of versions if it is missing. -/
def install : Work StoreError Unit :=
  send .install
    (fun store => .ok ((), { store with versions := some (store.versions.getD []) }))
    fun found => if found then none else some ()

/-- Makes the table of versions, as many times as are asked for. -/
def installs : Nat → Work StoreError Unit
  | 0 => pure ()
  | n + 1 => do
    install
    installs n

def readVersions : Work StoreError (List String) :=
  send .readMigrations
    (fun store =>
      match store.versions with
      | none => .error (.missingTable Schema.versionTable)
      | some vs => .ok (vs, store))
    fun found => if found then none else some []

/-- The known versions by whether they are installed, after a number of checks for the table. -/
def progress (checks : Nat) : Work StoreError (List String × List String) := do
  installs checks
  let recorded ← readVersions
  Work.ofExcept (Schema.progress recorded)

/-- Makes the tables of the books; none of them may be there. -/
def createTables : Work StoreError Unit :=
  send .createTables
    (fun store =>
      match store.book with
      | some _ => .error (.tableExists Schema.Table.accounts.name)
      | none => .ok ((), { store with book := some .empty }))
    fun found => if found then none else some ()

/-- Drops the tables of the books, with all their rows. -/
def dropTables : Work StoreError Unit :=
  send .dropTables (fun store => .ok ((), { store with book := none }))
    fun found => if found then none else some ()

def installVersions : List String → Work StoreError Unit
  | [] => pure ()
  | v :: rest => do
    createTables
    recordVersion v
    installVersions rest

def removeVersions : List String → Work StoreError Unit
  | [] => pure ()
  | v :: rest => do
    dropTables
    forgetVersion v
    removeVersions rest

def moveUp (limit : Option Nat) : Work StoreError Unit := do
  let (_, pending) ← progress 4
  installVersions (Schema.upTo limit pending)

def moveDown (limit : Option Nat) : Work StoreError Unit := do
  let (applied, _) ← progress 4
  removeVersions (Schema.upTo limit applied.reverse)

/-- The work of a change of versions. -/
def move : Schema.Direction → Work StoreError Unit
  | .up limit => moveUp limit
  | .down limit => moveDown limit
  | .refresh => do
    moveDown none
    moveUp none
  | .reset => moveDown none

/-- Changes the installed versions, wholly or not at all. -/
def migrate (direction : Schema.Direction) : Work StoreError Unit := fun d =>
  let work : Work StoreError Unit := do
    control .begin
    orGiveUp do
      move direction
      control .commit
  match work d with
  | (.ok a, done) => (.ok a, done)
  | (.error e, stopped) => (.error e, stopped.restore d.store)

/-- Looks whether everything recorded is known. -/
def migrationStatus : Work StoreError Unit := do
  let _ ← progress 3
  pure ()

/-- The versions that are installed, and those that are not. -/
def migrations : Work StoreError (List String × List String) := do
  let (applied, _) ← progress 3
  let (_, pending) ← progress 3
  pure (applied, pending)

end Desk

end DoubleEntry
