import DoubleEntry.Settings.Files
import DoubleEntry.Settings.Path
import DoubleEntry.Text.Case

/-!
# Layers of settings

Settings come in layers: a file of defaults, a file for the mode the program runs in, and the
environment. Later layers win key by key: tables are merged, anything else is replaced. The outermost
keys of a file may be paths. An environment variable names its key by a path too, with double
underscores for the points.
-/

namespace DoubleEntry.Settings

/-- Lays values over a table, each at the path of its key. -/
def layOver (base : Json) (layer : List (String × Json)) : Json :=
  layer.foldl (fun table m => setAt m.2 (Path.ofKey m.1) table) base

/-- What the names of environment variables start with. -/
def environmentMark : List Char := "tally__".toList

/-- A name with a point for every double underscore. -/
def pointed : List Char → List Char
  | '_' :: '_' :: rest => '.' :: pointed rest
  | c :: rest => c :: pointed rest
  | [] => []

/-- The key that an environment variable sets, if it is one of the program's. -/
def variableKey? (name : String) : Option String :=
  let cs := (Text.lower name).toList
  if environmentMark.isPrefixOf cs then
    some (String.ofList (pointed (cs.drop environmentMark.length)))
  else none

/-- The layer that the environment makes up. -/
def environmentLayer (env : List (String × String)) : List (String × Json) :=
  env.filterMap fun entry => (variableKey? entry.1).map fun key => (key, .str entry.2)

/-- The mode the program runs in. -/
def runMode (env : List (String × String)) : String := (env.lookup "RUN_MODE").getD "development"

/-- The layer that a file makes up, which must be a table; a file that is not there adds nothing. -/
def fileLayer? (files : List (String × Json)) (path : String) : Option (List (String × Json)) :=
  match file? files path with
  | none => some []
  | some (.obj ms) => some ms
  | some _ => none

/-- All layers merged, unless a file is no table. -/
def merged? (env : List (String × String)) (files : List (String × Json)) : Option Json := do
  let standard ← fileLayer? files "default"
  let mode ← fileLayer? files (runMode env)
  some (layOver (layOver (layOver (.obj []) standard) mode) (environmentLayer env))

end DoubleEntry.Settings
