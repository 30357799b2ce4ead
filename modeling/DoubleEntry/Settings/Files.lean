import DoubleEntry.Json.Basic
import DoubleEntry.Text.Cut

/-!
# Files of settings

The files stand in one folder and the folders inside it, each named with the ending `.json`. A file is
asked for by a path from that folder, with or without the ending. A path that leads to no file finds no
settings, which is no fault.
-/

namespace DoubleEntry.Settings

/-- The names from the outermost folder to a file or folder. -/
abbrev Address := List (List Char)

/-- The folder that holds the files of settings. -/
def folder : List Char := "config".toList

/-- The ending of their names. -/
def ending : List Char := ".json".toList

/-- The parts of a path that lead anywhere: empty ones and single points do not. -/
def leading (path : List Char) : Address :=
  (Text.splitAll '/' path).filter fun p => p ≠ [] ∧ p ≠ ['.']

/-- The path from around the folder of settings. -/
def fromAround (path : List Char) : List Char := folder ++ '/' :: path

/-! ## Names and their endings -/

/-- A name with an ending: it has a point after its first character, and is not just two points. -/
def hasEnding (name : List Char) : Bool := name ≠ ['.', '.'] && (name.drop 1).contains '.'

def stem (name : List Char) : List Char :=
  if hasEnding name then ((name.reverse.dropWhile (· ≠ '.')).drop 1).reverse else name

/-- What is put after a path whose name has an ending, to be replaced in that ending's stead. -/
def mark : List Char := ".placeholder".toList

/-! ## Files by their addresses -/

/-- The address of a file of settings. -/
def addressOf (name : String) : Address := leading (fromAround (name.toList ++ ending))

/-- The settings in the file at an address. -/
def fileAt? (files : List (String × Json)) (address : Address) : Option Json :=
  (files.find? fun f => addressOf f.1 = address).map Prod.snd

/-- There is a folder at an address. -/
def isFolder (files : List (String × Json)) (address : Address) : Bool :=
  files.any fun f => address.isPrefixOf (addressOf f.1).dropLast

/-- The folder that parts of a path lead to; two points lead one folder out. -/
def walk (files : List (String × Json)) : Address → Address → Option Address
  | place, [] => some place
  | place, name :: rest =>
    if name = ['.', '.'] then
      if place = [] then none else walk files place.dropLast rest
    else if isFolder files (place ++ [name]) then walk files (place ++ [name]) rest
    else none

/-- The folder and the name that a path ends in. -/
def target? (files : List (String × Json)) (path : List Char) : Option (Address × List Char) :=
  match (leading path).getLast? with
  | none => none
  | some name =>
    if name = ['.', '.'] then none
    else (walk files [] (leading path).dropLast).map fun place => (place, name)

/-- The settings in the file that has exactly this path; a name without an ending has no kind. -/
def exactly? (files : List (String × Json)) (path : List Char) : Option (Option Json) :=
  (target? files path).bind fun t =>
    if (Text.splitAll '/' path).getLast? = some t.2 then
      (fileAt? files (t.1 ++ [t.2])).map fun settings =>
        if hasEnding t.2 then some settings else none
    else none

/-- The settings in the file whose path ends in the stem of a path's name and the ending of settings. -/
def completed? (files : List (String × Json)) (path : List Char) : Option Json :=
  (target? files path).bind fun t => fileAt? files (t.1 ++ [stem t.2 ++ ending])

/-- The path with a mark after it if its name has an ending. -/
def marked (path : List Char) : List Char :=
  if ((leading path).getLast?.map hasEnding).getD false then path ++ mark else path

/-- The settings in the file that a path asks for. -/
def file? (files : List (String × Json)) (path : String) : Option Json :=
  let whole := fromAround path.toList
  match exactly? files whole with
  | some settings => settings
  | none => completed? files (marked whole)

end DoubleEntry.Settings
