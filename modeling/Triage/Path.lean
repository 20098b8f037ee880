import Triage.Text.Search

/-!
# Paths

A path is a sequence of names, relative or starting at the root.  Empty names and
single dots vanish when a path is read; double dots stay until the path is resolved
against a working directory.  Two slashes at the start, and no more than two, are
kept apart from one.
-/

namespace Triage

set_option autoImplicit false

/-- A path: how many slashes it starts with, and its names. -/
structure Path where
  /-- Zero for a relative path, one or two for an absolute one. -/
  lead : Nat
  names : List String
deriving Repr, DecidableEq, Inhabited

/-- A place on the disk: the names from the root to it, without dots. -/
abbrev Place := List String

namespace Path

/-- The number of leading slashes that a path keeps. -/
def leadOf : List Char → Nat
  | '/' :: '/' :: '/' :: _ => 1
  | '/' :: '/' :: _ => 2
  | '/' :: _ => 1
  | _ => 0

/-- Whether a segment is a name of a path. -/
def isName (segment : String) : Bool := segment ≠ "" && segment ≠ "."

/-- Read a path. -/
def parse (text : String) : Path :=
  ⟨leadOf text.toList, (Text.cut '/' text).filter isName⟩

/-- Names with slashes in between. -/
def joined (names : List String) : String := "/".intercalate names

/-- The text of a path; the path without names is a single dot. -/
def text (path : Path) : String :=
  if path.lead = 0 ∧ path.names = [] then "."
  else String.ofList (List.replicate path.lead '/') ++ joined path.names

/-- Whether a path starts at the root. -/
def isAbsolute (path : Path) : Bool := path.lead ≠ 0

/-- The path of `other` seen from `base`; an absolute path stands for itself. -/
def join (base other : Path) : Path :=
  if other.isAbsolute then other else ⟨base.lead, base.names ++ other.names⟩

/-- The last name of a path, empty when there is none. -/
def name (path : Path) : String := path.names.getLast?.getD ""

/-- The path without its last name. -/
def parent (path : Path) : Path := { path with names := path.names.dropLast }

/-- A name below a path. -/
def child (path : Path) (name : String) : Path := { path with names := path.names ++ [name] }

/-- The path of a place. -/
def ofPlace (place : Place) : Path := ⟨1, place⟩

/-- Follow names from a place, a double dot leading one place up and never above the
root. -/
def follow (place : Place) : List String → Place
  | [] => place
  | name :: rest =>
      if name = ".." then follow place.dropLast rest else follow (place ++ [name]) rest

/-- The place of a path seen from a working directory. -/
def resolve (directory : Place) (path : Path) : Place :=
  follow (if path.isAbsolute then [] else directory) path.names

/-- The names of a path below another one. -/
def namesBelow? (path base : Path) : Option (List String) :=
  if path.lead = base.lead && base.names.isPrefixOf path.names then
    some (path.names.drop base.names.length)
  else none

/-- The text of a path below another one, or of the path itself when it is not below. -/
def relativeText (path base : Path) : String :=
  match path.namesBelow? base with
  | some names => text ⟨0, names⟩
  | none => path.text

/-- The position of the dot that starts the suffix of a name: the last one, unless the
name starts or ends with it. -/
def suffixStart? (name : List Char) : Option Nat :=
  let after := (name.reverse.takeWhile (· ≠ '.')).length
  let start := name.length - 1 - after
  if after < name.length && 0 < start && after ≠ 0 then some start else none

/-- The suffix of a name with its dot, empty when there is none. -/
def suffix (name : String) : String :=
  match suffixStart? name.toList with
  | some start => String.ofList (name.toList.drop start)
  | none => ""

/-- A name without its suffix. -/
def stem (name : String) : String :=
  match suffixStart? name.toList with
  | some start => String.ofList (name.toList.take start)
  | none => name

/-- The order of places: name by name, a place before those inside it. -/
def placeLe : Place → Place → Bool
  | [], _ => true
  | _ :: _, [] => false
  | name :: rest, other :: more => name < other || (name = other && placeLe rest more)

/-- Whether a path is written in a way that only a directory fits: it ends with a slash
or with a dot that stands alone. -/
def asksForDirectory (written : String) : Bool :=
  let last := (Text.cut '/' written).getLast?.getD ""
  written.toList.contains '/' && (last = "" || last = ".")

/-- Whether a path holds a character that no file name has. -/
def hasNul (path : Path) : Bool := path.names.any fun name => name.toList.contains '\x00'

end Path

end Triage
