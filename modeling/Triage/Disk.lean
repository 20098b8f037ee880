import Triage.OrderedMap
import Triage.Path
import Triage.Text.Lines
import Triage.Verdict

/-!
# Files and directories

The state of a disk is a finite map from places to files and directories; there are
no links.  An analysis only reads it, and what it exports is written by
`Disk.writeText`, so the state afterwards is a value that can be compared with the
state before.

Names and paths have a greatest length.  A path that is too long leads nowhere at all; a
name that is too long fails where it is looked up, so a path may have failed before that.
-/

namespace Triage

set_option autoImplicit false

/-- What stands at a place. -/
inductive Node where
  | directory
  | file (bytes : ByteArray)

/-- The places in use; the root is a directory without being bound. -/
structure Disk where
  nodes : OrderedMap Place Node

namespace Disk

/-- The disk on which nothing stands. -/
def empty : Disk := ⟨.empty⟩

/-- What stands at a place. -/
def nodeAt (disk : Disk) (place : Place) : Option Node :=
  if place = [] then some .directory else disk.nodes.find? place

/-- Put something at a place. -/
def put (disk : Disk) (place : Place) (node : Node) : Disk := ⟨disk.nodes.insert place node⟩

/-- The most bytes of a name. -/
def longestName : Nat := 255

/-- The most bytes of a path. -/
def longestPath : Nat := 4095

/-- Whether a name is too long for anything to stand under it. -/
def isOverlong (name : String) : Bool := longestName < name.utf8ByteSize

/-- Walk along names through existing directories. -/
def walk (disk : Disk) (place : Place) : List String → Except Failure Place
  | [] => .ok place
  | name :: rest =>
      match disk.nodeAt place with
      | none => .error .fileMissing
      | some (.file _) => .error .notADirectory
      | some .directory =>
          if isOverlong name then .error .tooLong
          else disk.walk (if name = ".." then place.dropLast else place ++ [name]) rest

/-- The place of an absolute path, all directories on the way existing. -/
def locate (disk : Disk) (path : Path) : Except Failure Place :=
  if path.hasNul then .error .invalidValue
  else if longestPath < path.text.utf8ByteSize then .error .tooLong
  else disk.walk [] path.names

/-- What stands at an absolute path. -/
def nodeOf (disk : Disk) (path : Path) : Option Node :=
  match disk.locate path with
  | .ok place => disk.nodeAt place
  | .error _ => none

/-- Whether a file stands at an absolute path.  Nothing stands where a path does not lead,
but a path that is too long cannot be asked about. -/
def isFile? (disk : Disk) (path : Path) : Verdict :=
  match disk.locate path with
  | .error .tooLong => .error .tooLong
  | .error _ => .ok false
  | .ok place =>
      match disk.nodeAt place with
      | some (.file _) => .ok true
      | _ => .ok false

/-- The bytes of the file at an absolute path. -/
def readBytes (disk : Disk) (path : Path) : Except Failure ByteArray := do
  let place ← disk.locate path
  match disk.nodeAt place with
  | none => throw .fileMissing
  | some .directory => throw .isADirectory
  | some (.file bytes) => return bytes

/-- The text that bytes encode. -/
def decode (bytes : ByteArray) : Except Failure String :=
  match String.fromUTF8? bytes with
  | some text => .ok text
  | none => .error .notText

/-- The text of the file at an absolute path, its line ends unified. -/
def readText (disk : Disk) (path : Path) : Except Failure String := do
  let text ← decode (← disk.readBytes path)
  return String.ofList (Text.unifyLineEnds text.toList)

/-- Make every directory along names, from `place` on. -/
def makeDirectories (disk : Disk) (place : Place) : List String → Except Failure Disk
  | [] => .ok disk
  | name :: rest =>
      let next := if name = ".." then place.dropLast else place ++ [name]
      match disk.nodeAt next with
      | some .directory => disk.makeDirectories next rest
      | some (.file _) => .error (if rest.isEmpty then .fileInTheWay else .notADirectory)
      | none =>
          if isOverlong name then .error .tooLong
          else (disk.put next .directory).makeDirectories next rest

/-- Write bytes to an absolute path, making the directories above it. -/
def writeBytes (disk : Disk) (path : Path) (bytes : ByteArray) : Except Failure Disk := do
  let prepared ← disk.makeDirectories [] path.parent.names
  let place ← prepared.locate path
  match prepared.nodeAt place with
  | some .directory => throw .isADirectory
  | _ => return prepared.put place (.file bytes)

/-- Write a text to an absolute path, making the directories above it. -/
def writeText (disk : Disk) (path : Path) (text : String) : Except Failure Disk :=
  disk.writeBytes path text.toUTF8

/-- Remove what stands at a place, and everything inside it. -/
def remove (disk : Disk) (place : Place) : Except Failure Disk :=
  match disk.nodeAt place with
  | none => .error .fileMissing
  | some _ => .ok ⟨⟨disk.nodes.bindings.filter fun node => !place.isPrefixOf node.1⟩⟩

/-- The places of all files. -/
def filePlaces (disk : Disk) : List Place :=
  disk.nodes.bindings.filterMap fun node =>
    match node.2 with
    | .file _ => some node.1
    | .directory => none

end Disk

end Triage
