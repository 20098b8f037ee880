import Triage.Config
import Triage.Disk
import Triage.Text.Blank
import Triage.Text.Encoding

/-!
# The source files of a project

A source tree is a directory together with the suffixes of source files and the names
that are left out.  Its files are all files below the directory, at any depth, whose
last suffix is one of those, which are no declaration files, and no part of whose
path is left out; they are listed in the order of their paths, name by name.  A tree
that is a single file holds that file if the suffix fits.

Suffixes and names that are left out are settings: a suffix that is no text fits no file,
and a list of names may also be a text, which stands for its characters, or a table,
which stands for its keys.  A name that is no text fails for the first file that no name
before it leaves out.

The listing is made once and then remembered, so that one run of an analysis sees
one list of files even if the disk changes meanwhile.
-/

namespace Triage

set_option autoImplicit false

/-- The source files below a place. -/
structure SourceTree where
  root : Place
  /-- The suffixes of source files, with their dots. -/
  extensions : List String
  /-- Names that are left out, with or without slashes at the end. -/
  exclude : List String
  /-- How leaving out fails for files that no name above leaves out. -/
  excludeFault : Option Failure
  /-- The listing, once it has been made. -/
  listing : Option (List Place)

namespace SourceTree

/-- What ends the name of a declaration file. -/
def declarationEnd : String := ".d.ts"

/-- The suffixes of source files; without any they are the standard ones. -/
def suffixesOf (extensions : List Value) : List String :=
  if extensions.isEmpty then standardExtensions
  else extensions.filterMap fun
    | .text content => some content
    | _ => none

/-- The names in a list up to the first one that is no text, and how that one fails. -/
def namesOf : List Value → List String × Option Failure
  | [] => ([], none)
  | .text content :: rest =>
      let (names, fault) := namesOf rest
      (content :: names, fault)
  | _ :: _ => ([], some .notATable)

/-- The names that are left out, and how leaving out fails when it comes to it. -/
def excludedNames (exclude : Value) : List String × Option Failure :=
  if !exclude.isTruthy then ([], none)
  else
    match exclude.toItems with
    | .ok names => namesOf names
    | .error fault => ([], some fault)

/-- Open the tree at a place. -/
def openAt (root : Place) (extensions : List Value) (exclude : Value) : SourceTree where
  root := root
  extensions := suffixesOf extensions
  exclude := (excludedNames exclude).1
  excludeFault := (excludedNames exclude).2
  listing := none

/-- The names from the root of the tree to a place inside it. -/
def namesBelow (tree : SourceTree) (place : Place) : List String := place.drop tree.root.length

/-- The path of a place as reports show it. -/
def relative (tree : SourceTree) (place : Place) : String :=
  (Path.ofPlace place).relativeText (Path.ofPlace tree.root)

/-- Whether one of the names in a path is left out. -/
def isExcluded (tree : SourceTree) (names : List String) : Bool :=
  tree.exclude.any fun entry =>
    names.contains (String.ofList (Text.dropEndWhile (· = '/') entry.toList))

/-- Whether a file has the suffix of a source file. -/
def hasExtension (tree : SourceTree) (place : Place) : Bool :=
  tree.extensions.contains (Path.suffix (place.getLast?.getD ""))

/-- Whether a file belongs to the tree. -/
def isSource (tree : SourceTree) (place : Place) : Bool :=
  tree.root.isPrefixOf place && place ≠ tree.root && tree.hasExtension place &&
    !(place.getLast?.getD "").endsWith declarationEnd && !tree.isExcluded (tree.namesBelow place)

/-- The files of the tree as they stand on the disk, in the order of their paths. -/
def scan (tree : SourceTree) (disk : Disk) : List Place :=
  match disk.nodeAt tree.root with
  | none => []
  | some (.file _) => if tree.hasExtension tree.root then [tree.root] else []
  | some .directory => (disk.filePlaces.filter tree.isSource).mergeSort Path.placeLe

/-- The files of the tree: the listing, if it has been made, and else a new one. -/
def files (tree : SourceTree) (disk : Disk) : List Place := tree.listing.getD (tree.scan disk)

/-- Whether the root cannot be asked about, or leaving out fails for a file that a new
listing comes upon. -/
def listingFault? (tree : SourceTree) (disk : Disk) : Option Failure :=
  match disk.isFile? (Path.ofPlace tree.root), disk.nodeAt tree.root, tree.scan disk with
  | .error fault, _, _ => some fault
  | .ok _, some .directory, _ :: _ => tree.excludeFault
  | _, _, _ => none

/-- The files of the tree, unless they have to be listed and cannot be. -/
def files? (tree : SourceTree) (disk : Disk) : Except Failure (List Place) :=
  match tree.listing, tree.listingFault? disk with
  | none, some fault => .error fault
  | _, _ => .ok (tree.files disk)

/-- The tree with its listing made. -/
def listed (tree : SourceTree) (disk : Disk) : SourceTree :=
  { tree with listing := some (tree.files disk) }

variable {Number : Type}

/-- The listed files that a subsystem selects by their paths. -/
def filesFor (tree : SourceTree) (disk : Disk) (subsystem : Subsystem Number) : List Place :=
  (tree.files disk).filter fun place => subsystem.matchesPath (.text (tree.relative place))

/-- Fail if the files cannot be listed, or if it cannot be told which of them a subsystem
selects. -/
def checkFilesFor (tree : SourceTree) (disk : Disk) (subsystem : Subsystem Number) :
    Except Failure Unit := do
  (← tree.files? disk).forM fun place =>
    (subsystem.matchesPath? (.text (tree.relative place))).check

end SourceTree

namespace Disk

/-- The text of a source file. -/
def readSource (disk : Disk) (place : Place) : Except Failure String :=
  disk.readText (Path.ofPlace place)

/-- What is said of a failure to read the source file at a place: the number and the words of the
system and the path, or where the bytes of the file encode no text. -/
def unreadableText (disk : Disk) (place : Place) (failure : Failure) : String :=
  let path := Path.ofPlace place
  let refused (number : Nat) (words : String) : String :=
    "[Errno " ++ toString number ++ "] " ++ words ++ ": " ++ Text.quoted path.text
  match failure with
  | .fileMissing => refused 2 "No such file or directory"
  | .notADirectory => refused 20 "Not a directory"
  | .isADirectory => refused 21 "Is a directory"
  | .tooLong => refused 36 "File name too long"
  | _ =>
      let bytes := ((disk.readBytes path).toOption).getD .empty
      ((Text.encodingFault? bytes).map Text.EncodingFault.message).getD ""

end Disk

end Triage
