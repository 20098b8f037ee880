import Std.Time.DateTime.Timestamp
import Triage.CommandLine.Replay
import Triage.Display.Plain
import Triage.TimeStamp

/-!
# The command

The command reads the directory that it works in, and the places that its arguments
name, into a value of type `Disk`, answers its arguments on that value and on the plain
host, prints the answer, and writes the files in which the disk of the answer differs.
-/

namespace Triage.CommandLine

set_option autoImplicit false

/-- Put a directory and all directories above it on a disk. -/
def withDirectories (disk : Disk) (place : Place) : Disk :=
  match disk.makeDirectories [] place with
  | .ok made => made
  | .error _ => disk

/-- Read what stands at a path, links not followed. -/
partial def load (disk : Disk) (name : String) : IO Disk := do
  let path ← IO.FS.realPath name
  let place := (Path.parse name).names
  match (← path.metadata).type with
  | .dir =>
      let mut read := withDirectories disk place
      for entry in ← path.readDir do
        let inside ← entry.path.symlinkMetadata
        if inside.type == .dir || inside.type == .file then
          read ← load read entry.path.toString
      return read
  | .file =>
      let bytes ← IO.FS.readBinFile path
      return (withDirectories disk place.dropLast).put place (.file bytes)
  | _ => return disk

/-- The absolute paths that some arguments may name. -/
def namedPaths (directory : Place) (arguments : List String) : List String :=
  arguments.map fun argument =>
    let (before, after) := Text.cutFirst '=' argument.toList
    let written := if argument.toList.contains '=' then after else before
    (Path.ofPlace ((Path.parse (String.ofList written)).resolve directory)).text

/-- Read the working directory and the places that the arguments name. -/
def loadAll (directory : Place) (arguments : List String) : IO Disk := do
  let mut disk ← load (withDirectories .empty directory) (Path.ofPlace directory).text
  for name in namedPaths directory arguments do
    let place := (Path.parse name).names
    if place ≠ [] && !directory.isPrefixOf place && (disk.nodeAt place).isNone then
      disk ← try load disk name catch _ => pure disk
  return disk

/-- Write the files in which a disk differs from the one before. -/
def store (before after : Disk) : IO Unit := do
  for (place, node) in after.nodes.bindings do
    if let .file bytes := node then
      let same := match before.nodeAt place with
        | some (.file old) => old == bytes
        | _ => false
      if !same then
        IO.FS.createDirAll (Path.ofPlace place.dropLast).text
        IO.FS.writeBinFile (Path.ofPlace place).text bytes

/-- The present moment. -/
def now : IO String := do
  let stamp ← Std.Time.Timestamp.now
  let nanoseconds := stamp.toNanosecondsSinceUnixEpoch.toInt
  return TimeStamp.text (nanoseconds / 1000).toNat

/-- Print a response. -/
def present (response : Response) : IO Unit := do
  IO.print response.plain
  for note in response.journal do
    IO.eprintln (note.importance.word ++ " " ++ note.message)
  for item in response.printed do
    for line in item.lines do IO.println line
  for item in response.errors do
    for line in item.lines do IO.eprintln line
  if let some fault := response.usage then IO.eprintln ("Error: " ++ fault.message)

end Triage.CommandLine

open Triage Triage.CommandLine in
/-- Answer the arguments of the command. -/
def main (arguments : List String) : IO UInt32 := do
  let directory := (Path.parse (← IO.currentDir).toString).names
  let disk ← loadAll directory arguments
  match Response.to Host.plain disk directory (← now) arguments with
  | .error _ =>
      IO.eprintln "Error: a file of the project does not hold what it should"
      return 1
  | .ok response =>
      store disk response.disk
      present response
      return response.exitCode.toUInt32
