import Triage.Compiler.Outcome
import Triage.Script.Running

/-!
# Replaying compilers

Nothing that is known about a project depends on what its compiler is.  These are programs that
stand in for one: they replay output that was recorded earlier, with a short shell script.  All
other commands are found not to be there, or not to be programs.
-/

namespace Triage

set_option autoImplicit false

namespace Outcome

/-- The most seconds that can be waited for; a wait is counted in milliseconds, with 31
bits. -/
def longestWait : Int := 2147483

/-- The outcome of a run, unless it has taken too long.  A run that may take no time is too
slow. -/
def ofEnding (timeoutSeconds : Int) (ending : Script.Ending) : Outcome :=
  if longestWait < timeoutSeconds then .endless
  else if timeoutSeconds ≤ 0 || timeoutSeconds * 1000000 ≤ ending.elapsed then .tooSlow
  else .finished ending.status ending.output ending.complaint

/-- The most bytes of a word that a program is given. -/
def longestWord : Nat := 131071

/-- The directories of programs. -/
def programDirectories : List Place := [["bin"], ["usr", "bin"]]

/-- The known program that a command names, by its name or by its path. -/
def knownName? (directory : Place) (name : String) : Option String :=
  let place := ((Path.ofPlace directory).join (Path.parse name)).names
  let known := if name.toList.contains '/' then
      if programDirectories.contains place.dropLast then place.getLast?.getD "" else ""
    else name
  if (Script.shellNames ++ Script.programNames).contains known then some known else none

/-- The outcome of a command that is no known program.  A path leads to a file or a
directory, neither of which can be run, or it leads nowhere; a plain name is looked up in
the directories of programs. -/
def ofUnknown (disk : Disk) (directory : Place) (name : String) : Outcome :=
  if name = "" then .refused .notExecutable
  else if name.toList.contains '/' then
    match disk.locate ((Path.ofPlace directory).join (Path.parse name)) with
    | .error .fileMissing => .notFound
    | .error failure => .refused failure
    | .ok place =>
        match disk.nodeAt place with
        | none => .notFound
        | some .directory => .refused .notExecutable
        | some (.file _) =>
            .refused (if Path.asksForDirectory name then .notADirectory else .notExecutable)
  else if Disk.isOverlong name then .refused .tooLong
  else .notFound

end Outcome

/-- The programs that replay a compiler. -/
def Programs.replaying : Programs where
  run disk directory timeoutSeconds command :=
    match command with
    | [] => (.notFound, disk)
    | name :: words =>
        match Outcome.knownName? directory name with
        | none => (.ofUnknown disk directory name, disk)
        | some known =>
            if command.any fun word => Outcome.longestWord < word.utf8ByteSize then
              (.refused .tooLong, disk)
            else
              let ending := Script.run disk directory known words
              (.ofEnding timeoutSeconds ending, ending.disk)

end Triage
