import Triage.Decimal.Numeral
import Triage.Disk
import Triage.Script.Reading

/-!
# Running scripts that replay a compiler

A script is run command by command until it ends, by itself, by a command or by a signal.  What it
writes is kept as bytes, together with the time that it takes, and the files that it makes or
writes stand on the disk that it leaves.

The commands are those that a replay needs: they show files and texts, wait, make files, and end
the script.
-/

namespace Triage.Script

set_option autoImplicit false

/-- What is written leads somewhere. -/
inductive Sink where
  | output
  | complaint
  | file (place : Place)
  | nowhere

/-- What a command reads and where it writes. -/
structure Wiring where
  input : ByteArray := .empty
  output : Sink := .output
  complaint : Sink := .complaint

/-- The state of a script that is run. -/
structure Machine where
  disk : Disk
  directory : Place
  /-- The name that the script goes by, and its arguments. -/
  arguments : List String
  status : Nat := 0
  output : ByteArray := .empty
  complaint : ByteArray := .empty
  /-- The time that has passed, in microseconds. -/
  elapsed : Nat := 0
  /-- The status with which the script has ended, negative for a signal. -/
  ended : Option Int := none

/-- What a command does. -/
abbrev Act := Wiring → Machine → Machine

namespace Machine

/-- The place that a name leads to. -/
def locate (machine : Machine) (name : String) : Except Failure Place :=
  machine.disk.locate ((Path.ofPlace machine.directory).join (Path.parse name))

/-- Write bytes. -/
def write (machine : Machine) (sink : Sink) (bytes : ByteArray) : Machine :=
  match sink with
  | .output => { machine with output := machine.output ++ bytes }
  | .complaint => { machine with complaint := machine.complaint ++ bytes }
  | .nowhere => machine
  | .file place =>
      match machine.disk.nodeAt place with
      | some (.file before) =>
          { machine with disk := machine.disk.put place (.file (before ++ bytes)) }
      | _ => machine

/-- Set the status. -/
def leave (machine : Machine) (status : Nat) : Machine := { machine with status }

/-- End the script. -/
def finish (machine : Machine) (status : Nat) : Machine :=
  { machine with status, ended := some status }

end Machine

/-- Complain in a line, and go on with a status. -/
def complain (status : Nat) (message : String) : Act := fun wiring machine =>
  (machine.write wiring.complaint (message ++ "\n").toUTF8).leave status

/-! ## Texts -/

/-- The characters for letters behind a backslash. -/
def letterEscapes : List (Char × Char) :=
  [('a', '\x07'), ('b', '\x08'), ('f', '\x0c'), ('n', '\n'), ('r', '\r'), ('t', '\t'),
    ('v', '\x0b'), ('\\', '\\')]

/-- Write escapes as the characters that they stand for.  Others are left as they are. -/
def unescape : List Char → List Char
  | '\\' :: c :: rest =>
      match letterEscapes.lookup c with
      | some meant => meant :: unescape rest
      | none => '\\' :: c :: unescape rest
  | c :: rest => c :: unescape rest
  | [] => []

/-- Write words with blanks in between; a first word may tell that no line ends behind them. -/
def sayWords (escapes : Bool) (words : List String) : Act := fun wiring machine =>
  let (lineEnd, shown) := match words with
    | "-n" :: rest => ("", rest)
    | rest => ("\n", rest)
  let text := " ".intercalate shown
  let text := if escapes then String.ofList (unescape text.toList) else text
  (machine.write wiring.output (text ++ lineEnd).toUTF8).leave 0

/-- A format with words in its places, and the words that are left; a place without a word is
empty. -/
def filled : List Char → List String → List Char × List String
  | '%' :: 's' :: rest, words =>
      let (behind, left) := filled rest (words.drop 1)
      ((words.headD "").toList ++ behind, left)
  | '%' :: '%' :: rest, words =>
      let (behind, left) := filled rest words
      ('%' :: behind, left)
  | '\\' :: c :: rest, words =>
      let (behind, left) := filled rest words
      (unescape ['\\', c] ++ behind, left)
  | c :: rest, words =>
      let (behind, left) := filled rest words
      (c :: behind, left)
  | [], words => ([], words)

/-- Fill a format again and again, as long as that takes words. -/
def filledAll (format : List Char) : Nat → List String → List Char
  | 0, _ => []
  | rounds + 1, words =>
      let (text, left) := filled format words
      if left.isEmpty || left.length = words.length then text
      else text ++ filledAll format rounds left

/-- Write words in the places of a format. -/
def sayFormat (words : List String) : Act := fun wiring machine =>
  match words with
  | [] => complain 2 "printf: usage: printf format [arg ...]" wiring machine
  | format :: rest =>
      let text := filledAll format.toList (rest.length + 1) rest
      (machine.write wiring.output (String.ofList text).toUTF8).leave 0

/-! ## Files -/

/-- Why a file cannot be used. -/
def reasonOf : Failure → String
  | .isADirectory => "Is a directory"
  | .notADirectory => "Not a directory"
  | .tooLong => "File name too long"
  | _ => "No such file or directory"

/-- The bytes of a file. -/
def Machine.read (machine : Machine) (name : String) : Except Failure ByteArray :=
  machine.disk.readBytes ((Path.ofPlace machine.directory).join (Path.parse name))

/-- Show one file after the other. -/
def showFiles : List String → Act
  | [], _, machine => machine
  | name :: rest, wiring, machine =>
      let found := if name = "-" then .ok wiring.input else machine.read name
      let shown := match found with
        | .ok bytes => machine.write wiring.output bytes
        | .error failure => complain 1 ("cat: " ++ name ++ ": " ++ reasonOf failure) wiring machine
      showFiles rest wiring shown

/-- Make the files that are not there. -/
def makeFiles : List String → Act
  | [], _, machine => machine
  | name :: rest, wiring, machine =>
      let made := match machine.locate name with
        | .error failure =>
            complain 1 ("touch: cannot touch '" ++ name ++ "': " ++ reasonOf failure) wiring machine
        | .ok place =>
            match machine.disk.nodeAt place with
            | some _ => machine
            | none => { machine with disk := machine.disk.put place (.file .empty) }
      makeFiles rest wiring made

/-! ## Programs -/

/-- The number that digits spell. -/
def natural? (digits : List Char) : Option Nat :=
  if digits.isEmpty || !digits.all Text.isAsciiDigit then none
  else some (Decimal.ofDigitValues (digits.map digitOf))

/-- The microseconds of a number of seconds. -/
def microseconds? (text : String) : Option Nat :=
  let whole := text.toList.takeWhile (· ≠ '.')
  match natural? whole, text.toList.drop (whole.length + 1) with
  | some seconds, [] => some (seconds * 1000000)
  | some seconds, places =>
      (natural? ((places ++ List.replicate 6 '0').take 6)).map (seconds * 1000000 + ·)
  | none, _ => none

/-- Wait. -/
def wait (words : List String) : Act := fun wiring machine =>
  match words.mapM microseconds? with
  | some (first :: rest) =>
      { machine with elapsed := rest.foldl (· + ·) (machine.elapsed + first), status := 0 }
  | some [] => complain 1 "sleep: missing operand" wiring machine
  | none => complain 1 ("sleep: invalid time interval: " ++ " ".intercalate words) wiring machine

/-- Complain about the first option, if there is one. -/
def withoutOptions (name : String) (words : List String) (act : Act) : Act :=
  match words.find? fun word => "-".isPrefixOf word && word ≠ "-" with
  | none => act
  | some word =>
      complain 1 (name ++ ": unrecognized option '" ++ word ++ "'\nTry '" ++ name ++
        " --help' for more information.")

/-- What the programs do that a script can start, each with its words. -/
def program? (name : String) (words : List String) : Option Act :=
  match name with
  | "cat" => some <| withoutOptions name words fun wiring machine =>
      showFiles (if words.isEmpty then ["-"] else words) wiring (machine.leave 0)
  | "touch" => some <| withoutOptions name words fun wiring machine =>
      makeFiles words wiring (machine.leave 0)
  | "sleep" => some (withoutOptions name words (wait words))
  | "echo" => some (sayWords false words)
  | "true" => some fun _ machine => machine.leave 0
  | "false" => some fun _ machine => machine.leave 1
  | _ => none

/-- The programs that a script can start. -/
def programNames : List String := ["cat", "echo", "false", "sleep", "touch", "true"]

/-! ## Commands of the shell itself -/

/-- The number of the process that runs a script. -/
def ownProcess : Nat := 4096

/-- The signals with a name that a script may end itself with. -/
def signals : List (String × Nat) :=
  [("HUP", 1), ("INT", 2), ("QUIT", 3), ("ABRT", 6), ("KILL", 9), ("SEGV", 11), ("PIPE", 13),
    ("ALRM", 14), ("TERM", 15)]

/-- The number of a signal. -/
def signal? (text : String) : Option Nat := (natural? text.toList).or (signals.lookup text)

/-- The beginning of a complaint of the shell. -/
def Machine.prefixAt (machine : Machine) (line : Nat) : String :=
  machine.arguments.headD "sh" ++ ": " ++ toString line ++ ": "

/-- End the script by a signal. -/
def kill (line : Nat) (words : List String) : Act := fun wiring machine =>
  let (signal, processes) := match words with
    | "-s" :: name :: rest => (signal? name, rest)
    | word :: rest =>
        if "-".isPrefixOf word then (signal? (String.ofList (word.toList.drop 1)), rest)
        else (some 15, words)
    | [] => (some 15, [])
  match signal, processes with
  | some signal, [process] =>
      if process = toString ownProcess then
        if signal = 0 then machine.leave 0 else { machine with ended := some (-signal) }
      else complain 1 (machine.prefixAt line ++ "kill: No such process") wiring machine
  | _, _ => complain 2 (machine.prefixAt line ++ "kill: Illegal operand") wiring machine

/-- End the script with a status, or with the last one. -/
def exit (line : Nat) (words : List String) : Act := fun wiring machine =>
  match words with
  | [] => machine.finish machine.status
  | word :: _ =>
      match natural? word.toList with
      | some status => machine.finish (status % 256)
      | none =>
          (complain 2 (machine.prefixAt line ++ "exit: Illegal number: " ++ word) wiring
            machine).finish 2

/-- Start a program. -/
def start (line : Nat) (said name : String) (words : List String) : Act := fun wiring machine =>
  match program? name words with
  | some act => act wiring machine
  | none =>
      let stands := name.toList.contains '/' && match machine.locate name with
        | .ok place => (machine.disk.nodeAt place).isSome
        | .error _ => false
      let (status, reason) := if stands then (126, "Permission denied") else (127, "not found")
      complain status (machine.prefixAt line ++ said ++ name ++ ": " ++ reason) wiring machine

/-- Run the words of a command. -/
def runWords (line : Nat) : List String → Act
  | [], _, machine => machine.leave 0
  | "exit" :: words, wiring, machine => exit line words wiring machine
  | "kill" :: words, wiring, machine => kill line words wiring (machine.leave 0)
  | "exec" :: name :: words, wiring, machine =>
      let after := start line "exec: " name words wiring machine
      after.finish after.status
  | "echo" :: words, wiring, machine => sayWords true words wiring machine
  | "printf" :: words, wiring, machine => sayFormat words wiring machine
  | ":" :: _, _, machine => machine.leave 0
  | name :: words, wiring, machine => start line "" name words wiring machine

/-! ## Words and their values -/

/-- The value of a variable of the shell. -/
def Machine.valueOf (machine : Machine) (name : Char) : String :=
  if name = '$' then toString ownProcess
  else if name = '?' then toString machine.status
  else if name = '#' then toString (machine.arguments.length - 1)
  else if name = '*' then " ".intercalate (machine.arguments.drop 1)
  else machine.arguments.getD (digitOf name) ""

/-- The characters of a piece of a word.  No argument holds a null character, so one stands where
the word is cut. -/
def Machine.charsOf (machine : Machine) : Piece → List Char
  | .char c => [c]
  | .variable '@' inQuotes =>
      let cut := "\x00".intercalate (machine.arguments.drop 1)
      if inQuotes then cut.toList else Text.substitute ' ' '\x00' cut.toList
  | .variable name true => (machine.valueOf name).toList
  | .variable name false =>
      (machine.valueOf name).toList.map fun c =>
        if [' ', '\t', '\n'].contains c then '\x00' else c

/-- The words that a word becomes. -/
def Machine.wordsOf (machine : Machine) (word : Word) : List String :=
  let pieces := Text.cut '\x00' (String.ofList (word.pieces.flatMap machine.charsOf))
  let kept := pieces.filter (· ≠ "")
  if kept.isEmpty && word.isQuoted then [""] else kept

/-- The text that a word becomes where only one is wanted. -/
def Machine.textOf (machine : Machine) (word : Word) : String :=
  " ".intercalate (machine.wordsOf word)

/-! ## Redirections -/

/-- The file that is written under a name; it is emptied unless something is appended. -/
def Machine.openOutput (machine : Machine) (name : String) (appends : Bool) :
    Except String (Sink × Machine) :=
  let fail (reason : String) := .error ("cannot create " ++ name ++ ": " ++ reason)
  if name = "/dev/null" then .ok (.nowhere, machine)
  else
    match machine.locate name with
    | .error _ => fail "Directory nonexistent"
    | .ok place =>
        match machine.disk.nodeAt place, appends with
        | some .directory, _ => fail "Is a directory"
        | some (.file _), true => .ok (.file place, machine)
        | _, _ => .ok (.file place, { machine with disk := machine.disk.put place (.file .empty) })

/-- Let a descriptor lead somewhere. -/
def Wiring.connect (wiring : Wiring) (descriptor : Nat) (sink : Sink) : Wiring :=
  match descriptor with
  | 1 => { wiring with output := sink }
  | 2 => { wiring with complaint := sink }
  | _ => wiring

/-- Let a command read and write where its redirections say. -/
def connected (wiring : Wiring) (machine : Machine) :
    List Redirect → Except String (Wiring × Machine)
  | [] => .ok (wiring, machine)
  | .input name :: rest =>
      let name := machine.textOf name
      if name = "/dev/null" then connected { wiring with input := .empty } machine rest
      else
        match machine.read name with
        | .ok input => connected { wiring with input } machine rest
        | .error _ => .error ("cannot open " ++ name ++ ": No such file")
  | .output descriptor appends name :: rest => do
      let (sink, machine) ← machine.openOutput (machine.textOf name) appends
      connected (wiring.connect descriptor sink) machine rest
  | .copy descriptor source :: rest =>
      let sink := if source = 1 then wiring.output
        else if source = 2 then wiring.complaint else .nowhere
      connected (wiring.connect descriptor sink) machine rest
  | .document text :: rest => connected { wiring with input := text.toUTF8 } machine rest

/-! ## Scripts -/

/-- The commands of the shell that it does not go on behind when they cannot be wired. -/
def endingNames : List String := [":", "exec", "exit"]

/-- Whether a command runs after this status. -/
def Joint.runs : Joint → Nat → Bool
  | .always, _ => true
  | .afterSuccess, status => status = 0
  | .afterFailure, status => status ≠ 0

/-- Run a command. -/
def runCommand (machine : Machine) (command : Command) : Machine :=
  if machine.ended.isSome || !command.joint.runs machine.status then machine
  else
    let words := command.words.flatMap machine.wordsOf
    match connected {} machine command.redirects with
    | .ok (wiring, machine) => runWords command.line words wiring machine
    | .error message =>
        let after := complain 2 (machine.prefixAt command.line ++ message) {} machine
        if endingNames.contains (words.headD "") then after.finish 2 else after

/-- Run a script. -/
def runScript (script : String) (machine : Machine) : Machine :=
  match commandsOf script with
  | some commands => commands.foldl runCommand machine
  | none => complain 2 (machine.prefixAt 1 ++ "Syntax error") {} machine

/-! ## Runs -/

/-- How a run has ended. -/
structure Ending where
  /-- The status, negative when a signal has ended the run. -/
  status : Int
  output : ByteArray
  complaint : ByteArray
  disk : Disk
  /-- The time that the run has taken, in microseconds. -/
  elapsed : Nat

/-- The names of shells. -/
def shellNames : List String := ["dash", "sh"]

/-- What a shell does with its words. -/
def runShell : List String → Machine → Machine
  | "-c" :: script :: arguments, machine =>
      runScript script { machine with
        arguments := if arguments.isEmpty then machine.arguments else arguments }
  | word :: arguments, machine =>
      if "-".isPrefixOf word then
        complain 2 ("sh: 0: Illegal option " ++ String.ofList (word.toList.take 2)) {} machine
      else
        match machine.read word with
        | .ok bytes =>
            match String.fromUTF8? bytes with
            | some script => runScript script { machine with arguments := word :: arguments }
            | none => complain 2 (word ++ ": 1: Syntax error") {} machine
        | .error _ => complain 2 ("sh: 0: cannot open " ++ word ++ ": No such file") {} machine
  | [], machine => machine

/-- Run a program with its words in a directory. -/
def run (disk : Disk) (directory : Place) (name : String) (words : List String) : Ending :=
  let machine : Machine := { disk, directory, arguments := [name] }
  let after := if shellNames.contains name then runShell words machine
    else ((program? name words).getD (complain 127 (name ++ ": not found"))) {} machine
  { status := after.ended.getD after.status
    output := after.output
    complaint := after.complaint
    disk := after.disk
    elapsed := after.elapsed }

end Triage.Script
