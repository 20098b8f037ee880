import Triage.Text.Digit

/-!
# Reading scripts that replay a compiler

What a compiler has said can be recorded and replayed: the command of a project is then a shell
with a short script that shows a file, says something and ends with a status.  Such a script is a
row of plain commands.  Each of them runs always, or only when the status is good or bad that the
one before it has left, and each may read and write elsewhere.

This is a small part of what shells know.  There are no pipes, no variables other than those of the
shell itself, no patterns for file names and no control structures, and a script that uses any of
them is not read at all.
-/

namespace Triage.Script

set_option autoImplicit false

/-! ## Words -/

/-- A piece of a word. -/
inductive Piece where
  | char (c : Char)
  /-- A variable of the shell itself, known by one character. -/
  | variable (name : Char) (inQuotes : Bool)
deriving DecidableEq

/-- A word; it may be quoted and have no pieces. -/
structure Word where
  pieces : List Piece := []
  isQuoted : Bool := false

/-- The text of a word without variables. -/
def Word.plainText? (word : Word) : Option (List Char) :=
  word.pieces.mapM fun piece =>
    match piece with
    | .char c => some c
    | .variable _ _ => none

/-- A word, or the signs that stand together, or the end of a line. -/
inductive Token where
  | word (line : Nat) (word : Word)
  /-- Signs, and the digit right before them that a descriptor goes by. -/
  | signs (descriptor : Option Char) (text : List Char)

/-! ## Scanning -/

/-- Where in a script the next character stands. -/
inductive Mode where
  | plain
  | single
  | double
  /-- Behind a backslash. -/
  | escaped (inQuotes : Bool)
  /-- Behind a dollar sign. -/
  | dollar (inQuotes : Bool)
  | signs (descriptor : Option Char) (text : List Char)
  | comment
  /-- In a document, behind some of its text and behind the start of a line. -/
  | document (text line : List Char)

/-- What has been read of a script. -/
structure Scanner where
  mode : Mode := .plain
  line : Nat := 1
  /-- The word that has been started, its last piece first. -/
  word : Option Word := none
  /-- The tokens, the last one first. -/
  tokens : List Token := []
  /-- The words that end the documents which start behind the line, the last one first. -/
  awaited : List Word := []
  /-- The documents, the last one first. -/
  documents : List String := []

/-- The signs that stand between words. -/
def isSign (c : Char) : Bool := [';', '&', '|', '<', '>'].contains c

/-- The characters for what is not known here, unless they are quoted. -/
def isForeign (c : Char) : Bool := ['(', ')', '`', '*', '?', '[', '~'].contains c

/-- The variables of the shell itself. -/
def isVariable (c : Char) : Bool := ['$', '?', '#', '@', '*'].contains c || Text.isAsciiDigit c

/-- The characters that a backslash takes the meaning from between double quotes. -/
def isSpecial (c : Char) : Bool := ['$', '`', '"', '\\'].contains c

namespace Scanner

/-- Quote the word that goes on or starts here. -/
def quote (scanner : Scanner) (mode : Mode) : Scanner :=
  { scanner with mode, word := some ⟨(scanner.word.getD {}).pieces, true⟩ }

/-- Go on with the word, or start one. -/
def push (scanner : Scanner) (piece : Piece) (isQuoted : Bool) : Scanner :=
  let word := scanner.word.getD {}
  { scanner with word := some ⟨piece :: word.pieces, word.isQuoted || isQuoted⟩ }

/-- End the word.  Behind the signs of a document it says where the document ends. -/
def closeWord (scanner : Scanner) : Scanner :=
  match scanner.word with
  | none => scanner
  | some started =>
      let word := { started with pieces := started.pieces.reverse }
      let awaited := match scanner.tokens with
        | .signs _ ['<', '<'] :: _ => word :: scanner.awaited
        | _ => scanner.awaited
      { scanner with word := none, tokens := .word scanner.line word :: scanner.tokens, awaited }

/-- Read a character between words or in a word without quotes. -/
def stepPlain (scanner : Scanner) (c : Char) : Option Scanner :=
  if c = ' ' || c = '\t' then some scanner.closeWord
  else if c = '\n' then
    let closed := scanner.closeWord
    some { closed with
      mode := if closed.awaited.isEmpty then .plain else .document [] []
      line := closed.line + 1
      tokens := .signs none ['\n'] :: closed.tokens
      awaited := closed.awaited.reverse }
  else if c = '\'' then some (scanner.quote .single)
  else if c = '"' then some (scanner.quote .double)
  else if c = '\\' then some { scanner with mode := .escaped false }
  else if c = '$' then some { scanner with mode := .dollar false }
  else if c = '#' && scanner.word.isNone then some { scanner with mode := .comment }
  else if isSign c then
    match scanner.word with
    | some ⟨[.char digit], false⟩ =>
        if Text.isAsciiDigit digit && (c = '<' || c = '>') then
          some { scanner with word := none, mode := .signs (some digit) [c] }
        else some { scanner.closeWord with mode := .signs none [c] }
    | _ => some { scanner.closeWord with mode := .signs none [c] }
  else if isForeign c then none
  else some (scanner.push (.char c) false)

/-- Read a character of a document that ends with a line of this text. -/
def stepDocument (scanner : Scanner) (ending : Word) (text line : List Char) (c : Char) :
    Option Scanner :=
  if c ≠ '\n' then
    if !ending.isQuoted && (c = '$' || c = '`' || c = '\\') then none
    else some { scanner with mode := .document text (line ++ [c]) }
  else if ending.plainText? = some line then
    let rest := scanner.awaited.drop 1
    some { scanner with
      mode := if rest.isEmpty then .plain else .document [] []
      line := scanner.line + 1
      awaited := rest
      documents := String.ofList text :: scanner.documents }
  else
    some { scanner with mode := .document (text ++ line ++ ['\n']) [], line := scanner.line + 1 }

/-- Read a character; there is no result where a script is left that is known here. -/
def step (scanner : Scanner) (c : Char) : Option Scanner :=
  match scanner.mode with
  | .plain => scanner.stepPlain c
  | .comment => if c = '\n' then { scanner with mode := .plain }.stepPlain c else some scanner
  | .single =>
      if c = '\'' then some { scanner with mode := .plain } else some (scanner.push (.char c) true)
  | .double =>
      if c = '"' then some { scanner with mode := .plain }
      else if c = '\\' then some { scanner with mode := .escaped true }
      else if c = '$' then some { scanner with mode := .dollar true }
      else if c = '`' then none
      else some (scanner.push (.char c) true)
  | .escaped inQuotes =>
      let back := { scanner with mode := if inQuotes then .double else .plain }
      if c = '\n' then some back
      else if inQuotes && !isSpecial c then some ((back.push (.char '\\') true).push (.char c) true)
      else some (back.push (.char c) true)
  | .dollar inQuotes =>
      if isVariable c then
        some { scanner.push (.variable c inQuotes) inQuotes with
          mode := if inQuotes then .double else .plain }
      else none
  | .signs descriptor text =>
      if isSign c then some { scanner with mode := .signs descriptor (text ++ [c]) }
      else
        let closed := { scanner with
          mode := .plain
          tokens := .signs descriptor text :: scanner.tokens }
        closed.stepPlain c
  | .document text line =>
      match scanner.awaited with
      | [] => none
      | ending :: _ => scanner.stepDocument ending text line c

end Scanner

/-- The tokens of a script and its documents. -/
def tokensOf (script : String) : Option (List Token × List String) := do
  let scanner ← (script.toList ++ ['\n']).foldlM Scanner.step {}
  match scanner.mode with
  | .plain => return (scanner.tokens.reverse, scanner.documents.reverse)
  | _ => none

/-! ## Commands -/

/-- Where a command reads or writes instead. -/
inductive Redirect where
  | input (name : Word)
  | output (descriptor : Nat) (appends : Bool) (name : Word)
  /-- A descriptor leads where another one does. -/
  | copy (descriptor source : Nat)
  | document (text : String)

/-- When a command runs. -/
inductive Joint where
  | always
  /-- When the last status is zero. -/
  | afterSuccess
  | afterFailure
deriving DecidableEq

/-- A plain command. -/
structure Command where
  joint : Joint
  /-- The line of the script that the command stands in. -/
  line : Nat
  words : List Word
  redirects : List Redirect

/-- The words that start what is no plain command. -/
def reservedWords : List String :=
  ["!", "\x7b", "\x7d", "case", "do", "done", "elif", "else", "esac", "fi", "for", "if", "in",
    "then", "until", "while"]

/-- Whether a word may start a plain command; an assignment does not. -/
def Word.startsCommand (word : Word) : Bool :=
  word.isQuoted || match word.plainText? with
    | some text => !reservedWords.contains (String.ofList text) && !text.contains '='
    | none => true

/-- What has been read of the commands. -/
structure Parser where
  /-- The documents that no command has been given. -/
  documents : List String
  /-- The commands, the last one first. -/
  commands : List Command := []
  joint : Joint := .always
  words : List (Nat × Word) := []
  redirects : List Redirect := []
  /-- The signs of a redirection whose word follows. -/
  awaiting : Option (Option Char × List Char) := none

/-- The value of a digit. -/
def digitOf (digit : Char) : Nat := digit.toNat - '0'.toNat

namespace Parser

/-- Read the word of a redirection. -/
def redirect (parser : Parser) (descriptor : Option Char) (signs : List Char) (word : Word) :
    Option Parser :=
  let outward := (descriptor.map digitOf).getD 1
  let with_ (redirect : Redirect) (documents : List String) : Option Parser :=
    some { parser with redirects := parser.redirects ++ [redirect], awaiting := none, documents }
  match signs with
  | ['>'] => with_ (.output outward false word) parser.documents
  | ['>', '>'] => with_ (.output outward true word) parser.documents
  | ['>', '&'] =>
      match word.pieces with
      | [.char digit] =>
          if Text.isAsciiDigit digit then with_ (.copy outward (digitOf digit)) parser.documents
          else none
      | _ => none
  | ['<'] => if (descriptor.getD '0') = '0' then with_ (.input word) parser.documents else none
  | ['<', '<'] =>
      match parser.documents with
      | document :: documents =>
          if (descriptor.getD '0') = '0' && word.pieces.head? ≠ some (.char '-') then
            with_ (.document document) documents
          else none
      | [] => none
  | _ => none

/-- End a command; `mayLack` tells whether there may be none. -/
def close (parser : Parser) (mayLack : Bool) (next : Joint) : Option Parser :=
  match parser.words, parser.redirects with
  | [], [] => if mayLack then some parser else none
  | words, redirects =>
      let starts := words.head?.all fun entry => entry.2.startsCommand
      if starts then
        let line := (words.head?.map Prod.fst).getD 1
        some { parser with
          commands := ⟨parser.joint, line, words.map Prod.snd, redirects⟩ :: parser.commands
          joint := next
          words := []
          redirects := [] }
      else none

/-- Read a token. -/
def step (parser : Parser) : Token → Option Parser
  | .word line word =>
      match parser.awaiting with
      | some (descriptor, signs) => parser.redirect descriptor signs word
      | none => some { parser with words := parser.words ++ [(line, word)] }
  | .signs descriptor signs =>
      if parser.awaiting.isSome then none
      else
        match signs with
        | ['\n'] => parser.close true .always
        | [';'] => parser.close false .always
        | ['&', '&'] => parser.close false .afterSuccess
        | ['|', '|'] => parser.close false .afterFailure
        | _ => some { parser with awaiting := some (descriptor, signs) }

end Parser

/-- The commands of a script. -/
def commandsOf (script : String) : Option (List Command) := do
  let (tokens, documents) ← tokensOf script
  let parser ← tokens.foldlM Parser.step { documents }
  if parser.joint = .always && parser.awaiting.isNone then return parser.commands.reverse else none

end Triage.Script
