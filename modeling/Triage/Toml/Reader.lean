import Triage.Decimal.Numeral
import Triage.Json.Reader
import Triage.Toml.Document

/-!
# Reading TOML

Version 1.0 of the format.  As in the reader of JSON a step takes what is left of
the text and returns what it read with the rest, and a fault records how much was
left at its place.  Line ends are unified before reading starts.

Arrays and inline tables may stand inside each other up to a limit, which an inline table
uses up faster than an array does; tables that are made by headers and dotted keys do not
count.
-/

namespace Triage.Toml

set_option autoImplicit false

open Triage.Text (isAsciiDigit)

/-- A fault and how many characters were left at its place. -/
structure Misread where
  fault : Fault
  left : Nat
deriving Repr, DecidableEq

/-- What a part of a text spells, and what comes after that part. -/
abbrev Reading (Read : Type) := Read × List Char

/-- Fail with `fault` where `text` is left. -/
def failAt {Read : Type} (text : List Char) (fault : Fault) : Except Misread Read :=
  .error ⟨fault, text.length⟩

/-- Place a fault where `text` is left. -/
def located {Read : Type} (text : List Char) : Except Fault Read → Except Misread Read
  | .ok read => .ok read
  | .error fault => failAt text fault

/-! ## Layout and comments -/

/-- Whether `c` is a space or a tab. -/
def isSpace (c : Char) : Bool := c = ' ' || c = '\t'

/-- Drop spaces and tabs. -/
def skipSpaces (text : List Char) : List Char := text.dropWhile isSpace

/-- Whether `c` is a control character other than the tab. -/
def isControl (c : Char) : Bool := (c.toNat < 32 && c ≠ '\t') || c.toNat = 127

/-- Whether `c` is a control character other than the tab and the line feed. -/
def isControlInLines (c : Char) : Bool := isControl c && c ≠ '\n'

/-- Refuse the characters of `body` that `refused` holds of; `rest` comes after `body`. -/
def checkCharacters (refused : Char → Bool) (body rest : List Char) : Except Misread Unit :=
  match body.dropWhile (fun c => !refused c) with
  | [] => .ok ()
  | c :: more => .error ⟨.invalidCharacter c, more.length + 1 + rest.length⟩

/-- Drop a comment, up to the end of its line. -/
def skipComment (text : List Char) : Except Misread (List Char) :=
  match text with
  | '#' :: inside => do
      let rest := inside.dropWhile (· ≠ '\n')
      checkCharacters isControl (inside.takeWhile (· ≠ '\n')) rest
      return rest
  | _ => .ok text

/-- Drop blanks, line ends and comments. -/
def skipLayout : Nat → List Char → Except Misread (List Char)
  | 0, text => .ok text
  | fuel + 1, text =>
      match text.dropWhile fun c => isSpace c || c = '\n' with
      | '#' :: inside => do skipLayout fuel (← skipComment ('#' :: inside))
      | rest => .ok rest

/-! ## Texts -/

/-- Cut a text at the first occurrence of `delimiter`. -/
def cutAtDelimiter (delimiter : List Char) : List Char → Option (List Char × List Char)
  | [] => if delimiter.isEmpty then some ([], []) else none
  | c :: rest =>
      if delimiter.isPrefixOf (c :: rest) then some ([], (c :: rest).drop delimiter.length)
      else (cutAtDelimiter delimiter rest).map fun cut => (c :: cut.1, cut.2)

/-- Read up to `delimiter` without looking for escapes. -/
def readLiteral (delimiter : String) (refused : Char → Bool) (text : List Char) :
    Except Misread (Reading (List Char)) :=
  match cutAtDelimiter delimiter.toList text with
  | none => .error ⟨.textEndExpected delimiter, 0⟩
  | some (body, rest) => do
      checkCharacters refused body (delimiter.toList ++ rest)
      return (body, rest)

/-- The character of `width` hexadecimal digits. -/
def readHexadecimal (width : Nat) (text : List Char) : Except Misread (Reading (List Char)) :=
  let digits := (text.take width).filterMap Json.hexValue?
  if digits.length ≠ width then failAt text .invalidHexadecimal
  else
    let rest := text.drop width
    let code := digits.foldl (fun code digit => code * 16 + digit) 0
    if code.isValidChar then .ok ([Char.ofNat code], rest) else failAt rest .notScalarValue

/-- The escapes of a single letter. -/
def letterEscape? (c : Char) : Option Char :=
  if c = 'b' then some '\x08'
  else if c = 't' then some '\t'
  else if c = 'n' then some '\n'
  else if c = 'f' then some '\x0c'
  else if c = 'r' then some '\r'
  else if c = '\x22' then some '\x22'
  else if c = '\\' then some '\\'
  else none

/-- What follows a backslash that may end a line: blanks, a line end, more layout. -/
def readContinuation (text : List Char) : Except Misread (Reading (List Char)) :=
  let afterLine (rest : List Char) := rest.dropWhile fun c => isSpace c || c = '\n'
  match skipSpaces text with
  | [] => .ok ([], [])
  | '\n' :: rest => .ok ([], afterLine rest)
  | other => failAt other .unescapedBackslash

/-- Read what follows a backslash. -/
def readEscape (manyLines : Bool) (text : List Char) : Except Misread (Reading (List Char)) :=
  match text with
  | [] => .error ⟨.unescapedBackslash, 0⟩
  | mark :: rest =>
      if manyLines && (isSpace mark || mark = '\n') then readContinuation text
      else if mark = 'u' then readHexadecimal 4 rest
      else if mark = 'U' then readHexadecimal 8 rest
      else
        match letterEscape? mark with
        | some c => .ok ([c], rest)
        | none => failAt rest .unescapedBackslash

/-- Read up to the closing double quote, or three of them when `manyLines` holds. -/
def readBasic (manyLines : Bool) (read : List Char) :
    Nat → List Char → Except Misread (Reading (List Char))
  | 0, text => failAt text .unterminatedText
  | _ + 1, [] => failAt [] .unterminatedText
  | fuel + 1, c :: rest =>
      if c = '\x22' then
        if !manyLines then .ok (read.reverse, rest)
        else
          match rest with
          | '\x22' :: '\x22' :: after => .ok (read.reverse, after)
          | _ => readBasic manyLines (c :: read) fuel rest
      else if c = '\\' then
        match readEscape manyLines rest with
        | .error misread => .error misread
        | .ok (escaped, after) => readBasic manyLines (escaped.reverse ++ read) fuel after
      else if (if manyLines then isControlInLines c else isControl c) then
        failAt (c :: rest) (.illegalCharacter c)
      else readBasic manyLines (c :: read) fuel rest

/-- Up to two quotes right behind the closing ones belong to the text. -/
def takeExtraQuotes (quote : Char) (body text : List Char) : List Char × List Char :=
  match text with
  | first :: rest =>
      if first ≠ quote then (body, text)
      else
        match rest with
        | second :: after =>
            if second ≠ quote then (body ++ [quote], rest) else (body ++ [quote, quote], after)
        | [] => (body ++ [quote], rest)
  | [] => (body, text)

/-- Read a text of many lines behind its opening quotes. -/
def readManyLines (fuel : Nat) (quote : Char) (text : List Char) :
    Except Misread (Reading (List Char)) := do
  let inside := match text with
    | '\n' :: rest => rest
    | _ => text
  let (body, rest) ← if quote = '\x22' then readBasic true [] fuel inside
    else readLiteral "\x27\x27\x27" isControlInLines inside
  return takeExtraQuotes quote body rest

/-- Read a text behind its opening quote, of one line or of many. -/
def readQuoted (fuel : Nat) (quote : Char) (rest : List Char) :
    Except Misread (Reading String) := do
  let (body, after) ←
    match rest with
    | second :: third :: inside =>
        if second = quote && third = quote then readManyLines fuel quote inside
        else if quote = '\x22' then readBasic false [] fuel rest
        else readLiteral "\x27" isControl rest
    | _ =>
        if quote = '\x22' then readBasic false [] fuel rest
        else readLiteral "\x27" isControl rest
  return (String.ofList body, after)

/-! ## Keys -/

/-- Whether `c` may be part of a key without quotes. -/
def isBareKeyChar (c : Char) : Bool := Text.isAscii c && c.isAlphanum || c = '-' || c = '_'

/-- Read one part of a dotted key. -/
def readKeyPart (fuel : Nat) (text : List Char) : Except Misread (Reading String) :=
  match text with
  | [] => failAt text .keyExpected
  | c :: rest =>
      if isBareKeyChar c then
        .ok (String.ofList (text.takeWhile isBareKeyChar), text.dropWhile isBareKeyChar)
      else if c = '\x27' then do
        let (body, after) ← readLiteral "\x27" isControl rest
        return (String.ofList body, after)
      else if c = '\x22' then do
        let (body, after) ← readBasic false [] fuel rest
        return (String.ofList body, after)
      else failAt text .keyExpected

/-- Read a dotted key and the spaces after it; `fuel` bounds its parts. -/
def readKey : Nat → List Char → Except Misread (Reading Key)
  | 0, text => failAt text .keyExpected
  | fuel + 1, text => do
      let (part, afterPart) ← readKeyPart (fuel + 1) text
      match skipSpaces afterPart with
      | '.' :: rest =>
          let (more, after) ← readKey fuel (skipSpaces rest)
          return (part :: more, after)
      | rest => return ([part], rest)

/-! ## Numbers, dates and times -/

/-- A digit and further digits, single low lines between them. -/
def digitGroup (isDigit : Char → Bool) : List Char → List Char × List Char
  | [] => ([], [])
  | c :: rest =>
      let goesOn := match rest with
        | next :: _ => isDigit next
        | [] => false
      if isDigit c || (c = '_' && goesOn) then
        let (digits, after) := digitGroup isDigit rest
        (c :: digits, after)
      else ([], c :: rest)

/-- A group of digits that starts with a digit. -/
def digitGroup? (isDigit : Char → Bool) (text : List Char) : Option (List Char × List Char) :=
  match text with
  | c :: _ => if isDigit c then some (digitGroup isDigit text) else none
  | [] => none

/-- The number of a group of digits in some base. -/
def groupValue (base : Nat) (digits : List Char) : Nat :=
  (digits.filterMap Json.hexValue?).foldl (fun number digit => number * base + digit) 0

/-- A whole number in base sixteen, eight or two. -/
def readBased? (text : List Char) : Option (Value × List Char) :=
  let based (base : Nat) (rest : List Char) : Option (Value × List Char) :=
    let isDigit (c : Char) : Bool := match Json.hexValue? c with
      | some value => value < base
      | none => false
    (digitGroup? isDigit rest).map fun group => (.int (groupValue base group.1), group.2)
  match text with
  | '0' :: 'x' :: rest => based 16 rest
  | '0' :: 'o' :: rest => based 8 rest
  | '0' :: 'b' :: rest => based 2 rest
  | _ => none

/-- A fraction with its point, empty when there is none. -/
def fractionPart (text : List Char) : List Char × List Char :=
  match text with
  | '.' :: rest =>
      match digitGroup? isAsciiDigit rest with
      | some (digits, after) => ('.' :: digits, after)
      | none => ([], text)
  | _ => ([], text)

/-- An exponent with its mark, empty when there is none. -/
def exponentPart (text : List Char) : List Char × List Char :=
  match text with
  | mark :: rest =>
      if mark = 'e' || mark = 'E' then
        let (sign, unsigned) := match rest with
          | '+' :: more => (['+'], more)
          | '-' :: more => (['-'], more)
          | _ => ([], rest)
        match digitGroup? isAsciiDigit unsigned with
        | some (digits, after) => (mark :: (sign ++ digits), after)
        | none => ([], text)
      else ([], text)
  | [] => ([], text)

/-- A decimal number, whole or not. -/
def readDecimal? (text : List Char) : Option (Except Fault Value × List Char) :=
  let (sign, unsigned) := match text with
    | '+' :: rest => (['+'], rest)
    | '-' :: rest => (['-'], rest)
    | _ => ([], text)
  let whole? := match unsigned with
    | '0' :: rest => some (['0'], rest)
    | _ => digitGroup? isAsciiDigit unsigned
  whole?.map fun (whole, afterWhole) =>
    let (fraction, afterFraction) := fractionPart afterWhole
    let (exponent, rest) := exponentPart afterFraction
    let spelled := String.ofList (sign ++ whole ++ fraction ++ exponent)
    let value : Except Fault Value :=
      if fraction.isEmpty && exponent.isEmpty then
        match Decimal.readInt? spelled with
        | some number => .ok (.int number)
        | none => .error .numberTooLong
      else
        match Decimal.readFloat? spelled with
        | some number => .ok (.float number)
        | none => .error .invalidValue
    (value, rest)

/-- The number of the first `width` characters when they are digits and it lies
between `low` and `high`. -/
def takeNumber? (width low high : Nat) (text : List Char) : Option (Nat × List Char) :=
  let digits := text.take width
  if digits.length = width && digits.all isAsciiDigit then
    let number := groupValue 10 digits
    if low ≤ number && number ≤ high then some (number, text.drop width) else none
  else none

/-- The text behind a given character. -/
def takeMark? (mark : Char) (text : List Char) : Option (List Char) :=
  match text with
  | c :: rest => if c = mark then some rest else none
  | [] => none

/-- A time of day; digits beyond microseconds are dropped. -/
def readClock? (text : List Char) : Option (Clock × List Char) := do
  let (hour, rest) ← takeNumber? 2 0 23 text
  let (minute, rest) ← takeNumber? 2 0 59 (← takeMark? ':' rest)
  let (second, rest) ← takeNumber? 2 0 59 (← takeMark? ':' rest)
  let plain : Clock × List Char := (⟨hour, minute, second, 0⟩, rest)
  match rest with
  | '.' :: more =>
      let digits := more.takeWhile isAsciiDigit
      if digits.isEmpty then return plain
      let kept := digits.take 6
      let microsecond := groupValue 10 (kept ++ List.replicate (6 - kept.length) '0')
      return (⟨hour, minute, second, microsecond⟩, more.dropWhile isAsciiDigit)
  | _ => return plain

/-- A distance from universal time in minutes. -/
def readOffset? (text : List Char) : Option (Int × List Char) :=
  match text with
  | [] => none
  | mark :: rest =>
      if mark = 'Z' || mark = 'z' then some (0, rest)
      else if mark = '+' || mark = '-' then do
        let (hour, rest) ← takeNumber? 2 0 23 rest
        let (minute, rest) ← takeNumber? 2 0 59 (← takeMark? ':' rest)
        let size : Int := hour * 60 + minute
        return (if mark = '-' then -size else size, rest)
      else none

/-- A day, and a time on it when one follows. -/
def readDay? (text : List Char) : Option (Except Fault Value × List Char) := do
  let (year, rest) ← takeNumber? 4 0 9999 text
  let (month, rest) ← takeNumber? 2 1 12 (← takeMark? '-' rest)
  let (number, rest) ← takeNumber? 2 1 31 (← takeMark? '-' rest)
  let day : Day := ⟨year, month, number⟩
  let checked (moment : Moment) : Except Fault Value :=
    if Moment.isValidDay day then .ok (.moment moment) else .error .invalidMoment
  let clock? := match rest with
    | mark :: more => if mark = 'T' || mark = 't' || mark = ' ' then readClock? more else none
    | [] => none
  match clock? with
  | none => return (checked (.onDay day), rest)
  | some (clock, afterClock) =>
      match readOffset? afterClock with
      | some (offset, after) => return (checked (.instant day clock (some offset)), after)
      | none => return (checked (.instant day clock none), afterClock)

/-- The words for infinite numbers. -/
def infiniteWords : List (List Char × Float) :=
  [("inf".toList, Decimal.infinity), ("-inf".toList, -Decimal.infinity),
    ("+inf".toList, Decimal.infinity)]

/-- The words for an undefined number. -/
def undefinedWords : List (List Char) := ["nan".toList, "-nan".toList, "+nan".toList]

/-- A number that is written as a word.  An undefined one is known by its place. -/
def readWord? (text : List Char) : Option (Value × List Char) :=
  let infinite? := (infiniteWords.find? fun word => word.1.isPrefixOf text).map fun word =>
    (.float word.2, text.drop word.1.length)
  infinite?.orElse fun _ =>
    (undefinedWords.find? fun word => word.isPrefixOf text).map fun word =>
      (.undefined text.length, text.drop word.length)

/-- Read a truth value, a date, a time or a number. -/
def readScalar (text : List Char) : Except Misread (Reading Value) :=
  if "true".toList.isPrefixOf text then .ok (.bool true, text.drop 4)
  else if "false".toList.isPrefixOf text then .ok (.bool false, text.drop 5)
  else
    let found : Option (Except Fault Value × List Char) :=
      (readDay? text).orElse fun _ =>
      ((readClock? text).map fun (clock, rest) => (.ok (.moment (.atClock clock)), rest)).orElse
        fun _ =>
      ((readBased? text).map fun (value, rest) => (.ok value, rest)).orElse fun _ =>
      (readDecimal? text).orElse fun _ =>
      (readWord? text).map fun (value, rest) => (.ok value, rest)
    match found with
    | some (.ok value, rest) => .ok (value, rest)
    | some (.error fault, _) => failAt text fault
    | none => failAt text .invalidValue

/-! ## Values with parts -/

/-- Bind a key inside an inline table whose parts `frozen` may not be extended. -/
def bindInline (frozen : List Key) (key : Key) (value : Value) (fields : Fields) :
    Except Fault Fields := do
  if frozen.any fun other => other.isPrefixOf key then throw (.immutableNamespace key)
  let name := key.getLast?.getD ""
  changeTable false (Document.bindNew (.duplicateInlineKey name) name value) key.dropLast fields

/-- The room that is left inside the outermost value. -/
def deepest : Nat := 987

/-- The room that an array takes. -/
def arrayRoom : Nat := 2

/-- The room that an inline table takes. -/
def inlineRoom : Nat := 3

mutual
/-- Read a value, which has some room for arrays and inline tables. -/
def readValue : Nat → Nat → List Char → Except Misread (Reading Value)
  | 0, _, text => failAt text .invalidValue
  | fuel + 1, room, text =>
      match text with
      | [] => failAt text .invalidValue
      | c :: rest =>
          if c = '\x22' || c = '\x27' then do
            let (body, after) ← readQuoted fuel c rest
            return (.text body, after)
          else if c = '[' then do
            if room < arrayRoom then failAt text .nestedTooDeep
            else
              match ← skipLayout (fuel + 1) rest with
              | ']' :: after => return (.list [], after)
              | inside => readItems fuel (room - arrayRoom) [] inside
          else if c = '\x7b' then
            if room < inlineRoom then failAt text .nestedTooDeep
            else
              match skipSpaces rest with
              | '\x7d' :: after => .ok (.table [], after)
              | inside => readInline fuel (room - inlineRoom) [] [] inside
          else readScalar text

/-- Read the items of an array up to its end; `read` holds those before, last one first. -/
def readItems : Nat → Nat → List Value → List Char → Except Misread (Reading Value)
  | 0, _, _, text => failAt text .unclosedArray
  | fuel + 1, room, read, text => do
      let (item, afterItem) ← readValue fuel room text
      match ← skipLayout (fuel + 1) afterItem with
      | ']' :: after => return (.list (item :: read).reverse, after)
      | ',' :: afterComma =>
          match ← skipLayout (fuel + 1) afterComma with
          | ']' :: after => return (.list (item :: read).reverse, after)
          | inside => readItems fuel room (item :: read) inside
      | other => failAt other .unclosedArray

/-- Read the fields of an inline table up to its end. -/
def readInline :
    Nat → Nat → Fields → List Key → List Char → Except Misread (Reading Value)
  | 0, _, _, _, text => failAt text .unclosedInlineTable
  | fuel + 1, room, fields, frozen, text => do
      let (key, afterKey) ← readKey (fuel + 1) text
      match afterKey with
      | '=' :: afterEquals =>
          let (value, afterValue) ← readValue fuel room (skipSpaces afterEquals)
          let fields ← located afterValue (bindInline frozen key value fields)
          match skipSpaces afterValue with
          | '\x7d' :: after => return (.table fields, after)
          | ',' :: afterComma =>
              let frozen := if isContainer value then key :: frozen else frozen
              readInline fuel room fields frozen (skipSpaces afterComma)
          | other => failAt other .unclosedInlineTable
      | _ => failAt afterKey .equalsExpected
end

/-! ## Statements -/

/-- Read one statement: a header, or a key with its value below the current header. -/
def readStatement (fuel : Nat) (document : Document) (header : Key) (text : List Char) :
    Except Misread (Reading (Document × Key)) :=
  match text with
  | '[' :: '[' :: rest => do
      let (key, afterKey) ← readKey fuel (skipSpaces rest)
      let document ← located afterKey (document.settlePending.openArrayTable key)
      match afterKey with
      | ']' :: ']' :: after => return ((document, key), after)
      | _ => failAt afterKey .tableArrayEndExpected
  | '[' :: rest => do
      let (key, afterKey) ← readKey fuel (skipSpaces rest)
      let document ← located afterKey (document.settlePending.openTable key)
      match afterKey with
      | ']' :: after => return ((document, key), after)
      | _ => failAt afterKey .tableEndExpected
  | _ => do
      let (key, afterKey) ← readKey fuel text
      match afterKey with
      | '=' :: afterEquals =>
          let (value, after) ← readValue fuel deepest (skipSpaces afterEquals)
          let document ← located after (document.assign header key value)
          return ((document, header), after)
      | _ => failAt afterKey .equalsExpected

/-- Whether a statement starts with `c`. -/
def startsStatement (c : Char) : Bool := isBareKeyChar c || c = '\x27' || c = '\x22' || c = '['

/-- Read the statements of a document, one a line; `fuel` bounds their number. -/
def readStatements (size : Nat) :
    Nat → Document → Key → List Char → Except Misread Document
  | 0, document, _, _ => .ok document
  | fuel + 1, document, header, text =>
      match skipSpaces text with
      | [] => .ok document
      | '\n' :: rest => readStatements size fuel document header rest
      | c :: rest => do
          let ((document, header), after) ←
            if startsStatement c then readStatement size document header (c :: rest)
            else if c = '#' then pure ((document, header), c :: rest)
            else failAt (c :: rest) .invalidStatement
          match ← skipComment (skipSpaces after) with
          | [] => return document
          | '\n' :: next => readStatements size fuel document header next
          | other => failAt other .statementEndExpected

/-- A text in which every carriage return before a line feed is dropped. -/
def dropReturns : List Char → List Char
  | [] => []
  | '\r' :: '\n' :: rest => '\n' :: dropReturns rest
  | c :: rest => c :: dropReturns rest

/-- Read a document: the fields of its outermost table. -/
def read (text : List Char) : Except Misread Fields := do
  let unified := dropReturns text
  let document ← readStatements (2 * unified.length + 2) (unified.length + 1) {} [] unified
  return document.fields

/-- A fault with its line and column. -/
def Misread.message (misread : Misread) (text : List Char) : String :=
  let unified := dropReturns text
  let before := unified.take (unified.length - misread.left)
  let line := before.count '\n' + 1
  let column := (before.reverse.takeWhile (· ≠ '\n')).length + 1
  let place := if misread.left = 0 then "end of document"
    else "line " ++ toString line ++ ", column " ++ toString column
  misread.fault.message ++ " (at " ++ place ++ ")"

end Triage.Toml
