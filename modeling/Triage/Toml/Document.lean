import Triage.Value

/-!
# Building a TOML document

The statements of a configuration file fill one nested table.  A dotted key names a
place in it, and a place may be filled only once.  Three sets of keys guard that
rule: the *declared* tables, which have had their own header; the *frozen* values,
inline tables and arrays, which nothing may be added to; and the *pending* tables,
which dotted keys have opened in the current section and which count as declared
as soon as the next header comes.
-/

namespace Triage.Toml

set_option autoImplicit false

/-- The parts of a dotted key. -/
abbrev Key := List String

/-- The fields of a table. -/
abbrev Fields := List (String × Value)

/-- Why a text is not a TOML document. -/
inductive Fault where
  | invalidStatement
  | statementEndExpected
  | tableEndExpected
  | tableArrayEndExpected
  | equalsExpected
  | keyExpected
  | invalidValue
  | invalidMoment
  | unclosedArray
  | unclosedInlineTable
  | unterminatedText
  | textEndExpected (delimiter : String)
  | illegalCharacter (c : Char)
  | invalidCharacter (c : Char)
  | unescapedBackslash
  | invalidHexadecimal
  | notScalarValue
  | declaredTwice (key : Key)
  | redefinesNamespace (key : Key)
  | immutableNamespace (key : Key)
  | duplicateInlineKey (name : String)
  | overwritesValue
  /-- A whole number with more digits than can be read. -/
  | numberTooLong
  | nestedTooDeep
deriving Repr, DecidableEq

/-- A dotted key inside a message. -/
def keyText (key : Key) : String :=
  match key with
  | [single] => "(" ++ Text.quoted single ++ ",)"
  | parts => "(" ++ ", ".intercalate (parts.map Text.quoted) ++ ")"

/-- One character inside a message. -/
def charText (c : Char) : String := Text.quoted (String.singleton c)

/-- What a fault says. -/
def Fault.message : Fault → String
  | .invalidStatement => "Invalid statement"
  | .statementEndExpected => "Expected newline or end of document after a statement"
  | .tableEndExpected => "Expected ']' at the end of a table declaration"
  | .tableArrayEndExpected => "Expected ']]' at the end of an array declaration"
  | .equalsExpected => "Expected '=' after a key in a key/value pair"
  | .keyExpected => "Invalid initial character for a key part"
  | .invalidValue => "Invalid value"
  | .invalidMoment => "Invalid date or datetime"
  | .unclosedArray => "Unclosed array"
  | .unclosedInlineTable => "Unclosed inline table"
  | .unterminatedText => "Unterminated string"
  | .textEndExpected delimiter => "Expected " ++ Text.quoted delimiter
  | .illegalCharacter c => "Illegal character " ++ charText c
  | .invalidCharacter c => "Found invalid character " ++ charText c
  | .unescapedBackslash => "Unescaped '\\' in a string"
  | .invalidHexadecimal => "Invalid hex value"
  | .notScalarValue => "Escaped character is not a Unicode scalar value"
  | .declaredTwice key => "Cannot declare " ++ keyText key ++ " twice"
  | .redefinesNamespace key => "Cannot redefine namespace " ++ keyText key
  | .immutableNamespace key => "Cannot mutate immutable namespace " ++ keyText key
  | .duplicateInlineKey name => "Duplicate inline table key " ++ Text.quoted name
  | .overwritesValue => "Cannot overwrite a value"
  | .numberTooLong => "Exceeds the limit for integer string conversion"
  | .nestedTooDeep => "Values are nested too deeply"

/-- Change the table at a place, which is made when it does not exist.  When
`throughArrays` holds, an array of tables on the way stands for its last table. -/
def changeTable (throughArrays : Bool) (change : Fields → Except Fault Fields) :
    Key → Fields → Except Fault Fields
  | [], fields => change fields
  | name :: rest, fields =>
      match OrderedMap.findIn name fields with
      | none => do
          let inner ← changeTable throughArrays change rest []
          return OrderedMap.insertInto name (.table inner) fields
      | some (.table inner) => do
          let inner ← changeTable throughArrays change rest inner
          return OrderedMap.insertInto name (.table inner) fields
      | some (.list items) =>
          if throughArrays then
            match items.reverse with
            | .table inner :: before => do
                let inner ← changeTable throughArrays change rest inner
                return OrderedMap.insertInto name (.list (.table inner :: before).reverse) fields
            | _ => throw .overwritesValue
          else throw .overwritesValue
      | some _ => throw .overwritesValue

/-- Whether a value may not be extended later on. -/
def isContainer : Value → Bool
  | .list _ => true
  | .table _ => true
  | _ => false

/-- The document read so far, and the keys that guard it. -/
structure Document where
  fields : Fields := []
  declared : List Key := []
  frozen : List Key := []
  pending : List Key := []

namespace Document

/-- Whether a key lies at or inside a frozen value. -/
def isFrozen (document : Document) (key : Key) : Bool :=
  document.frozen.any fun frozen => frozen.isPrefixOf key

/-- The tables that dotted keys have opened count as declared from now on. -/
def settlePending (document : Document) : Document :=
  { document with declared := document.declared ++ document.pending, pending := [] }

/-- Take in the header of a table. -/
def openTable (document : Document) (key : Key) : Except Fault Document := do
  if document.declared.contains key || document.isFrozen key then throw (.declaredTwice key)
  let fields ← changeTable true .ok key document.fields
  return { document with fields := fields, declared := key :: document.declared }

/-- Take in the header of a further table of an array of tables.  The keys below it
guard the previous table no longer. -/
def openArrayTable (document : Document) (key : Key) : Except Fault Document := do
  if document.isFrozen key then throw (.immutableNamespace key)
  let keep (other : Key) : Bool := !key.isPrefixOf other
  let append (fields : Fields) : Except Fault Fields :=
    match key.getLast? with
    | none => .ok fields
    | some name =>
        match OrderedMap.findIn name fields with
        | none => .ok (OrderedMap.insertInto name (.list [.table []]) fields)
        | some (.list items) =>
            .ok (OrderedMap.insertInto name (.list (items ++ [.table []])) fields)
        | some _ => .error .overwritesValue
  let fields ← changeTable true append key.dropLast document.fields
  return { document with
    fields := fields
    declared := key :: document.declared.filter keep
    frozen := document.frozen.filter keep }

/-- The proper non-empty beginnings of a key. -/
def beginnings (key : Key) : List Key :=
  (List.range key.length).filterMap fun count => if count = 0 then none else some (key.take count)

/-- Bind `name` in a table that does not bind it yet. -/
def bindNew (fault : Fault) (name : String) (value : Value) (fields : Fields) :
    Except Fault Fields :=
  match OrderedMap.findIn name fields with
  | some _ => .error fault
  | none => .ok (OrderedMap.insertInto name value fields)

/-- Take in a key and its value below the current header. -/
def assign (document : Document) (header key : Key) (value : Value) : Except Fault Document := do
  let opened := (beginnings key).map (header ++ ·)
  match opened.find? document.declared.contains with
  | some namespaceKey => throw (.redefinesNamespace namespaceKey)
  | none => pure ()
  let parent := header ++ key.dropLast
  if document.isFrozen parent then throw (.immutableNamespace parent)
  let name := key.getLast?.getD ""
  let fields ← changeTable true (bindNew .overwritesValue name value) parent document.fields
  return { document with
    fields := fields
    pending := document.pending ++ opened
    frozen := if isContainer value then (header ++ key) :: document.frozen else document.frozen }

end Document

end Triage.Toml
