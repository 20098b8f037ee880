/-!
# Text that is no markup

A text that may hold square brackets is escaped before it is printed: a bracket that
would start a tag gets a backslash before it, and backslashes already standing before
such a bracket are doubled.  A tag starts with a small letter or one of three marks
and ends at the next closing bracket, with no other opening bracket in between.
-/

namespace Triage.Display

set_option autoImplicit false

/-- Whether `c` may be the first character of a tag. -/
def isTagStart (c : Char) : Bool :=
  (97 ≤ c.toNat && c.toNat ≤ 122) || c = '#' || c = '/' || c = '@'

/-- Whether a text that follows an opening bracket makes a tag with it. -/
def opensTag : List Char → Bool
  | [] => false
  | c :: rest => isTagStart c && rest.find? (fun d => d = '[' || d = ']') = some ']'

/-- Escape a text that follows some backslashes. -/
def escapeFrom (backslashes : Nat) : List Char → List Char
  | [] => List.replicate backslashes '\\'
  | c :: rest =>
      if c = '\\' then escapeFrom (backslashes + 1) rest
      else if c = '[' && opensTag rest then
        List.replicate (2 * backslashes + 1) '\\' ++ c :: escapeFrom 0 rest
      else List.replicate backslashes '\\' ++ c :: escapeFrom 0 rest

/-- Double a backslash that stands alone at the end, so that it escapes nothing that is
printed behind it. -/
def closeEscape (text : List Char) : List Char :=
  match text.reverse with
  | '\\' :: '\\' :: _ => text
  | '\\' :: _ => text ++ ['\\']
  | _ => text

/-- A text as markup that shows it. -/
def escaped (text : String) : String :=
  String.ofList (closeEscape (escapeFrom 0 text.toList))

end Triage.Display
