import Mathlib.Data.List.Infix
import Triage.Collection.CompilerOutput

/-!
# The forms of a header

A header that names a file has a position mark between the file and its message, and one that
names none starts with a severity mark.  The readers of headers recognise exactly these marks
(`readAnnouncement?_eq_some_iff`, `readPosition?_eq_some_iff`).  A mark opens its only
parenthesis at its start, so a mark that begins inside a file ends inside it, and the file of
a header is cut off at the right place if no mark occurs in it (`readLocated?_append`).
-/

namespace Triage.CompilerOutput

set_option autoImplicit false

open Triage.Text

/-- One or more decimal digits. -/
def IsNumeral (digits : List Char) : Prop := digits ≠ [] ∧ ∀ c ∈ digits, isDigit c = true

/-- What stands before the message of a header, as in `error TS2304: `. -/
def IsSeverityMark (mark : List Char) : Prop :=
  ∃ severity code, severity ∈ severityWords ∧ IsNumeral code ∧
    mark = (severity ++ " TS").toList ++ code ++ ": ".toList

/-- What stands between the file and the message of a header, as in
`(1,2): error TS2304: `. -/
def IsPositionMark (mark : List Char) : Prop :=
  ∃ line column announced, IsNumeral line ∧ IsNumeral column ∧ IsSeverityMark announced ∧
    mark = "(".toList ++ line ++ ",".toList ++ column ++ "): ".toList ++ announced

/-! ## Reading parts -/

theorem behind?_eq_some_iff {beginning text rest : List Char} :
    behind? beginning text = some rest ↔ text = beginning ++ rest := by
  unfold behind?
  constructor
  · intro found
    split at found
    · next starts =>
        obtain ⟨tail, rfl⟩ := List.isPrefixOf_iff_prefix.1 starts
        rw [List.drop_left] at found
        rw [Option.some.inj found]
    · cases found
  · rintro rfl
    rw [if_pos (List.isPrefixOf_iff_prefix.2 (List.prefix_append _ _)), List.drop_left]

/-- Digits are taken from the start of a text. -/
theorem isNumeral_of_takeDigits? {text digits rest : List Char}
    (taken : takeDigits? text = some (digits, rest)) :
    IsNumeral digits ∧ text = digits ++ rest := by
  unfold takeDigits? at taken
  obtain ⟨some, made⟩ := Option.ite_none_left_eq_some.1 taken
  obtain ⟨rfl, rfl⟩ := Prod.mk.inj (Option.some.inj made)
  exact ⟨⟨fun none => some (List.isEmpty_iff.2 none), fun c member =>
    List.all_eq_true.1 List.all_takeWhile c member⟩, List.takeWhile_append_dropWhile.symm⟩

/-- Digits are taken up to the first character that is none. -/
theorem takeDigits?_append {digits rest : List Char} {c : Char} (numeral : IsNumeral digits)
    (other : isDigit c = false) : takeDigits? (digits ++ c :: rest) = some (digits, c :: rest) := by
  unfold takeDigits?
  rw [List.takeWhile_append_of_pos numeral.2, List.dropWhile_append_of_pos numeral.2,
    List.takeWhile_cons_of_neg (by simp [other]), List.dropWhile_cons_of_neg (by simp [other]),
    List.append_nil]
  exact if_neg fun none => numeral.1 (List.isEmpty_iff.1 none)

/-- A severity is the only one that a text starts with. -/
theorem find?_severityWords {severity : String} (known : severity ∈ severityWords)
    (rest : List Char) :
    severityWords.find? (fun word =>
        (word ++ " TS").toList.isPrefixOf ((severity ++ " TS").toList ++ rest)) =
      some severity := by
  simp only [severityWords, List.mem_cons, List.not_mem_nil, or_false] at known
  rcases known with rfl | rfl | rfl | rfl <;> rfl

/-- **An announcement is a severity mark with a message behind it.** -/
theorem readAnnouncement?_eq_some_iff {text : List Char} {announcement : Announcement} :
    readAnnouncement? text = some announcement ↔
      announcement.severity ∈ severityWords ∧ IsNumeral announcement.code ∧
        text = (announcement.severity ++ " TS").toList ++
          (announcement.code ++ (": ".toList ++ announcement.message)) := by
  constructor
  · intro found
    obtain ⟨severity, known, found⟩ := Option.bind_eq_some_iff.1 found
    obtain ⟨rest, behind, found⟩ := Option.bind_eq_some_iff.1 found
    obtain ⟨⟨code, further⟩, taken, found⟩ := Option.bind_eq_some_iff.1 found
    obtain ⟨message, ended, made⟩ := Option.bind_eq_some_iff.1 found
    obtain ⟨numeral, rfl⟩ := isNumeral_of_takeDigits? taken
    rw [behind?_eq_some_iff] at behind ended
    obtain rfl := ended
    rw [← Option.some.inj made]
    exact ⟨List.mem_of_find?_eq_some known, numeral, behind⟩
  · rintro ⟨known, numeral, rfl⟩
    refine Option.bind_eq_some_iff.2 ⟨_, find?_severityWords known _, ?_⟩
    refine Option.bind_eq_some_iff.2 ⟨_, behind?_eq_some_iff.2 rfl, ?_⟩
    refine Option.bind_eq_some_iff.2 ⟨_, takeDigits?_append numeral (by decide), ?_⟩
    exact Option.bind_eq_some_iff.2 ⟨_, behind?_eq_some_iff.2 rfl, rfl⟩

/-- **A position is read with the announcement behind it.** -/
theorem readPosition?_eq_some_iff {text line column : List Char} {announcement : Announcement} :
    readPosition? text = some (line, column, announcement) ↔
      IsNumeral line ∧ IsNumeral column ∧ ∃ announced,
        readAnnouncement? announced = some announcement ∧
        text = "(".toList ++ (line ++ (",".toList ++ (column ++ ("): ".toList ++ announced)))) := by
  constructor
  · intro found
    obtain ⟨inside, opened, found⟩ := Option.bind_eq_some_iff.1 found
    obtain ⟨⟨first, further⟩, taken, found⟩ := Option.bind_eq_some_iff.1 found
    obtain ⟨behind, parted, found⟩ := Option.bind_eq_some_iff.1 found
    obtain ⟨⟨second, last⟩, also, found⟩ := Option.bind_eq_some_iff.1 found
    obtain ⟨announced, closed, found⟩ := Option.bind_eq_some_iff.1 found
    obtain ⟨made, read, same⟩ := Option.bind_eq_some_iff.1 found
    obtain ⟨numeral, rfl⟩ := isNumeral_of_takeDigits? taken
    obtain ⟨other, rfl⟩ := isNumeral_of_takeDigits? also
    rw [behind?_eq_some_iff] at opened parted closed
    obtain ⟨rfl, rfl, rfl⟩ : first = line ∧ second = column ∧ made = announcement := by
      simpa using same
    obtain rfl := closed
    obtain rfl := parted
    exact ⟨numeral, other, announced, read, opened⟩
  · rintro ⟨numeral, other, announced, read, rfl⟩
    unfold readPosition?
    refine Option.bind_eq_some_iff.2 ⟨_, behind?_eq_some_iff.2 rfl, ?_⟩
    refine Option.bind_eq_some_iff.2 ⟨_, takeDigits?_append numeral (by decide), ?_⟩
    refine Option.bind_eq_some_iff.2 ⟨_, behind?_eq_some_iff.2 rfl, ?_⟩
    refine Option.bind_eq_some_iff.2 ⟨_, takeDigits?_append other (by decide), ?_⟩
    refine Option.bind_eq_some_iff.2 ⟨_, behind?_eq_some_iff.2 rfl, ?_⟩
    exact Option.bind_eq_some_iff.2 ⟨_, read, rfl⟩

/-! ## Marks -/

/-- What is read as an announcement starts with a severity mark. -/
theorem severityMark_of_readAnnouncement? {text : List Char} {announcement : Announcement}
    (read : readAnnouncement? text = some announcement) :
    ∃ mark, IsSeverityMark mark ∧ text = mark ++ announcement.message := by
  obtain ⟨known, numeral, rfl⟩ := readAnnouncement?_eq_some_iff.1 read
  exact ⟨_, ⟨_, _, known, numeral, rfl⟩, by simp⟩

/-- What is read as a position starts with a position mark. -/
theorem positionMark_of_readPosition? {text line column : List Char} {announcement : Announcement}
    (read : readPosition? text = some (line, column, announcement)) :
    ∃ mark message, IsPositionMark mark ∧ text = mark ++ message := by
  obtain ⟨numeral, other, announced, found, rfl⟩ := readPosition?_eq_some_iff.1 read
  obtain ⟨mark, marked, rfl⟩ := severityMark_of_readAnnouncement? found
  exact ⟨_, announcement.message, ⟨line, column, mark, numeral, other, marked, rfl⟩, by simp⟩

/-- An announcement is read wherever a severity mark stands. -/
theorem exists_readAnnouncement?_of_isSeverityMark {mark : List Char} (marked : IsSeverityMark mark)
    (message : List Char) :
    ∃ announcement, readAnnouncement? (mark ++ message) = some announcement := by
  obtain ⟨severity, code, known, numeral, rfl⟩ := marked
  exact ⟨⟨severity, code, message⟩,
    readAnnouncement?_eq_some_iff.2 ⟨known, numeral, by simp⟩⟩

/-- A position is read wherever a position mark stands. -/
theorem exists_readPosition?_of_isPositionMark {mark : List Char} (marked : IsPositionMark mark)
    (message : List Char) : ∃ position, readPosition? (mark ++ message) = some position := by
  obtain ⟨line, column, announced, numeral, other, behind, rfl⟩ := marked
  obtain ⟨announcement, read⟩ := exists_readAnnouncement?_of_isSeverityMark behind message
  exact ⟨(line, column, announcement),
    readPosition?_eq_some_iff.2 ⟨numeral, other, _, read, by simp⟩⟩

/-- No position mark occurs in a text when nowhere in it a position can be read. -/
theorem not_infix_of_unread {text : List Char}
    (unread : ∀ rest ∈ text.tails, readPosition? rest = none) :
    ∀ mark, IsPositionMark mark → ¬ mark <:+: text := by
  rintro mark marked ⟨before, message, rfl⟩
  obtain ⟨position, read⟩ := exists_readPosition?_of_isPositionMark marked message
  rw [unread (mark ++ message) ((List.mem_tails _ _).2 ⟨before, by simp⟩)] at read
  cases read

theorem not_mem_numeral {digits : List Char} {c : Char} (numeral : IsNumeral digits)
    (other : isDigit c = false) : c ∉ digits := by
  intro member
  rw [numeral.2 c member] at other
  cases other

/-- No parenthesis opens in a severity mark. -/
theorem not_mem_severityMark {mark : List Char} (marked : IsSeverityMark mark) : '(' ∉ mark := by
  obtain ⟨severity, code, known, numeral, rfl⟩ := marked
  have coded := not_mem_numeral numeral (by decide : isDigit '(' = false)
  simp only [severityWords, List.mem_cons, List.not_mem_nil, or_false] at known
  simp only [List.mem_append, not_or]
  refine ⟨⟨?_, coded⟩, by decide⟩
  rcases known with rfl | rfl | rfl | rfl <;> decide

/-- A position mark opens a parenthesis at its start and nowhere else. -/
theorem exists_of_isPositionMark {mark : List Char} (marked : IsPositionMark mark) :
    ∃ rest, mark = '(' :: rest ∧ '(' ∉ rest := by
  obtain ⟨line, column, announced, numeral, other, behind, rfl⟩ := marked
  refine ⟨line ++ ",".toList ++ column ++ "): ".toList ++ announced, by simp, ?_⟩
  have first := not_mem_numeral numeral (by decide : isDigit '(' = false)
  have second := not_mem_numeral other (by decide : isDigit '(' = false)
  have third := not_mem_severityMark behind
  simp only [List.mem_append, not_or]
  exact ⟨⟨⟨⟨first, by decide⟩, second⟩, by decide⟩, third⟩

/-- A position mark that starts before a parenthesis ends before it. -/
theorem prefix_of_isPositionMark {mark before rest : List Char} (marked : IsPositionMark mark)
    (nonempty : before ≠ []) (starts : mark <+: before ++ '(' :: rest) : mark <+: before := by
  rcases List.prefix_or_prefix_of_prefix starts (List.prefix_append before ('(' :: rest)) with
    within | beyond
  · exact within
  · obtain ⟨further, rfl⟩ := beyond
    obtain ⟨inside, opened, absent⟩ := exists_of_isPositionMark marked
    cases further with
    | nil => exact ⟨[], by simp⟩
    | cons c others =>
        -- The mark would have the parenthesis behind `before` inside.
        obtain ⟨rfl, _⟩ := List.cons_prefix_cons.1 ((List.prefix_append_right_inj before).1 starts)
        obtain ⟨first, front, rfl⟩ := List.exists_cons_of_ne_nil nonempty
        rw [← (List.cons.inj opened).2] at absent
        exact absurd (by simp) absent

/-- A position mark inside a text is inside the part behind characters that open no
parenthesis. -/
theorem infix_of_isPositionMark {mark before rest : List Char} (marked : IsPositionMark mark)
    (absent : '(' ∉ before) (inside : mark <:+: before ++ rest) : mark <:+: rest := by
  induction before with
  | nil => exact inside
  | cons c before ih =>
      rw [List.mem_cons, not_or] at absent
      rcases List.infix_cons_iff.1 inside with starts | later
      · obtain ⟨tail, rfl, _⟩ := exists_of_isPositionMark marked
        exact absurd (List.cons_prefix_cons.1 starts).1 absent.1
      · exact ih absent.2 later

/-! ## Reading headers -/

/-- A header with a file has a position mark behind the file. -/
theorem positionMark_of_readLocated? {file text : List Char}
    {found : List Char × List Char × List Char × Announcement}
    (read : readLocated? file text = some found) :
    ∃ before mark message, IsPositionMark mark ∧ text = before ++ mark ++ message ∧
      (file = [] → before ≠ []) := by
  induction text generalizing file with
  | nil => cases read
  | cons c rest ih =>
      rw [readLocated?] at read
      cases here : (if file.isEmpty then none else readPosition? (c :: rest)) with
      | none =>
          rw [here] at read
          obtain ⟨before, mark, message, marked, same, _⟩ := ih read
          exact ⟨c :: before, mark, message, marked, by rw [same]; rfl, fun _ => by simp⟩
      | some position =>
          obtain ⟨line, column, announcement⟩ := position
          obtain ⟨started, position⟩ := Option.ite_none_left_eq_some.1 here
          obtain ⟨mark, message, marked, same⟩ := positionMark_of_readPosition? position
          exact ⟨[], mark, message, marked, same, fun none => absurd (by simp [none]) started⟩

/-- Characters at which no position can be read belong to the file. -/
theorem readLocated?_append {before rest : List Char}
    (unread : ∀ front back, before = front ++ back → back ≠ [] →
      readPosition? (back ++ rest) = none) (file : List Char) :
    readLocated? file (before ++ rest) = readLocated? (before.reverse ++ file) rest := by
  induction before generalizing file with
  | nil => rfl
  | cons c before ih =>
      have here : readPosition? (c :: (before ++ rest)) = none :=
        unread [] (c :: before) rfl (by simp)
      rw [List.cons_append, readLocated?, here, ite_self,
        ih fun front back same => unread (c :: front) back (by rw [same]; rfl)]
      simp

/-- **The file of a header ends at its position mark** if no such mark occurs in the file. -/
theorem readLocated?_of_not_infix {file text line column : List Char}
    {announcement : Announcement} (named : file ≠ [])
    (unmarked : ∀ mark, IsPositionMark mark → ¬ mark <:+: file)
    (read : readPosition? text = some (line, column, announcement)) :
    readLocated? [] (file ++ text) = some (file, line, column, announcement) := by
  obtain ⟨behind, opened⟩ : ∃ behind, text = '(' :: behind := by
    obtain ⟨_, _, announced, _, rfl⟩ := readPosition?_eq_some_iff.1 read
    exact ⟨_, rfl⟩
  have unread : ∀ front back, file = front ++ back → back ≠ [] →
      readPosition? (back ++ text) = none := by
    intro front back same nonempty
    cases found : readPosition? (back ++ text) with
    | none => rfl
    | some position =>
        obtain ⟨mark, message, marked, starts⟩ := positionMark_of_readPosition? found
        rw [opened] at starts
        have within := prefix_of_isPositionMark marked nonempty ⟨message, starts.symm⟩
        refine absurd ?_ (unmarked mark marked)
        rw [same]
        exact within.isInfix.trans (List.suffix_append front back).isInfix
  rw [readLocated?_append unread, opened, readLocated?, ← opened, read]
  simp [named]

end Triage.CompilerOutput
