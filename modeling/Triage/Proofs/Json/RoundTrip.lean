import Triage.Proofs.Json.Numbers
import Triage.Proofs.Json.Texts
import Triage.Text.Lines
import Triage.Value.Showing

/-!
# Reading what was written

A value whose parts are nothing, truth values, whole numbers, texts, lists and tables is read
back from its wide form (`read_wide`), up to keys that occur more than once in a table
(`readBack`).  The value has to have a text, and its lists and tables may not stand inside each
other deeper than a reader goes (`fits`).

The induction follows the writer: values, the items of a list, and the fields of a table.
What stands behind a value is a comma or a line end, so the reader stops where the writer
did, and every step of the reader is paid for by a character at least.
-/

namespace Triage.Json

set_option autoImplicit false

/-! ## The characters of the wide form -/

/-- The characters of a line break. -/
def breakChars (depth : Nat) : List Char := '\n' :: List.replicate (2 * depth) ' '

/-- The characters of a value. -/
def wideChars (depth : Nat) (value : Value) : List Char :=
  (widePieces depth value).flatMap String.toList

/-- The characters of the items of a list. -/
def itemsChars (depth : Nat) : List Value → List Char
  | [] => []
  | item :: rest => wideChars depth item ++ (itemPieces depth rest).flatMap String.toList

/-- The characters of a text literal. -/
def literalChars (text : String) : List Char :=
  '\x22' :: (text.toList.flatMap escapedChar ++ ['\x22'])

/-- The characters of the fields of a table. -/
def fieldsChars (depth : Nat) : List (String × Value) → List Char
  | [] => []
  | (key, entry) :: rest =>
      literalChars key ++ (':' :: ' ' :: (wideChars depth entry ++
        (fieldPieces depth rest).flatMap String.toList))

theorem toList_wide (value : Value) : (wide value).toList = wideChars 0 value :=
  String.toList_join

theorem toList_lineBreak (depth : Nat) : (lineBreak depth).toList = breakChars depth :=
  String.toList_ofList

theorem toList_textLiteral (text : String) : (textLiteral text).toList = literalChars text :=
  String.toList_ofList

theorem wideChars_list (depth : Nat) {items : List Value} (some : items ≠ []) :
    wideChars depth (.list items) =
      '[' :: (breakChars (depth + 1) ++ (itemsChars (depth + 1) items ++
        (breakChars depth ++ [']']))) := by
  obtain ⟨item, rest, rfl⟩ := List.exists_cons_of_ne_nil some
  simp [wideChars, widePieces, itemsChars, toList_lineBreak]

theorem itemsChars_cons (depth : Nat) (item : Value) {rest : List Value} (some : rest ≠ []) :
    itemsChars depth (item :: rest) =
      wideChars depth item ++ (',' :: (breakChars depth ++ itemsChars depth rest)) := by
  obtain ⟨next, others, rfl⟩ := List.exists_cons_of_ne_nil some
  simp [itemsChars, itemPieces, wideChars, toList_lineBreak]

theorem itemsChars_singleton (depth : Nat) (item : Value) :
    itemsChars depth [item] = wideChars depth item := by simp [itemsChars, itemPieces]

theorem wideChars_table (depth : Nat) {fields : List (String × Value)} (some : fields ≠ []) :
    wideChars depth (.table fields) =
      '\x7b' :: (breakChars (depth + 1) ++ (fieldsChars (depth + 1) fields ++
        (breakChars depth ++ ['\x7d']))) := by
  obtain ⟨⟨key, entry⟩, rest, rfl⟩ := List.exists_cons_of_ne_nil some
  simp [wideChars, widePieces, fieldsChars, toList_lineBreak, toList_textLiteral]

theorem fieldsChars_cons (depth : Nat) (key : String) (entry : Value)
    {rest : List (String × Value)} (some : rest ≠ []) :
    fieldsChars depth ((key, entry) :: rest) =
      literalChars key ++ (':' :: ' ' :: (wideChars depth entry ++
        (',' :: (breakChars depth ++ fieldsChars depth rest)))) := by
  obtain ⟨⟨other, next⟩, others, rfl⟩ := List.exists_cons_of_ne_nil some
  simp [fieldsChars, fieldPieces, wideChars, toList_lineBreak, toList_textLiteral]

theorem fieldsChars_singleton (depth : Nat) (key : String) (entry : Value) :
    fieldsChars depth [(key, entry)] =
      literalChars key ++ (':' :: ' ' :: wideChars depth entry) := by
  simp [fieldsChars, fieldPieces]

theorem wideChars_text (depth : Nat) (content : String) :
    wideChars depth (.text content) = literalChars content := by
  simp [wideChars, widePieces, scalarLiteral, toList_textLiteral]

theorem wideChars_int (depth : Nat) (number : Int) :
    wideChars depth (.int number) = (toString number).toList := by
  simp [wideChars, widePieces, scalarLiteral]

/-! ## Values that are read back -/

mutual
/-- A value as it is read back: of keys that are the same, the first place and the last entry
are left. -/
def readBack : Value → Value
  | .list items => .list (readBackItems items)
  | .table fields => .table (readBackFields [] fields)
  | other => other

/-- The items of a list as they are read back. -/
def readBackItems : List Value → List Value
  | [] => []
  | item :: rest => readBack item :: readBackItems rest

/-- The fields of a table as they are read back behind those before. -/
def readBackFields (read : List (String × Value)) :
    List (String × Value) → List (String × Value)
  | [] => read
  | (key, entry) :: rest =>
      readBackFields (OrderedMap.insertInto key (readBack entry) read) rest
end

mutual
/-- Whether a value has parts of the kinds that are read back only, and goes at most `room`
lists and tables deep. -/
def fits (room : Nat) : Value → Bool
  | .null | .bool _ | .int _ | .text _ => true
  | .list items => room != 0 && itemsFit (room - 1) items
  | .table fields => room != 0 && fieldsFit (room - 1) fields
  | .float _ | .undefined _ | .moment _ => false

/-- Whether the items of a list fit. -/
def itemsFit (room : Nat) : List Value → Bool
  | [] => true
  | item :: rest => fits room item && itemsFit room rest

/-- Whether the entries of a table fit. -/
def fieldsFit (room : Nat) : List (String × Value) → Bool
  | [] => true
  | (_, entry) :: rest => fits room entry && fieldsFit room rest
end

theorem itemsFit_eq_all (room : Nat) (items : List Value) :
    itemsFit room items = items.all (fits room) := by
  induction items with
  | nil => rfl
  | cons item rest ih => rw [itemsFit, List.all_cons, ih]

theorem fieldsFit_eq_all (room : Nat) (fields : List (String × Value)) :
    fieldsFit room fields = fields.all fun field => fits room field.2 := by
  induction fields with
  | nil => rfl
  | cons field rest ih => rw [fieldsFit, List.all_cons, ih]

theorem readBackItems_eq_map (items : List Value) :
    readBackItems items = items.map readBack := by
  induction items with
  | nil => rfl
  | cons item rest ih => rw [readBackItems, List.map_cons, ih]

/-! ## Steps of the reader -/

theorem stops_break (depth : Nat) (rest : List Char) : Stops (breakChars depth ++ rest) := by
  intro c member
  exact .inr (Option.some.inj member).symm

theorem stops_comma (rest : List Char) : Stops (',' :: rest) := by
  intro c member
  exact .inl (Option.some.inj member).symm

/-- A line break before a character that is no layout is skipped. -/
theorem skipLayout_break (depth : Nat) {c : Char} (visible : isLayout c = false)
    (rest : List Char) : skipLayout (breakChars depth ++ c :: rest) = c :: rest := by
  have blank : ∀ c ∈ breakChars depth, isLayout c = true := by
    intro c member
    rcases List.mem_cons.1 member with rfl | space
    · decide
    · rw [(List.mem_replicate.1 space).2]
      decide
  rw [skipLayout, List.dropWhile_append_of_pos blank,
    List.dropWhile_cons_of_neg (by simp [visible])]

theorem skipLayout_visible {c : Char} (visible : isLayout c = false) (rest : List Char) :
    skipLayout (c :: rest) = c :: rest := by
  rw [skipLayout, List.dropWhile_cons_of_neg (by simp [visible])]

theorem skipLayout_space {c : Char} (visible : isLayout c = false) (rest : List Char) :
    skipLayout (' ' :: c :: rest) = c :: rest := by
  rw [skipLayout, List.dropWhile_cons_of_pos (by decide),
    List.dropWhile_cons_of_neg (by simp [visible])]

/-- A value that is neither a text nor a list nor a table is read as a scalar. -/
theorem readValue_scalar {c : Char} (other : c ≠ '\x22' ∧ c ≠ '[' ∧ c ≠ '\x7b') (fuel room : Nat)
    (rest : List Char) : readValue (fuel + 1) room (c :: rest) = readScalar (c :: rest) := by
  rw [readValue]
  · exact fun _ same => other.1 (List.cons.inj same).1
  · exact fun _ same => other.2.1 (List.cons.inj same).1
  · exact fun _ same => other.2.2 (List.cons.inj same).1

theorem isLayout_of_isAsciiDigit {c : Char} (digit : Text.isAsciiDigit c = true) :
    isLayout c = false := by
  simp only [isLayout, Bool.or_eq_false_iff, decide_eq_false_iff_not]
  refine ⟨⟨⟨?_, ?_⟩, ?_⟩, ?_⟩ <;> rintro rfl <;> cases digit

/-- What a value that fits starts with: no layout, and nothing that ends a list or a table. -/
theorem exists_wideChars {room : Nat} {value : Value} (fitting : fits room value = true)
    (depth : Nat) : ∃ c tail, wideChars depth value = c :: tail ∧ isLayout c = false ∧
      c ≠ ']' ∧ c ≠ '\x7d' := by
  cases value with
  | null => exact ⟨'n', "ull".toList, rfl, by decide⟩
  | bool truth =>
      cases truth with
      | true => exact ⟨'t', "rue".toList, rfl, by decide⟩
      | false => exact ⟨'f', "alse".toList, rfl, by decide⟩
  | int number =>
      obtain ⟨c, tail, same, start⟩ := exists_toString_int number
      refine ⟨c, tail, (wideChars_int depth number).trans same, ?_⟩
      rcases start with rfl | digit
      · decide
      · refine ⟨isLayout_of_isAsciiDigit digit, ?_, ?_⟩ <;> rintro rfl <;> cases digit
  | text content => exact ⟨'\x22', _, wideChars_text depth content, by decide⟩
  | list items =>
      cases items with
      | nil => exact ⟨'[', [']'], rfl, by decide⟩
      | cons item rest => exact ⟨'[', _, wideChars_list depth (by simp), by decide⟩
  | table fields =>
      cases fields with
      | nil => exact ⟨'\x7b', ['\x7d'], rfl, by decide⟩
      | cons field rest => exact ⟨'\x7b', _, wideChars_table depth (by simp), by decide⟩
  | float _ => cases fitting
  | undefined _ => cases fitting
  | moment _ => cases fitting

/-- What the items of a list that fit start with. -/
theorem exists_itemsChars {room : Nat} {item : Value} {items : List Value}
    (fitting : itemsFit room (item :: items) = true) (depth : Nat) :
    ∃ c tail, itemsChars depth (item :: items) = c :: tail ∧ isLayout c = false ∧ c ≠ ']' := by
  rw [itemsFit, Bool.and_eq_true] at fitting
  obtain ⟨c, tail, same, visible, unclosed, _⟩ := exists_wideChars fitting.1 depth
  exact ⟨c, _, by rw [itemsChars, same, List.cons_append], visible, unclosed⟩

/-- Fields start with a key. -/
theorem exists_fieldsChars (depth : Nat) (field : String × Value)
    (fields : List (String × Value)) :
    ∃ tail, fieldsChars depth (field :: fields) = '\x22' :: tail := ⟨_, rfl⟩

/-- A number starts like no other kind of value. -/
theorem readValue_toString {number : Int} (short : Decimal.hasNumeral number = true)
    {rest : List Char} (stops : Stops rest) (fuel room : Nat) :
    readValue (fuel + 1) room ((toString number).toList ++ rest) = .ok (.int number, rest) := by
  obtain ⟨c, tail, same, start⟩ := exists_toString_int number
  have other : c ≠ '\x22' ∧ c ≠ '[' ∧ c ≠ '\x7b' := by
    rcases start with rfl | digit
    · decide
    · refine ⟨?_, ?_, ?_⟩ <;> rintro rfl <;> cases digit
  rw [← readScalar_toString short stops, same, List.cons_append, readValue_scalar other]

/-- A text is read as a value. -/
theorem readValue_literal (content : String) (room : Nat) {fuel : Nat} (rest : List Char)
    (enough : content.toList.length < fuel) :
    readValue (fuel + 1) room (literalChars content ++ rest) = .ok (.text content, rest) := by
  have read := readText_literal (literalChars content ++ rest) [] content.toList rest enough
  rw [literalChars, List.cons_append, List.append_assoc, List.singleton_append] at read ⊢
  rw [readValue, read]
  simp

/-- A list is read when its items are. -/
theorem readValue_items {room : Nat} (inside : room ≠ 0) {depth : Nat} {items read : List Value}
    (some : items ≠ []) (fitting : itemsFit (room - 1) items = true) {fuel : Nat}
    {rest : List Char}
    (ended : readItems fuel (room - 1) [] (itemsChars (depth + 1) items ++
      (breakChars depth ++ ']' :: rest)) = .ok (.list read, rest)) :
    readValue (fuel + 1) room (wideChars depth (.list items) ++ rest) = .ok (.list read, rest) := by
  have written : wideChars depth (.list items) ++ rest = '[' :: (breakChars (depth + 1) ++
      (itemsChars (depth + 1) items ++ (breakChars depth ++ ']' :: rest))) := by
    simp [wideChars_list depth some]
  obtain ⟨item, others, rfl⟩ := List.exists_cons_of_ne_nil some
  rw [itemsFit, Bool.and_eq_true] at fitting
  obtain ⟨c, tail, same, visible, unclosed, _⟩ := exists_wideChars fitting.1 (depth + 1)
  rw [itemsChars, same, List.append_assoc, List.cons_append] at ended written
  rw [written, readValue, if_neg inside, skipLayout_break _ visible]
  split
  · next after closed => exact absurd (List.cons.inj closed).1 unclosed
  · exact ended

/-- A table is read when its fields are. -/
theorem readValue_fields {room : Nat} (inside : room ≠ 0) {depth : Nat}
    {fields read : List (String × Value)} (some : fields ≠ []) {fuel : Nat} {rest : List Char}
    (ended : readFields fuel (room - 1) [] (fieldsChars (depth + 1) fields ++
      (breakChars depth ++ '\x7d' :: rest)) = .ok (.table read, rest)) :
    readValue (fuel + 1) room (wideChars depth (.table fields) ++ rest) =
      .ok (.table read, rest) := by
  have written : wideChars depth (.table fields) ++ rest = '\x7b' :: (breakChars (depth + 1) ++
      (fieldsChars (depth + 1) fields ++ (breakChars depth ++ '\x7d' :: rest))) := by
    simp [wideChars_table depth some]
  obtain ⟨⟨key, entry⟩, others, rfl⟩ := List.exists_cons_of_ne_nil some
  rw [fieldsChars, literalChars, List.cons_append, List.cons_append] at ended written
  rw [written, readValue, if_neg inside, skipLayout_break _ (by decide)]
  exact ended

/-- The last item of a list is read with the end of the list. -/
theorem readItems_last {fuel room : Nat} {read : List Value} {text rest : List Char}
    {item : Value} (depth : Nat)
    (found : readValue fuel room text = .ok (item, breakChars depth ++ ']' :: rest)) :
    readItems (fuel + 1) room read text = .ok (.list (read.reverse ++ [item]), rest) := by
  rw [readItems, found]
  simp only [skipLayout_break depth (by decide : isLayout ']' = false), List.reverse_cons]

/-- An item that is not the last one is read, and reading goes on behind its comma. -/
theorem readItems_more {fuel room : Nat} {read : List Value} {text more : List Char} {c : Char}
    {item : Value} (depth : Nat) (visible : isLayout c = false)
    (found : readValue fuel room text = .ok (item, ',' :: (breakChars depth ++ c :: more))) :
    readItems (fuel + 1) room read text = readItems fuel room (item :: read) (c :: more) := by
  rw [readItems, found]
  simp only [skipLayout_visible (by decide : isLayout ',' = false), skipLayout_break depth visible]

/-- The key of a field is read up to its colon. -/
theorem readText_key (key : String) {fuel : Nat} (after : List Char)
    (enough : key.toList.length < fuel) :
    readText (literalChars key ++ after) [] fuel
      (key.toList.flatMap escapedChar ++ '\x22' :: after) = .ok (key, after) := by
  rw [readText_literal _ _ _ _ enough, List.reverse_nil, List.nil_append, String.ofList_toList]

/-- The last field of a table is read with the end of the table. -/
theorem readFields_last {fuel room : Nat} {read : List (String × Value)} {key : String}
    {text rest : List Char} {c : Char} {entry : Value} (depth : Nat) (visible : isLayout c = false)
    (enough : key.toList.length < fuel)
    (found : readValue fuel room (c :: text) = .ok (entry, breakChars depth ++ '\x7d' :: rest)) :
    readFields (fuel + 1) room read (literalChars key ++ ':' :: ' ' :: c :: text) =
      .ok (.table (OrderedMap.insertInto key entry read), rest) := by
  have keyed := readText_key key (':' :: ' ' :: c :: text) enough
  rw [literalChars, List.cons_append, List.append_assoc, List.singleton_append] at keyed ⊢
  rw [readFields, keyed]
  simp only [skipLayout_visible (by decide : isLayout ':' = false), skipLayout_space visible, found,
    skipLayout_break depth (by decide : isLayout '\x7d' = false)]

/-- A field that is not the last one is read, and reading goes on behind its comma. -/
theorem readFields_more {fuel room : Nat} {read : List (String × Value)} {key : String}
    {text more : List Char} {c mark : Char} {entry : Value} (depth : Nat)
    (visible : isLayout c = false) (enough : key.toList.length < fuel)
    (printed : isLayout mark = false)
    (found : readValue fuel room (c :: text) =
      .ok (entry, ',' :: (breakChars depth ++ mark :: more))) :
    readFields (fuel + 1) room read (literalChars key ++ ':' :: ' ' :: c :: text) =
      readFields fuel room (OrderedMap.insertInto key entry read) (mark :: more) := by
  have keyed := readText_key key (':' :: ' ' :: c :: text) enough
  rw [literalChars, List.cons_append, List.append_assoc, List.singleton_append] at keyed ⊢
  rw [readFields, keyed]
  simp only [skipLayout_visible (by decide : isLayout ':' = false), skipLayout_space visible, found,
    skipLayout_visible (by decide : isLayout ',' = false), skipLayout_break depth printed]

/-! ## Reading the wide form -/

/-- The word for nothing is read. -/
theorem readValue_null (fuel room : Nat) (rest : List Char) :
    readValue (fuel + 1) room ('n' :: 'u' :: 'l' :: 'l' :: rest) = .ok (.null, rest) := by
  rw [readValue_scalar (by decide)]
  simp [readScalar, wordValues]

/-- The words for truth values are read. -/
theorem readValue_bool (truth : Bool) (fuel room : Nat) (rest : List Char) :
    readValue (fuel + 1) room (wideChars 0 (.bool truth) ++ rest) = .ok (.bool truth, rest) := by
  cases truth with
  | true =>
      change readValue _ _ ('t' :: 'r' :: 'u' :: 'e' :: rest) = _
      rw [readValue_scalar (by decide)]
      simp [readScalar, wordValues]
  | false =>
      change readValue _ _ ('f' :: 'a' :: 'l' :: 's' :: 'e' :: rest) = _
      rw [readValue_scalar (by decide)]
      simp [readScalar, wordValues]

/-- A literal is longer than its text. -/
theorem length_literalChars (content : String) :
    content.toList.length + 2 ≤ (literalChars content).length := by
  have each : content.toList.length ≤ (content.toList.flatMap escapedChar).length := by
    rw [List.length_flatMap]
    induction content.toList with
    | nil => simp
    | cons c rest ih =>
        have some := length_escapedChar_pos c
        simp only [List.length_cons, List.map_cons, List.sum_cons]
        omega
  simp only [literalChars, List.length_cons, List.length_append, List.length_nil]
  omega

mutual
/-- A value is read back where it stands. -/
theorem readValue_wide {depth room fuel : Nat} {rest : List Char} :
    (value : Value) → value.hasText = true → fits room value = true → Stops rest →
      (wideChars depth value).length ≤ fuel →
      readValue (fuel + 1) room (wideChars depth value ++ rest) = .ok (readBack value, rest)
  | .null => fun _ _ _ _ => readValue_null fuel room rest
  | .bool truth => fun _ _ _ _ => readValue_bool truth fuel room rest
  | .int number => by
      intro written _ stops _
      rw [wideChars_int]
      exact readValue_toString written stops fuel room
  | .text content => by
      intro _ _ _ enough
      rw [wideChars_text] at enough ⊢
      have long := length_literalChars content
      exact readValue_literal content room rest (by omega)
  | .list [] => by
      intro _ fitting _ _
      have inside : room ≠ 0 := by simpa [fits, itemsFit] using fitting
      change readValue _ _ ('[' :: ']' :: rest) = _
      rw [readValue, if_neg inside]
      rfl
  | .list (item :: items) => by
      intro written fitting _ enough
      rw [fits, Bool.and_eq_true, bne_iff_ne] at fitting
      rw [wideChars_list depth (by simp)] at enough
      simp only [List.length_cons, List.length_append, breakChars] at enough
      obtain ⟨less, rfl⟩ : ∃ less, fuel = less + 2 := ⟨fuel - 2, by omega⟩
      refine readValue_items fitting.1 (by simp) fitting.2 ?_
      exact readItems_wide (item :: items) (by simp) written fitting.2 (by omega)
  | .table [] => by
      intro _ fitting _ _
      have inside : room ≠ 0 := by simpa [fits, fieldsFit] using fitting
      change readValue _ _ ('\x7b' :: '\x7d' :: rest) = _
      rw [readValue, if_neg inside]
      rfl
  | .table (field :: fields) => by
      intro written fitting _ enough
      rw [fits, Bool.and_eq_true, bne_iff_ne] at fitting
      rw [wideChars_table depth (by simp)] at enough
      simp only [List.length_cons, List.length_append, breakChars] at enough
      obtain ⟨less, rfl⟩ : ∃ less, fuel = less + 2 := ⟨fuel - 2, by omega⟩
      refine readValue_fields fitting.1 (by simp) ?_
      exact readFields_wide (field :: fields) (by simp) written fitting.2 (by omega)
  | .float _ | .undefined _ | .moment _ => by
      intro _ fitting
      cases fitting

/-- The items of a list are read back with the end of the list. -/
theorem readItems_wide {depth outer room fuel : Nat} {read : List Value} {rest : List Char} :
    (items : List Value) → items ≠ [] → Value.itemsHaveText items = true →
      itemsFit room items = true → (itemsChars depth items).length ≤ fuel →
      readItems (fuel + 2) room read (itemsChars depth items ++ (breakChars outer ++ ']' :: rest)) =
        .ok (.list (read.reverse ++ readBackItems items), rest)
  | [] => by
      intro some
      exact absurd rfl some
  | [item] => by
      intro _ written fitting enough
      rw [Value.itemsHaveText, Bool.and_eq_true] at written
      rw [itemsFit, Bool.and_eq_true] at fitting
      rw [itemsChars_singleton] at enough ⊢
      rw [readItems_last outer
        (readValue_wide item written.1 fitting.1 (stops_break outer _) enough)]
      rfl
  | item :: next :: items => by
      intro _ written fitting enough
      rw [Value.itemsHaveText, Bool.and_eq_true] at written
      rw [itemsFit, Bool.and_eq_true] at fitting
      rw [itemsChars_cons depth item (by simp)] at enough ⊢
      simp only [List.length_append, List.length_cons, breakChars] at enough
      obtain ⟨less, rfl⟩ : ∃ less, fuel = less + 1 := ⟨fuel - 1, by omega⟩
      have here : readValue (less + 2) room (wideChars depth item ++ ',' :: (breakChars depth ++
          (itemsChars depth (next :: items) ++ (breakChars outer ++ ']' :: rest)))) =
            .ok (readBack item, _) :=
        readValue_wide item written.1 fitting.1 (stops_comma _) (by omega)
      have behind : readItems (less + 2) room (readBack item :: read)
          (itemsChars depth (next :: items) ++ (breakChars outer ++ ']' :: rest)) =
            .ok (.list _, rest) :=
        readItems_wide (next :: items) (by simp) written.2 fitting.2 (by omega)
      obtain ⟨c, tail, same, visible, _⟩ := exists_itemsChars fitting.2 depth
      rw [same, List.cons_append] at here behind
      rw [List.append_assoc, List.cons_append, List.append_assoc, same, List.cons_append,
        readItems_more depth visible here, behind]
      simp [readBackItems]

/-- The fields of a table are read back with the end of the table. -/
theorem readFields_wide {depth outer room fuel : Nat} {read : List (String × Value)}
    {rest : List Char} :
    (fields : List (String × Value)) → fields ≠ [] → Value.fieldsHaveText fields = true →
      fieldsFit room fields = true → (fieldsChars depth fields).length ≤ fuel →
      readFields (fuel + 2) room read
          (fieldsChars depth fields ++ (breakChars outer ++ '\x7d' :: rest)) =
        .ok (.table (readBackFields read fields), rest)
  | [] => by
      intro some
      exact absurd rfl some
  | [(key, entry)] => by
      intro _ written fitting enough
      rw [Value.fieldsHaveText, Bool.and_eq_true] at written
      rw [fieldsFit, Bool.and_eq_true] at fitting
      have long := length_literalChars key
      rw [fieldsChars_singleton] at enough ⊢
      simp only [List.length_append, List.length_cons] at enough
      have here : readValue (fuel + 1) room (wideChars depth entry ++ (breakChars outer ++
          '\x7d' :: rest)) = .ok (readBack entry, _) :=
        readValue_wide entry written.1 fitting.1 (stops_break outer _) (by omega)
      obtain ⟨c, tail, same, visible, _⟩ := exists_wideChars fitting.1 depth
      rw [same, List.cons_append] at here
      rw [List.append_assoc, List.cons_append, List.cons_append, same, List.cons_append,
        readFields_last outer visible (by omega) here]
      rfl
  | (key, entry) :: next :: fields => by
      intro _ written fitting enough
      rw [Value.fieldsHaveText, Bool.and_eq_true] at written
      rw [fieldsFit, Bool.and_eq_true] at fitting
      have long := length_literalChars key
      rw [fieldsChars_cons depth key entry (by simp)] at enough ⊢
      simp only [List.length_append, List.length_cons, breakChars] at enough
      obtain ⟨less, rfl⟩ : ∃ less, fuel = less + 1 := ⟨fuel - 1, by omega⟩
      have here : readValue (less + 2) room (wideChars depth entry ++ ',' :: (breakChars depth ++
          (fieldsChars depth (next :: fields) ++ (breakChars outer ++ '\x7d' :: rest)))) =
            .ok (readBack entry, _) :=
        readValue_wide entry written.1 fitting.1 (stops_comma _) (by omega)
      have behind : readFields (less + 2) room (OrderedMap.insertInto key (readBack entry) read)
          (fieldsChars depth (next :: fields) ++ (breakChars outer ++ '\x7d' :: rest)) =
            .ok (.table _, rest) :=
        readFields_wide (next :: fields) (by simp) written.2 fitting.2 (by omega)
      obtain ⟨c, tail, same, visible, _⟩ := exists_wideChars fitting.1 depth
      obtain ⟨more, keyed⟩ := exists_fieldsChars depth next fields
      rw [same, keyed, List.cons_append, List.cons_append] at here
      rw [keyed, List.cons_append] at behind
      simp only [List.append_assoc, List.cons_append, same, keyed]
      rw [readFields_more depth visible (by omega) (by decide) here, behind]
      rfl
end

/-! ## Whole texts -/

/-- Whether a piece of a text is printable ASCII and line ends. -/
def isPlain (piece : String) : Bool := piece.toList.all isPlainChar

theorem isPlain_lineBreak (depth : Nat) : isPlain (lineBreak depth) = true := by
  rw [isPlain, toList_lineBreak, breakChars, List.all_cons, List.all_replicate]
  simp [isPlainChar]

theorem isPlain_textLiteral (text : String) : isPlain (textLiteral text) = true := by
  rw [isPlain, toList_textLiteral, literalChars, List.all_cons, List.all_append, List.all_flatMap]
  simp only [all_isPlainChar_escapedChar]
  simp [isPlainChar]

theorem isPlain_toString (number : Int) : isPlain (toString number) = true := by
  have digits : (Nat.toDigits 10 number.natAbs).all isPlainChar = true :=
    List.all_eq_true.2 fun c member =>
      isPlainChar_of_isAsciiDigit (isAsciiDigit_of_mem_toDigits member)
  rw [isPlain, toList_toString_int, List.all_append, digits]
  split <;> rfl

mutual
/-- The pieces of a value that fits are plain. -/
theorem all_isPlain_widePieces (depth : Nat) {room : Nat} :
    (value : Value) → fits room value = true → (widePieces depth value).all isPlain = true
  | .null | .bool true | .bool false | .list [] | .table [] => fun _ => rfl
  | .int number => by
      intro _
      simp only [widePieces, scalarLiteral, List.all_cons, isPlain_toString]
      rfl
  | .text content => by simp [widePieces, scalarLiteral, isPlain_textLiteral]
  | .list (item :: items) => by
      intro fitting
      rw [fits, Bool.and_eq_true, itemsFit, Bool.and_eq_true] at fitting
      have first := all_isPlain_widePieces (depth + 1) item fitting.2.1
      have others := all_isPlain_itemPieces (depth + 1) items fitting.2.2
      simp only [widePieces, List.all_cons, List.all_append, first, others, isPlain_lineBreak]
      rfl
  | .table ((key, entry) :: fields) => by
      intro fitting
      rw [fits, Bool.and_eq_true, fieldsFit, Bool.and_eq_true] at fitting
      have first := all_isPlain_widePieces (depth + 1) entry fitting.2.1
      have others := all_isPlain_fieldPieces (depth + 1) fields fitting.2.2
      simp only [widePieces, List.all_cons, List.all_append, first, others, isPlain_lineBreak,
        isPlain_textLiteral]
      rfl
  | .float _ | .undefined _ | .moment _ => by
      intro fitting
      cases fitting

/-- The pieces of the items of a list that fit are plain. -/
theorem all_isPlain_itemPieces (depth : Nat) {room : Nat} :
    (items : List Value) → itemsFit room items = true →
      (itemPieces depth items).all isPlain = true
  | [] => fun _ => rfl
  | item :: items => by
      intro fitting
      rw [itemsFit, Bool.and_eq_true] at fitting
      have first := all_isPlain_widePieces depth item fitting.1
      have others := all_isPlain_itemPieces depth items fitting.2
      simp only [itemPieces, List.all_cons, List.all_append, first, others, isPlain_lineBreak]
      rfl

/-- The pieces of the fields of a table that fit are plain. -/
theorem all_isPlain_fieldPieces (depth : Nat) {room : Nat} :
    (fields : List (String × Value)) → fieldsFit room fields = true →
      (fieldPieces depth fields).all isPlain = true
  | [] => fun _ => rfl
  | (key, entry) :: fields => by
      intro fitting
      rw [fieldsFit, Bool.and_eq_true] at fitting
      have first := all_isPlain_widePieces depth entry fitting.1
      have others := all_isPlain_fieldPieces depth fields fitting.2
      simp only [fieldPieces, List.all_cons, List.all_append, first, others, isPlain_lineBreak,
        isPlain_textLiteral]
      rfl
end

/-- A value that fits is written in printable ASCII and line ends. -/
theorem isPlain_wide {room : Nat} {value : Value} (fitting : fits room value = true) :
    isPlain (wide value) = true := by
  rw [isPlain, wide, String.toList_join, List.all_flatMap]
  exact all_isPlain_widePieces 0 value fitting

/-- Reading a file changes no line end of a value that was written to it. -/
theorem unifyLineEnds_wide {room : Nat} {value : Value} (fitting : fits room value = true) :
    Text.unifyLineEnds (wide value).toList = (wide value).toList := by
  refine Text.unifyLineEnds_of_not_mem _ fun carriage => ?_
  have plain := List.all_eq_true.1 (isPlain_wide fitting) _ carriage
  exact absurd plain (by decide)

/-- **A value is read back** from its wide form. -/
theorem read_wide {value : Value} (written : value.hasText = true)
    (fitting : fits deepest value = true) :
    read (wide value).toList = .ok (readBack value) := by
  have found : readValue (2 * (wideChars 0 value).length + 2) deepest (wideChars 0 value ++ []) =
      .ok (readBack value, []) :=
    readValue_wide value written fitting (fun _ member => nomatch member) (by omega)
  obtain ⟨c, tail, same, visible, _⟩ := exists_wideChars fitting 0
  have plain : isPlainChar c = true := by
    have all := isPlain_wide fitting
    rw [isPlain, toList_wide, same, List.all_cons, Bool.and_eq_true] at all
    exact all.1
  have unmarked : (c :: tail).head? ≠ some (Char.ofNat 0xfeff) := by
    intro marked
    rw [List.head?_cons] at marked
    rw [Option.some.inj marked] at plain
    exact absurd plain (by decide)
  rw [List.append_nil, same] at found
  rw [toList_wide, same, read, if_neg unmarked, skipLayout_visible visible, found]
  rfl

end Triage.Json
