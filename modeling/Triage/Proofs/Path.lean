import Triage.Collection.Conversion
import Triage.Proofs.Text.Cutting

/-!
# Paths as texts

A path that was read from a text has names without slashes, of which none is empty or a
single dot, and starts with two slashes at most (`Path.IsParsed`).  Such a path is read back
from its own text (`Path.parse_text`), so the file that a report shows for a record, taken
for a record itself, is shown as it is (`projectFile_projectFile`).
-/

namespace Triage

set_option autoImplicit false

namespace Text

/-- A text without backslashes is written with slashes already. -/
theorem slashed_of_not_mem {text : String} (absent : '\\' ∉ text.toList) :
    slashed text = text := by
  rw [slashed, substitute_of_not_mem absent, String.ofList_toList]

end Text

namespace Path

/-! ## Reading a path back -/

/-- What is known of a path that was read from a text. -/
structure IsParsed (path : Path) : Prop where
  lead : path.lead ≤ 2
  names : ∀ name ∈ path.names, isName name = true ∧ '/' ∉ name.toList

instance (path : Path) : Decidable path.IsParsed :=
  decidable_of_iff
    (path.lead ≤ 2 ∧ ∀ name ∈ path.names, isName name = true ∧ '/' ∉ name.toList)
    ⟨fun ⟨lead, names⟩ => ⟨lead, names⟩, fun ⟨lead, names⟩ => ⟨lead, names⟩⟩

/-- A path that is seen from an absolute one is absolute. -/
theorem isAbsolute_join {base other : Path} (absolute : base.isAbsolute = true) :
    (base.join other).isAbsolute = true := by
  unfold join
  split
  · assumption
  · exact absolute

theorem IsParsed.join {base other : Path} (first : base.IsParsed) (second : other.IsParsed) :
    (base.join other).IsParsed := by
  unfold Path.join
  split
  · exact second
  · refine ⟨first.lead, fun name member => ?_⟩
    rcases List.mem_append.1 member with above | below
    · exact first.names name above
    · exact second.names name below

theorem leadOf_le (text : List Char) : leadOf text ≤ 2 := by
  unfold leadOf
  split <;> decide

theorem mem_of_mem_cut {separator c : Char} {text piece : String}
    (cut : piece ∈ Text.cut separator text) (member : c ∈ piece.toList) :
    c ∈ text.toList ∧ c ≠ separator := by
  obtain ⟨chars, listed, rfl⟩ := List.mem_map.1 cut
  rw [String.toList_ofList] at member
  exact Text.mem_of_mem_cutAt listed member

theorem isParsed_parse (text : String) : (parse text).IsParsed where
  lead := leadOf_le text.toList
  names := fun _ member =>
    ⟨(List.mem_filter.1 member).2,
      fun slash => (mem_of_mem_cut (List.mem_filter.1 member).1 slash).2 rfl⟩

/-- A path starts with as many slashes as its text. -/
theorem leadOf_replicate_append {count : Nat} (few : count ≤ 2) {text : List Char}
    (other : text.head? ≠ some '/') : leadOf (List.replicate count '/' ++ text) = count := by
  cases text with
  | nil =>
      match count, few with
      | 0, _ | 1, _ | 2, _ => rfl
  | cons c rest =>
      have visible : c ≠ '/' := by simpa using other
      match count, few with
      | 0, _ | 1, _ | 2, _ => simp [List.replicate, leadOf, visible]

theorem toList_joined (names : List String) :
    (joined names).toList = ['/'].intercalate (names.map String.toList) :=
  String.toList_intercalate

/-- The text of names starts like the first of them. -/
theorem head?_joined {names : List String}
    (each : ∀ name ∈ names, isName name = true ∧ '/' ∉ name.toList) :
    (joined names).toList.head? ≠ some '/' := by
  cases names with
  | nil => decide
  | cons name rest =>
      obtain ⟨named, free⟩ := each name List.mem_cons_self
      cases chars : name.toList with
      | nil =>
          rw [String.toList_eq_nil_iff.1 chars] at named
          exact absurd named (by decide)
      | cons c tail =>
          rw [chars] at free
          have starts : (joined (name :: rest)).toList.head? = some c := by
            rw [toList_joined]
            cases rest <;> simp [chars]
          rw [starts]
          rintro ⟨rfl⟩
          exact free List.mem_cons_self

/-- Names are read back from their text, the text of no names being one empty piece. -/
theorem cut_joined {names : List String}
    (each : ∀ name ∈ names, isName name = true ∧ '/' ∉ name.toList) :
    (Text.cut '/' (joined names)).filter isName = names := by
  by_cases none : names = []
  · subst none
    decide
  · have free : ∀ piece ∈ names.map String.toList, '/' ∉ piece := by
      intro piece member
      obtain ⟨name, listed, rfl⟩ := List.mem_map.1 member
      exact (each name listed).2
    have cut : Text.cut '/' (joined names) = names := by
      rw [Text.cut, Text.cutAt_eq_splitOn, toList_joined,
        List.splitOn_intercalate '/' free (by simpa using none), List.map_map]
      exact (List.map_congr_left fun name _ => String.ofList_toList).trans (List.map_id names)
    rw [cut]
    exact List.filter_eq_self.2 fun name member => (each name member).1

/-- **A path is read back** from its text. -/
theorem parse_text {path : Path} (parsed : path.IsParsed) : parse path.text = path := by
  obtain ⟨lead, names⟩ := path
  rw [text]
  split
  · next none =>
      obtain ⟨rfl, rfl⟩ := none
      decide
  · next some =>
      have chars : (String.ofList (List.replicate lead '/') ++ joined names).toList =
          List.replicate lead '/' ++ (joined names).toList := by
        rw [String.toList_append, String.toList_ofList]
      have cut : Text.cut '/' (String.ofList (List.replicate lead '/') ++ joined names) =
          List.replicate lead "" ++ Text.cut '/' (joined names) := by
        rw [Text.cut, chars, Text.cutAt_replicate_append, List.map_append, List.map_replicate]
        rfl
      have empty : (List.replicate lead "").filter isName = [] := by
        rw [List.filter_replicate, if_neg (by decide)]
      rw [parse, chars, leadOf_replicate_append parsed.lead (head?_joined parsed.names), cut,
        List.filter_append, empty, List.nil_append, cut_joined parsed.names]

theorem mem_intercalate_names {names : List String} {c : Char}
    (member : c ∈ ['/'].intercalate (names.map String.toList)) :
    c = '/' ∨ ∃ name ∈ names, c ∈ name.toList := by
  induction names with
  | nil => cases member
  | cons name rest ih =>
      cases rest with
      | nil => exact .inr ⟨name, List.mem_cons_self, by simpa using member⟩
      | cons next others =>
          simp only [List.map_cons, List.intercalate_cons_cons, List.mem_append,
            List.mem_singleton] at member ih
          rcases member with (here | slash) | behind
          · exact .inr ⟨name, List.mem_cons_self, here⟩
          · exact .inl slash
          · rcases ih behind with slash | ⟨other, listed, found⟩
            · exact .inl slash
            · exact .inr ⟨other, List.mem_cons_of_mem _ listed, found⟩

/-- The characters of a path are dots, slashes, and those of its names. -/
theorem mem_toList_text {path : Path} {c : Char} (member : c ∈ path.text.toList) :
    c = '.' ∨ c = '/' ∨ ∃ name ∈ path.names, c ∈ name.toList := by
  rw [text] at member
  split at member
  · exact .inl (List.mem_singleton.1 member)
  · rw [String.toList_append, String.toList_ofList, List.mem_append, toList_joined] at member
    rcases member with lead | inside
    · exact .inr (.inl (List.mem_replicate.1 lead).2)
    · exact .inr (mem_intercalate_names inside)

/-- A path without a text is no path. -/
theorem text_ne_empty {path : Path} (parsed : path.IsParsed) : path.text ≠ "" := by
  intro empty
  have read := parse_text parsed
  rw [empty] at read
  rw [← read] at empty
  exact absurd empty (by decide)

/-! ## Following names -/

theorem follow_append (place : Place) (first second : List String) :
    follow place (first ++ second) = follow (follow place first) second := by
  induction first generalizing place with
  | nil => rfl
  | cons name rest ih =>
      rw [List.cons_append, follow, follow]
      split
      · exact ih _
      · exact ih _

/-- The place of a path that ends with a name. -/
theorem follow_concat (place : Place) (names : List String) {name : String}
    (plain : name ≠ "..") : follow place (names ++ [name]) = follow place names ++ [name] := by
  rw [follow_append, follow, if_neg plain, follow]

/-- Following names keeps some of the names in their order, and no double dots. -/
theorem follow_sublist (place : Place) (names : List String) :
    (follow place names).Sublist (place ++ names.filter (· ≠ "..")) := by
  induction names generalizing place with
  | nil => exact (List.append_nil place).symm ▸ List.Sublist.refl place
  | cons name rest ih =>
      rw [follow]
      split
      · next dots =>
          rw [List.filter_cons_of_neg (by simpa using dots)]
          exact (ih _).trans ((List.dropLast_sublist place).append_right _)
      · next plain =>
          rw [List.filter_cons_of_pos (by simpa using plain)]
          simpa using ih (place ++ [name])

theorem mem_of_mem_follow {name : String} {place : Place} {names : List String}
    (member : name ∈ follow place names) : name ∈ place ∨ name ∈ names :=
  (List.mem_append.1 ((follow_sublist place names).subset member)).imp_right fun inside =>
    (List.mem_filter.1 inside).1

/-- The names of a place below another one are names of the path that led there. -/
theorem mem_of_namesBelow? {path base : Path} {below : List String} {name : String}
    (found : (ofPlace (path.resolve [])).namesBelow? base = some below) (member : name ∈ below) :
    name ∈ path.names := by
  unfold namesBelow? at found
  split at found
  · rw [← Option.some.inj found] at member
    rcases mem_of_mem_follow (List.mem_of_mem_drop member) with above | inside
    · split at above <;> cases above
    · exact inside
  · cases found

end Path

/-! ## The files of reports -/

section

variable {root : Place} {file : String}

/-- A relative path without backslashes is shown as it is. -/
theorem projectFile_of_relative (relative : (Path.parse file).isAbsolute = false)
    (plain : '\\' ∉ file.toList) : projectFile root file = file := by
  simp only [projectFile, relative, Bool.false_eq_true, if_false]
  exact Text.slashed_of_not_mem plain

/-- A path that leads into the project is shown from there. -/
theorem projectFile_of_inside {names : List String}
    (absolute : (Path.parse file).isAbsolute = true) (nameable : (Path.parse file).hasNul = false)
    (found : (Path.ofPlace ((Path.parse file).resolve [])).namesBelow? (Path.ofPlace root) =
      some names) : projectFile root file = Path.text ⟨0, names⟩ := by
  simp only [projectFile, absolute, nameable, found, if_true, Bool.false_eq_true, if_false]

/-- Any other absolute path is shown whole. -/
theorem projectFile_of_outside (absolute : (Path.parse file).isAbsolute = true)
    (outside : (Path.parse file).hasNul = true ∨
      (Path.ofPlace ((Path.parse file).resolve [])).namesBelow? (Path.ofPlace root) = none) :
    projectFile root file = (Path.parse file).text := by
  simp only [projectFile, absolute, if_true]
  rcases outside with nul | none
  · rw [if_pos nul]
  · rw [none, ite_self]

/-- A relative path of names that a path without backslashes has is shown as it is. -/
theorem projectFile_text_of_relative (plain : '\\' ∉ file.toList) {names : List String}
    (among : ∀ name ∈ names, name ∈ (Path.parse file).names) :
    (Path.mk 0 names).IsParsed ∧
      projectFile root (Path.text ⟨0, names⟩) = Path.text ⟨0, names⟩ := by
  have whole := Path.isParsed_parse file
  have parsed : (Path.mk 0 names).IsParsed :=
    ⟨Nat.zero_le 2, fun name member => whole.names name (among name member)⟩
  refine ⟨parsed, projectFile_of_relative (by rw [Path.parse_text parsed]; rfl) fun backslash => ?_⟩
  rcases Path.mem_toList_text backslash with dot | slash | ⟨name, member, inside⟩
  · exact absurd dot (by decide)
  · exact absurd slash (by decide)
  · exact plain (Path.mem_of_mem_cut (List.mem_filter.1 (among name member)).1 inside).1

/-- What a report shows for a path without backslashes: the path itself, or the text of a
path that is shown as it is. -/
theorem projectFile_eq (root : Place) (plain : '\\' ∉ file.toList) :
    projectFile root file = file ∨
      ∃ path : Path, path.IsParsed ∧ projectFile root file = path.text ∧
        projectFile root path.text = path.text := by
  have parsed := Path.isParsed_parse file
  have read := Path.parse_text parsed
  cases absolute : (Path.parse file).isAbsolute with
  | false => exact .inl (projectFile_of_relative absolute plain)
  | true =>
      have whole (outside : (Path.parse file).hasNul = true ∨ (Path.ofPlace
          ((Path.parse file).resolve [])).namesBelow? (Path.ofPlace root) = none) :
          projectFile root (Path.parse file).text = (Path.parse file).text := by
        rw [projectFile_of_outside, read] <;> rwa [read]
      cases nul : (Path.parse file).hasNul with
      | true =>
          exact .inr ⟨_, parsed, projectFile_of_outside absolute (.inl nul), whole (.inl nul)⟩
      | false =>
          cases found : (Path.ofPlace ((Path.parse file).resolve [])).namesBelow?
              (Path.ofPlace root) with
          | none =>
              exact .inr ⟨_, parsed, projectFile_of_outside absolute (.inr found),
                whole (.inr found)⟩
          | some names =>
              obtain ⟨relative, again⟩ :=
                projectFile_text_of_relative plain fun name => Path.mem_of_namesBelow? found
              exact .inr ⟨_, relative, projectFile_of_inside absolute nul found, again⟩

/-- **The file of a report is shown as it is**, for any path without backslashes. -/
theorem projectFile_projectFile (root : Place) (plain : '\\' ∉ file.toList) :
    projectFile root (projectFile root file) = projectFile root file := by
  rcases projectFile_eq root plain with same | ⟨path, _, same, again⟩
  · rw [same, same]
  · rw [same, again]

/-- A report shows a file for every file. -/
theorem projectFile_ne_empty (root : Place) (plain : '\\' ∉ file.toList)
    (some : file ≠ "") : projectFile root file ≠ "" := by
  rcases projectFile_eq root plain with same | ⟨path, parsed, same, _⟩
  · rwa [same]
  · rw [same]
    exact Path.text_ne_empty parsed

end

end Triage
