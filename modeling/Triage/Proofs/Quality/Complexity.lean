import Mathlib.Algebra.BigOperators.Group.List.Basic
import Mathlib.Algebra.Order.BigOperators.Group.List
import Triage.Proofs.SourceTree.Listing
import Triage.Proofs.Text.Occurrence
import Triage.Quality.Complexity

/-!
# Complexity is a matter of the text

Branches are counted from left to right, and a line feed separates what is counted on both sides of
it: no branching word goes over it, it ends a word that stands in front of it, and it lies between
the two signs of no operator.  So the branches of texts that are joined by line feeds are those of
the texts (`branches_intercalate`), as are their lines (`lineCount_intercalate`), and the complexity
of files does not depend on how their text is split among them, nor on their order
(`complexityOf_intercalate`, `complexityOf_perm`).

A file that cannot be read adds nothing to the score.  If such files come to a tree, they are told
among those that cannot be read, each once, where they stand in the listing
(`AddsUnreadable.unreadablePlaces_eq`).  Both together say that the score is a matter of the text
alone (`complexity_depends_on_the_text_alone`).
-/

namespace Triage

set_option autoImplicit false

namespace SourceText

open Triage.Marker (startsInWord endsWholeAt)
open Triage.Text

/-! ## What a line feed separates -/

theorem startsInWord_append_newline (text behind : List Char) :
    startsInWord (text ++ '\n' :: behind) = startsInWord text := by
  cases text with
  | nil => exact (by decide +kernel : isWordChar '\n' = false)
  | cons c rest => rfl

/-- Whether a word ends in front of a line feed is told by what stands there. -/
theorem endsWholeAt_append_newline {word : List Char} (free : '\n' ∉ word)
    (text behind : List Char) :
    endsWholeAt word (text ++ '\n' :: behind) = endsWholeAt word text := by
  have starts : word.isPrefixOf (text ++ '\n' :: behind) = word.isPrefixOf text := by
    rw [Bool.eq_iff_iff, List.isPrefixOf_iff_prefix, List.isPrefixOf_iff_prefix,
      prefix_append_cons_iff free]
  rw [endsWholeAt, endsWholeAt, starts]
  by_cases front : word <+: text
  · obtain ⟨rest, rfl⟩ := front
    rw [List.append_assoc, List.drop_left, List.drop_left, startsInWord_append_newline]
  · rw [← List.isPrefixOf_iff_prefix, Bool.not_eq_true] at front
    rw [front, Bool.false_and, Bool.false_and]

theorem branchesHere_append_newline (text behind : List Char) :
    branchesHere (text ++ '\n' :: behind) = branchesHere text := by
  have free : ∀ word ∈ branchWords, '\n' ∉ word := by decide
  rw [branchesHere, branchesHere, Bool.eq_iff_iff, List.any_eq_true, List.any_eq_true]
  refine exists_congr fun word => and_congr_right fun member => ?_
  rw [endsWholeAt_append_newline (free word member)]

/-- Where no operator stands, a branching word may. -/
theorem branchesFrom_cons {c : Char} {rest : List Char}
    (ampersands : ∀ more, c = '&' → rest ≠ '&' :: more)
    (bars : ∀ more, c = '|' → rest ≠ '|' :: more) (afterWord : Bool) :
    branchesFrom afterWord (c :: rest) =
      (if !afterWord && branchesHere (c :: rest) then 1 else 0) +
        branchesFrom (isWordChar c) rest := by
  rw [branchesFrom]
  · exact fun more same => ampersands more same
  · exact fun more same => bars more same

/-- No operator reaches over a line feed. -/
theorem append_newline_ne_cons {sign : Char} (other : sign ≠ '\n') {rest behind : List Char}
    (alone : ∀ more, rest ≠ sign :: more) (more : List Char) :
    rest ++ '\n' :: behind ≠ sign :: more := by
  intro same
  cases rest with
  | nil => exact other (List.cons.inj same).1.symm
  | cons c rest => exact alone rest ((List.cons.inj same).1 ▸ rfl)

/-- **Branches on both sides of a line feed** are counted apart. -/
theorem branchesFrom_append_newline (afterWord : Bool) (text behind : List Char) :
    branchesFrom afterWord (text ++ '\n' :: behind) =
      branchesFrom afterWord text + branchesFrom false behind := by
  fun_induction branchesFrom afterWord text with
  | case1 afterWord =>
      have unbranched : branchesHere ('\n' :: behind) = false :=
        branchesHere_append_newline [] behind
      have unspoken : isWordChar '\n' = false := startsInWord_append_newline [] behind
      rw [List.nil_append, branchesFrom_cons (fun _ same => absurd same (by decide))
        (fun _ same => absurd same (by decide)), unbranched, unspoken, Bool.and_false,
        if_neg Bool.false_ne_true]
  | case2 afterWord rest ih =>
      rw [List.cons_append, List.cons_append, branchesFrom, ih]
      omega
  | case3 afterWord rest ih =>
      rw [List.cons_append, List.cons_append, branchesFrom, ih]
      omega
  | case4 afterWord c rest ampersands bars ih =>
      rw [List.cons_append, branchesFrom_cons, ← List.cons_append, branchesHere_append_newline, ih,
        Nat.add_assoc]
      · rintro more rfl
        exact append_newline_ne_cons (by decide) (fun more same => ampersands more rfl same) more
      · rintro more rfl
        exact append_newline_ne_cons (by decide) (fun more same => bars more rfl same) more

/-- **The branches of texts that are joined by line feeds** are those of the texts. -/
theorem branches_intercalate (texts : List (List Char)) :
    branches (['\n'].intercalate texts) = (texts.map branches).sum := by
  induction texts with
  | nil => rfl
  | cons text rest ih =>
      cases rest with
      | nil => rw [List.intercalate_singleton, List.map_singleton, List.sum_singleton]
      | cons next others =>
          rw [List.intercalate_cons_cons, List.append_assoc, List.singleton_append, branches,
            branchesFrom_append_newline, List.map_cons, List.sum_cons, ← ih]
          rfl

end SourceText

/-! ## The complexity of texts -/

/-- **The lines of texts that are joined by line feeds** are those of the texts. -/
theorem lineCount_intercalate {texts : List (List Char)} (some : texts ≠ []) :
    lineCount (['\n'].intercalate texts) = (texts.map lineCount).sum := by
  induction texts with
  | nil => exact absurd rfl some
  | cons text rest ih =>
      cases rest with
      | nil => rw [List.intercalate_singleton, List.map_singleton, List.sum_singleton]
      | cons next others =>
          rw [List.intercalate_cons_cons, List.append_assoc, List.singleton_append, List.map_cons,
            List.sum_cons, ← ih (List.cons_ne_nil _ _)]
          simp only [lineCount, List.count_append, List.count_cons_self]
          omega

variable {Number : Type} [Scalar Number]

theorem complexityOf_eq (texts : List (List Char)) :
    (complexityOf texts : Number) =
      complexityScore (texts.map SourceText.branches).sum (texts.map lineCount).sum := by
  rw [complexityOf, List.sum_eq_foldl, List.sum_eq_foldl]

/-- The complexity of texts does not depend on their order. -/
theorem complexityOf_perm {first second : List (List Char)} (permuted : first.Perm second) :
    (complexityOf first : Number) = complexityOf second := by
  rw [complexityOf_eq, complexityOf_eq, (permuted.map SourceText.branches).sum_eq,
    (permuted.map lineCount).sum_eq]

/-- The complexity of one text. -/
theorem complexityOf_singleton (text : List Char) :
    (complexityOf [text] : Number) =
      complexityScore (SourceText.branches text) (lineCount text) := by
  rw [complexityOf_eq, List.map_singleton, List.map_singleton, List.sum_singleton,
    List.sum_singleton]

/-- **The complexity of texts is that of the one text** that they are joined to by line feeds. -/
theorem complexityOf_intercalate {texts : List (List Char)} (some : texts ≠ []) :
    (complexityOf texts : Number) = complexityOf [['\n'].intercalate texts] := by
  rw [complexityOf_singleton, SourceText.branches_intercalate, lineCount_intercalate some,
    complexityOf_eq]

/-! ## Files of a tree -/

/-- A tree holds files with these contents, as they are read, in some order and no others. -/
def SourceTree.Holds (tree : SourceTree) (disk : Disk) (contents : List String) : Prop :=
  ∃ files places, tree.files? disk = .ok files ∧ files.Perm places ∧
    List.Forall₂ (fun place content => disk.readSource place = .ok content) places contents

theorem readableTexts_of_forall₂ {disk : Disk} {places : List Place} {contents : List String}
    (read : List.Forall₂ (fun place content => disk.readSource place = .ok content) places
      contents) : readableTexts disk places = contents.map String.toList := by
  induction read with
  | nil => rfl
  | @cons place content places contents here _ ih =>
      rw [readableTexts, List.filterMap_cons, here, List.map_cons, ← ih]
      rfl

/-- The complexity of a tree is that of the contents of its files. -/
theorem estimateComplexity_of_holds {tree : SourceTree} {disk : Disk} {contents : List String}
    (holds : tree.Holds disk contents) :
    (estimateComplexity disk tree : Number) = complexityOf (contents.map String.toList) := by
  obtain ⟨files, places, found, permuted, read⟩ := holds
  rw [estimateComplexity, ← SourceTree.eq_files_of_files? found, ← readableTexts_of_forall₂ read]
  exact complexityOf_perm (permuted.filterMap _)

/-- What is read has no carriage returns. -/
theorem Disk.not_mem_of_readSource {disk : Disk} {place : Place} {content : String}
    (read : disk.readSource place = .ok content) : '\r' ∉ content.toList := by
  obtain ⟨_, _, further⟩ := bind_eq_ok.1 read
  obtain ⟨text, _, unified⟩ := bind_eq_ok.1 further
  rw [← Except.ok.inj unified, String.toList_ofList]
  exact Text.not_mem_unifyLineEnds text.toList

/-- A text without carriage returns is read as it was written. -/
theorem Disk.readSource_of_readBytes {disk : Disk} {place : Place} {content : String}
    (absent : '\r' ∉ content.toList)
    (written : disk.readBytes (Path.ofPlace place) = .ok content.toUTF8) :
    disk.readSource place = .ok content := by
  rw [readSource, readText, written]
  change (decode content.toUTF8 >>= _) = _
  rw [decode_toUTF8]
  change Except.ok (String.ofList (Text.unifyLineEnds content.toList)) = _
  rw [Text.unifyLineEnds_of_not_mem _ absent, String.ofList_toList]

/-- Texts without carriage returns are joined to one without. -/
theorem not_mem_intercalate {contents : List String}
    (absent : ∀ content ∈ contents, '\r' ∉ content.toList) :
    '\r' ∉ ("\n".intercalate contents).toList := by
  rw [String.toList_intercalate]
  induction contents with
  | nil => exact List.not_mem_nil
  | cons content rest ih =>
      have here := absent content List.mem_cons_self
      have behind := ih fun other member => absent other (List.mem_cons_of_mem _ member)
      cases rest with
      | nil => simpa using here
      | cons next others =>
          rw [List.map_cons, List.map_cons, List.intercalate_cons_cons, ← List.map_cons]
          simp only [List.mem_append, not_or]
          exact ⟨⟨here, by decide⟩, behind⟩

/-! ## Files that cannot be read -/

/-- No file of a directory is told twice among those that cannot be read. -/
theorem nodup_map_unreadablePlaces {tree : SourceTree} {disk : Disk} (standing : disk.IsTree)
    (fresh : tree.listing = none) (spared : tree.excludeFault = none)
    (stands : disk.nodeAt tree.root = some .directory) {files : List Place}
    (found : tree.files? disk = .ok files) :
    ((unreadablePlaces disk files).map tree.relative).Nodup := by
  obtain ⟨_, listed, lists⟩ := SourceTree.lists_files tree standing fresh spared stands
  obtain rfl := Except.ok.inj (found.symm.trans listed)
  refine SourceTree.nodup_map_relative (lists.once.filter _) fun place member => ?_
  obtain ⟨⟨_, isFile⟩, _⟩ := (SourceTree.mem_iff_of_files? standing fresh spared stands found).1
    (List.mem_filter.1 member).1
  exact standing.isParsed_ofPlace isFile

/-- A later disk has what a disk has, and the source files of a tree that came to it cannot be
read. -/
structure AddsUnreadable (tree : SourceTree) (disk larger : Disk) : Prop where
  before : disk.IsTree
  after : larger.IsTree
  kept : ∀ place node, disk.nodeAt place = some node → larger.nodeAt place = some node
  unreadable : ∀ place bytes, larger.nodeAt place = some (.file bytes) →
    disk.nodeAt place = none → tree.isSource place = true →
      ∀ content, larger.readSource place ≠ .ok content

namespace AddsUnreadable

variable {tree : SourceTree} {disk larger : Disk} (adds : AddsUnreadable tree disk larger)
include adds

/-- Files that were there are read as before. -/
theorem readSource_eq {place : Place} {bytes : ByteArray}
    (stands : disk.nodeAt place = some (.file bytes)) :
    larger.readSource place = disk.readSource place := by
  rw [Disk.readSource, Disk.readSource, Disk.readText, Disk.readText,
    adds.before.readBytes_ofPlace stands,
    adds.after.readBytes_ofPlace (adds.kept place _ stands)]

variable (fresh : tree.listing = none) (spared : tree.excludeFault = none)
  (stands : disk.nodeAt tree.root = some .directory) {files more : List Place}
  (found : tree.files? disk = .ok files) (again : tree.files? larger = .ok more)
include fresh spared stands found again

/-- The files that were listed before are those of the new listing that were there. -/
theorem mem_iff {place : Place} :
    place ∈ files ↔ place ∈ more ∧ ∃ bytes, disk.nodeAt place = some (.file bytes) := by
  rw [SourceTree.mem_iff_of_files? adds.before fresh spared stands found,
    SourceTree.mem_iff_of_files? adds.after fresh spared (adds.kept _ _ stands) again]
  constructor
  · rintro ⟨⟨bytes, isFile⟩, source⟩
    exact ⟨⟨⟨bytes, adds.kept place _ isFile⟩, source⟩, bytes, isFile⟩
  · rintro ⟨⟨_, source⟩, isFile⟩
    exact ⟨isFile, source⟩

/-- **What came to the listing cannot be read**, and everything else is read as before. -/
theorem toOption_readSource {place : Place} (member : place ∈ more) :
    (larger.readSource place).toOption =
      if place ∈ files then (disk.readSource place).toOption else none := by
  have told : place ∈ files ↔
      place ∈ more ∧ ∃ bytes, disk.nodeAt place = some (.file bytes) :=
    adds.mem_iff fresh spared stands found again
  by_cases old : place ∈ files
  · obtain ⟨_, bytes, isFile⟩ := told.1 old
    rw [if_pos old, adds.readSource_eq isFile]
  · obtain ⟨⟨bytes, isFile⟩, source⟩ :=
      (SourceTree.mem_iff_of_files? adds.after fresh spared (adds.kept _ _ stands) again).1 member
    have absent : disk.nodeAt place = none := by
      cases there : disk.nodeAt place with
      | none => rfl
      | some node =>
          obtain rfl := Option.some.inj ((adds.kept place node there).symm.trans isFile)
          exact absurd (told.2 ⟨member, bytes, there⟩) old
    rw [if_neg old]
    cases read : larger.readSource place with
    | error failure => rfl
    | ok content => exact absurd read (adds.unreadable place bytes isFile absent source content)

/-- The files that were listed before stand in the new listing in the same order. -/
theorem filter_mem_eq : more.filter (fun place => place ∈ files) = files := by
  obtain ⟨_, listed, lists⟩ := SourceTree.lists_files tree adds.before fresh spared stands
  obtain ⟨_, relisted, relists⟩ :=
    SourceTree.lists_files tree adds.after fresh spared (adds.kept _ _ stands)
  obtain rfl := Except.ok.inj (found.symm.trans listed)
  obtain rfl := Except.ok.inj (again.symm.trans relisted)
  have permuted : (more.filter fun place => place ∈ files).Perm files := by
    refine (List.perm_ext_iff_of_nodup (relists.once.filter _) lists.once).2 fun place => ?_
    rw [List.mem_filter, decide_eq_true_iff]
    refine and_iff_right_of_imp fun member => ?_
    exact ((adds.mem_iff fresh spared stands found again).1 member).1
  exact permuted.eq_of_pairwise' (relists.increasing.filter _) lists.increasing

/-- **Files that cannot be read do not count** for the score. -/
theorem estimateComplexity_eq {Number : Type} [Scalar Number] :
    (estimateComplexity larger tree : Number) = estimateComplexity disk tree := by
  have same : readableTexts larger more = readableTexts disk files := by
    calc readableTexts larger more
        = more.filterMap fun place => if place ∈ files
            then (disk.readSource place).toOption.map String.toList else none := by
          refine List.filterMap_congr fun place member => ?_
          rw [adds.toOption_readSource fresh spared stands found again member]
          split <;> rfl
      _ = (more.filter fun place => place ∈ files).filterMap
            fun place => (disk.readSource place).toOption.map String.toList := by
          simp only [List.filterMap_filter, decide_eq_true_iff]
      _ = readableTexts disk files := by
          rw [adds.filter_mem_eq fresh spared stands found again]
          rfl
  rw [estimateComplexity, estimateComplexity, ← SourceTree.eq_files_of_files? found,
    ← SourceTree.eq_files_of_files? again, same]

/-- **Files that cannot be read are told where they stand in the listing**: those that came to it,
and those that could not be read before. -/
theorem unreadablePlaces_eq :
    unreadablePlaces larger more =
      more.filter fun place => place ∉ files ∨ place ∈ unreadablePlaces disk files := by
  refine List.filter_congr fun place member => ?_
  rw [adds.toOption_readSource fresh spared stands found again member, Bool.eq_iff_iff,
    decide_eq_true_iff, unreadablePlaces, List.mem_filter]
  by_cases old : place ∈ files
  · simp [old]
  · simp [old]

end AddsUnreadable

/-- A tree is listed anew after files came to it that cannot be read: its score is the same, and
the new files are told with those that could not be read before, each once and in the order of the
listing. -/
structure SkipsUnreadable (Number : Type) [Scalar Number] (tree : SourceTree) (disk larger : Disk)
    (files more : List Place) : Prop where
  listed : tree.files? disk = .ok files
  relisted : tree.files? larger = .ok more
  inOrder : files.Sublist more
  score : (estimateComplexity larger tree : Number) = estimateComplexity disk tree
  told : unreadablePlaces larger more =
    more.filter fun place => place ∉ files ∨ place ∈ unreadablePlaces disk files
  /-- So no path is reported twice. -/
  once : ((unreadablePlaces larger more).map tree.relative).Nodup

/-- A tree is judged by a text: its score comes from the branches and the lines of the text, it is
that of every tree which holds the text in a single file, and a file in which the text is written
is read as it is. -/
structure IsJudgedBy (Number : Type) [Scalar Number] (tree : SourceTree) (disk : Disk)
    (joined : String) : Prop where
  score : (estimateComplexity disk tree : Number) =
    complexityScore (SourceText.branches joined.toList) (lineCount joined.toList)
  single : ∀ (single : SourceTree) (other : Disk), single.Holds other [joined] →
    (estimateComplexity disk tree : Number) = estimateComplexity other single
  written : ∀ (other : Disk) (place : Place),
    other.readBytes (Path.ofPlace place) = .ok joined.toUTF8 → other.readSource place = .ok joined

/-- A tree is judged by the contents of its files, joined by line feeds. -/
theorem isJudgedBy_of_holds {tree : SourceTree} {disk : Disk} {contents : List String}
    (some : contents ≠ []) (holds : tree.Holds disk contents) :
    IsJudgedBy Number tree disk ("\n".intercalate contents) := by
  have texts : contents.map String.toList ≠ [] := by simpa using some
  have joined : (estimateComplexity disk tree : Number) =
      complexityOf [("\n".intercalate contents).toList] := by
    rw [estimateComplexity_of_holds holds, complexityOf_intercalate texts,
      String.toList_intercalate]
    rfl
  refine ⟨joined.trans (complexityOf_singleton _), fun single other alone => ?_,
    fun other place written => ?_⟩
  · exact joined.trans (estimateComplexity_of_holds alone).symm
  · obtain ⟨_, places, _, _, read⟩ := holds
    refine Disk.readSource_of_readBytes (not_mem_intercalate fun content member => ?_) written
    obtain ⟨_, _, here⟩ := exists_mem_left read member
    exact Disk.not_mem_of_readSource here

/-- **Complexity is a matter of the text.** A tree of files is judged by the text that their
contents are joined to by line feeds, however it is split among them, and files that cannot be read
change no score, but are told once each. -/
theorem complexity_depends_on_the_text_alone {Number : Type} [Scalar Number] :
    (∀ (contents : List String) (tree : SourceTree) (disk : Disk), contents ≠ [] →
      tree.Holds disk contents → IsJudgedBy Number tree disk ("\n".intercalate contents)) ∧
    ∀ (tree : SourceTree) (disk larger : Disk), AddsUnreadable tree disk larger →
      tree.listing = none → tree.excludeFault = none →
        disk.nodeAt tree.root = some .directory →
          ∃ files more, SkipsUnreadable Number tree disk larger files more := by
  constructor
  · intro contents tree disk some holds
    exact isJudgedBy_of_holds some holds
  · intro tree disk larger adds fresh spared stands
    obtain ⟨files, found, _⟩ := SourceTree.lists_files tree adds.before fresh spared stands
    obtain ⟨more, again, _⟩ :=
      SourceTree.lists_files tree adds.after fresh spared (adds.kept _ _ stands)
    refine ⟨files, more, found, again, ?_, ?_, ?_, ?_⟩
    · rw [← adds.filter_mem_eq fresh spared stands found again]
      exact List.filter_sublist
    · exact adds.estimateComplexity_eq fresh spared stands found again
    · exact adds.unreadablePlaces_eq fresh spared stands found again
    · exact nodup_map_unreadablePlaces adds.after fresh spared (adds.kept _ _ stands) again

/-- The files at the root of a disk. -/
def shardTree : SourceTree := .ofTexts [] [".ts"] []

/-- Two files, of which the first ends its line. -/
def shardDisk : Disk :=
  ⟨⟨[(["a.ts"], .file "if (a)\n".toUTF8), (["b.ts"], .file "b && c".toUTF8)]⟩⟩

/-- The file that they are joined to. -/
def joinedDisk : Disk := ⟨⟨[(["ab.ts"], .file "if (a)\n\nb && c".toUTF8)]⟩⟩

/-- The two files and one that is no text. -/
def largerDisk : Disk := shardDisk.put ["c.ts"] (.file ⟨#[0xff]⟩)

/-- The files at the root are those of the disk with the suffix. -/
theorem shardTree_holds {disk : Disk} (standing : disk.IsTree) {places : List Place}
    (only : disk.filePlaces.filter shardTree.isSource = places) {contents : List String}
    (read : List.Forall₂ (fun place content => disk.readSource place = .ok content) places
      contents) : shardTree.Holds disk contents := by
  refine ⟨_, places, SourceTree.files?_of_directory shardTree standing rfl
    SourceTree.excludeFault_ofTexts rfl, ?_, read⟩
  rw [only]
  exact List.mergeSort_perm places Path.placeLe

/-- The third file comes to the two others, and it cannot be read. -/
theorem largerDisk_addsUnreadable : AddsUnreadable shardTree shardDisk largerDisk where
  before := by decide +kernel
  after := by decide +kernel
  kept place node stands := by
    rw [largerDisk, Disk.nodeAt_put]
    by_cases root : place = []
    · subst root
      exact stands
    · have other : ["c.ts"] ≠ place := by
        rintro rfl
        cases stands
      rw [if_neg root, if_neg other]
      exact stands
  unreadable place bytes isFile absent _ content read := by
    have added : place = ["c.ts"] := by
      by_contra other
      rw [largerDisk, Disk.nodeAt_put, if_neg (Ne.symm other), absent] at isFile
      split at isFile <;> cases isFile
    have fails : (largerDisk.readSource ["c.ts"]).toOption.isNone = true := by decide +kernel
    rw [← added, read] at fails
    cases fails

theorem shards_are_as_complex_as_their_join :
    (shardTree.Holds shardDisk ["if (a)\n", "b && c"] ∧
      shardTree.Holds joinedDisk ["if (a)\n\nb && c"] ∧
      (estimateComplexity shardDisk shardTree : Rat) = estimateComplexity joinedDisk shardTree ∧
      (estimateComplexity shardDisk shardTree : Rat) = complexityScore 2 3) ∧
    AddsUnreadable shardTree shardDisk largerDisk ∧
      ∃ files more, SkipsUnreadable Rat shardTree shardDisk largerDisk files more := by
  obtain ⟨judged, skips⟩ := @complexity_depends_on_the_text_alone Rat _
  have shards : shardDisk.IsTree := by decide +kernel
  have joined : joinedDisk.IsTree := by decide +kernel
  have first : shardDisk.readSource ["a.ts"] = .ok "if (a)\n" :=
    Disk.readSource_of_readBytes (by decide) (shards.readBytes_ofPlace rfl)
  have second : shardDisk.readSource ["b.ts"] = .ok "b && c" :=
    Disk.readSource_of_readBytes (by decide) (shards.readBytes_ofPlace rfl)
  have two : shardDisk.filePlaces.filter shardTree.isSource = [["a.ts"], ["b.ts"]] := by
    decide +kernel
  have one : joinedDisk.filePlaces.filter shardTree.isSource = [["ab.ts"]] := by decide +kernel
  have holds := shardTree_holds shards two (.cons first (.cons second .nil))
  have byText := judged _ _ _ (by decide) holds
  have read := byText.written joinedDisk ["ab.ts"] (joined.readBytes_ofPlace rfl)
  have single := shardTree_holds joined one (.cons read .nil)
  have counted : SourceText.branches "if (a)\n\nb && c".toList = 2 ∧
      lineCount "if (a)\n\nb && c".toList = 3 := by decide +kernel
  refine ⟨⟨holds, single, byText.single _ _ single, ?_⟩, largerDisk_addsUnreadable,
    skips _ _ _ largerDisk_addsUnreadable rfl SourceTree.excludeFault_ofTexts rfl⟩
  rw [← counted.1, ← counted.2]
  exact byText.score

end Triage
