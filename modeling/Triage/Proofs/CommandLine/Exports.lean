import Mathlib.Data.List.Nodup
import Triage.CommandLine.Response
import Triage.Proofs.Path
import Triage.Proofs.Report.Leaving

/-!
# Which exports are asked for

A command exports to the paths that follow from its export parameter: itself, or for the analysis
four names below it, at four different places (`nodup_map_exportPlace`).  The parameter is set by
its switch alone, and the switch is read from an argument of its name alone, so where no argument
has that name nothing is exported (`namesExport_of_ofArguments`).
-/

namespace Triage

set_option autoImplicit false

/-! ## The places of exports -/

namespace CommandLine

/-- The names of the reports of an analysis. -/
def reportNames : List String :=
  ["diagnostics.json", "patterns.json", "fix-recommendations.json", "quality.json"]

/-- The paths that a command exports to. -/
def Command.exportPaths (command : Command) : Option Path → List Path
  | none => []
  | some target =>
      match command with
      | .analyze => reportNames.map target.child
      | .patterns | .fixes | .quality | .components => [target]

/-- The place of a path that is seen from a working directory. -/
def exportPlace (directory : Place) (path : Path) : Place :=
  Path.follow [] ((Path.ofPlace directory).join path).names

theorem exportPlace_child (directory : Place) (target : Path) {name : String}
    (plain : name ≠ "..") :
    exportPlace directory (target.child name) = exportPlace directory target ++ [name] := by
  have below : ((Path.ofPlace directory).join (target.child name)).names =
      ((Path.ofPlace directory).join target).names ++ [name] := by
    have same : (target.child name).isAbsolute = target.isAbsolute := rfl
    unfold Path.join
    rw [same]
    split
    · rfl
    · exact (List.append_assoc _ _ _).symm
  rw [exportPlace, below, Path.follow_concat _ _ plain]
  rfl

/-- No two exports of a command have one place. -/
theorem nodup_map_exportPlace (command : Command) (directory : Place) (target : Option Path) :
    ((command.exportPaths target).map (exportPlace directory)).Nodup := by
  cases target with
  | none => exact List.nodup_nil
  | some target =>
      cases command with
      | patterns | fixes | quality | components => exact List.nodup_singleton _
      | analyze =>
          have plain : ∀ name ∈ reportNames, name ≠ ".." := by decide
          have places : ((Command.analyze.exportPaths (some target)).map (exportPlace directory)) =
              reportNames.map fun name => exportPlace directory target ++ [name] := by
            rw [Command.exportPaths, List.map_map]
            exact List.map_congr_left fun name member =>
              exportPlace_child directory target (plain name member)
          rw [places]
          have distinct : reportNames.Nodup := by decide
          refine distinct.map fun first second same => ?_
          exact List.singleton_inj.1 (List.append_cancel_left same)

/-! ## Reading the switch -/

/-- An argument has the name of the export switch, with or without a value. -/
def NamesExport (argument : String) : Prop :=
  String.ofList (Text.cutFirst '=' argument.toList).1 = Switch.exportTo.word

/-- Letters only ever ask for everything to be noted. -/
theorem verbose_of_readLetters {known : List Switch} {letters : List Char} {reading : Reading}
    (read : readLetters known letters = .ok reading) :
    (∀ entry ∈ reading.complete, entry.1 = .verbose) ∧ reading.awaiting = none := by
  induction letters generalizing reading with
  | nil =>
      rw [← Except.ok.inj read]
      exact ⟨nofun, rfl⟩
  | cons c rest ih =>
      rw [readLetters] at read
      split at read
      · cases read
      · next switch found =>
          have lettered : switch.letter? = some c := by
            simpa using List.find?_some found
          obtain rfl : switch = .verbose := by
            cases switch <;> first | rfl | cases lettered
          rw [if_neg (by decide)] at read
          cases further : readLetters known rest with
          | error fault =>
              rw [further] at read
              cases read
          | ok behind =>
              rw [further] at read
              obtain ⟨verbose, complete⟩ := ih further
              rw [← Except.ok.inj read]
              exact ⟨List.forall_mem_cons.2 ⟨rfl, verbose⟩, complete⟩

/-- An argument that brings the export switch has its name. -/
theorem namesExport_of_readSwitch {known : List Switch} {argument : String} {reading : Reading}
    (read : readSwitch known argument.toList = .ok reading)
    (brought : (∃ value, (Switch.exportTo, value) ∈ reading.complete) ∨
      ∃ name, reading.awaiting = some (name, .exportTo)) : NamesExport argument := by
  have named {switch : Switch}
      (found : (known.find? fun switch => switch.word =
        String.ofList (Text.cutFirst '=' argument.toList).1) = some switch)
      (same : switch = .exportTo) : NamesExport argument := by
    have word := List.find?_some found
    rw [same] at word
    exact (of_decide_eq_true word).symm
  unfold readSwitch at read
  simp only at read
  split at read
  · next switch value found _ =>
      split at read
      · rw [← Except.ok.inj read] at brought
        rcases brought with ⟨value, member⟩ | ⟨name, awaiting⟩
        · exact named found (congrArg Prod.fst (List.mem_singleton.1 member)).symm
        · cases awaiting
      · cases read
  · next switch found _ =>
      split at read
      · rw [← Except.ok.inj read] at brought
        rcases brought with ⟨value, member⟩ | ⟨name, awaiting⟩
        · cases member
        · exact named found (congrArg Prod.snd (Option.some.inj awaiting))
      · rw [← Except.ok.inj read] at brought
        rcases brought with ⟨value, member⟩ | ⟨name, awaiting⟩
        · exact named found (congrArg Prod.fst (List.mem_singleton.1 member)).symm
        · cases awaiting
  · cases read
  · obtain ⟨verbose, complete⟩ := verbose_of_readLetters read
    rcases brought with ⟨value, member⟩ | ⟨name, awaiting⟩
    · cases verbose _ member
    · cases complete.symm.trans awaiting
  · cases read

/-- Positional arguments stand among the arguments, and where there is an export switch one of
the arguments names it. -/
structure ReadFrom (written : List String) (arguments : Arguments) : Prop where
  positional : ∀ argument ∈ arguments.positional, argument ∈ written
  exporting : (∃ value, (Switch.exportTo, value) ∈ arguments.switches) →
    ∃ argument ∈ written, NamesExport argument

/-- Switches that come from an argument, in front of what is read from later ones. -/
theorem ReadFrom.withSwitches {rest written : List String} {arguments : Arguments}
    (readFrom : ReadFrom rest arguments) (later : ∀ argument ∈ rest, argument ∈ written)
    {first : String} (among : first ∈ written) {switches : List (Switch × String)}
    (brought : (∃ value, (Switch.exportTo, value) ∈ switches) → NamesExport first) :
    ReadFrom written (arguments.withSwitches switches) where
  positional argument member := later argument (readFrom.positional argument member)
  exporting := by
    rintro ⟨value, member⟩
    rcases List.mem_append.1 member with here | behind
    · exact ⟨first, among, brought ⟨value, here⟩⟩
    · obtain ⟨argument, listed, named⟩ := readFrom.exporting ⟨value, behind⟩
      exact ⟨argument, later argument listed, named⟩

theorem readFrom_of_readArguments {known : List Switch} {positionalEnds : Bool}
    {written : List String} {arguments : Arguments}
    (read : readArguments known positionalEnds written = .ok arguments) :
    ReadFrom written arguments := by
  fun_induction readArguments known positionalEnds written generalizing arguments with
  | case1 =>
      rw [← Except.ok.inj read]
      exact ⟨nofun, nofun⟩
  | case2 rest =>
      rw [← Except.ok.inj read]
      exact ⟨fun argument member => List.mem_cons_of_mem _ member, nofun⟩
  | case3 => cases read
  | case4 first rest _ _ reading switched complete ih =>
      obtain ⟨behind, further, same⟩ := bind_eq_ok.1 read
      obtain rfl := Except.ok.inj same
      refine (ih further).withSwitches (fun _ => List.mem_cons_of_mem _) List.mem_cons_self ?_
      exact fun brought => namesExport_of_readSwitch switched (.inl brought)
  | case5 => cases read
  | case6 first _ _ reading switched name switch awaiting value rest ih =>
      obtain ⟨behind, further, same⟩ := bind_eq_ok.1 read
      obtain rfl := Except.ok.inj same
      refine (ih further).withSwitches
        (fun _ member => List.mem_cons_of_mem _ (List.mem_cons_of_mem _ member))
        List.mem_cons_self ?_
      rintro ⟨value, member⟩
      rcases List.mem_append.1 member with here | last
      · exact namesExport_of_readSwitch switched (.inl ⟨value, here⟩)
      · have same : Switch.exportTo = switch := congrArg Prod.fst (List.mem_singleton.1 last)
        exact namesExport_of_readSwitch switched (.inr ⟨name, by rw [awaiting, ← same]⟩)
  | case7 first rest =>
      rw [← Except.ok.inj read]
      exact ⟨fun _ member => member, nofun⟩
  | case8 first rest _ _ _ ih =>
      obtain ⟨behind, further, same⟩ := bind_eq_ok.1 read
      obtain rfl := Except.ok.inj same
      have readFrom := ih further
      refine ⟨fun argument member => ?_, fun exporting => ?_⟩
      · rcases List.mem_cons.1 member with rfl | among
        · exact List.mem_cons_self
        · exact List.mem_cons_of_mem _ (readFrom.positional argument among)
      · obtain ⟨argument, listed, named⟩ := readFrom.exporting exporting
        exact ⟨argument, List.mem_cons_of_mem _ listed, named⟩

/-! ## Setting the parameter -/

/-- A switch other than its own does not set the export parameter. -/
theorem exportTo_of_set {parameters changed : Parameters} {disk : Disk} {directory : Place}
    {command : Command} {switch : Switch} {value : String} {values : List String}
    (set : parameters.set disk directory command switch value values = .ok changed)
    (other : switch ≠ .exportTo) : changed.exportTo = parameters.exportTo := by
  unfold Parameters.set at set
  cases switch with
  | exportTo => exact absurd rfl other
  | maxDiagnostics | diagnosticsFile | failUnder | limit =>
      obtain ⟨read, _, rest⟩ := bind_eq_ok.1 set
      rw [← Except.ok.inj rest]
  | version | help | includeDependencies | subsystem | verbose => rw [← Except.ok.inj set]

theorem eq_ok_of_atParameter {Read : Type} {name : String} {read : Except ValueFault Read}
    {value : Read} (named : atParameter name read = .ok value) : read = .ok value := by
  cases read with
  | error fault => cases named
  | ok other => rw [Except.ok.inj named]

/-- Without its switch the export parameter is not set. -/
theorem exportTo_of_setAll {parameters changed : Parameters} {disk : Disk} {directory : Place}
    {command : Command} {given : List (Switch × String)} {switches : List Switch}
    (set : parameters.setAll disk directory command given switches = .ok changed)
    (absent : Switch.exportTo ∉ switches) : changed.exportTo = parameters.exportTo := by
  induction switches generalizing parameters with
  | nil => rw [Except.ok.inj set]
  | cons switch rest ih =>
      obtain ⟨between, first, behind⟩ := bind_eq_ok.1 set
      rw [ih behind (List.not_mem_of_not_mem_cons absent)]
      exact exportTo_of_set (eq_ok_of_atParameter first) (List.ne_of_not_mem_cons absent).symm

/-- A command that runs with an export is asked to by an argument behind its name. -/
theorem namesExport_of_request {asked command : Command} {disk : Disk} {directory : Place}
    {written : List String} {parameters : Parameters}
    (made : asked.request disk directory written = .ok (.run command parameters))
    (exporting : parameters.exportTo ≠ none) : ∃ argument ∈ written, NamesExport argument := by
  obtain ⟨arguments, read, made⟩ := bind_eq_ok.1 made
  refine (readFrom_of_readArguments read).exporting ?_
  by_contra absent
  refine exporting ?_
  simp only at made
  split at made
  · cases made
  · obtain ⟨changed, set, made⟩ := bind_eq_ok.1 made
    obtain ⟨root, _, made⟩ := bind_eq_ok.1 made
    split at made
    · cases made
    · have unset : Switch.exportTo ∉ (arguments.switches.map Prod.fst).eraseDups := by
        rw [List.mem_eraseDups, List.mem_map]
        rintro ⟨⟨switch, value⟩, member, rfl⟩
        exact absent ⟨value, member⟩
      cases made
      exact exportTo_of_setAll set unset

/-- Before a command no run is asked for. -/
theorem ne_run_of_earlyRequest {arguments : Arguments} {request : Request}
    (early : earlyRequest? arguments = some request) (command : Command)
    (parameters : Parameters) : request ≠ .run command parameters := by
  unfold earlyRequest? at early
  split at early <;> cases early <;> nofun

/-- **Where no argument names the export switch, no export is asked for.** -/
theorem namesExport_of_ofArguments {disk : Disk} {directory : Place} {arguments : List String}
    {command : Command} {parameters : Parameters}
    (asked : Request.ofArguments disk directory arguments = .ok (.run command parameters))
    (exporting : parameters.exportTo ≠ none) : ∃ argument ∈ arguments, NamesExport argument := by
  obtain ⟨read, early, asked⟩ := bind_eq_ok.1 asked
  have among := (readFrom_of_readArguments early).positional
  split at asked
  · next request first =>
      exact absurd (Except.ok.inj asked) (ne_run_of_earlyRequest first command parameters)
  · split at asked
    · cases asked
    · next name rest written =>
        split at asked
        · obtain ⟨argument, member, named⟩ := namesExport_of_request asked exporting
          rw [written] at among
          exact ⟨argument, among argument (List.mem_cons_of_mem _ member), named⟩
        · obtain ⟨again, _, asked⟩ := bind_eq_ok.1 asked
          split at asked
          · next request later =>
              exact absurd (Except.ok.inj asked) (ne_run_of_earlyRequest later command parameters)
          · cases asked

end CommandLine

end Triage
