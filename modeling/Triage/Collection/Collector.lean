import Triage.Collection.Conversion
import Triage.Collection.FeatureHealth
import Triage.Collection.Report
import Triage.Compiler.Outcome
import Triage.Journal
import Triage.Json.Reader
import Triage.Limit

/-!
# Collecting diagnostics

Records come from the compiler, from a JSON file, or from a list.  Each is checked and
classified; malformed records and, unless they are wanted, diagnostics inside
dependencies are counted and dropped, and only then is the limit applied, so neither
kind uses it up.
-/

namespace Triage

set_option autoImplicit false

variable {Number : Type}

/-- Where records come from. -/
inductive DiagnosticSource where
  | records (given : List RawDiagnostic)
  /-- A JSON file: the path as it was given, and the directory that it is seen from. -/
  | file (path : Path) (directory : Place)
  /-- The compiler of the project, one of the programs. -/
  | compiler (programs : Programs)

/-! ## Reading records -/

/-- The records in the text of a JSON file: those of its list, or of the list under the
key `diagnostics` of its table. -/
def recordsOfJson (text : String) : Except Failure (List RawDiagnostic) :=
  match Json.read text.toList with
  | .error misread =>
      match misread.fault with
      | .numberTooLong => .error .invalidValue
      | .nestedTooDeep => .error .nestedTooDeep
      | _ => .error (.configuration (.diagnosticsInvalid (misread.message text.toList)))
  | .ok value =>
      let listed := match value with
        | .table fields => (OrderedMap.findIn "diagnostics" fields).getD (.list [])
        | other => other
      match listed with
      | .list items => items.mapM RawDiagnostic.ofValue
      | _ => .error (.configuration .diagnosticsNotAList)

/-- The records of a JSON file. -/
def recordsOfFile (disk : Disk) (path : Path) (directory : Place) :
    Except Failure (List RawDiagnostic) := do
  let absolute := (Path.ofPlace directory).join path
  if !(← disk.isFile? absolute) then throw (.configuration (.diagnosticsMissing path.text))
  recordsOfJson (← disk.readText absolute)

/-- Run the compiler of the project at `root` and read its records. -/
def runCompiler (programs : Programs) (disk : Disk) (root : Place) (profile : Profile) :
    Run (List RawDiagnostic) := do
  let invocation ← (profile.invocation disk (Path.ofPlace root) : Except Failure Invocation)
  Run.info ("Running compiler: " ++ " ".intercalate invocation.words)
  invocation.checkWords
  let (outcome, _) := programs.run disk root profile.timeoutSeconds invocation.words
  outcome.records invocation profile.timeoutSeconds

/-- The disk that the compiler of the project at `root` leaves, whether or not its records
can be read.  A compiler that is not run leaves the disk as it was. -/
def diskAfterCompiler (programs : Programs) (disk : Disk) (root : Place) (profile : Profile) :
    Disk :=
  let command : Except Failure (List String) := do
    let invocation ← profile.invocation disk (Path.ofPlace root)
    invocation.checkWords
    return invocation.words
  match command with
  | .ok words => (programs.run disk root profile.timeoutSeconds words).2
  | .error _ => disk

/-- The records of a source. -/
def DiagnosticSource.read (disk : Disk) (root : Place) (profile : Profile) :
    DiagnosticSource → Run (List RawDiagnostic)
  | .records given => pure given
  | .file path directory => recordsOfFile disk path directory
  | .compiler programs => runCompiler programs disk root profile

/-- The disk after the records of a source have been read. -/
def DiagnosticSource.diskAfter (disk : Disk) (root : Place) (profile : Profile) :
    DiagnosticSource → Disk
  | .compiler programs => diskAfterCompiler programs disk root profile
  | _ => disk

/-! ## Sorting records -/

/-- Diagnostics and the counts of dropped records. -/
structure SortedRecords where
  converted : List Diagnostic := []
  skipped : Nat := 0
  excluded : Nat := 0
deriving Inhabited

/-- Convert records in their order, and count those that are dropped.  Any failure that
is not one of a single record ends the collection. -/
def sortRecords (root : Place) (profile : Profile) (options : Options Number) :
    List RawDiagnostic → Except Failure SortedRecords
  | [] => .ok {}
  | raw :: rest =>
      match raw.convert root profile options.subsystems with
      | .ok diagnostic => do
          let sorted ← sortRecords root profile options rest
          if !options.includeDependencies && isDependency diagnostic.file.display then
            return { sorted with excluded := sorted.excluded + 1 }
          else return { sorted with converted := diagnostic :: sorted.converted }
      | .error (.conversion _) => do
          let sorted ← sortRecords root profile options rest
          return { sorted with skipped := sorted.skipped + 1 }
      | .error failure => .error failure

/-- The first diagnostics up to a limit. -/
def keepLimited (limit : Option Int) (diagnostics : List Diagnostic) : List Diagnostic :=
  match limit with
  | none => diagnostics
  | some limit => takeLimited limit diagnostics

/-- The report of records that have been sorted. -/
def reportOf (disk : Disk) (tree : SourceTree) (options : Options Number)
    (records : List RawDiagnostic) (sorted : SortedRecords) : CollectionReport :=
  let kept := keepLimited options.maxDiagnostics sorted.converted
  { projectRoot := Path.ofPlace tree.root
    diagnostics := kept
    totalRaw := records.length
    truncated := sorted.converted.length - kept.length
    skipped := sorted.skipped
    excludedDependencies := sorted.excluded
    featureHealth := featureHealth disk tree options.subsystems
    unreadableFiles := (unreadableFeatures disk tree options.subsystems).map tree.relative
    sourceFileCount := (tree.files disk).length }

/-- The report of a list of records. -/
def collectRecords (disk : Disk) (tree : SourceTree) (profile : Profile)
    (options : Options Number) (records : List RawDiagnostic) :
    Except Failure CollectionReport := do
  let sorted ← sortRecords tree.root profile options records
  return reportOf disk tree options records sorted

/-- Sort records into a report, and note what was dropped and what could not be read. -/
def reportRecords (disk : Disk) (tree : SourceTree) (profile : Profile)
    (options : Options Number) (records : List RawDiagnostic) : Run CollectionReport := do
  let report ← (collectRecords disk tree profile options records : Except Failure _)
  if report.skipped ≠ 0 then
    Run.info ("Skipped " ++ toString report.skipped ++ " malformed diagnostics")
  if report.truncated ≠ 0 then
    Run.warn ("Diagnostic output truncated to " ++ toString (options.maxDiagnostics.getD 0) ++
      " records (" ++ toString report.truncated ++ " dropped)")
  noteFeatures disk tree .empty options.subsystems
  discard (tree.files? disk : Except Failure (List Place))
  return report

/-- Collect the diagnostics of the project that `tree` is the source tree of. -/
def collect (disk : Disk) (tree : SourceTree) (profile : Profile) (options : Options Number)
    (source : DiagnosticSource) : Run CollectionReport := do
  let records ← source.read disk tree.root profile
  reportRecords (source.diskAfter disk tree.root profile) tree profile options records

end Triage
