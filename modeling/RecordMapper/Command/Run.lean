import RecordMapper.Batch.FileRun
import RecordMapper.Command.Arguments
import RecordMapper.Disk.File

/-!
# The command

A run of the command from its argument words and the disk it starts on to an exit code, two texts
and the disk it leaves. Every failure of the input gives an exit code; only a failure that bad input
does not explain, or a manifest that cannot be written, ends the run without one.
-/
namespace RecordMapper.Command

open RecordMapper.Batch RecordMapper.Config RecordMapper.Disk RecordMapper.Output
open RecordMapper.Schema RecordMapper.Text RecordMapper.Validation

structure Outcome where
  exit : Nat
  stdout : String
  stderr : String
  deriving DecidableEq, Repr

namespace Exit

def success : Nat := 0

def validation : Nat := 1

def generation : Nat := 2

def write : Nat := 3

def input : Nat := 4

/-- Words that make no sense. -/
def misuse : Nat := 2

end Exit

def versionText : String := "mappergen v1.0.0"

/-- The part of the program that speaks for the command. -/
def commandSource : String := "mappergen"

def info (text : String) : Notice := ⟨.info, commandSource, text⟩

def failing (text : String) : Notice := ⟨.error, commandSource, text⟩

/-- Lines with their ends. -/
def printed (lines : List String) : String := String.join (lines.map (· ++ "\n"))

namespace Arguments

/-- The least weight of notices that are shown. -/
def threshold (a : Arguments) : Weight :=
  if a.quiet then .error else if a.verbosity = 0 then .warning else .info

/-- The text of the notices that are shown. -/
def tell (a : Arguments) (notices : List Notice) : String :=
  printed ((notices.filter (Notice.atLeast a.threshold)).map Notice.line)

/-- The settings that options replace. -/
def overrides (a : Arguments) : List (String × Value) :=
  let given (key : String) (value : Option String) : List (String × Value) :=
    (value.map fun s => (key, Value.text s)).toList
  given "src_dir" a.sourceDir ++ given "test_dir" a.testDir ++ given "package_name" a.package ++
    given "template" a.template ++ given "test_template" a.testTemplate

def options (a : Arguments) : Batch.Options where
  force := a.force
  withSpecs := !a.noSpec
  withArbitraries := !a.noArbitrary
  strict := !a.noStrict
  failOnWarnings := a.failOnWarnings

/-- The explicit class name, unless it is empty. -/
def givenClassName (a : Arguments) : Option String := a.className.filter fun s => !s.isEmpty

/-- A class name goes with exactly one table. -/
def isConsistent (a : Arguments) : Bool := a.givenClassName.isNone || a.tables.length = 1

end Arguments

/-- The last table with a name, where case does not matter. -/
def tableNamed? (tables : List Table) (name : String) : Option Table :=
  tables.reverse.find? fun t => lower t.name = lower name

/-- The requested tables in the order of the requests; all of them without a request. -/
def selectTables (requested : List String) (tables : List Table) : Except Failure (List Table) :=
  if requested.isEmpty then .ok tables
  else
    let unknown := requested.filter fun name => (tableNamed? tables name).isNone
    if unknown.isEmpty then .ok (requested.filterMap (tableNamed? tables))
    else .error (.unknownTables unknown)

/-- The input file as an absolute path. -/
def inputPath (a : Arguments) (disk : Disk) : Except Failure Path :=
  let path := disk.resolve (Path.ofString (a.input.getD ""))
  if path.parts.any hasNul then .error .nulInPath else .ok path

/-- The input that the options leave of a document. -/
def inputOf (a : Arguments) (document : Value) : Except Failure Input := do
  let input ← Input.ofDocument document
  let config ← if a.overrides.isEmpty then pure input.config
    else input.config.withOverrides a.overrides
  return { tables := ← selectTables a.tables input.tables, config }

def loadDocument (a : Arguments) (disk : Disk) : Except Failure Value := do
  InputFile.read disk (← inputPath a disk)

def load (a : Arguments) (disk : Disk) : Except Failure Input := do
  inputOf a (← loadDocument a disk)

/-- What is said while the input is loaded. -/
def loadNotices (a : Arguments) (disk : Disk) : List Notice :=
  match inputPath a disk with
  | .error _ => []
  | .ok path => InputFile.notices disk path ++
    match InputFile.read disk path with
    | .ok document => Input.notices document
    | .error _ => []

/-- What is said about loaded input. -/
def inputNotices (a : Arguments) (input : Input) : List Notice := [
  info ("Input:   " ++ a.input.getD ""),
  info ("Tables:  " ++ toString input.tables.length),
  info ("Force:   " ++ (Value.bool a.force).shown)]

def checkReport (tables : Nat) (r : Validation.Report) : String :=
  let rule := String.ofList (List.replicate 50 '=')
  printed [
    "\n" ++ rule, "  Input Validation Report", rule,
    "  Tables:   " ++ toString tables,
    "  Time:     " ++ noTime.fixed 3 ++ "s",
    "  Valid:    " ++ (if r.isValid then "Yes" else "No"),
    "", r.text false, rule ++ "\n"]

/-- Checks the input and reports on it. -/
def runCheck (a : Arguments) (input : Input) : Except Failure Outcome := do
  let checkup ← check input.tables input.config
  let report := checkup.report
  return {
    exit := if report.isValid then Exit.success else Exit.validation
    stdout := checkReport input.tables.length report
    stderr := a.tell (checkNotices input.tables.length checkup) }

/-- The models of tables one after another, and the failure that ends them. -/
def echoTables (config : Settings) (className : Option Value) :
    List Table → String × Option TableFailure
  | [] => ("", none)
  | table :: rest =>
    match (TableOutput.mk config table className).model with
    | .error cause => ("", some ⟨table.name, cause⟩)
    | .ok source =>
      let (more, failure) := echoTables config className rest
      (source ++ more, failure)

/-- Prints models without writing anything. -/
def runEcho (a : Arguments) (input : Input) : Outcome :=
  match echoTables input.config (a.className.map .text) input.tables with
  | (text, none) => ⟨Exit.success, text, ""⟩
  | (text, some failure) => ⟨Exit.generation, text,
      a.tell [failing ("Generation failed for " ++ failure.table ++ ": " ++ failure.cause.message)]⟩

/-- The class name for the selected table. -/
def classNames (a : Arguments) (input : Input) : ClassNames :=
  match a.givenClassName, input.tables with
  | some name, table :: _ => [(table.name, .text name)]
  | _, _ => []

def exitOf (r : Batch.Report) : Nat :=
  if r.success then Exit.success
  else if !r.validationErrors.isEmpty then Exit.validation
  else if !r.writeErrors.isEmpty then Exit.write
  else Exit.generation

/-- Writes the manifest when one is asked for. -/
def writeManifest (a : Arguments) (log : Log) : Change (List Notice) := do
  match a.manifest.filter fun s => !s.isEmpty with
  | none => return []
  | some name =>
    let _ ← writeText "utf-8" (Path.ofString name) (log.manifest (some 2))
    return [info ("Manifest written to " ++ name)]

def conclusion (exit : Nat) : Notice :=
  if exit = Exit.success then info "Generation completed successfully."
  else failing ("Generation failed with exit code " ++ toString exit ++ ".")

/-- Writes sources, reports on them and writes the manifest. -/
def runGeneration (a : Arguments) (input : Input) (disk : Disk) : Except Failure Outcome × Disk :=
  match Run.perform a.options input.tables input.config (classNames a input) disk with
  | (.error failure, disk) => (.error failure, disk)
  | (.ok run, disk) =>
    match (writeManifest a run.log).on disk with
    | (.error failure, disk) => (.error failure, disk)
    | (.ok manifestNotices, disk) =>
      let report := run.report []
      let exit := exitOf report
      (.ok {
        exit
        stdout := if a.quiet then "" else printed run.log.messages
        stderr := a.tell (run.notices input.tables.length) ++
          (if a.quiet then "" else printed [report.summary]) ++
          a.tell (manifestNotices ++ [conclusion exit]) }, disk)

/-- Puts a text before what an outcome says. -/
def Outcome.after (text : String) (o : Outcome) : Outcome := { o with stderr := text ++ o.stderr }

/-- The mode that the arguments ask for. -/
def runMode (a : Arguments) (input : Input) (disk : Disk) : Except Failure Outcome × Disk :=
  if a.validateOnly then (runCheck a input, disk)
  else if a.echo then (.ok (runEcho a input), disk)
  else runGeneration a input disk

def runArguments (a : Arguments) (disk : Disk) : Except Failure Outcome × Disk :=
  if !a.isConsistent then
    (.ok ⟨Exit.input, "", a.tell [failing "--class-name requires exactly one --table."]⟩, disk)
  else
    let loading := a.tell (loadNotices a disk)
    match load a disk with
    | .error failure =>
      if failure.isBadInput then
        (.ok ⟨Exit.input, "",
          loading ++ a.tell [failing ("Failed to load input: " ++ failure.message)]⟩, disk)
      else (.error failure, disk)
    | .ok input =>
      let (result, disk) := runMode a input disk
      (result.map (Outcome.after (loading ++ a.tell (inputNotices a input))), disk)

/-- A run of the command. -/
def run (words : List String) (disk : Disk) : Except Failure Outcome × Disk :=
  match Arguments.parse words with
  | .ok a => runArguments a disk
  | .error .help => (.ok ⟨Exit.success, printed [helpText], ""⟩, disk)
  | .error .version => (.ok ⟨Exit.success, printed [versionText], ""⟩, disk)
  | .error (.misuse cause) =>
    (.ok ⟨Exit.misuse, "", printed ["mappergen: error: " ++ cause.message]⟩, disk)

end RecordMapper.Command
