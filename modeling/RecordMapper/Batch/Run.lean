import RecordMapper.Output.TableOutput
import RecordMapper.Validation.Checkup

/-!
# Runs

A run checks its input and then writes the sources of one table after another. A table that fails
does not stop the others. Without force, the spec and the arbitrary trait are written only next to
a model that was just written.
-/
namespace RecordMapper.Batch

open RecordMapper.Config RecordMapper.Schema RecordMapper.Output RecordMapper.Validation

structure Options where
  force : Bool
  withSpecs : Bool
  withArbitraries : Bool
  strict : Bool
  failOnWarnings : Bool
  deriving DecidableEq, Repr

def Options.default : Options := ⟨false, true, true, true, false⟩

/-- Explicit class names by table name. -/
abbrev ClassNames := List (String × Value)

/-- Writes the model, and answers whether its companions are wanted. -/
def writeModel (options : Options) (t : TableOutput) : Session Bool := do
  if options.force then
    if t.isSkipped then
      let target ← t.target Target.model
      let _ ← Session.skipped target.qualifiedName target.path
      return false
    let _ ← t.writeModel
    return true
  else t.writeModelIfWanted

/-- The sources of one table. -/
def writeTable (options : Options) (t : TableOutput) : Session Unit := do
  if ← writeModel options t then
    if options.withSpecs then
      let _ ← t.writeSpec options.force none
    if options.withArbitraries then
      let _ ← t.writeArbitrary options.force none

/-- What ended the work on one table. -/
structure TableFailure where
  table : String
  cause : Failure

namespace TableFailure

def line (f : TableFailure) : String := f.table ++ ": " ++ f.cause.report

def isStorage (f : TableFailure) : Bool := f.cause.kind.isStorage

end TableFailure

/-- The sources of all tables, and the tables that failed. -/
def writeTables (options : Options) (config : Settings) (classNames : ClassNames) :
    List Table → Workspace → List TableFailure × Workspace
  | [], w => ([], w)
  | table :: rest, w =>
    match (writeTable options ⟨config, table, classNames.lookup table.name⟩).on w with
    | (.ok _, w) => writeTables options config classNames rest w
    | (.error cause, w) =>
      let (failures, w) := writeTables options config classNames rest w
      (⟨table.name, cause⟩ :: failures, w)

/-- What generation came to. -/
structure Generation where
  tables : Nat
  failures : List TableFailure

/-- A run over checked input. Generation is missing when the checks stopped the run. -/
structure Run where
  checkup : Checkup
  warningsCount : Bool
  generation : Option Generation
  log : Log

namespace Run

/-- Whether warnings alone make the input fail. -/
def failsOnWarnings (options : Options) (r : Validation.Report) : Bool :=
  !r.hasErrors && r.hasWarnings && options.failOnWarnings

def passes (options : Options) (r : Validation.Report) : Bool :=
  !r.hasErrors && !failsOnWarnings options r

/-- Checks the input and, if the checks allow it, writes the sources. -/
def perform (options : Options) (tables : List Table) (config : Settings)
    (classNames : ClassNames) (disk : Disk) : Except Failure Run × Disk :=
  match check tables config with
  | .error failure => (.error failure, disk)
  | .ok checkup =>
    let warningsCount := failsOnWarnings options checkup.report
    if passes options checkup.report || !options.strict then
      let (failures, w) := writeTables options config classNames tables ⟨disk, .empty⟩
      (.ok ⟨checkup, warningsCount, some ⟨tables.length, failures⟩, w.log⟩, w.disk)
    else (.ok ⟨checkup, warningsCount, none, .empty⟩, disk)

end Run

end RecordMapper.Batch
