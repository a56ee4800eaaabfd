import RecordMapper.Batch.Report
import RecordMapper.Batch.Run
import RecordMapper.Notice

/-!
# Accounts of runs

A run told as a report and as notices. Nothing here measures time, so every step takes none.
-/
namespace RecordMapper.Batch

open RecordMapper.Validation RecordMapper.Number

/-- The part of the program that checks. -/
def checkSource : String := "mappergen.validators"

/-- The part of the program that generates. -/
def runSource : String := "mappergen.generator"

def noTime : Binary64 := .ofInt 0

def checkNotices (tables : Nat) (c : Checkup) : List Notice := [
  ⟨.info, checkSource, "Starting full validation: " ++ toString tables ++ " table(s)."⟩,
  ⟨.info, checkSource, "Table validation complete: " ++ c.tableReport.summary⟩,
  if c.report.hasErrors then ⟨.error, checkSource, "Validation FAILED. " ++ c.report.summary⟩
  else ⟨.info, checkSource, "Validation PASSED. " ++ c.report.summary⟩]

def checkStep (r : Validation.Report) : Step where
  name := "Validate Input"
  success := r.isValid
  seconds := noTime
  detail :=
    if r.hasErrors then toString r.errors.length ++ " error(s)"
    else if r.hasWarnings then toString r.warnings.length ++ " warning(s)"
    else "all checks passed"

namespace Generation

def step (g : Generation) (created : Nat) : Step where
  name := "Generate & Write"
  success := g.failures.isEmpty
  seconds := noTime
  detail := toString created ++ " file(s) created, " ++ toString g.failures.length ++
    " table(s) failed"

def notices (g : Generation) (created : Nat) : List Notice :=
  g.failures.map (fun f => ⟨.error, runSource,
    (if f.isStorage then "Write" else "Generation") ++ " failed for " ++ f.line⟩) ++
  [⟨.info, runSource, "Generation complete: " ++ toString g.tables ++ " table(s), " ++
    toString created ++ " file(s) created in " ++ noTime.fixed 3 ++ "s."⟩]

end Generation

namespace Run

/-- The failures of generation that satisfy a condition, as lines. -/
def failureLines (run : Run) (which : TableFailure → Bool) : List String :=
  match run.generation with
  | some g => (g.failures.filter which).map TableFailure.line
  | none => []

/-- The report of a run after the given steps. -/
def report (run : Run) (before : List Step) : Report :=
  let checked := run.checkup.report
  let created := run.log.created.length
  Report.concluded {
    Report.blank with
    tables := (run.generation.map Generation.tables).getD 0
    steps := before ++ [checkStep checked] ++
      (run.generation.map fun g => g.step created).toList
    validationErrors := checked.errors.map Finding.line ++
      (if run.warningsCount then ["Warnings treated as errors (fail_on_warnings)."] else [])
    validationWarnings := checked.warnings.map Finding.line
    generationErrors := run.failureLines fun f => !f.isStorage
    writeErrors := run.failureLines TableFailure.isStorage
    log := run.log }

/-- What a run over a number of tables says while it goes on. -/
def notices (run : Run) (tables : Nat) : List Notice :=
  let checked := run.checkup.report
  checkNotices tables run.checkup ++
    checked.errors.map (fun f => ⟨.error, runSource, "  ✗ " ++ f.line⟩) ++
    checked.warnings.map (fun f => ⟨.warning, runSource, "  ⚠ " ++ f.line⟩) ++
    (run.generation.map fun g => g.notices run.log.created.length).getD []

end Run

end RecordMapper.Batch
