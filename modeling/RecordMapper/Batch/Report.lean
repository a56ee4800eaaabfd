import RecordMapper.Number.Decimal
import RecordMapper.Output.Event

/-!
# Run reports

What a run did, step by step, with everything that went wrong, as texts for people.
-/
namespace RecordMapper.Batch

open RecordMapper.Number RecordMapper.Output RecordMapper.Text

/-- One step of a run and how long it took. -/
structure Step where
  name : String
  success : Bool
  seconds : Binary64
  detail : String

structure Report where
  success : Bool
  tables : Nat
  seconds : Binary64
  steps : List Step
  inputErrors : List String
  validationErrors : List String
  validationWarnings : List String
  generationErrors : List String
  writeErrors : List String
  log : Log

namespace Report

def blank : Report :=
  ⟨false, 0, .ofInt 0, [], [], [], [], [], [], .empty⟩

/-- The targets of the tables that settings leave out. -/
def skippedTables (r : Report) : List String :=
  (r.log.withOutcome .skippedBySettings).map Event.target

def rule (c : Char) : String := String.ofList (List.replicate 60 c)

def stepLine (s : Step) : String :=
  "    " ++ (if s.success then "✓" else "✗") ++ " " ++ padRight 28 s.name ++ " " ++
    padLeft 7 (s.seconds.fixed 3) ++ "s  " ++ s.detail

/-- A titled list, nothing when it is empty. -/
def sectionLines (title : String) (items : List String) (mark : String) : List String :=
  if items.isEmpty then []
  else [rule '─', "  " ++ title ++ " (" ++ toString items.length ++ "):"] ++
    items.map fun item => "    " ++ mark ++ " " ++ item

def headLines (r : Report) : List String := [
  rule '=', "  mappergen - Generation Report", rule '=',
  "  Status:           " ++ (if r.success then "SUCCESS" else "FAILED"),
  "  Tables processed: " ++ toString r.tables,
  "  Files created:    " ++ toString r.log.created.length,
  "  Total bytes:      " ++ grouped r.log.totalBytes,
  "  Total time:       " ++ r.seconds.fixed 3 ++ "s",
  rule '─']

def summary (r : Report) : String :=
  join "\n" (r.headLines ++
    (if r.steps.isEmpty then [] else "  Pipeline Steps:" :: r.steps.map stepLine) ++
    sectionLines "Input Errors" r.inputErrors "✗" ++
    sectionLines "Validation Errors" r.validationErrors "✗" ++
    sectionLines "Validation Warnings" r.validationWarnings "⚠" ++
    sectionLines "Generation Errors" r.generationErrors "✗" ++
    sectionLines "Write Errors" r.writeErrors "✗" ++
    sectionLines "Skipped Tables" r.skippedTables "⊘" ++
    [rule '='])

/-- Whether nothing went wrong. -/
def isClean (r : Report) : Bool :=
  r.inputErrors.isEmpty && r.validationErrors.isEmpty && r.generationErrors.isEmpty &&
    r.writeErrors.isEmpty

/-- The report with its verdict. -/
def concluded (r : Report) : Report := { r with success := r.isClean }

end Report

end RecordMapper.Batch
