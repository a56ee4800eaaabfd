import RecordMapper.Text.Case
import RecordMapper.Value

/-!
# Validation reports

Findings about an input in the order in which they were made. Only errors make an input invalid.
-/
namespace RecordMapper.Validation

open RecordMapper.Text

inductive Level where
  | error
  | warning
  | info
  deriving DecidableEq, Repr

namespace Level

def label : Level → String
  | error => "error"
  | warning => "warning"
  | info => "info"

def ofLabel? (s : String) : Option Level := [error, warning, info].find? fun l => l.label = s

/-- The mark before a finding in a printed report. -/
def mark : Level → String
  | error => "✗"
  | warning => "⚠"
  | info => "ℹ"

end Level

/-- `context` names what the finding is about. -/
structure Finding where
  level : Level
  code : String
  message : String
  context : List (String × Value)

namespace Finding

def line (f : Finding) : String :=
  "[" ++ upper f.level.label ++ "] " ++ f.code ++ ": " ++ f.message

def toValue (f : Finding) : Value := .mapping [
  ("level", .text f.level.label), ("code", .text f.code), ("message", .text f.message),
  ("context", .mapping f.context)]

/-- The finding in a printed report, followed by its context. -/
def lines (f : Finding) : List String :=
  ("  " ++ f.level.mark ++ " [" ++ f.code ++ "] " ++ f.message) ::
    f.context.map fun (key, value) => "       " ++ key ++ ": " ++ value.display

end Finding

structure Report where
  findings : List Finding

namespace Report

def empty : Report := ⟨[]⟩

def append (r s : Report) : Report := ⟨r.findings ++ s.findings⟩

instance : Append Report := ⟨append⟩

def add (r : Report) (finding : Finding) : Report := ⟨r.findings ++ [finding]⟩

def ofLevel (r : Report) (level : Level) : List Finding :=
  r.findings.filter fun f => f.level = level

def errors (r : Report) : List Finding := r.ofLevel .error

def warnings (r : Report) : List Finding := r.ofLevel .warning

def hasErrors (r : Report) : Bool := !r.errors.isEmpty

def hasWarnings (r : Report) : Bool := !r.warnings.isEmpty

def isValid (r : Report) : Bool := !r.hasErrors

theorem hasErrors_eq_false_iff {r : Report} : r.hasErrors = false ↔ r.errors = [] := by
  simp [hasErrors]

theorem hasWarnings_eq_false_iff {r : Report} : r.hasWarnings = false ↔ r.warnings = [] := by
  simp [hasWarnings]

def summary (r : Report) : String :=
  "Validation: " ++ toString r.errors.length ++ " error(s), " ++ toString r.warnings.length ++
    " warning(s), " ++ toString r.findings.length ++ " total item(s)."

def brief (r : Report) : String := "<ValidationResult " ++ r.summary ++ ">"

/-- The printed report. Information is left out unless it is asked for. -/
def text (r : Report) (withInfo : Bool) : String :=
  let printed := r.findings.filter fun f => withInfo || f.level ≠ .info
  join "\n" ([r.summary, ""] ++ printed.flatMap Finding.lines)

end Report

end RecordMapper.Validation
