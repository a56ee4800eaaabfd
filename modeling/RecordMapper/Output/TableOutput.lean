import RecordMapper.Output.Session
import RecordMapper.Source.Arbitrary
import RecordMapper.Target

/-!
# Output of a table

Writing the model, the spec and the arbitrary trait of one table. Each comes in two forms: one
replaces what is there, the other leaves it alone. A text is made before its file is looked for,
except for the model of a table that is to be skipped.
-/
namespace RecordMapper.Output

open RecordMapper.Config RecordMapper.Schema RecordMapper.Source RecordMapper.View

/-- A table with what decides about its sources. -/
structure TableOutput where
  config : Settings
  table : Table
  className : Option Value

namespace TableOutput

/-- The class name in use. A file cannot be named for anything else than a text. -/
def resolvedName (t : TableOutput) : Except Failure String :=
  Policy.name (classOf t.config t.table t.className)

def model (t : TableOutput) : Except Failure String := modelSource t.config t.table t.className

def spec (t : TableOutput) : Except Failure (Option String) :=
  specSource t.config t.table t.className

def arbitrary (t : TableOutput) : Except Failure String :=
  arbitrarySource t.config t.table t.className

def isSkipped (t : TableOutput) : Bool := t.config.skips t.table.name

/-- A target of the table, one of `Target.model`, `Target.spec` and `Target.arbitrary`. -/
def target (t : TableOutput) (of : Settings → String → Target) : Session Target :=
  return of t.config (← liftM t.resolvedName)

/-- Writes a text to a target. -/
def put (t : TableOutput) (overwrite : Bool) (target : Target) (content : String) : Session Event :=
  let unit : SourceUnit := ⟨target.path, content, target.qualifiedName⟩
  if overwrite then Session.write t.config.encoding unit
  else Session.writeIfAbsent t.config.encoding unit

def writeModel (t : TableOutput) : Session Event := do
  let content ← liftM t.model
  t.put true (← t.target Target.model) content

/-- Writes the model unless its file exists or the table is to be skipped. Answers whether a file
was written. -/
def writeModelIfWanted (t : TableOutput) : Session Bool := do
  if t.isSkipped then
    let target ← t.target Target.model
    if !(← Session.has target.path) then
      let _ ← Session.skipped target.qualifiedName target.path
      return false
  let content ← liftM t.model
  return (← t.put false (← t.target Target.model) content).outcome.wrote

/-- Writes a text that may be missing. -/
def putOptional (t : TableOutput) (overwrite : Bool) (target : Target) (content : Option String) :
    Session Event :=
  match content with
  | none => Session.noOutput target.qualifiedName target.path
  | some content => t.put overwrite target content

/-- The spec, or the given text in its place. -/
def specOr (t : TableOutput) (given : Option String) : Except Failure (Option String) :=
  match given with
  | some text => .ok (some text)
  | none => t.spec

/-- The arbitrary trait, or the given text in its place. -/
def arbitraryOr (t : TableOutput) (given : Option String) : Except Failure String :=
  match given with
  | some text => .ok text
  | none => t.arbitrary

def writeSpec (t : TableOutput) (overwrite : Bool) (given : Option String) : Session Event := do
  let content ← liftM (t.specOr given)
  t.putOptional overwrite (← t.target Target.spec) content

def writeArbitrary (t : TableOutput) (overwrite : Bool) (given : Option String) :
    Session Event := do
  let content ← liftM (t.arbitraryOr given)
  t.putOptional overwrite (← t.target Target.arbitrary) (some content)

end TableOutput

end RecordMapper.Output
