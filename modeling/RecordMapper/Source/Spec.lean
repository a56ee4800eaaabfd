import RecordMapper.Source.Imports
import RecordMapper.Source.SpecBody
import RecordMapper.Source.Statement

/-!
# Test specs

A spec is the body of its framework with the placeholders filled in one after another. A framework
that is not known has no spec.
-/
namespace RecordMapper.Source

open RecordMapper.Text RecordMapper.View RecordMapper.Config RecordMapper.Schema

/-- The framework that a configuration asks for, if it is a known one. -/
def framework? (config : Settings) : Option TestFramework := Choice.parse? config.testTemplate

def specClassName (className : String) (isAbstract : Bool) : String :=
  (if isAbstract then "Abstract" ++ className else className) ++ "Spec"

/-- What stands for each placeholder, in the order of replacement. The samples of the key are joined
to each other, all others are shown. -/
def placeholderValues (config : Settings) (v : TableView) :
    Except Failure (List (Placeholder × String)) := do
  let style := Style.of config.template
  v.demandTypes
  Demand.isText v.classAnswer
  let baseTypes ← policyClause config.specBaseTypes v "with"
  Demand.each Demand.isText (← v.key.mapM ColumnView.sampleAnswer)
  Demand.each ColumnView.demandSample v.createFields
  return [
    (.package, config.package),
    (.timeImport, join "\n" (timeImports config v)),
    (.additionalImport, join "\n" (importLines config.specImports)),
    (.modifier, if config.abstractSpec then "abstract " else ""),
    (.specClassName, specClassName v.className config.abstractSpec),
    (.className, v.className),
    (.baseTypes, baseTypes),
    (.primaryKeys, join ", " (v.key.map ColumnView.sample)),
    (.syntaxObject, style.syntaxObject v),
    (.whereExample, (style.whereExample? v).getD ""),
    (.createFields,
      join ", " (v.createFields.map fun c => c.fieldName ++ " = " ++ c.sample))]

/-- Fills in placeholders one after another; a value is searched for the later ones as well. -/
def substitute (values : List (Placeholder × String)) (body : String) : String :=
  values.foldl (fun text entry => replaceAll entry.1.token entry.2 text) body

/-- The spec source of a table, nothing for an unknown framework. -/
def specSource (config : Settings) (table : Table) (className : Option Value) :
    Except Failure (Option String) := do
  match framework? config with
  | none => return none
  | some framework =>
    let values ← placeholderValues config (TableView.of config table className)
    return some (withLineBreak config.eol (substitute values (specBody framework)))

end RecordMapper.Source
