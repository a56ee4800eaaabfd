import RecordMapper.Source.Layout
import RecordMapper.View.Table

/-!
# Imports and base types

The import lines that follow from the types of a table, and the clauses that add base types to a
declaration.
-/
namespace RecordMapper.Source

open RecordMapper.Text RecordMapper.View RecordMapper.Config

def compatImport : String := "import scala.collection.compat._"

def libraryImport : String := "import scalikejdbc._"

def jodaBinderImports : List String := [
  "import scalikejdbc.jodatime.JodaParameterBinderFactory._",
  "import scalikejdbc.jodatime.JodaTypeBinder._"]

/-- Several names in braces. -/
def selector (names : List String) : String := "\x7b" ++ join ", " names ++ "\x7d"

/-- The date and time types of a table's columns. -/
def timeNames (v : TableView) : List String := v.rawTypes.filter (· ∈ ScalaType.timeTypes)

def sqlNames (v : TableView) : List String := v.rawTypes.filter (· ∈ ScalaType.sqlTypes)

/-- The import of date and time types from the configured family, in braces when there are
several; one of the families needs binders as well. -/
def timeImports (config : Settings) (v : TableView) : List String :=
  let line (names : String) : List String :=
    ("import " ++ config.dateTimeClass.package ++ "." ++ names) ::
      (if config.dateTimeClass.isJoda then jodaBinderImports else [])
  match timeNames v with
  | [] => []
  | [name] => line name
  | names => line (selector names)

/-- The import of types of the database interface. -/
def sqlImports (v : TableView) : List String :=
  match sqlNames v with
  | [] => []
  | names => ["import java.sql." ++ selector names]

def importLines (imports : List String) : List String := imports.map ("import " ++ ·)

/-- The clause that adds types after a keyword, with the class name filled in. It ends in a space;
without types it is empty. -/
def withClause (types : List String) (className keyword : String) : String :=
  match types with
  | [] => ""
  | _ => keyword ++ " " ++ join " with " (types.map (replaceAll "$className" className)) ++ " "

/-- A type with the class to be filled in; both have to be texts. -/
def clauseType (classAnswer : Value) : Value → Except Failure String
  | .text type => do
    Demand.isText classAnswer
    return type
  | other => .error (.noMember other.typeName "replace")

/-- The clause for the types that a policy gives a table. -/
def policyClause (policy : Policy) (v : TableView) (keyword : String) : Except Failure String := do
  let types ← (← Policy.items (policy v.tableName)).mapM (clauseType v.classAnswer)
  return withClause types v.className keyword

end RecordMapper.Source
