import RecordMapper.Schema.Table
import RecordMapper.View.Column

/-!
# Tables in generated code

Everything the emitters derive from a table and a configuration. All of them start from one view,
so they agree on names, types and the subsets of columns.
-/
namespace RecordMapper.View

open RecordMapper.Config RecordMapper.Schema

structure TableView where
  table : Table
  classAnswer : Value
  syntaxAnswer : Value
  variableAnswer : Value
  columns : List ColumnView
  key : List ColumnView
  insert : List ColumnView
  update : List ColumnView
  autoIncrement : List ColumnView

/-- The class of a table: an explicit one that is given, or the answer of the policy. -/
def classOf (config : Settings) (table : Table) (explicit : Option Value) : Value :=
  match explicit with
  | some name => if name.isGiven then name else config.className table.name
  | none => config.className table.name

/-- The last view with a name. -/
def viewNamed? (views : List ColumnView) (name : String) : Option ColumnView :=
  views.reverse.find? fun v => v.name = name

/-- The views of columns by their names. Every column of a table's subsets has one. -/
def pick (views : List ColumnView) (columns : List Column) : List ColumnView :=
  columns.filterMap fun c => viewNamed? views c.name

namespace TableView

def of (config : Settings) (table : Table) (explicit : Option Value) : TableView :=
  let classAnswer := classOf config table explicit
  let views := table.columns.map (ColumnView.of config classAnswer)
  { table, classAnswer
    syntaxAnswer := config.syntaxName table.name
    variableAnswer := config.syntaxVariable table.name
    columns := pick views table.columns
    key := pick views table.keyColumns
    insert := pick views table.insertColumns
    update := pick views table.updateColumns
    autoIncrement := pick views table.autoIncrement }

def className (v : TableView) : String := v.classAnswer.display

def syntaxName (v : TableView) : String := v.syntaxAnswer.display

def syntaxVariable (v : TableView) : String := v.variableAnswer.display

def tableName (v : TableView) : String := v.table.name

/-- The schema when it is given and not empty. -/
def schema? (v : TableView) : Option String := v.table.schema.filter fun s => !s.isEmpty

/-- The table with its schema. -/
def qualifiedName (v : TableView) : String :=
  match v.schema? with
  | some schema => schema ++ "." ++ v.tableName
  | none => v.tableName

/-- The column that takes the key generated by an insert. -/
def generatedKey? (v : TableView) : Option ColumnView := v.autoIncrement.head?

def isInserted (v : TableView) (c : ColumnView) : Bool := c.name ∈ v.insert.map ColumnView.name

/-- The required arguments of `create`. -/
def createFields (v : TableView) : List ColumnView :=
  v.columns.filter fun c => c.isNotNull && v.isInserted c

/-- The distinct raw types in column order. -/
def rawTypes (v : TableView) : List String := (v.columns.map ColumnView.rawType).eraseDups

/-- The distinct raw types as they are. -/
def typeAnswers (v : TableView) : Except Failure (List Value) :=
  return Value.distinct (← v.columns.mapM ColumnView.typeAnswer)

/-- All types are found and can be looked up among those that need an import. -/
def demandTypes (v : TableView) : Demand := do
  Demand.each Demand.isKey (← v.typeAnswers)

def brief (v : TableView) : String :=
  "<TableView " ++ v.tableName ++ " → " ++ v.className ++ ">"

end TableView

end RecordMapper.View
