import RecordMapper.Naming.Identifier
import RecordMapper.Validation.Issue

/-!
# Checks of names

Tables and columns are checked under the names that a configuration gives them: names have to be
identifiers, and different things must not come out under one name.
-/
namespace RecordMapper.Validation

open RecordMapper.Config RecordMapper.Schema

/-- Different names in ascending order. -/
def distinctSorted (names : List String) : List String :=
  names.eraseDups.mergeSort fun a b => decide (a ≤ b)

/-- The names that are mapped to an image. -/
def mappedTo (image : String) (pairs : List (String × String)) : List String :=
  distinctSorted ((pairs.filter fun pair => pair.2 = image).map Prod.fst)

/-- The images of more than one name, in the order in which they first occur. -/
def collisions (pairs : List (String × String)) : List (String × List String) :=
  ((pairs.map Prod.snd).eraseDups.map fun image => (image, mappedTo image pairs)).filter
    fun collision => 1 < collision.2.length

/-- The class name that the policy gives to a table, if it is an identifier. -/
def acceptedClassName (config : Settings) (table : Table) : Except Failure (Option String) :=
  match config.className table.name with
  | .text name => .ok (if Naming.isPlainIdentifier name then some name else none)
  | answer => if answer.isGiven then .error .wrongType else .ok none

/-- Issues of the tables after the ones with the given names, each by itself. -/
def classNameIssues (config : Settings) (seen : List String) :
    List Table → Except Failure (List Issue)
  | [] => return []
  | table :: rest => do
    let accepted ← acceptedClassName config table
    let later ← classNameIssues config (table.name :: seen) rest
    return (if table.name ∈ seen then [.duplicateTable table.name] else []) ++
      (if accepted.isNone then [.invalidClassName table.name (config.className table.name)]
        else []) ++ later

/-- The tables with an accepted class name, and that name. -/
def acceptedClassNames (config : Settings) (tables : List Table) :
    Except Failure (List (String × String)) := do
  let pairs ← tables.mapM fun table => do
    return (← acceptedClassName config table).map fun name => (table.name, name)
  return pairs.filterMap id

/-- Tables are defined once, and their class names are identifiers of one table each. -/
def checkTableNames (tables : List Table) (config : Settings) : Except Failure (List Issue) := do
  let single ← classNameIssues config [] tables
  let accepted ← acceptedClassNames config tables
  return single ++ (collisions accepted).map fun (name, tables) => .classNameCollision name tables

/-- Issues of the columns after the ones with the given names, each by itself. -/
def fieldNameIssues (config : Settings) (table : String) (seen : List String) :
    List Column → Except Failure (List Issue)
  | [] => return []
  | column :: rest => do
    let fieldName ← Policy.name (config.fieldName column.name)
    let later ← fieldNameIssues config table (column.name :: seen) rest
    return (if column.name ∈ seen then [.duplicateColumn table column.name] else []) ++
      (if Naming.isIdentifier fieldName then []
        else [.invalidFieldName table column.name fieldName]) ++ later

/-- The columns with their field names. -/
def fieldNames (config : Settings) (columns : List Column) :
    Except Failure (List (String × String)) :=
  columns.mapM fun column => do
    return (column.name, ← Policy.name (config.fieldName column.name))

/-- A table has columns, each defined once, and their field names are identifiers of one column
each. -/
def checkColumnsOf (config : Settings) (table : Table) : Except Failure (List Issue) := do
  if table.columns.isEmpty then return [.noColumns table.name]
  let single ← fieldNameIssues config table.name [] table.columns
  let names ← fieldNames config table.columns
  return single ++ (collisions names).map fun (name, columns) =>
    .fieldNameCollision table.name name columns

def checkColumnNames (tables : List Table) (config : Settings) : Except Failure (List Issue) :=
  return (← tables.mapM (checkColumnsOf config)).flatten

end RecordMapper.Validation
