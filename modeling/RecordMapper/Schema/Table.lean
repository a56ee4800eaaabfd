import RecordMapper.Schema.Column

/-!
# Tables

A table with its columns and the subsets of them that generation treats in their own way. A table
is read in one of two shapes: the full one with every subset written out, or the flat one, where
the subsets follow from the flags of the columns and the primary key is given by names.
-/
namespace RecordMapper.Schema

open RecordMapper.Text

def namesOf (columns : List Column) : List String := columns.map Column.name

/-- Every column of a subset has the name of a declared column. -/
def Declares (columns subset : List Column) : Prop := ∀ c ∈ subset, c.name ∈ namesOf columns

instance (columns subset : List Column) : Decidable (Declares columns subset) :=
  inferInstanceAs (Decidable (∀ c ∈ subset, c.name ∈ namesOf columns))

structure Table where
  name : String
  columns : List Column
  autoIncrement : List Column
  primaryKey : List Column
  generated : List Column
  schema : Option String
  autoIncrement_declared : Declares columns autoIncrement
  primaryKey_declared : Declares columns primaryKey
  generated_declared : Declares columns generated
  deriving DecidableEq

namespace Table

/-- The columns that identify a row: the primary key, or all columns without one. -/
def keyColumns (t : Table) : List Column :=
  if t.primaryKey.isEmpty then t.columns else t.primaryKey

def isAutoIncrement (t : Table) (c : Column) : Bool := c.name ∈ namesOf t.autoIncrement

def isGenerated (t : Table) (c : Column) : Bool := c.name ∈ namesOf t.generated

/-- The columns an insert writes. -/
def insertColumns (t : Table) : List Column :=
  t.columns.filter fun c => !(t.isAutoIncrement c || t.isGenerated c)

/-- The columns an update writes. -/
def updateColumns (t : Table) : List Column := t.columns.filter fun c => !t.isGenerated c

theorem mem_insertColumns {t : Table} {c : Column} :
    c ∈ t.insertColumns ↔
      c ∈ t.columns ∧ t.isAutoIncrement c = false ∧ t.isGenerated c = false := by
  simp [insertColumns]

theorem mem_updateColumns {t : Table} {c : Column} :
    c ∈ t.updateColumns ↔ c ∈ t.columns ∧ t.isGenerated c = false := by
  simp [updateColumns]

/-- The names in a subset that no column has. -/
def undeclared (columns subset : List Column) : List String :=
  (namesOf subset).filter (· ∉ namesOf columns)

/-- The fault of a table whose subset names columns that it does not have. -/
def undeclaredFault {α : Type} (name subset : String) (missing : List String) : Checked α :=
  Checked.fault (.broken (.undeclaredColumns name subset missing))

/-- A table of checked parts, if every subset is declared. -/
def build (name : String) (columns autoIncrement primaryKey generated : List Column)
    (schema : Option String) : Checked Table :=
  if ha : Declares columns autoIncrement then
    if hp : Declares columns primaryKey then
      if hg : Declares columns generated then
        .ok { name, columns, autoIncrement, primaryKey, generated, schema,
              autoIncrement_declared := ha, primaryKey_declared := hp, generated_declared := hg }
      else undeclaredFault name "generated_columns" (undeclared columns generated)
    else undeclaredFault name "primary_key_columns" (undeclared columns primaryKey)
  else undeclaredFault name "auto_increment_columns" (undeclared columns autoIncrement)

def fieldNames : List String :=
  ["name", "all_columns", "auto_increment_columns", "primary_key_columns", "generated_columns",
    "schema_name"]

/-- A table in full shape. -/
def read : Value → Checked Table
  | .mapping fields =>
    let columns := Value.readList Column.read
    match Checked.both (Value.required "name" Value.readFilledText fields)
      (Checked.both (Value.required "all_columns" columns fields)
      (Checked.both (Value.optional "auto_increment_columns" [] columns fields)
      (Checked.both (Value.optional "primary_key_columns" [] columns fields)
      (Checked.both (Value.optional "generated_columns" [] columns fields)
      (Checked.both (Value.optional "schema_name" none Value.readOptionalText fields)
        (Value.onlyFields fieldNames fields)))))) with
    | .ok (name, columns, autoIncrement, primaryKey, generated, schema, _) =>
      build name columns autoIncrement primaryKey generated schema
    | .error r => .error r
  | _ => Checked.fault .notObject

/-- The last column with a name. -/
def lastNamed? (columns : List Column) (name : String) : Option Column :=
  columns.reverse.find? fun c => c.name = name

/-- The column that a raw key names. -/
def keyed? (columns : List Column) : Value → Option Column
  | .text name => lastNamed? columns name
  | _ => none

/-- Whether a value can be looked up at all. -/
def isKey : Value → Bool
  | .list _ | .mapping _ => false
  | _ => true

/-- A table from columns, with the auto-increment and generated ones by their flags and the primary
key in the order of the given names. -/
def ofColumns (name schema : Value) (columns : List Column) (keys : List Value) :
    Except Failure Table := do
  if !keys.all isKey then throw .wrongType
  let missing := keys.filter fun key => (keyed? columns key).isNone
  if !missing.isEmpty then throw (.undeclaredKeys name missing)
  let (name, schema) ← Checked.result .table (Checked.both
    (Checked.within (.key "name") name.readFilledText)
    (Checked.within (.key "schema_name") schema.readOptionalText))
  Checked.result .table (build name columns (columns.filter Column.isAutoIncrement)
    (keys.filterMap (keyed? columns)) (columns.filter Column.isGenerated) schema)

def flatFieldNames : List String := ["name", "columns", "primary_keys", "schema_name"]

/-- The value of a field when it is given, otherwise nothing to iterate over. -/
def givenItems (value : Option Value) : Except Failure (List Value) :=
  match value with
  | some v => if v.isGiven then
      match v.items? with
      | some items => .ok items
      | none => .error .wrongType
    else .ok []
  | none => .ok []

/-- A table in flat shape. -/
def readFlat (fields : List (String × Value)) : Except Failure Table := do
  let extra := (fields.map Prod.fst).filter (· ∉ flatFieldNames)
  if !extra.isEmpty then
    throw (.unknownTableKeys ((fields.lookup "name").getD .null)
      (extra.mergeSort fun a b => decide (a ≤ b)))
  let columns ← (← givenItems (fields.lookup "columns")).mapM fun item =>
    Checked.result .column (Column.read item)
  let keys ← givenItems (fields.lookup "primary_keys")
  ofColumns ((fields.lookup "name").getD (.text "")) ((fields.lookup "schema_name").getD .null)
    columns keys

/-- Whether a value holds the text `key`, as a field, an item or a part. -/
def holds (key : String) : Value → Except Failure Bool
  | .mapping fields => .ok (fields.any fun field => field.1 = key)
  | .list items => .ok (items.any fun item => match item with
    | .text s => s = key
    | _ => false)
  | .text s => .ok ((s.splitOn key).length ≠ 1)
  | _ => .error .wrongType

/-- Why a value that is no mapping cannot be read in flat shape. -/
def flatFailure (entry : Value) : Failure :=
  match entry with
  | .list items =>
    let isKnown (item : Value) : Bool := match item with
      | .text s => s ∈ flatFieldNames
      | _ => false
    if items.all isKnown then .wrongType else .noMember entry.typeName "get"
  | _ => .noMember entry.typeName "get"

/-- A table entry, in flat shape when it has a field `columns`. -/
def parse (entry : Value) : Except Failure Table := do
  if ← holds "columns" entry then
    match entry with
    | .mapping fields => readFlat fields
    | _ => throw (flatFailure entry)
  else Checked.result .table (read entry)

/-- Every field of a table, in the form it is read from. -/
def toValue (t : Table) : Value := .mapping [
  ("name", .text t.name), ("all_columns", .list (t.columns.map Column.toValue)),
  ("auto_increment_columns", .list (t.autoIncrement.map Column.toValue)),
  ("primary_key_columns", .list (t.primaryKey.map Column.toValue)),
  ("generated_columns", .list (t.generated.map Column.toValue)),
  ("schema_name", match t.schema with
    | some s => .text s
    | none => .null)]

def brief (t : Table) : String :=
  "<Table " ++ t.name ++ " (" ++ toString t.columns.length ++ " cols, pk=" ++
    shownList (namesOf t.primaryKey) ++ ")>"

end Table

end RecordMapper.Schema
