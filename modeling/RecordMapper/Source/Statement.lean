import RecordMapper.Source.Fragment

/-!
# Method bodies

The two ways a generated companion builds its statements. A style consists of the bodies that
differ; what surrounds an insert is the same for both. Bodies are lines without indentation.
-/
namespace RecordMapper.Source

open RecordMapper.Text RecordMapper.View RecordMapper.Config

/-- A style of statements. `rows` stands for the call that materialises many rows, and `demand` is
what the statements ask of the names of a table. -/
structure Style where
  label : String
  template : SqlTemplate
  demand : TableView → Demand
  find : TableView → List String
  findAll : TableView → (rows : String) → List String
  countAll : TableView → List String
  findBy : TableView → List String
  findAllBy : TableView → (rows : String) → List String
  countBy : TableView → List String
  insert : TableView → List String
  save : TableView → List String
  destroy : TableView → List String
  whereExample : TableView → ColumnView → String
  demandExample : ColumnView → Demand
  syntaxObject : TableView → String

/-- Mapping rows to the generated class. -/
def rowMapping (v : TableView) : String :=
  ".map(" ++ v.className ++ "(" ++ v.syntaxVariable ++ ".resultName))"

def single : String := ".single.apply()"

/-- The class under its alias. -/
def aliased (v : TableView) : String := v.className ++ " as " ++ v.syntaxVariable

namespace Interpolation

def quotes : String := "\"\"\""

/-- A whole statement as an interpolated literal. -/
def sql (statement : String) : String := "sql" ++ quotes ++ statement ++ quotes

def selectFrom (v : TableView) : String :=
  "select " ++ interpolate (v.syntaxVariable ++ ".result.*") ++ " from " ++
    interpolate (aliased v)

def table (v : TableView) : String := interpolate (v.className ++ ".table")

def whereGiven : String := " where " ++ interpolate "where"

def entityPredicate (v : TableView) : String := interpolatedPredicate v.key "column" "entity."

def insert (v : TableView) : List String :=
  ["sql" ++ quotes, margin 1 ++ "insert into " ++ table v ++ " ("] ++
    listed 2 (interpolatedColumns v.insert) ++
    [margin 1 ++ ") values ("] ++
    listed 2 (interpolatedPlaceholders v.insert "") ++
    [margin 1 ++ ")", margin 1 ++ quotes]

def save (v : TableView) : List String :=
  ["sql" ++ quotes, margin 1 ++ "update", margin 2 ++ table v, margin 1 ++ "set"] ++
    listed 2 (interpolatedAssignments v.update "entity.") ++
    [margin 1 ++ "where", margin 2 ++ entityPredicate v, margin 1 ++ quotes ++ ".update.apply()",
      "entity"]

end Interpolation

open Interpolation in
/-- Statements as interpolated literals. -/
def interpolationStyle : Style where
  label := "InterpolationStyle"
  template := .interpolation
  demand v := Demand.each Demand.isText [v.variableAnswer, v.classAnswer]
  find v := [
    sql (selectFrom v ++ " where " ++ interpolatedPredicate v.key v.syntaxVariable ""),
    margin 1 ++ rowMapping v ++ single]
  findAll v rows := [sql (selectFrom v) ++ rowMapping v ++ "." ++ rows]
  countAll v := [
    sql ("select count(1) from " ++ table v) ++ ".map(rs => rs.long(1)).single.apply().get"]
  findBy v := [sql (selectFrom v ++ whereGiven), margin 1 ++ rowMapping v ++ single]
  findAllBy v rows := [sql (selectFrom v ++ whereGiven), margin 1 ++ rowMapping v ++ "." ++ rows]
  countBy v := [
    sql ("select count(1) from " ++ interpolate (aliased v) ++ whereGiven),
    margin 1 ++ ".map(_.long(1)).single.apply().get"]
  insert := insert
  save := save
  destroy v := [
    sql ("delete from " ++ table v ++ " where " ++ entityPredicate v) ++ ".update.apply()"]
  whereExample _ c := "sqls\"" ++ c.name ++ " = " ++ interpolate c.sample ++ "\""
  demandExample c := do Demand.isText (← c.sampleAnswer)
  syntaxObject _ := ""

namespace QueryDsl

def opening : String := "withSQL \x7b"

def entityPredicate (v : TableView) : String := dslPredicate v.key "column" "entity."

/-- A query in a block of its own, with what follows the block. -/
def block (query after : String) : List String :=
  [opening, margin 1 ++ query, "\x7d" ++ after]

def selectFrom (v : TableView) : String := "select.from(" ++ aliased v ++ ")"

def countFrom (v : TableView) : String := "select(sqls.count).from(" ++ aliased v ++ ")"

def whereGiven : String := ".where.append(where)"

def insert (v : TableView) : List String :=
  [opening, margin 1 ++ "insert.into(" ++ v.className ++ ").namedValues("] ++
    listed 2 (namedValues v.insert "") ++ [margin 1 ++ ")", "\x7d"]

def save (v : TableView) : List String :=
  [opening, margin 1 ++ "update(" ++ v.className ++ ").set("] ++
    listed 2 (namedValues v.update "entity.") ++
    [margin 1 ++ ").where" ++ entityPredicate v, "\x7d.update.apply()", "entity"]

/-- The declaration of the alias. -/
def syntaxObject (v : TableView) : String :=
  "val " ++ v.syntaxVariable ++ " = " ++ v.className ++ ".syntax(\"" ++ v.syntaxName ++ "\")"

end QueryDsl

open QueryDsl in
/-- Statements through the query builder. -/
def queryDslStyle : Style where
  label := "QueryDslStyle"
  template := .queryDsl
  demand _ := .ok ()
  find v := block (selectFrom v ++ ".where" ++ dslPredicate v.key v.syntaxVariable "")
    (rowMapping v ++ single)
  findAll v rows := ["withSQL(" ++ selectFrom v ++ ")" ++ rowMapping v ++ "." ++ rows]
  countAll v := ["withSQL(" ++ countFrom v ++ ").map(rs => rs.long(1)).single.apply().get"]
  findBy v := block (selectFrom v ++ whereGiven) (rowMapping v ++ single)
  findAllBy v rows := block (selectFrom v ++ whereGiven) (rowMapping v ++ "." ++ rows)
  countBy v := block (countFrom v ++ whereGiven) ".map(_.long(1)).single.apply().get"
  insert := insert
  save := save
  destroy v := [
    opening ++ " delete.from(" ++ v.className ++ ").where" ++ entityPredicate v ++
      " \x7d.update.apply()"]
  whereExample v c :=
    "sqls.eq(" ++ v.syntaxVariable ++ "." ++ c.fieldName ++ ", " ++ c.sample ++ ")"
  demandExample := ColumnView.demandSample
  syntaxObject := syntaxObject

namespace Style

def of : SqlTemplate → Style
  | .interpolation => interpolationStyle
  | .queryDsl => queryDslStyle

def brief (style : Style) : String :=
  "<" ++ style.label ++ " " ++ Choice.value style.template ++ ">"

/-- An example condition on the first key column, if there is one. -/
def whereExample? (style : Style) (v : TableView) : Option String :=
  v.key.head?.map (style.whereExample v)

/-- The example condition of a view that has a column, as far as it can be made. -/
def exampleCondition (style : Style) (v : TableView) : Except Failure String :=
  match v.key with
  | [] => .error .outOfRange
  | c :: _ => do
    style.demandExample c
    return style.whereExample v c

end Style

/-- What closes the insert of `create`. -/
def executeInsert (v : TableView) : String :=
  match v.generatedKey? with
  | some _ => ".updateAndReturnGeneratedKey.apply()"
  | none => ".update.apply()"

/-- Whether a column takes the generated key. -/
def takesKey (v : TableView) (c : ColumnView) : Bool :=
  v.generatedKey?.any fun key => c.name = key.name

/-- The argument of a column in the record that `create` returns: the generated key, a parameter,
or a sample for what has to be there and is neither. -/
def createArgument (v : TableView) (c : ColumnView) : Option String :=
  if takesKey v c then some (c.fieldName ++ " = " ++ generatedKeyExpression c)
  else if v.isInserted c then some (c.fieldName ++ " = " ++ c.fieldName)
  else if c.isNotNull then some (c.fieldName ++ " = " ++ c.sample)
  else none

/-- The columns that `create` fills with their samples. -/
def sampledColumns (v : TableView) : List ColumnView :=
  v.columns.filter fun c => !takesKey v c && !v.isInserted c && c.isNotNull

/-- The insert of `create` together with its execution. -/
def createStatement (style : Style) (v : TableView) : List String :=
  let statement := onLast (· ++ executeInsert v) (style.insert v)
  match v.generatedKey? with
  | some _ => onFirst ("val generatedKey = " ++ ·) statement
  | none => statement

/-- The construction of the record that `create` returns. -/
def createRecord (v : TableView) : List String :=
  onLast (· ++ ")") ((v.className ++ "(") :: listed 1 (v.columns.filterMap (createArgument v)))

def createBody (style : Style) (v : TableView) : List String :=
  createStatement style v ++ [""] ++ createRecord v

/-- What the bodies ask of a view whose fields are texts. -/
def demandBodies (style : Style) (v : TableView) : Demand := do
  style.demand v
  Demand.each ColumnView.demandSample (sampledColumns v)

/-- Batch inserts bind named parameters in both styles. -/
def batchInsertBody (v : TableView) (collection : String) : List String :=
  [ "def toParameterBinder[A](value: A)(implicit ev: ParameterBinderFactory[A]): " ++
      "ParameterBinder = ev(value)",
    "val params: collection.Seq[Seq[(String, Any)]] = entities.map(entity =>"] ++
    onLast (· ++ "))") ((margin 1 ++ "Seq(") :: listed 2 (v.insert.map batchParameter)) ++
    ["SQL(\"\"\"insert into " ++ v.qualifiedName ++ "("] ++
    listed 1 (v.insert.map ColumnView.name) ++
    [") values ("] ++
    listed 1 (v.insert.map batchPlaceholder) ++
    [")\"\"\").batchByName(params.toSeq: _*).apply[" ++ collection ++ "]()"]

end RecordMapper.Source
