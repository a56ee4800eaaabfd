import RecordMapper.ScalaType

/-!
# Columns in generated code

A column together with the names, types and literals that a configuration derives from it. What the
policies answer is kept as it is; generated code shows it as text. That a type or a literal could
not be found is an answer too, since not every source needs them.
-/
namespace RecordMapper.View

open RecordMapper.Config RecordMapper.Schema

/-- The field may be back-quoted; the type is the one before nullability. -/
structure ColumnView where
  column : Column
  fieldAnswer : Value
  typeAnswer : Answer
  sampleAnswer : Answer

namespace ColumnView

/-- The view of a column in a class. -/
def of (config : Settings) (className : Value) (column : Column) : ColumnView :=
  let fieldAnswer := config.fieldName column.name
  let typeAnswer := ScalaType.resolve config className fieldAnswer column
  { column, fieldAnswer, typeAnswer
    sampleAnswer := typeAnswer.bind fun type => ScalaType.sample config type column.isNotNull }

def fieldName (c : ColumnView) : String := c.fieldAnswer.display

def rawType (c : ColumnView) : String := c.typeAnswer.display

def sample (c : ColumnView) : String := c.sampleAnswer.display

def name (c : ColumnView) : String := c.column.name

def isNotNull (c : ColumnView) : Bool := c.column.isNotNull

/-- The field name without back-quotes. -/
def bareName (c : ColumnView) : String := Naming.unquote c.fieldName

def fieldType (c : ColumnView) : String := ScalaType.nullable c.rawType c.isNotNull

def isAny (c : ColumnView) : Bool := c.rawType = ScalaType.any

/-- The name of the generator of sample values. -/
def generatorName (c : ColumnView) : String := "gen" ++ Naming.capitalize c.bareName

/-- The field with its type. -/
def typed (c : ColumnView) : String := c.fieldName ++ ": " ++ c.fieldType

/-- The field as a parameter: a nullable one has a default. -/
def parameter (c : ColumnView) : String :=
  c.typed ++ (if c.isNotNull then "" else " = None")

def brief (c : ColumnView) : String :=
  "<ColumnView " ++ c.name ++ " → " ++ c.typed ++ ">"

/-- The type of the field as it is. -/
def fieldTypeAnswer (c : ColumnView) : Answer :=
  c.typeAnswer.map fun type => ScalaType.nullableValue type c.isNotNull

/-- The field without back-quotes as it is. What has less than two parts cannot be quoted. -/
def bareAnswer (c : ColumnView) : Answer :=
  match c.fieldAnswer with
  | .text s => .ok (.text (Naming.unquote s))
  | .list items =>
    if items.length < 2 then .ok (.list items) else .error (.noMember "list" "startswith")
  | .mapping fields =>
    if fields.length < 2 then .ok (.mapping fields) else .error (.noMember "dict" "startswith")
  | _ => .error .wrongType

/-- The name of the generator, if one can be made of the field as it is. -/
def generatorAnswer (c : ColumnView) : Except Failure String := do
  match ← c.bareAnswer with
  | .text s => return "gen" ++ Naming.capitalize s
  | .list [] | .mapping [] => return "gen"
  | .list (.text _ :: _) => throw .wrongType
  | .list (item :: _) => throw (.noMember item.typeName "upper")
  | .mapping _ => throw .noEntry
  | _ => throw .wrongType

/-- The field joins other text. -/
def demandText (c : ColumnView) : Demand := Demand.isText c.fieldAnswer

/-- The field becomes a literal. -/
def demandLiteral (c : ColumnView) : Demand := do
  match ← c.bareAnswer with
  | .text _ => return ()
  | other => throw (.noMember other.typeName "replace")

/-- The type is found. -/
def demandType (c : ColumnView) : Demand := c.typeAnswer.map fun _ => ()

/-- The sample is found. -/
def demandSample (c : ColumnView) : Demand := c.sampleAnswer.map fun _ => ()

end ColumnView

end RecordMapper.View
