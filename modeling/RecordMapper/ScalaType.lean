import RecordMapper.Config.Settings
import RecordMapper.Schema.Column

/-!
# Field types

The Scala type of a column and a sample literal of that type. The first decision wins: an override
for the field, an override for the name of the column type, the table of type codes, and `Any`.
Nullable columns wrap the type in an option whatever decided it.
-/
namespace RecordMapper.ScalaType

open RecordMapper.Config RecordMapper.Schema

def any : String := "Any"

def string : String := "String"

def optionalString : String := "Option[String]"

/-- Types that come from a date and time package. -/
def timeTypes : List String :=
  ["LocalDate", "LocalTime", "DateTime", "ZonedDateTime", "OffsetDateTime", "LocalDateTime"]

/-- Types that come from the database interface. -/
def sqlTypes : List String := ["Blob", "Clob", "Ref", "Struct"]

/-- The type of a column type; some have none. -/
def ofJdbcType (dateTime : DateTimeClass) : JdbcType → Option String
  | .array => some "Array[Any]"
  | .bigInt => some "Long"
  | .binary | .longVarBinary | .varBinary => some "Array[Byte]"
  | .bit | .boolean => some "Boolean"
  | .blob => some "Blob"
  | .clob => some "Clob"
  | .char | .longVarChar | .varChar | .nVarChar | .nChar | .longNVarChar => some string
  | .date => some "LocalDate"
  | .time => some "LocalTime"
  | .timestamp => some dateTime.simpleName
  | .decimal | .numeric => some "BigDecimal"
  | .double => some "Double"
  | .float | .real => some "Float"
  | .integer => some "Int"
  | .smallInt => some "Short"
  | .tinyInt => some "Byte"
  | .ref => some "Ref"
  | .struct => some "Struct"
  | .dataLink | .distinct | .javaObject | .null | .other => some any
  | .rowId | .nClob | .sqlXml | .refCursor | .timeWithTimezone | .timestampWithTimezone => none

/-- The type of a type code, none for an unknown code. -/
def ofCode? (dateTime : DateTimeClass) (code : Int) : Option String :=
  (JdbcType.ofCode? code).bind (ofJdbcType dateTime)

/-- The type of a column before nullability. -/
def resolve (config : Settings) (className fieldName : Value) (column : Column) : Answer := do
  let ofField ← config.fieldType className fieldName
  return ofField.ifNull ((config.typeOfTypeName column.typeName).ifNull
    (.text ((ofCode? config.dateTimeClass column.typeCode).getD any)))

/-- A type as a field has it: an option unless the column is not null. -/
def nullable (rawType : String) (isNotNull : Bool) : String :=
  if isNotNull then rawType else "Option[" ++ rawType ++ "]"

/-- The same for a type that an override made, which may be no text. -/
def nullableValue (rawType : Value) (isNotNull : Bool) : Value :=
  if isNotNull then rawType else .text (nullable rawType.display false)

def nullLiteral : String := "null"

def noneLiteral : String := "None"

/-- Sample literals of known types. -/
def samples : List (String × String) := [
  ("Array[Any]", "Array[Any]()"), ("Long", "1L"), ("Array[Byte]", "Array[Byte]()"),
  ("Boolean", "false"), ("String", "\"MyString\""), ("LocalDate", "LocalDate.now"),
  ("LocalTime", "LocalTime.now"), ("BigDecimal", "new java.math.BigDecimal(\"1\")"),
  ("Double", "0.1D"), ("Float", "0.1F"), ("Int", "123"), ("Short", "123"), ("Byte", "1"),
  ("DateTime", "DateTime.now"), ("ZonedDateTime", "ZonedDateTime.now"),
  ("OffsetDateTime", "OffsetDateTime.now"), ("LocalDateTime", "LocalDateTime.now")]

/-- The sample literal of a type before nullability. An override that is empty counts as no
literal. -/
def innerSample (config : Settings) (rawType : Value) : Answer := do
  let inner ← match ← config.sampleOfType rawType with
    | .null => lookupAnswer (samples.map fun (type, literal) => (type, .text literal)) rawType
    | literal => pure literal
  return if inner.isGiven then inner else .text nullLiteral

/-- A literal inside an option. -/
def optional (inner : Value) : Value :=
  .text (if inner.display = nullLiteral then noneLiteral else "Some(" ++ inner.display ++ ")")

/-- The sample literal of a field. An override for the field's type is taken as it is; otherwise a
nullable field has `Some` of the inner literal, or `None` when there is none. -/
def sample (config : Settings) (rawType : Value) (isNotNull : Bool) : Answer := do
  match ← config.sampleOfType (nullableValue rawType isNotNull) with
  | .null =>
    let inner ← innerSample config rawType
    return if isNotNull then inner else optional inner
  | literal => return literal

end RecordMapper.ScalaType
