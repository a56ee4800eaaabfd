import RecordMapper.Checked
import RecordMapper.Schema.JdbcType

/-!
# Columns

One column of a table as the database describes it, and how it is read from a raw value.
-/
namespace RecordMapper.Schema

open RecordMapper.Text

/-- `typeName` is the name the driver reports, which type overrides go by. -/
structure Column where
  name : String
  typeCode : Int
  typeName : String
  size : Nat
  isNotNull : Bool
  isAutoIncrement : Bool
  isGenerated : Bool
  deriving DecidableEq, Repr

namespace Column

def fieldNames : List String :=
  ["name", "data_type", "data_type_name", "size", "is_not_null", "is_auto_increment",
    "is_generated"]

/-- A type given by name is replaced by its code. A text of digits, with any number of minus signs
before them, is taken for a code. -/
def resolveTypeCode (fields : List (String × Value)) : Checked (List (String × Value)) :=
  match fields.lookup "data_type" with
  | some (.text s) =>
    if isNumeral (String.ofList (s.toList.dropWhile (· = '-'))) then .ok fields
    else match JdbcType.ofName? s with
      | some t => .ok (Value.setField "data_type" (.int t.code) fields)
      | none => Checked.fault (.broken (.unknownTypeName s))
  | _ => .ok fields

/-- The name of the type that a raw code stands for. Neither a collection nor an infinity can be
turned into a code at all. -/
def typeNameOf : Value → Checked String
  | .list _ | .mapping _ => .error .wrongType
  | .real (.infinite _) => .error .infiniteWhole
  | v => match v.readWhole with
    | .ok code => .ok (JdbcType.nameOfCode code)
    | .error _ => .ok JdbcType.other.name

/-- A type name that is not given is filled in from the code. -/
def fillTypeName (fields : List (String × Value)) : Checked (List (String × Value)) :=
  let given := match fields.lookup "data_type_name" with
    | some v => v.isGiven
    | none => false
  match given, (fields.lookup "data_type").getD .null with
  | true, _ | _, .null => .ok fields
  | _, code => (typeNameOf code).map fun name => Value.setField "data_type_name" (.text name) fields

def readFields (fields : List (String × Value)) : Checked Column :=
  match Checked.both (Value.required "name" Value.readFilledText fields)
    (Checked.both (Value.required "data_type" Value.readWhole fields)
    (Checked.both (Value.optional "data_type_name" "" Value.readText fields)
    (Checked.both (Value.optional "size" 0 Value.readCount fields)
    (Checked.both (Value.optional "is_not_null" false Value.readBool fields)
    (Checked.both (Value.optional "is_auto_increment" false Value.readBool fields)
    (Checked.both (Value.optional "is_generated" false Value.readBool fields)
      (Value.onlyFields fieldNames fields))))))) with
  | .ok (name, typeCode, typeName, size, isNotNull, isAutoIncrement, isGenerated, _) =>
    .ok { name, typeCode, typeName, size, isNotNull, isAutoIncrement, isGenerated }
  | .error r => .error r

def read : Value → Checked Column
  | .mapping fields => do readFields (← fillTypeName (← resolveTypeCode fields))
  | _ => Checked.fault .notObject

/-- Every field of a column, in the form it is read from. -/
def toValue (c : Column) : Value := .mapping [
  ("name", .text c.name), ("data_type", .int c.typeCode), ("data_type_name", .text c.typeName),
  ("size", .int c.size), ("is_not_null", .bool c.isNotNull),
  ("is_auto_increment", .bool c.isAutoIncrement), ("is_generated", .bool c.isGenerated)]

def brief (c : Column) : String :=
  "<Column " ++ c.name ++ " " ++ c.typeName ++ "(" ++ toString c.size ++ ")" ++
    (if c.isNotNull then " NOT NULL" else " NULL") ++ ">"

end Column

end RecordMapper.Schema
