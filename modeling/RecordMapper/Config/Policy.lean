import RecordMapper.Checked
import RecordMapper.Demand

/-!
# Policies

Naming and type decisions as functions from names to raw values. A policy is a function given as
such or a table of a document; what it answers is inspected only where it is used, so a policy may
answer with anything. Some decisions are made about the answers of earlier ones, and a table cannot
be asked about every value.
-/
namespace RecordMapper.Config

open RecordMapper.Text

/-- A decision about one name. -/
abbrev Policy := String → Value

/-- What a decision about an earlier answer comes to. -/
abbrev Answer := Except Failure Value

/-- The text that shows an answer; none is shown for a failure. -/
def Answer.display : Answer → String
  | .ok v => v.display
  | .error _ => ""

namespace Policy

/-- The answer as a name. -/
def name : Value → Except Failure String
  | .text s => .ok s
  | _ => .error .wrongType

/-- The answer as a list. -/
def items (answer : Value) : Except Failure (List Value) :=
  match answer.items? with
  | none => .error .wrongType
  | some items => .ok items

end Policy

/-- An override of the type of one field. -/
structure FieldEntry where
  className : Value
  fieldName : Value
  type : Value

/-- Overrides by class and field. Of two entries for one field the later one counts. -/
def typesOfFields (entries : List FieldEntry) (className fieldName : Value) : Answer := do
  Demand.isKey className
  Demand.isKey fieldName
  match entries.reverse.find? fun e => e.className.same className && e.fieldName.same fieldName with
  | some entry => return entry.type
  | none => return .null

/-- Entries written as `Class.field`, cut at the first point. -/
def fieldEntries (fields : List (String × Value)) : List FieldEntry :=
  fields.map fun (key, type) =>
    let (className, fieldName) := cutFirst '.' key
    ⟨.text className, .text fieldName, type⟩

/-- Overrides by name. -/
def lookupPolicy (fields : List (String × Value)) : Policy :=
  fun key => (fields.lookup key).getD .null

/-- Overrides by what may be no name; nothing else than a name has one. -/
def lookupAnswer (fields : List (String × Value)) : Value → Answer
  | .text name => .ok (lookupPolicy fields name)
  | v => do
    Demand.isKey v
    return .null

/-- No overrides. -/
def declining : Policy := fun _ => .null

/-- The same types for every table. -/
def sameTypes (items : List Value) : Policy := fun _ => .list items

/-- The types of tables that are listed by name, none for the others. -/
def typesOfTables (entries : List (String × List Value)) : Policy :=
  fun table => .list ((entries.lookup table).getD [])

/-- A table with the items that are given for it. -/
def itemsOfTable (entry : String × Value) : Checked (String × List Value) :=
  match entry.2.items? with
  | some items => .ok (entry.1, items)
  | none => .error .wrongType

/-- A value that lists the types of every table, or maps table names to such lists. -/
def typesPolicy : Value → Checked Policy
  | .list items => .ok (sameTypes items)
  | .mapping fields => do
    let entries ← fields.mapM itemsOfTable
    return typesOfTables entries
  | _ => Checked.fault .notFunction

end RecordMapper.Config
