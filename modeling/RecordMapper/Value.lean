import RecordMapper.Number.Decimal
import RecordMapper.Text.Quoted

/-!
# Raw values

What an input document holds before it is checked: scalars, lists and mappings. The fields of a
mapping keep the order in which they were first written, and whole numbers are unbounded.
-/
namespace RecordMapper

open RecordMapper.Number RecordMapper.Text

inductive Value where
  | null
  | bool (b : Bool)
  | int (n : Int)
  | real (x : Binary64)
  | text (s : String)
  | list (items : List Value)
  | mapping (fields : List (String × Value))
  deriving Inhabited

namespace Value

section Fields

variable {α : Type}

/-- Sets a field: in its place when the key is known, otherwise at the end. -/
def setField (key : String) (value : α) : List (String × α) → List (String × α)
  | [] => [(key, value)]
  | (k, v) :: rest => if k = key then (k, value) :: rest else (k, v) :: setField key value rest

theorem lookup_setField_self (key : String) (value : α) (fields : List (String × α)) :
    (setField key value fields).lookup key = some value := by
  fun_induction setField key value fields with
  | case1 => simp
  | case2 => simp
  | case3 k v rest h ih => simp [List.lookup_cons, beq_false_of_ne (Ne.symm h), ih]

theorem lookup_setField_of_ne {key other : String} (h : other ≠ key) (value : α)
    (fields : List (String × α)) :
    (setField key value fields).lookup other = fields.lookup other := by
  fun_induction setField key value fields with
  | case1 => simp [List.lookup_cons, beq_false_of_ne h]
  | case2 => simp [List.lookup_cons, beq_false_of_ne h]
  | case3 k v rest _ ih => simp [List.lookup_cons, ih]

/-- Sets several fields, one after another. -/
def setFields (changes fields : List (String × α)) : List (String × α) :=
  changes.foldl (fun fields (key, value) => setField key value fields) fields

end Fields

/-- The name of the kind of value in messages. -/
def typeName : Value → String
  | null => "NoneType"
  | bool _ => "bool"
  | int _ => "int"
  | real _ => "float"
  | text _ => "str"
  | list _ => "list"
  | mapping _ => "dict"

/-- Whether a value counts as given: not null, false, zero or empty. -/
def isGiven : Value → Bool
  | null => false
  | bool b => b
  | int n => n != 0
  | real x => !x.isZero
  | text s => !s.isEmpty
  | list items => !items.isEmpty
  | mapping fields => !fields.isEmpty

mutual

/-- A value as messages show it inside lists and mappings. -/
def shown : Value → String
  | null => "None"
  | bool b => if b then "True" else "False"
  | int n => toString n
  | real x => x.shortest
  | text s => Text.shown s
  | list items => "[" ++ join ", " (shownItems items) ++ "]"
  | mapping fields => "\x7b" ++ join ", " (shownFields fields) ++ "\x7d"

def shownItems : List Value → List String
  | [] => []
  | item :: rest => shown item :: shownItems rest

def shownFields : List (String × Value) → List String
  | [] => []
  | (key, value) :: rest => (Text.shown key ++ ": " ++ shown value) :: shownFields rest

end

/-- A value as messages display it on its own: texts without quotes. -/
def display : Value → String
  | text s => s
  | v => v.shown

/-- The values that iteration over a value visits: the items of a list, the characters of a text,
the keys of a mapping. -/
def items? : Value → Option (List Value)
  | list items => some items
  | text s => some (s.toList.map fun c => text (String.singleton c))
  | mapping fields => some (fields.map fun field => text field.1)
  | _ => none

def texts (items : List String) : Value := list (items.map text)

/-- The value, or another one in the place of null. -/
def ifNull : Value → Value → Value
  | null, other => other
  | v, _ => v

/-- A finite number as a fraction. Truth values count as one and zero. -/
def fraction? : Value → Option (Int × Nat)
  | bool b => some (if b then 1 else 0, 1)
  | int n => some (n, 1)
  | real (.finite x) =>
    some (if x.negative then -(x.fraction.1 : Int) else x.fraction.1, x.fraction.2)
  | _ => none

/-- Whether two numbers are equal; nothing else is. Numbers that are not finite have no other that
equals them. -/
def sameNumber (v w : Value) : Bool :=
  match v.fraction?, w.fraction? with
  | some (a, b), some (c, d) => a * d == c * b
  | none, none => match v, w with
    | real x, real y => x == y
    | _, _ => false
  | _, _ => false

mutual

/-- Equality of data: numbers go by their value, and the order of fields does not matter. -/
def same : Value → Value → Bool
  | null, null => true
  | text s, text t => s == t
  | list items, list others => sameItems items others
  | mapping fields, mapping others =>
    fields.length == others.length && sameFields fields others
  | v, w => sameNumber v w

def sameItems : List Value → List Value → Bool
  | [], [] => true
  | item :: rest, other :: others => same item other && sameItems rest others
  | _, _ => false

/-- Whether all fields are among others. -/
def sameFields : List (String × Value) → List (String × Value) → Bool
  | [], _ => true
  | (key, value) :: rest, others =>
    (match others.lookup key with
      | some other => same value other
      | none => false) && sameFields rest others

end

/-- Different values in the order in which they first occur, given those before them. -/
def distinctAfter (seen : List Value) : List Value → List Value
  | [] => []
  | v :: rest =>
    if seen.any (same v) then distinctAfter seen rest else v :: distinctAfter (v :: seen) rest

def distinct (values : List Value) : List Value := distinctAfter [] values

end Value

end RecordMapper
