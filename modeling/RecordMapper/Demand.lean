import RecordMapper.Failure

/-!
# Demands

What a place in generated code asks of the value that goes there. Most places display whatever they
get; the others fail on values that they cannot take.
-/
namespace RecordMapper

/-- A demand is met, or it fails. -/
abbrev Demand := Except Failure Unit

namespace Demand

/-- Only a text can be joined to other text. -/
def isText : Value → Demand
  | .text _ => .ok ()
  | _ => .error .wrongType

/-- Lists and mappings cannot be looked up. -/
def isKey : Value → Demand
  | .list items => .error (.notKey (Value.list items).typeName)
  | .mapping fields => .error (.notKey (Value.mapping fields).typeName)
  | _ => .ok ()

/-- A demand on every member of a list; the first one that is not met fails. -/
def each {α : Type} (demand : α → Demand) : List α → Demand
  | [] => .ok ()
  | a :: rest => do
    demand a
    each demand rest

theorem isText_eq_ok_iff {v : Value} : isText v = .ok () ↔ ∃ s, v = .text s := by
  cases v <;> simp [isText]

theorem each_eq_ok_iff {α : Type} {demand : α → Demand} {items : List α} :
    each demand items = .ok () ↔ ∀ a ∈ items, demand a = .ok () := by
  induction items with
  | nil => simp [each]
  | cons a rest ih =>
    cases h : demand a with
    | error e => simp [each, h, bind, Except.bind]
    | ok u => simp [each, h, bind, Except.bind, ih]

end Demand

end RecordMapper
