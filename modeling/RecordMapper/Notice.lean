import RecordMapper.Text.Lines

/-!
# Notices

What a run tells about its progress, apart from its results.
-/
namespace RecordMapper

open RecordMapper.Text

/-- How much a notice matters, from the least on. -/
inductive Weight where
  | info
  | warning
  | error
  deriving DecidableEq, Repr

namespace Weight

def label : Weight → String
  | info => "INFO"
  | warning => "WARNING"
  | error => "ERROR"

def rank : Weight → Nat
  | info => 0
  | warning => 1
  | error => 2

end Weight

/-- `source` is the part of the program that speaks. -/
structure Notice where
  weight : Weight
  source : String
  text : String
  deriving DecidableEq, Repr

namespace Notice

def line (n : Notice) : String :=
  padRight 8 n.weight.label ++ " │ " ++ n.source ++ " │ " ++ n.text

def atLeast (weight : Weight) (n : Notice) : Bool := weight.rank ≤ n.weight.rank

end Notice

end RecordMapper
