import RecordMapper.Text.Lines

/-!
# Lines of source

Generated code is a list of lines until it is written. Here are the shapes that recur: items
separated by commas, a change at the first or last line, and the cutting of lines whose parts
brought line breaks along.
-/
namespace RecordMapper.Source

open RecordMapper.Text

/-- Every item but the last gets a comma. -/
def withCommas : List String → List String
  | [] => []
  | [item] => [item]
  | item :: rest => (item ++ ",") :: withCommas rest

theorem length_withCommas (items : List String) : (withCommas items).length = items.length := by
  fun_induction withCommas items <;> simp_all

/-- One item a line at a level, separated by commas. -/
def listed (level : Nat) (items : List String) : List String :=
  withCommas (items.map (margin level ++ ·))

def onFirst (f : String → String) : List String → List String
  | [] => []
  | line :: rest => f line :: rest

def onLast (f : String → String) : List String → List String
  | [] => []
  | [line] => [f line]
  | line :: rest => line :: onLast f rest

/-- Cuts every line at the line breaks inside it. -/
def cutLines (lines : List String) : List String := lines.flatMap (split '\n')

/-- Lines as text with the given line break. -/
def render (eol : String) (lines : List String) : String := withLineBreak eol (join "\n" lines)

/-- An expression inside an interpolated literal. -/
def interpolate (expr : String) : String := "$\x7b" ++ expr ++ "\x7d"

end RecordMapper.Source
