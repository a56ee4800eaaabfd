import RecordMapper.Text.CaseData
import RecordMapper.Text.CharClass

/-!
# Upper and lower case

Full case conversion of texts: a character may become several, and a capital sigma is lowered to
its final form at the end of a word. Characters below 128 follow the ASCII rule alone.
-/
namespace RecordMapper.Text

/-- The offset of the run that covers a code point, 0 without one. -/
def caseOffset (runs : List CaseRun) (code : Nat) : Int :=
  match runs.find? fun run =>
      run.first ≤ code && code ≤ run.last && (code - run.first) % run.step == 0 with
  | some run => run.offset
  | none => 0

/-- The lower case of a character that stands for itself alone. -/
def lowerChar (c : Char) : List Char :=
  if c.toNat < 128 then [c.toLower]
  else if c = 'İ' then ['i', '\u0307']
  else [Char.ofNat (c.toNat + caseOffset lowerRuns c.toNat).toNat]

/-- The upper case of a character. -/
def upperChar (c : Char) : List Char :=
  if c.toNat < 128 then [c.toUpper]
  else match upperExpansions.lookup c.toNat with
    | some codes => codes.map Char.ofNat
    | none => [Char.ofNat (c.toNat + caseOffset upperRuns c.toNat).toNat]

def isCased (c : Char) : Bool := withinBounds casedBounds c

def isCaseIgnorable (c : Char) : Bool := withinBounds caseIgnorableBounds c

/-- Whether the nearest character that is not case-ignorable is cased. -/
def meetsCased (cs : List Char) : Bool :=
  match cs.dropWhile isCaseIgnorable with
  | c :: _ => isCased c
  | [] => false

/-- Lower case of what follows `before`, which is given innermost first. A sigma is final when
something cased stands before it and nothing cased after it. -/
def lowerAfter (before : List Char) : List Char → List Char
  | [] => []
  | c :: rest =>
    (if c = 'Σ' then
      [if meetsCased before && !meetsCased rest then 'ς' else 'σ']
    else lowerChar c) ++ lowerAfter (c :: before) rest

def lower (s : String) : String := String.ofList (lowerAfter [] s.toList)

def upper (s : String) : String := String.ofList (s.toList.flatMap upperChar)

end RecordMapper.Text
