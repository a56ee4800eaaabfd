import RecordMapper.Json.Reader
import RecordMapper.Text.Lines
import RecordMapper.Yaml.Cursor

/-!
# Scalars

The text of a scalar in its three written forms, and the value that a plain scalar stands for. A
line break inside a scalar becomes a space, unless empty lines follow it.
-/
namespace RecordMapper.Yaml

open RecordMapper.Number RecordMapper.Text

/-- A line break with the breaks that follow it, as it counts in a text. -/
def folded (first : Char) (more : List Char) : List Char :=
  (if first ≠ '\n' then [first] else if more.isEmpty then [' '] else []) ++ more

section Quoted

/-- Empty lines and the gap before the first line that is not empty. A document mark must not
stand there. -/
def quotedBreaks : Nat → Cursor → Option (List Char × Cursor)
  | 0, _ => none
  | fuel + 1, c =>
    if c.atDocumentMark then none
    else
      let c := c.skipWhile isGap
      match c.break? with
      | some (b, c) => (quotedBreaks fuel c).map fun (more, c) => (b :: more, c)
      | none => some ([], c)

/-- Characters that are written with a backslash and one character. -/
def escapes : List (Char × Char) := [
  ('0', '\x00'), ('a', '\x07'), ('b', '\x08'), ('t', '\t'), ('\t', '\t'), ('n', '\n'),
  ('v', '\x0B'), ('f', '\x0C'), ('r', '\r'), ('e', '\x1B'), (' ', ' '), ('\x22', '\x22'),
  ('\\', '\\'), ('/', '/'), ('N', '\x85'), ('_', '\xA0'), ('L', '\u2028'), ('P', '\u2029')]

/-- Number of digits of a character code. -/
def codeLength? (c : Char) : Option Nat := [('x', 2), ('u', 4), ('U', 8)].lookup c

/-- The character of a code in hexadecimal digits. -/
def codeChar? (digits : List Char) : Option Char := do
  let code ← digits.foldlM (fun n c => (Json.hexDigit? c).map (n * 16 + ·)) 0
  if code.isValidChar then some (Char.ofNat code) else none

/-- What an escape after its backslash stands for. -/
def readEscape (c : Cursor) : Option (List Char × Cursor) := do
  let ch ← c.peek
  match escapes.lookup ch with
  | some value => return ([value], c.next)
  | none =>
    match codeLength? ch with
    | some length =>
      let digits := c.next.rest.take length
      if digits.length < length then none
      else return ([← codeChar? digits], c.next.skip length)
    | none =>
      let (_, c) ← c.break?
      quotedBreaks (c.rest.length + 1) c

/-- The rest of a quoted scalar, up to its closing quote. -/
def readQuoted (quote : Char) : Nat → Cursor → Option (List Char × Cursor)
  | 0, _ => none
  | fuel + 1, c => do
    let ch ← c.peek
    if isSeparator (some ch) then
      let gap := c.run isGap
      let c := c.skipWhile isGap
      if c.rest.isEmpty then none
      else
        let (text, c) ← match c.break? with
          | some (b, c) => (quotedBreaks (c.rest.length + 1) c).map fun (more, c) =>
              (folded b more, c)
          | none => some (gap, c)
        let (more, c) ← readQuoted quote fuel c
        return (text ++ more, c)
    else if ch = quote then
      if quote = '\x27' && c.peekSecond = some quote then
        let (more, c) ← readQuoted quote fuel (c.skip 2)
        return (quote :: more, c)
      else return ([], c.next)
    else if quote = '\x22' && ch = '\\' then
      let (text, c) ← readEscape c.next
      let (more, c) ← readQuoted quote fuel c
      return (text ++ more, c)
    else
      let (more, c) ← readQuoted quote fuel c.next
      return (ch :: more, c)

end Quoted

section Plain

/-- Characters that end a plain scalar inside brackets. -/
def isFlowMark (c : Char) : Bool := c ∈ [',', '[', ']', '\x7b', '\x7d']

/-- The characters of a plain scalar up to a gap or the end of the scalar. -/
def plainRun (inFlow : Bool) : List Char → List Char
  | [] => []
  | c :: rest =>
    let closes := isSeparator rest.head? || (inFlow && rest.head?.any isFlowMark)
    if isSeparator (some c) || (c = ':' && closes) || (inFlow && (c = '?' || isFlowMark c)) then []
    else c :: plainRun inFlow rest

/-- Spaces and breaks after a first break; nothing when they lead to a document mark. -/
def plainBreaks : Nat → Cursor → Option (List Char) × Cursor
  | 0, c => (some [], c)
  | fuel + 1, c =>
    let c := c.skipWhile (· = ' ')
    match c.break? with
    | none => (some [], c)
    | some (b, c) =>
      if c.atDocumentMark then (none, c)
      else
        let (more, c) := plainBreaks fuel c
        (more.map (b :: ·), c)

/-- The gap after a run of a plain scalar, and whether the line breaks there. -/
def plainGap (c : Cursor) : List Char × Bool × Cursor :=
  let gap := c.run (· = ' ')
  let c := c.skipWhile (· = ' ')
  match c.break? with
  | none => (gap, false, c)
  | some (b, c) =>
    if c.atDocumentMark then ([], true, c)
    else match plainBreaks (c.rest.length + 1) c with
      | (none, c) => ([], true, c)
      | (some more, c) => (folded b more, true, c)

/-- A plain scalar after a gap, and whether the line breaks behind it. Outside brackets it goes on
only in lines that are indented. -/
def readPlain (inFlow : Bool) (indent : Int) :
    Nat → (gap : List Char) → (broke : Bool) → Cursor → List Char × Bool × Cursor
  | 0, _, broke, c => ([], broke, c)
  | fuel + 1, gap, broke, c =>
    let run := plainRun inFlow c.rest
    if c.peek = some '#' || run.isEmpty then ([], broke, c)
    else
      let (nextGap, broke, c) := plainGap (c.skip run.length)
      if nextGap.isEmpty || c.peek = some '#' || (!inFlow && (c.column : Int) < indent) then
        (gap ++ run, broke, c)
      else
        let (more, broke, c) := readPlain inFlow indent fuel nextGap broke c
        (gap ++ run ++ more, broke, c)

end Plain

section Block

/-- How the end of a block scalar is treated: its last break is dropped or kept, or all breaks are
kept. -/
inductive Chomping where
  | strip
  | clip
  | keep
  deriving DecidableEq, Repr

def chomping? (c : Char) : Option Chomping :=
  if c = '-' then some .strip else if c = '+' then some .keep else none

/-- A digit that gives the indentation; zero is not one. -/
def increment? (c : Char) : Option Nat :=
  if '1' ≤ c && c ≤ '9' then some (c.toNat - 48) else none

/-- The indicators after the mark of a block scalar, in either order. -/
def readIndicators (c : Cursor) : Chomping × Option Nat × Cursor :=
  match c.peek.bind chomping? with
  | some chomping => match c.next.peek.bind increment? with
    | some n => (chomping, some n, c.next.next)
    | none => (chomping, none, c.next)
  | none => match c.peek.bind increment? with
    | some n => match c.next.peek.bind chomping? with
      | some chomping => (chomping, some n, c.next.next)
      | none => (.clip, some n, c.next)
    | none => (.clip, none, c)

/-- The rest of the line of a block scalar's mark: only a comment may stand there. -/
def skipHeaderLine (c : Cursor) : Option Cursor :=
  if !(c.peek.all fun ch => ch = ' ' || isBreak ch) then none
  else
    let c := c.skipWhile (· = ' ')
    let c := if c.peek = some '#' then c.skipWhile (!isBreak ·) else c
    match c.break? with
    | some (_, c) => some c
    | none => if c.rest.isEmpty then some c else none

/-- Empty lines before a block scalar and the widest column of spaces in them. -/
def leadingBreaks : Nat → Nat → Cursor → List Char × Nat × Cursor
  | 0, widest, c => ([], widest, c)
  | fuel + 1, widest, c =>
    let c := c.skipWhile (· = ' ')
    let widest := max widest c.column
    match c.break? with
    | some (b, c) =>
      let (more, widest, c) := leadingBreaks fuel widest c
      (b :: more, widest, c)
    | none => ([], widest, c)

/-- Empty lines inside a block scalar, up to the indentation of the next line. -/
def blockBreaks (indent : Nat) : Nat → Cursor → List Char × Cursor
  | 0, c => ([], c)
  | fuel + 1, c =>
    let c := c.skip (min (c.run (· = ' ')).length (indent - c.column))
    match c.break? with
    | some (b, c) =>
      let (more, c) := blockBreaks indent fuel c
      (b :: more, c)
    | none => ([], c)

/-- The lines of a block scalar: their text, the break after the last one if there is one, and the
breaks behind it. -/
def blockLines (isFolded : Bool) (indent : Nat) :
    Nat → (breaks : List Char) → Cursor → List Char × List Char × List Char × Cursor
  | 0, breaks, c => ([], [], breaks, c)
  | fuel + 1, breaks, c =>
    if c.column ≠ indent || c.rest.isEmpty then ([], [], breaks, c)
    else
      let opensWithText := !c.peek.any isGap
      let line := c.run (!isBreak ·)
      let c := c.skip line.length
      let (last, c) := match c.break? with
        | some (b, c) => ([b], c)
        | none => ([], c)
      let (more, c) := blockBreaks indent (c.rest.length + 1) c
      if c.column = indent && !c.rest.isEmpty then
        let joint :=
          if isFolded && last = ['\n'] && opensWithText && !c.peek.any isGap then
            if more.isEmpty then [' '] else []
          else last
        let (text, last, after, c) := blockLines isFolded indent fuel more c
        (breaks ++ line ++ joint ++ text, last, after, c)
      else (breaks ++ line, last, more, c)

/-- A block scalar after its mark, below a level of indentation. -/
def readBlock (isFolded : Bool) (level : Int) (c : Cursor) : Option (List Char × Cursor) := do
  let (chomping, increment, c) := readIndicators c
  let c ← skipHeaderLine c
  let least := (max 1 (level + 1)).toNat
  let (breaks, indent, c) := match increment with
    | none =>
      let (breaks, widest, c) := leadingBreaks (c.rest.length + 1) 0 c
      (breaks, max least widest, c)
    | some n =>
      let indent := least + n - 1
      let (breaks, c) := blockBreaks indent (c.rest.length + 1) c
      (breaks, indent, c)
  let (text, last, after, c) := blockLines isFolded indent (c.rest.length + 1) breaks c
  return (text ++ (if chomping = .strip then [] else last) ++
    (if chomping = .keep then after else []), c)

end Block

section Values

def isOctal (c : Char) : Bool := '0' ≤ c && c ≤ '7'

def isHex (c : Char) : Bool := (Json.hexDigit? c).isSome

/-- Digits that may be grouped by underscores, as a number. -/
def digitsIn (base : Nat) (cs : List Char) : Nat :=
  (cs.filter (· ≠ '_')).foldl (fun n c => n * base + (Json.hexDigit? c).getD 0) 0

/-- Digits of a kind, with underscores between or around them. -/
def areGrouped (p : Char → Bool) (cs : List Char) : Bool :=
  !cs.isEmpty && cs.all fun c => p c || c = '_'

/-- A number below sixty in one or two digits. -/
def isMinor (cs : List Char) : Bool :=
  cs.all Char.isDigit && (cs.length = 1 || (cs.length = 2 && cs.headD '9' < '6'))

/-- Base sixty: a first number and then numbers below sixty. -/
def sexagesimal? (cs : List Char) : Option Nat :=
  match pieces ':' cs with
  | first :: more =>
    if !more.isEmpty && first.head?.any (fun c => '1' ≤ c && c ≤ '9') &&
        areGrouped Char.isDigit first && more.all isMinor then
      some (more.foldl (fun n part => n * 60 + digitsIn 10 part) (digitsIn 10 first))
    else none
  | [] => none

/-- A whole number without its sign: binary, octal, decimal, hexadecimal or base sixty. -/
def natural? (cs : List Char) : Option Nat :=
  match cs with
  | ['0'] => some 0
  | '0' :: 'b' :: digits =>
    if areGrouped (fun c => c = '0' || c = '1') digits then some (digitsIn 2 digits) else none
  | '0' :: 'x' :: digits => if areGrouped isHex digits then some (digitsIn 16 digits) else none
  | '0' :: digits => if areGrouped isOctal digits then some (digitsIn 8 digits) else none
  | c :: _ =>
    if '1' ≤ c && c ≤ '9' && areGrouped Char.isDigit cs then some (digitsIn 10 cs)
    else sexagesimal? cs
  | [] => none

/-- A sign and what follows it. -/
def signed (cs : List Char) : Bool × List Char :=
  match cs with
  | '-' :: rest => (true, rest)
  | '+' :: rest => (false, rest)
  | rest => (false, rest)

/-- An exponent, which needs its sign. -/
def exponent? (cs : List Char) : Option Int :=
  match cs with
  | [] => some 0
  | e :: sign :: digits =>
    if (e = 'e' || e = 'E') && (sign = '-' || sign = '+') && !digits.isEmpty &&
        digits.all Char.isDigit then
      let n : Int := digitsIn 10 digits
      some (if sign = '-' then -n else n)
    else none
  | _ => none

/-- A number with a decimal point. Before the point it may be signed; a number that starts with its
point has no sign and at least one digit. -/
def real? (cs : List Char) : Option Binary64 := do
  let (negative, body) := signed cs
  let isPart (c : Char) : Bool := c.isDigit || c = '_'
  let whole := body.takeWhile isPart
  match body.drop whole.length with
  | '.' :: rest =>
    let fraction := rest.takeWhile isPart
    let startsWell :=
      if whole.isEmpty then body = cs && fraction.head?.any Char.isDigit
      else whole.head?.any Char.isDigit
    if !startsWell then none
    else
      let power ← exponent? (rest.drop fraction.length)
      let places := (fraction.filter Char.isDigit).length
      return .ofDecimal negative (digitsIn 10 (whole ++ fraction)) (power - places)
  | _ => none

/-- The spellings of a word: in lower case, with a capital, and in upper case. -/
def spellings (word : String) : List String := [word, word.capitalize, word.map Char.toUpper]

/-- The truth value that a word stands for. -/
def truth? (s : String) : Option Bool :=
  if s ∈ ["yes", "true", "on"].flatMap spellings then some true
  else if s ∈ ["no", "false", "off"].flatMap spellings then some false
  else none

/-- An infinity with its sign, or what is not a number; the words start with a point. -/
def special? (cs : List Char) : Option Binary64 :=
  let (negative, body) := signed cs
  if String.ofList body ∈ (spellings "inf").map ("." ++ ·) then some (.infinite negative)
  else if String.ofList cs ∈ [".nan", ".NaN", ".NAN"] then some .notNumber
  else none

def isNull (s : String) : Bool := s ∈ ["", "~"] ++ spellings "null"

/-- What a plain scalar stands for; whatever has no other reading is a text. -/
def plainValue (cs : List Char) : Value :=
  let s := String.ofList cs
  if isNull s then .null
  else match truth? s with
    | some b => .bool b
    | none =>
      let (negative, body) := signed cs
      match natural? body with
      | some n => .int (if negative then -n else n)
      | none => match real? cs <|> special? cs with
        | some x => .real x
        | none => .text s

end Values

end RecordMapper.Yaml
