import RecordMapper.Yaml.Scalar

/-!
# Tokens

A YAML text as tokens, with the indentation of block collections made explicit. Whether a token is
the key of a mapping shows only at the colon after it, so places where a key may have started are
remembered, and the key token is put there afterwards.
-/
namespace RecordMapper.Yaml

inductive Token where
  | documentStart
  | documentEnd
  | sequenceStart
  | mappingStart
  | blockEnd
  | flowSequenceStart
  | flowSequenceEnd
  | flowMappingStart
  | flowMappingEnd
  | entry
  | comma
  | key
  | value
  | scalar (isPlain : Bool) (text : List Char)
  deriving DecidableEq, Repr

/-- A place where a key may have started: the number of tokens before it, and whether it has to be
one. -/
structure KeyStart where
  tokens : Nat
  isRequired : Bool
  index : Nat
  line : Nat
  column : Nat

/-- Tokens are kept with the last one first. `indent` is the column of the innermost block
collection and `outer` those around it; `keyStarts` goes by the depth of brackets. -/
structure Lexer where
  cursor : Cursor
  depth : Nat
  indent : Int
  outer : List Int
  keyAllowed : Bool
  keyStarts : List (Nat × KeyStart)
  tokens : List Token

namespace Lexer

def start (text : List Char) : Lexer :=
  ⟨Cursor.start text, 0, -1, [], true, [], []⟩

def inFlow (l : Lexer) : Bool := 0 < l.depth

def push (l : Lexer) (t : Token) : Lexer := { l with tokens := t :: l.tokens }

def allowKey (l : Lexer) (allowed : Bool) : Lexer := { l with keyAllowed := allowed }

/-- A token of a number of characters. -/
def pushMark (l : Lexer) (t : Token) (length : Nat) : Lexer :=
  { l.push t with cursor := l.cursor.skip length }

/-- Puts a token before all but the first few. -/
def insertAfter (l : Lexer) (count : Nat) (t : Token) : Lexer :=
  let later := l.tokens.length - count
  { l with tokens := l.tokens.take later ++ t :: l.tokens.drop later }

/-- Past spaces, comments and line breaks. Outside brackets a key may start on a new line. -/
def skipBlank : Nat → Lexer → Lexer
  | 0, l => l
  | fuel + 1, l =>
    let c := l.cursor.skipWhile (· = ' ')
    let c := if c.peek = some '#' then c.skipWhile (!isBreak ·) else c
    match c.break? with
    | some (_, c) => skipBlank fuel { l with cursor := c, keyAllowed := l.keyAllowed || !l.inFlow }
    | none => { l with cursor := c }

/-- Forgets places that the line or the distance rules out; a required key must not be lost. -/
def dropStale (l : Lexer) : Option Lexer :=
  let isStale (k : KeyStart) : Bool :=
    k.line ≠ l.cursor.line || 1024 < l.cursor.index - k.index
  if l.keyStarts.any fun (_, k) => isStale k && k.isRequired then none
  else some { l with keyStarts := l.keyStarts.filter fun (_, k) => !isStale k }

/-- Forgets the place at the present depth. -/
def dropKeyStart (l : Lexer) : Option Lexer :=
  match l.keyStarts.lookup l.depth with
  | some k =>
    if k.isRequired then none
    else some { l with keyStarts := l.keyStarts.filter fun (depth, _) => depth ≠ l.depth }
  | none => some l

/-- Remembers the present place, where the next token may be a key. -/
def saveKeyStart (l : Lexer) : Option Lexer :=
  if l.keyAllowed then do
    let l ← l.dropKeyStart
    let c := l.cursor
    let isRequired := !l.inFlow && l.indent = c.column
    return { l with keyStarts :=
      (l.depth, ⟨l.tokens.length, isRequired, c.index, c.line, c.column⟩) :: l.keyStarts }
  else some l

/-- Ends the block collections that are indented further than a column. -/
def closeTo (column : Int) : List Int → Lexer → Lexer
  | [], l => l
  | outer :: rest, l =>
    if column < l.indent then
      closeTo column rest { l.push .blockEnd with indent := outer, outer := rest }
    else l

def unwind (l : Lexer) (column : Int) : Lexer := if l.inFlow then l else closeTo column l.outer l

/-- The lexer inside a new block collection at a column, if that is one. -/
def open? (l : Lexer) (column : Int) : Option Lexer :=
  if l.indent < column then some { l with indent := column, outer := l.indent :: l.outer } else none

/-- The mark of a document. -/
def readDocumentMark (l : Lexer) (t : Token) : Option Lexer := do
  let l ← (l.unwind (-1)).dropKeyStart
  return (l.allowKey false).pushMark t 3

def readFlowStart (l : Lexer) (t : Token) : Option Lexer := do
  let l ← l.saveKeyStart
  return { (l.allowKey true).pushMark t 1 with depth := l.depth + 1 }

def readFlowEnd (l : Lexer) (t : Token) : Option Lexer := do
  let l ← l.dropKeyStart
  return { (l.allowKey false).pushMark t 1 with depth := l.depth - 1 }

def readComma (l : Lexer) : Option Lexer := do
  return ((← l.dropKeyStart).allowKey true).pushMark .comma 1

/-- In block context, opens a collection at the present column if it is a new one. A key has to be
allowed there. -/
def openBlock (l : Lexer) (t : Token) : Option Lexer :=
  if l.inFlow then some l
  else if !l.keyAllowed then none
  else match l.open? l.cursor.column with
    | some l => some (l.push t)
    | none => some l

def readEntry (l : Lexer) : Option Lexer := do
  let l ← l.openBlock .sequenceStart
  return (← (l.allowKey true).dropKeyStart).pushMark .entry 1

def readKey (l : Lexer) : Option Lexer := do
  let l ← l.openBlock .mappingStart
  return (← (l.allowKey !l.inFlow).dropKeyStart).pushMark .key 1

/-- A colon. It makes the remembered place a key, or else belongs to a key given by a question
mark. -/
def readValue (l : Lexer) : Option Lexer :=
  match l.keyStarts.lookup l.depth with
  | some k =>
    let l := { l with keyStarts := l.keyStarts.filter fun (depth, _) => depth ≠ l.depth }
    let l := l.insertAfter k.tokens .key
    let l := match if l.inFlow then none else l.open? k.column with
      | some l => l.insertAfter k.tokens .mappingStart
      | none => l
    some ((l.allowKey false).pushMark .value 1)
  | none => do
    let l ← l.openBlock .mappingStart
    return (← (l.allowKey !l.inFlow).dropKeyStart).pushMark .value 1

def readBlockScalar (l : Lexer) (isFolded : Bool) : Option Lexer := do
  let l ← (l.allowKey true).dropKeyStart
  let (text, c) ← readBlock isFolded l.indent l.cursor.next
  return { l.push (.scalar false text) with cursor := c }

def readQuotedScalar (l : Lexer) (quote : Char) : Option Lexer := do
  let l := (← l.saveKeyStart).allowKey false
  let (text, c) ← readQuoted quote (l.cursor.rest.length + 1) l.cursor.next
  return { l.push (.scalar false text) with cursor := c }

def readPlainScalar (l : Lexer) : Option Lexer := do
  let l ← l.saveKeyStart
  let (text, broke, c) :=
    readPlain l.inFlow (l.indent + 1) (l.cursor.rest.length + 1) [] false l.cursor
  return { (l.allowKey broke).push (.scalar true text) with cursor := c }

/-- Characters that do not start a plain scalar. -/
def isIndicator (c : Char) : Bool :=
  c ∈ ['-', '?', ':', ',', '[', ']', '\x7b', '\x7d', '#', '&', '*', '!', '|', '>', '\x27', '\x22',
    '%', '@', '\x60']

/-- Whether a plain scalar starts with a character; some may when text follows them. -/
def startsPlain (l : Lexer) (c : Char) : Bool :=
  !(isSeparator (some c) || isIndicator c) ||
    (!isSeparator l.cursor.peekSecond && (c = '-' || (!l.inFlow && (c = '?' || c = ':'))))

/-- The token that starts with a character. -/
def readToken (l : Lexer) (c : Char) : Option Lexer :=
  let separated := isSeparator l.cursor.peekSecond
  if l.cursor.column = 0 && l.cursor.atMark "---" then l.readDocumentMark .documentStart
  else if l.cursor.column = 0 && l.cursor.atMark "..." then l.readDocumentMark .documentEnd
  else match c with
    | '[' => l.readFlowStart .flowSequenceStart
    | '\x7b' => l.readFlowStart .flowMappingStart
    | ']' => l.readFlowEnd .flowSequenceEnd
    | '\x7d' => l.readFlowEnd .flowMappingEnd
    | ',' => l.readComma
    | '\x27' => l.readQuotedScalar c
    | '\x22' => l.readQuotedScalar c
    | _ =>
      if c = '-' && separated then l.readEntry
      else if c = '?' && (l.inFlow || separated) then l.readKey
      else if c = ':' && (l.inFlow || separated) then l.readValue
      else if c = '|' && !l.inFlow then l.readBlockScalar false
      else if c = '>' && !l.inFlow then l.readBlockScalar true
      else if l.startsPlain c then l.readPlainScalar
      else none

/-- The remaining tokens. Every round reads at least one character. -/
def readAll : Nat → Lexer → Option (List Token)
  | 0, _ => none
  | fuel + 1, l => do
    let l ← (l.skipBlank (l.cursor.rest.length + 1)).dropStale
    let l := l.unwind l.cursor.column
    match l.cursor.peek with
    | some c => readAll fuel (← l.readToken c)
    | none => return (← (l.unwind (-1)).dropKeyStart).tokens.reverse

end Lexer

/-- The tokens of a text. A byte order mark at its beginning does not count. -/
def tokens? (text : List Char) : Option (List Token) :=
  let text := if text.head? = some '\uFEFF' then text.drop 1 else text
  (Lexer.start text).readAll (text.length + 1)

end RecordMapper.Yaml
