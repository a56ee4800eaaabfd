/-!
# Cursors

A place in a YAML text: the rest of the text with its line and column. Lines end at a line feed, at
a next-line character and at the line and paragraph separators; carriage returns are expected to be
gone.
-/
namespace RecordMapper.Yaml

def isBreak (c : Char) : Bool := c = '\n' || c = '\x85' || c = '\u2028' || c = '\u2029'

/-- What a line break stands for inside a scalar. -/
def breakValue (c : Char) : Char := if c = '\x85' then '\n' else c

def isGap (c : Char) : Bool := c = ' ' || c = '\t'

/-- Whether what stands here separates tokens. -/
def isSeparator : Option Char → Bool
  | none => true
  | some c => isGap c || isBreak c

structure Cursor where
  rest : List Char
  index : Nat
  line : Nat
  column : Nat

namespace Cursor

def start (text : List Char) : Cursor := ⟨text, 0, 0, 0⟩

def peek (c : Cursor) : Option Char := c.rest.head?

/-- The character after the next one. -/
def peekSecond (c : Cursor) : Option Char := c.rest[1]?

/-- Past one character. A byte order mark has no width. -/
def next (c : Cursor) : Cursor :=
  match c.rest with
  | [] => c
  | ch :: rest =>
    if isBreak ch then ⟨rest, c.index + 1, c.line + 1, 0⟩
    else ⟨rest, c.index + 1, c.line, if ch = '\uFEFF' then c.column else c.column + 1⟩

def skip : Nat → Cursor → Cursor
  | 0, c => c
  | n + 1, c => skip n c.next

/-- The characters from here on that satisfy a condition. -/
def run (p : Char → Bool) (c : Cursor) : List Char := c.rest.takeWhile p

def skipWhile (p : Char → Bool) (c : Cursor) : Cursor := c.skip (c.run p).length

/-- The line break that stands here, and what follows it. -/
def break? (c : Cursor) : Option (Char × Cursor) :=
  match c.peek with
  | some ch => if isBreak ch then some (breakValue ch, c.next) else none
  | none => none

/-- Three characters that mark the start or the end of a document when they stand alone. -/
def atMark (c : Cursor) (mark : String) : Bool :=
  mark.toList.isPrefixOf c.rest && isSeparator c.rest[3]?

def atDocumentMark (c : Cursor) : Bool := c.atMark "---" || c.atMark "..."

end Cursor

end RecordMapper.Yaml
