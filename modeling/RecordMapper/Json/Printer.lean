import RecordMapper.Value

/-!
# Writing JSON

A value as JSON text, on one line or with every item on a line of its own. Characters beyond ASCII
stay as they are.
-/
namespace RecordMapper.Json

open RecordMapper.Text

/-- The escape of a character inside a string. -/
def escapeChar (c : Char) : List Char :=
  if c = '\x22' then ['\\', '\x22']
  else if c = '\\' then ['\\', '\\']
  else if c = '\n' then ['\\', 'n']
  else if c = '\r' then ['\\', 'r']
  else if c = '\t' then ['\\', 't']
  else if c = '\x08' then ['\\', 'b']
  else if c = '\x0c' then ['\\', 'f']
  else if c.toNat < 32 then '\\' :: 'u' :: hex 4 c.toNat
  else [c]

def quote (s : String) : String :=
  String.ofList ('\x22' :: s.toList.flatMap escapeChar ++ ['\x22'])

/-- What stands around and between the items of a list or mapping: how wide a level is indented,
or nothing for a single line. -/
structure Layout where
  indent : Option Int

namespace Layout

/-- The break before an item at a level. -/
def lineStart (layout : Layout) (level : Nat) : String :=
  match layout.indent with
  | some width => "\n" ++ spaces (width * level)
  | none => ""

def separator (layout : Layout) (level : Nat) : String :=
  match layout.indent with
  | some _ => "," ++ layout.lineStart level
  | none => ", "

/-- Items between brackets; the brackets touch when there is no item. -/
def enclose (layout : Layout) (level : Nat) (first last : String) (items : List String) : String :=
  if items.isEmpty then first ++ last
  else first ++ layout.lineStart (level + 1) ++ join (layout.separator (level + 1)) items ++
    layout.lineStart level ++ last

end Layout

mutual

/-- The text of a value that stands at a level. -/
def renderAt (layout : Layout) (level : Nat) : Value → String
  | .null => "null"
  | .bool b => if b then "true" else "false"
  | .int n => toString n
  | .real x => x.literal
  | .text s => quote s
  | .list items => layout.enclose level "[" "]" (renderItems layout level items)
  | .mapping fields => layout.enclose level "\x7b" "\x7d" (renderFields layout level fields)

def renderItems (layout : Layout) (level : Nat) : List Value → List String
  | [] => []
  | item :: rest => renderAt layout (level + 1) item :: renderItems layout level rest

def renderFields (layout : Layout) (level : Nat) : List (String × Value) → List String
  | [] => []
  | (key, value) :: rest =>
    (quote key ++ ": " ++ renderAt layout (level + 1) value) :: renderFields layout level rest

end

/-- JSON text of a value; `none` keeps it on one line. -/
def render (indent : Option Int) (value : Value) : String := renderAt ⟨indent⟩ 0 value

end RecordMapper.Json
