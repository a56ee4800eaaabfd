import RecordMapper.Number.Decimal
import RecordMapper.Text.Encoding
import RecordMapper.Yaml.Token

/-!
# Reading YAML

The value of a text that holds at most one document. Block and flow collections, keys with question
marks and all forms of scalars are understood; anchors, tags and directives are not. Dates and times
are read as the texts that they are written as, and so are numbers to the base sixty that have a
fraction. A merge key is a field like any other, by the name of two less-than signs. Of two equal
keys the later one counts, and a key that is no text is taken as it is written in JSON.
-/
namespace RecordMapper.Yaml

open RecordMapper.Text

/-- The name of the field that a key stands for. Collections are no keys. -/
def keyName? : Value → Option String
  | .null => some "null"
  | .bool b => some (if b then "true" else "false")
  | .int n => some (toString n)
  | .real x => some x.literal
  | .text s => some s
  | .list _ | .mapping _ => none

/-- A value that may be left out before some tokens. -/
def isOmitted (enders : List Token) : List Token → Bool
  | [] => false
  | t :: _ => t ∈ enders

mutual

/-- One node. `isBlock` allows block collections, `isLoose` also a sequence at the indentation of
the mapping around it. -/
def readNode (isBlock isLoose : Bool) : Nat → List Token → Option (Value × List Token)
  | 0, _ => none
  | fuel + 1, ts =>
    match ts with
    | .scalar isPlain text :: rest =>
      some (if isPlain then plainValue text else .text (String.ofList text), rest)
    | .flowSequenceStart :: rest => readFlowItems true fuel [] rest
    | .flowMappingStart :: rest => readFlowFields true fuel [] rest
    | .sequenceStart :: rest => if isBlock then readItems true fuel [] rest else none
    | .mappingStart :: rest => if isBlock then readFields fuel [] rest else none
    | .entry :: _ => if isLoose then readItems false fuel [] ts else none
    | _ => none

/-- A node, or null when one of some tokens follows at once. -/
def readOptional (isBlock isLoose : Bool) (enders : List Token) :
    Nat → List Token → Option (Value × List Token)
  | 0, _ => none
  | fuel + 1, ts =>
    if isOmitted enders ts then some (.null, ts) else readNode isBlock isLoose fuel ts

/-- The items of a block sequence. One of its own indentation has an end token. -/
def readItems (isClosed : Bool) : Nat → List Value → List Token → Option (Value × List Token)
  | 0, _, _ => none
  | fuel + 1, done, ts =>
    match ts with
    | .entry :: rest => do
      let enders := if isClosed then [.entry, .blockEnd] else [.entry, .key, .value, .blockEnd]
      let (item, rest) ← readOptional true false enders fuel rest
      readItems isClosed fuel (item :: done) rest
    | .blockEnd :: rest => some (.list done.reverse, if isClosed then rest else ts)
    | _ => if isClosed then none else some (.list done.reverse, ts)

/-- The fields of a block mapping. -/
def readFields : Nat → List (String × Value) → List Token → Option (Value × List Token)
  | 0, _, _ => none
  | fuel + 1, done, ts =>
    match ts with
    | .key :: rest => do
      let (key, rest) ← readOptional true true [.key, .value, .blockEnd] fuel rest
      let (value, rest) ← readFieldValue fuel rest
      readFields fuel (Value.setField (← keyName? key) value done) rest
    | .blockEnd :: rest => some (.mapping done, rest)
    | _ => none

/-- The value of a field in block context, null without a colon. -/
def readFieldValue : Nat → List Token → Option (Value × List Token)
  | 0, _ => none
  | fuel + 1, ts =>
    match ts with
    | .value :: rest => readOptional true true [.key, .value, .blockEnd] fuel rest
    | _ => some (.null, ts)

/-- The items of a flow sequence. A field among them is a mapping of its own. -/
def readFlowItems (isFirst : Bool) : Nat → List Value → List Token → Option (Value × List Token)
  | 0, _, _ => none
  | fuel + 1, done, ts =>
    let next := match ts with
      | .flowSequenceEnd :: _ => some ts
      | .comma :: rest => if isFirst then some ts else some rest
      | _ => if isFirst then some ts else none
    match next with
    | none => none
    | some (.flowSequenceEnd :: rest) => some (.list done.reverse, rest)
    | some (.key :: rest) => do
      let (key, rest) ← readOptional false false [.value, .comma, .flowSequenceEnd] fuel rest
      let (value, rest) ← readFlowValue [.comma, .flowSequenceEnd] fuel rest
      readFlowItems false fuel (.mapping [(← keyName? key, value)] :: done) rest
    | some ts => do
      let (item, rest) ← readNode false false fuel ts
      readFlowItems false fuel (item :: done) rest

/-- The value of a field in flow context, null without a colon. -/
def readFlowValue (enders : List Token) : Nat → List Token → Option (Value × List Token)
  | 0, _ => none
  | fuel + 1, ts =>
    match ts with
    | .value :: rest => readOptional false false enders fuel rest
    | _ => some (.null, ts)

/-- The fields of a flow mapping. A node alone is a key without a value. -/
def readFlowFields (isFirst : Bool) :
    Nat → List (String × Value) → List Token → Option (Value × List Token)
  | 0, _, _ => none
  | fuel + 1, done, ts =>
    let next := match ts with
      | .flowMappingEnd :: _ => some ts
      | .comma :: rest => if isFirst then some ts else some rest
      | _ => if isFirst then some ts else none
    match next with
    | none => none
    | some (.flowMappingEnd :: rest) => some (.mapping done, rest)
    | some (.key :: rest) => do
      let (key, rest) ← readOptional false false [.value, .comma, .flowMappingEnd] fuel rest
      let (value, rest) ← readFlowValue [.comma, .flowMappingEnd] fuel rest
      readFlowFields false fuel (Value.setField (← keyName? key) value done) rest
    | some ts => do
      let (key, rest) ← readNode false false fuel ts
      readFlowFields false fuel (Value.setField (← keyName? key) .null done) rest

end

/-- The one document of a token list; none at all is null. -/
def readDocument (ts : List Token) : Option Value := do
  let fuel := 3 * ts.length + 3
  let (value, rest) ← match ts with
    | [] => some (.null, [])
    | .documentStart :: rest =>
      if rest.isEmpty then some (.null, [])
      else readOptional true false [.documentStart, .documentEnd] fuel rest
    | _ => readNode true false fuel ts
  if rest.all (· = .documentEnd) then return value else none

/-- Whether a text may hold a character. -/
def isAllowed (c : Char) : Bool :=
  let n := c.toNat
  c = '\t' || c = '\n' || c = '\r' || (0x20 ≤ n && n ≤ 0x7E) || n = 0x85 ||
    (0xA0 ≤ n && n ≤ 0xFFFD) || 0x10000 ≤ n

/-- The value of a YAML text. -/
def read? (s : String) : Option Value := do
  let text := Encoding.unifyBreaks s.toList
  if text.all isAllowed then readDocument (← tokens? text) else none

end RecordMapper.Yaml
