import RecordMapper.Failure
import RecordMapper.Text.EncodingNames

/-!
# Character encodings

The encodings that files can be written in, and how input files are decoded. An encoding either
expresses a whole text or names the first run of characters that it cannot express. Code pages and
the other encodings with tables or rules of their own are known by their names here; what they make
of a text is left to the host.
-/
namespace RecordMapper.Text

/-- The encodings that a name can stand for. A conversion has such a name, but encodes no texts, and
the undefined encoding fails for every text. -/
inductive Encoding where
  | utf8
  | utf8Signed
  | latin1
  | ascii
  | utf16
  | utf16Little
  | utf16Big
  | utf32
  | utf32Little
  | utf32Big
  | codePage (title : String)
  | conversion
  | undefined
  deriving DecidableEq, Repr

/-- The code pages of a host: what the encoding with a title makes of a text. -/
structure CodePages where
  encode : String → String → Except EncodingFault (List UInt8)

/-- A host that has no code pages turns every text down. -/
def CodePages.none : CodePages where
  encode title _ := .error (.other ("no code page " ++ title))

namespace Encoding

/-- The encodings with their titles and their other names. -/
def titles : List (Encoding × String × List String) := [
  (utf8, "utf_8", ["u8", "utf", "utf8", "utf8_ucs2", "utf8_ucs4", "cp65001"]),
  (utf8Signed, "utf_8_sig", []),
  (latin1, "latin_1", ["8859", "cp819", "csisolatin1", "ibm819", "iso8859", "iso8859_1",
    "iso_8859_1", "iso_8859_1_1987", "iso_ir_100", "l1", "latin", "latin1"]),
  (ascii, "ascii", ["646", "ansi_x3.4_1968", "ansi_x3_4_1968", "ansi_x3.4_1986", "cp367",
    "csascii", "ibm367", "iso646_us", "iso_646.irv_1991", "iso_ir_6", "us", "us_ascii"]),
  (utf16, "utf_16", ["u16", "utf16"]),
  (utf16Little, "utf_16_le", ["unicodelittleunmarked", "utf_16le"]),
  (utf16Big, "utf_16_be", ["unicodebigunmarked", "utf_16be"]),
  (utf32, "utf_32", ["u32", "utf32"]),
  (utf32Little, "utf_32_le", ["utf_32le"]),
  (utf32Big, "utf_32_be", ["utf_32be"]),
  (undefined, "undefined", [])] ++
  codePageNames.map (fun (title, aliases) => (codePage title, title, aliases)) ++
  conversionNames.map fun (title, aliases) => (conversion, title, aliases)

/-- Whether a character belongs to a word of a name. -/
def isNamePart (c : Char) : Bool := c.isAlphanum || c = '.'

/-- The words of a name in lower case, joined by underscores. -/
def folded (name : String) : String :=
  let spaced := name.toList.map fun c => if isNamePart c then c.toLower else '_'
  join "_" (((pieces '_' spaced).filter fun word => !word.isEmpty).map String.ofList)

/-- The encoding with a title. -/
def entitled? (key : String) : Option Encoding :=
  (titles.find? fun entry => entry.2.1 == key).map Prod.fst

/-- The encoding that has a word among its other names. -/
def aliased? (key : String) : Option Encoding :=
  (titles.find? fun entry => entry.2.2.contains key).map Prod.fst

/-- The encoding with a name, which has no NUL in it. Points in an alias may stand for
underscores. -/
def ofName? (name : String) : Option Encoding :=
  if hasNul name then none
  else
    let key := folded name
    entitled? key <|> aliased? key <|> aliased? (replaceAll "." "_" key)

/-- Looks an encoding up, which cannot even be tried for a name with a NUL. -/
def find (name : String) : Except Failure (Option Encoding) :=
  if hasNul name then .error .nulInName else .ok (ofName? name)

/-- The bytes of a number, lowest first. -/
def littleBytes (count n : Nat) : List UInt8 :=
  (List.range count).map fun i => UInt8.ofNat (n / Nat.pow 256 i)

/-- The bytes of a unit in one of the two orders. -/
def unitBytes (little : Bool) (count n : Nat) : List UInt8 :=
  if little then littleBytes count n else (littleBytes count n).reverse

/-- The 16-bit units of a character: one, or a surrogate pair. -/
def units16 (c : Char) : List Nat :=
  if c.toNat < 0x10000 then [c.toNat]
  else
    let n := c.toNat - 0x10000
    [0xD800 + n / 1024, 0xDC00 + n % 1024]

def encode16 (little : Bool) (cs : List Char) : List UInt8 :=
  (cs.flatMap units16).flatMap (unitBytes little 2)

def encode32 (little : Bool) (cs : List Char) : List UInt8 :=
  cs.flatMap fun c => unitBytes little 4 c.toNat

/-- The bytes of a text whose characters all lie below a limit; otherwise its first run of
characters that do not. -/
def encodeBelow (codec : String) (limit : Nat) (cs : List Char) :
    Except EncodingFault (List UInt8) :=
  let start := (cs.takeWhile fun c => c.toNat < limit).length
  match cs.drop start with
  | [] => .ok (cs.map fun c => UInt8.ofNat c.toNat)
  | c :: rest =>
    let run := (rest.takeWhile fun c => limit ≤ c.toNat).length + 1
    .error (.unencodable {
      codec, character := c, start, stop := start + run
      limit := "ordinal not in range(" ++ toString limit ++ ")" })

def encode (pages : CodePages) (s : String) : Encoding → Except EncodingFault (List UInt8)
  | utf8 => .ok s.toUTF8.toList
  | utf8Signed => .ok (0xEF :: 0xBB :: 0xBF :: s.toUTF8.toList)
  | latin1 => encodeBelow "latin-1" 256 s.toList
  | ascii => encodeBelow "ascii" 128 s.toList
  | utf16 => .ok (0xFF :: 0xFE :: encode16 true s.toList)
  | utf16Little => .ok (encode16 true s.toList)
  | utf16Big => .ok (encode16 false s.toList)
  | utf32 => .ok (0xFF :: 0xFE :: 0 :: 0 :: encode32 true s.toList)
  | utf32Little => .ok (encode32 true s.toList)
  | utf32Big => .ok (encode32 false s.toList)
  | codePage title => pages.encode title s
  | conversion => .error .notOfTexts
  | undefined => .error (.other "UnicodeError: undefined encoding")

/-- The bytes of a text in the encoding with a name. -/
def encodeNamed (pages : CodePages) (name s : String) : Except Failure (List UInt8) := do
  match ← find name with
  | some encoding => (encoding.encode pages s).mapError (EncodingFault.failure name)
  | none => throw (.unknownEncoding name)

/-- What a leading byte asks of the bytes after it: how many there are, and the bounds of the
first of them. -/
structure Lead where
  following : Nat
  least : Nat
  greatest : Nat
  bits : Nat

/-- The demands of a byte that begins a character of several bytes. -/
def lead? (byte : Nat) : Option Lead :=
  if 0xC2 ≤ byte && byte ≤ 0xDF then some ⟨1, 0x80, 0xBF, byte - 0xC0⟩
  else if byte = 0xE0 then some ⟨2, 0xA0, 0xBF, 0⟩
  else if byte = 0xED then some ⟨2, 0x80, 0x9F, byte - 0xE0⟩
  else if 0xE1 ≤ byte && byte ≤ 0xEF then some ⟨2, 0x80, 0xBF, byte - 0xE0⟩
  else if byte = 0xF0 then some ⟨3, 0x90, 0xBF, 0⟩
  else if 0xF1 ≤ byte && byte ≤ 0xF3 then some ⟨3, 0x80, 0xBF, byte - 0xF0⟩
  else if byte = 0xF4 then some ⟨3, 0x80, 0x8F, byte - 0xF0⟩
  else none

/-- Reads bytes as UTF-8. The state holds where the character in progress begins, its first byte,
how many of its bytes were read, what is still demanded and the bits collected; the result has the
characters last first. -/
def decodeFrom (position : Nat) (pending : Option (Nat × Nat × Nat × Lead)) (done : List Char) :
    List UInt8 → Except MalformedBytes (List Char)
  | [] => match pending with
    | none => .ok done
    | some (start, first, read, _) => .error ⟨first, start, start + read, "unexpected end of data"⟩
  | b :: rest =>
    let byte := b.toNat
    match pending with
    | none =>
      if byte < 0x80 then decodeFrom (position + 1) none (Char.ofNat byte :: done) rest
      else match lead? byte with
        | some lead => decodeFrom (position + 1) (some (position, byte, 1, lead)) done rest
        | none => .error ⟨byte, position, position + 1, "invalid start byte"⟩
    | some (start, first, read, lead) =>
      if lead.least ≤ byte && byte ≤ lead.greatest then
        let bits := lead.bits * 64 + (byte - 0x80)
        if lead.following = 1 then
          decodeFrom (position + 1) none (Char.ofNat bits :: done) rest
        else
          decodeFrom (position + 1)
            (some (start, first, read + 1, ⟨lead.following - 1, 0x80, 0xBF, bits⟩)) done rest
      else .error ⟨first, start, start + read, "invalid continuation byte"⟩

/-- The characters that bytes mean in UTF-8. -/
def decodeUtf8 (bytes : List UInt8) : Except MalformedBytes (List Char) :=
  (decodeFrom 0 none [] bytes).map List.reverse

/-- Writes every kind of line break as a line feed. -/
def unifyBreaks : List Char → List Char
  | '\r' :: '\n' :: rest => '\n' :: unifyBreaks rest
  | '\r' :: rest => '\n' :: unifyBreaks rest
  | c :: rest => c :: unifyBreaks rest
  | [] => []

/-- The text of an input file. -/
def decodeInput (bytes : List UInt8) : Except Failure String :=
  match decodeUtf8 bytes with
  | .ok cs => .ok (String.ofList (unifyBreaks cs))
  | .error cause => .error (.undecodable cause)

end Encoding

end RecordMapper.Text
