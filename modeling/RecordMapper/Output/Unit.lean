import RecordMapper.Checked
import RecordMapper.Disk.Path
import RecordMapper.Text.Digest

/-!
# Source units

A source text on its way to a file.
-/
namespace RecordMapper.Output

open RecordMapper.Disk RecordMapper.Text

/-- `target` is the qualified name of what the text defines. -/
structure SourceUnit where
  path : Path
  content : String
  target : String
  deriving DecidableEq, Repr

namespace SourceUnit

def readPath : Value → Checked Path
  | .text s => .ok (Path.ofString s)
  | _ => Checked.fault .notPath

def read : Value → Checked SourceUnit
  | .mapping fields =>
    match Checked.both (Value.required "path" readPath fields)
      (Checked.both (Value.required "content" Value.readText fields)
      (Checked.both (Value.optional "target" "" Value.readText fields)
        (Value.onlyFields ["path", "content", "target"] fields))) with
    | .ok (path, content, target, _) => .ok { path, content, target }
    | .error r => .error r
  | _ => Checked.fault .notObject

def lineCount (u : SourceUnit) : Nat := countLines u.content

/-- The size of the text in UTF-8. -/
def size (u : SourceUnit) : Nat := u.content.utf8ByteSize

def checksum (u : SourceUnit) : String := Digest.ofText u.content

def brief (u : SourceUnit) : String :=
  "<GeneratedUnit " ++ u.path.toString ++ " (" ++ toString u.lineCount ++ " lines)>"

end SourceUnit

end RecordMapper.Output
