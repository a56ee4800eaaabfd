import RecordMapper.Disk.Tree
import RecordMapper.Json.Reader
import RecordMapper.Notice
import RecordMapper.Text.Case
import RecordMapper.Yaml.Reader

/-!
# Input files

Reading a document from a file. The suffix of the file tells its format; under any other suffix the
file is read as JSON and, if that gives no document, as YAML.
-/
namespace RecordMapper.InputFile

open RecordMapper.Disk RecordMapper.Text

/-- The format that a suffix stands for. -/
def format? (suffix : String) : Option Format :=
  if suffix = ".yaml" || suffix = ".yml" then some .yaml
  else if suffix = ".json" then some .json
  else none

def parse? : Format → String → Option Value
  | .json => Json.read?
  | .yaml => Yaml.read?

/-- The document in the content of a file, which has to be a mapping. -/
def readAs (format : Format) (path : Path) (content : List UInt8) : Except Failure Value := do
  match parse? format (← Encoding.decodeInput content) with
  | none => throw (.malformed format path.toString)
  | some (.mapping fields) => return .mapping fields
  | some other => throw (.notObject format other.typeName)

def suffixOf (path : Path) : String := lower path.suffix

def read (disk : Disk) (path : Path) : Except Failure Value :=
  match disk.find? path with
  | none => .error (.inputMissing path.toString)
  | some .directory => .error (.inputNotFile path.toString)
  | some (.file content) =>
    match format? (suffixOf path) with
    | some format => readAs format path content
    | none =>
      match readAs .json path content with
      | .ok document => .ok document
      | .error _ => readAs .yaml path content

/-- What is said about a file of an unknown suffix. -/
def notices (disk : Disk) (path : Path) : List Notice :=
  if (disk.content? path).isSome && (format? (suffixOf path)).isNone then
    [⟨.info, "mappergen.generator",
      "Unknown extension '" ++ suffixOf path ++ "'; trying JSON then YAML."⟩]
  else []

end RecordMapper.InputFile
