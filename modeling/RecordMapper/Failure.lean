import RecordMapper.Value

/-!
# Failures

Everything that can go wrong, as causes, with the one place that gives each its wording. Faults of
a document are collected with their places; all other failures end the work at once.
-/
namespace RecordMapper

open RecordMapper.Text

/-- The documents that are checked field by field. -/
inductive Document where
  | column
  | table
  | config
  | unit
  deriving DecidableEq, Repr

namespace Document

def title : Document → String
  | column => "Column"
  | table => "Table"
  | config => "GeneratorConfig"
  | unit => "GeneratedUnit"

end Document

/-- One step on the way from a document to a place inside it. -/
inductive Step where
  | key (name : String)
  | index (position : Nat)
  deriving DecidableEq, Repr

/-- Rules of the tables themselves, beyond the shape of their fields. -/
inductive SchemaRule where
  | unknownTypeName (name : String)
  | undeclaredColumns (table subset : String) (missing : List String)
  deriving DecidableEq, Repr

namespace SchemaRule

def message : SchemaRule → String
  | unknownTypeName name => "Unknown JDBC type name: " ++ shown name
  | undeclaredColumns table subset missing =>
    "Table '" ++ table ++ "': " ++ subset ++ " references columns not in all_columns: " ++
      shownList missing

end SchemaRule

/-- What can be wrong at one place of a document. -/
inductive FaultKind where
  | notObject
  | missing
  | unknownField
  | notText
  | tooShort
  | notWhole
  | wholeUnreadable
  | wholeFromFraction
  | wholeTooLarge
  | notFinite
  | belowMinimum
  | notBool
  | boolUnreadable
  | notList
  | notMember
  | notFunction
  | notPath
  | broken (rule : SchemaRule)
  deriving DecidableEq, Repr

structure Fault where
  kind : FaultKind
  path : List Step
  deriving DecidableEq, Repr

/-- The same fault seen from a document around it. -/
def Fault.within (step : Step) (fault : Fault) : Fault := { fault with path := step :: fault.path }

/-- The formats of input files. -/
inductive Format where
  | json
  | yaml
  deriving DecidableEq, Repr

/-- Why a text has no form in a codec: the first run of characters it cannot express. -/
structure UnencodableRun where
  codec : String
  character : Char
  start : Nat
  stop : Nat
  limit : String
  deriving DecidableEq, Repr

/-- Why an encoding gives no bytes for a text. -/
inductive EncodingFault where
  | unencodable (cause : UnencodableRun)
  | notOfTexts
  | other (cause : String)
  deriving DecidableEq, Repr

/-- Why bytes are not UTF-8: the first sequence that is malformed. -/
structure MalformedBytes where
  byte : Nat
  start : Nat
  stop : Nat
  reason : String
  deriving DecidableEq, Repr

inductive Failure where
  | invalid (document : Document) (faults : List Fault)
  | entryInvalid (index : Nat) (cause : Failure)
  | configInvalid (cause : Failure)
  | noTables
  | tablesNotList (got : String)
  | entryNotMapping (index : Nat)
  | unknownTableKeys (table : Value) (keys : List String)
  | undeclaredKeys (table : Value) (missing : List Value)
  | unevenPair (index length : Nat)
  | notMember (value : Value) (enumeration : String)
  | groupSize (size : Int)
  | malformed (format : Format) (path : String)
  | notObject (format : Format) (got : String)
  | inputMissing (path : String)
  | inputNotFile (path : String)
  | unknownTables (names : List String)
  | undecodable (cause : MalformedBytes)
  | unencodable (cause : UnencodableRun)
  | encodingFailed (name cause : String)
  | notTextEncoding (name : String)
  | unknownEncoding (name : String)
  | notDirectory (path : String)
  | alreadyExists (path : String)
  | isDirectory (path : String)
  | directoryMissing (path : String)
  | pathBusy (path : String)
  | nulInPath
  | nulInName
  | infiniteWhole
  | wrongType
  | notKey (got : String)
  | noMember (got member : String)
  | outOfRange
  | noEntry
  deriving Inhabited

namespace Failure

/-- The families of failures. -/
inductive Kind where
  | validation
  | value
  | decoding
  | encoding
  | coding
  | lookup
  | missingFile
  | notDirectory
  | fileExists
  | isDirectory
  | busy
  | overflow
  | type
  | missingMember
  | index
  | missingEntry
  deriving DecidableEq, Repr

namespace Kind

def label : Kind → String
  | validation => "ValidationError"
  | value => "ValueError"
  | decoding => "UnicodeDecodeError"
  | encoding => "UnicodeEncodeError"
  | coding => "UnicodeError"
  | lookup => "LookupError"
  | missingFile => "FileNotFoundError"
  | notDirectory => "NotADirectoryError"
  | fileExists => "FileExistsError"
  | isDirectory => "IsADirectoryError"
  | busy => "OSError"
  | overflow => "OverflowError"
  | type => "TypeError"
  | missingMember => "AttributeError"
  | index => "IndexError"
  | missingEntry => "KeyError"

/-- Failures of the file system. -/
def isStorage : Kind → Bool
  | missingFile | notDirectory | fileExists | isDirectory | busy => true
  | _ => false

/-- Failures of the program's own making, which are reported by their kind alone. -/
def isInternal : Kind → Bool
  | type | missingMember | index | missingEntry => true
  | _ => false

/-- Failures that mean an unusable value, whatever made it unusable. -/
def isUnusable : Kind → Bool
  | validation | value | decoding | encoding | coding => true
  | _ => false

end Kind

def kind : Failure → Kind
  | invalid .. => .validation
  | undecodable _ => .decoding
  | unencodable _ => .encoding
  | encodingFailed .. => .coding
  | notTextEncoding _ | unknownEncoding _ => .lookup
  | inputMissing _ | directoryMissing _ => .missingFile
  | notDirectory _ => .notDirectory
  | alreadyExists _ => .fileExists
  | isDirectory _ => .isDirectory
  | pathBusy _ => .busy
  | infiniteWhole => .overflow
  | wrongType | notKey _ => .type
  | noMember .. => .missingMember
  | outOfRange => .index
  | noEntry => .missingEntry
  | _ => .value

/-- Failures that a loader reports as bad input instead of passing them on. -/
def isBadInput (failure : Failure) : Bool :=
  failure.kind.isUnusable || failure.kind = .missingFile

/-- Number of faults in words. -/
def faultCount (count : Nat) : String :=
  toString count ++ " validation error" ++ (if count = 1 then "" else "s")

def entryContext (index : Nat) : String :=
  "Table entry #" ++ toString index ++ " is invalid: "

def configContext : String := "Config validation failed: "

def positions (what : String) (start stop : Nat) (one : String) : String :=
  if stop = start + 1 then what ++ " " ++ one ++ " in position " ++ toString start
  else what ++ "s in position " ++ toString start ++ "-" ++ toString (stop - 1)

def message : Failure → String
  | invalid document faults => faultCount faults.length ++ " for " ++ document.title
  | entryInvalid index cause => entryContext index ++ cause.message
  | configInvalid cause => configContext ++ cause.message
  | noTables => "Cannot find table definitions in input. Expected top-level key: 'tables'."
  | tablesNotList got => "'tables' must be a list, got " ++ got ++ "."
  | entryNotMapping index => "Table entry #" ++ toString index ++ " must be a mapping."
  | unknownTableKeys table keys =>
    "Unknown keys in table '" ++ table.display ++ "': " ++ shownList keys
  | undeclaredKeys table missing =>
    "Table '" ++ table.display ++ "': primary keys not among columns: " ++
      (Value.list missing).shown
  | unevenPair index length =>
    "dictionary update sequence element #" ++ toString index ++ " has length " ++
      toString length ++ "; 2 is required"
  | notMember value enumeration => value.shown ++ " is not a valid " ++ enumeration
  | groupSize size => "Group size must be positive, got " ++ toString size
  | malformed .json path => "Invalid JSON in " ++ path
  | malformed .yaml path => "Invalid YAML in " ++ path
  | notObject .json got => "Expected a JSON object at top level, got " ++ got ++ "."
  | notObject .yaml got => "Expected a YAML mapping at top level, got " ++ got ++ "."
  | inputMissing path => "Input file not found: " ++ path
  | inputNotFile path => "Input path is not a file: " ++ path
  | unknownTables names => "Unknown table(s): " ++ join ", " names
  | undecodable cause =>
    "'utf-8' codec can't decode " ++
      positions "byte" cause.start cause.stop ("0x" ++ String.ofList (hex 2 cause.byte)) ++
      ": " ++ cause.reason
  | unencodable cause =>
    "'" ++ cause.codec ++ "' codec can't encode " ++
      positions "character" cause.start cause.stop
        ("'" ++ String.ofList (codeEscape cause.character) ++ "'") ++
      ": " ++ cause.limit
  | encodingFailed name cause =>
    "encoding with '" ++ name ++ "' codec failed (" ++ cause ++ ")"
  | notTextEncoding name =>
    "'" ++ name ++ "' is not a text encoding; use codecs.encode() to handle arbitrary codecs"
  | unknownEncoding name => "unknown encoding: " ++ name
  | notDirectory path => "[Errno 20] Not a directory: " ++ shown path
  | alreadyExists path => "[Errno 17] File exists: " ++ shown path
  | isDirectory path => "[Errno 21] Is a directory: '<tmp>' -> " ++ shown path
  | directoryMissing path => "[Errno 2] No such file or directory: " ++ shown path
  | pathBusy path => "[Errno 16] Device or resource busy: '<tmp>' -> " ++ shown path
  | nulInPath => "embedded null byte"
  | nulInName => "embedded null character"
  | infiniteWhole => "cannot convert float infinity to integer"
  | wrongType => ""
  | notKey got => "unhashable type: '" ++ got ++ "'"
  | noMember got member => "'" ++ got ++ "' object has no attribute '" ++ member ++ "'"
  | outOfRange => ""
  | noEntry => ""

/-- The failure with its kind in front. -/
def report (failure : Failure) : String :=
  if failure.kind.isInternal then failure.kind.label
  else failure.kind.label ++ ": " ++ failure.message

end Failure

/-- The failure to write a text in the encoding with a name. -/
def EncodingFault.failure (name : String) : EncodingFault → Failure
  | unencodable cause => .unencodable cause
  | notOfTexts => .notTextEncoding name
  | other cause => .encodingFailed name cause

end RecordMapper
