import RecordMapper.Config.Options
import RecordMapper.Text.CharClass
import RecordMapper.Text.Quoted

/-!
# Arguments

The options of the command and how argument words are read. Long options may be shortened as long
as they stay unique, and short options may be joined, the last one with its value.
-/
namespace RecordMapper.Command

open RecordMapper.Text

inductive Flag where
  | help
  | version
  | input
  | table
  | className
  | validateOnly
  | echo
  | sourceDir
  | testDir
  | package
  | template
  | testTemplate
  | force
  | noSpec
  | noArbitrary
  | noStrict
  | failOnWarnings
  | manifest
  | verbose
  | quiet
  deriving DecidableEq, Repr

namespace Flag

def all : List Flag := [
  help, version, input, table, className, validateOnly, echo, sourceDir, testDir, package, template,
  testTemplate, force, noSpec, noArbitrary, noStrict, failOnWarnings, manifest, verbose, quiet]

def spellings : Flag → List String
  | help => ["-h", "--help"]
  | version => ["--version"]
  | input => ["-i", "--input"]
  | table => ["-t", "--table"]
  | className => ["--class-name"]
  | validateOnly => ["--validate-only"]
  | echo => ["--echo"]
  | sourceDir => ["--src-dir"]
  | testDir => ["--test-dir"]
  | package => ["--package"]
  | template => ["--template"]
  | testTemplate => ["--test-template"]
  | force => ["--force"]
  | noSpec => ["--no-spec"]
  | noArbitrary => ["--no-arbitrary"]
  | noStrict => ["--no-strict"]
  | failOnWarnings => ["--fail-on-warnings"]
  | manifest => ["--manifest"]
  | verbose => ["-v", "--verbose"]
  | quiet => ["-q", "--quiet"]

/-- What the value of an option is called in the usage text; other options take none. -/
def valueName? : Flag → Option String
  | input | manifest => some "PATH"
  | table | className | testTemplate => some "NAME"
  | sourceDir | testDir => some "DIR"
  | package => some "PKG"
  | template => some "\x7binterpolation,queryDsl\x7d"
  | _ => none

def takesValue (f : Flag) : Bool := f.valueName?.isSome

/-- All spellings with what they mean. -/
def spelled : List (String × Flag) := all.flatMap fun f => f.spellings.map fun s => (s, f)

def ofSpelling? (s : String) : Option Flag := spelled.lookup s

/-- The option in messages. -/
def title (f : Flag) : String := join "/" f.spellings

/-- The values of an option that takes only some. -/
def choices : Flag → List String
  | template => Config.Choice.members.map (Config.Choice.value (α := Config.SqlTemplate))
  | _ => []

end Flag

structure Arguments where
  input : Option String
  tables : List String
  className : Option String
  validateOnly : Bool
  echo : Bool
  sourceDir : Option String
  testDir : Option String
  package : Option String
  template : Option String
  testTemplate : Option String
  force : Bool
  noSpec : Bool
  noArbitrary : Bool
  noStrict : Bool
  failOnWarnings : Bool
  manifest : Option String
  verbosity : Nat
  quiet : Bool
  deriving DecidableEq, Repr

/-- Nothing asked for yet. -/
def Arguments.initial : Arguments where
  input := none
  tables := []
  className := none
  validateOnly := false
  echo := false
  sourceDir := none
  testDir := none
  package := none
  template := none
  testTemplate := none
  force := false
  noSpec := false
  noArbitrary := false
  noStrict := false
  failOnWarnings := false
  manifest := none
  verbosity := 0
  quiet := false

/-- Words that make no sense. -/
inductive Misuse where
  | ambiguous (word : String) (spellings : List String)
  | valueMissing (flag : Flag)
  | valueIgnored (flag : Flag) (value : String)
  | notAChoice (flag : Flag) (value : String)
  | inputMissing
  | unrecognized (words : List String)
  deriving DecidableEq, Repr

namespace Misuse

def about (flag : Flag) (problem : String) : String := "argument " ++ flag.title ++ ": " ++ problem

def message : Misuse → String
  | ambiguous word spellings =>
    "ambiguous option: " ++ word ++ " could match " ++ join ", " spellings
  | valueMissing flag => about flag "expected one argument"
  | valueIgnored flag value => about flag ("ignored explicit argument " ++ shown value)
  | notAChoice flag value =>
    about flag ("invalid choice: " ++ shown value ++ " (choose from " ++
      join ", " (flag.choices.map shown) ++ ")")
  | inputMissing => "the following arguments are required: " ++ Flag.input.title
  | unrecognized words => "unrecognized arguments: " ++ join " " words

end Misuse

/-- Why the words do not lead to a run. -/
inductive Stop where
  | help
  | version
  | misuse (cause : Misuse)
  deriving DecidableEq, Repr

/-- A value inside the word of its option: behind an equals sign, or right behind the letter. -/
structure Attached where
  isMarked : Bool
  value : List Char
  deriving DecidableEq, Repr

/-- An argument word by what it looks like. -/
inductive Word where
  | plain (text : String)
  | separator
  | unknown (text : String)
  | flag (flag : Flag) (isLong : Bool) (attached : Option Attached)
  deriving DecidableEq, Repr

namespace Word

/-- What stands before and behind the first equals sign. -/
def cutAtEquals (cs : List Char) : List Char × Option Attached :=
  let name := cs.takeWhile (· ≠ '=')
  (name, match cs.drop name.length with
    | [] => none
    | _ :: value => some ⟨true, value⟩)

/-- The flags that a shortened long option may mean. -/
def completions (name : List Char) : List (String × Flag) :=
  Flag.spelled.filter fun s => name.isPrefixOf s.1.toList

/-- The readings of a word that starts with a hyphen and is no exact spelling. -/
def readings (cs : List Char) : List (String × Word) :=
  if "--".toList.isPrefixOf cs then
    let (name, attached) := cutAtEquals cs
    (completions name).map fun (spelling, f) => (spelling, flag f true attached)
  else Flag.spelled.filterMap fun (spelling, f) =>
    if spelling.toList = cs.take 2 then some (spelling, flag f false (some ⟨false, cs.drop 2⟩))
    else none

/-- A word of a minus sign and digits, which may have a fraction and a line break behind them. -/
def isNegativeNumber (cs : List Char) : Bool :=
  let body := if cs.getLast? = some '\n' then cs.dropLast.drop 1 else cs.drop 1
  let whole := body.takeWhile isDecimalDigit
  match body.drop whole.length with
  | [] => !whole.isEmpty
  | '.' :: fraction => !fraction.isEmpty && fraction.all isDecimalDigit
  | _ => false

/-- The word before any separator. -/
def ofText (s : String) : Except Misuse Word :=
  let cs := s.toList
  let isLong := "--".toList.isPrefixOf cs
  if s = "--" then .ok separator
  else if cs.head? ≠ some '-' || cs.length = 1 then .ok (plain s)
  else match Flag.ofSpelling? s with
    | some f => .ok (flag f isLong none)
    | none =>
      let (name, attached) := cutAtEquals cs
      match if attached.isSome then Flag.ofSpelling? (String.ofList name) else none with
      | some f => .ok (flag f isLong attached)
      | none => match readings cs with
        | [(_, word)] => .ok word
        | [] => .ok (if isNegativeNumber cs || cs.any (· = ' ') then plain s else unknown s)
        | several => .error (.ambiguous s (several.map Prod.fst))

/-- All words; those behind a separator are plain. -/
def ofTexts : List String → Except Misuse (List Word)
  | [] => .ok []
  | s :: rest => do
    match ← ofText s with
    | .separator => return .separator :: rest.map .plain
    | word => return word :: (← ofTexts rest)

end Word

namespace Arguments

/-- Takes in an option that has no value. -/
def withFlag (a : Arguments) : Flag → Except Stop Arguments
  | .help => .error .help
  | .version => .error .version
  | .validateOnly => .ok { a with validateOnly := true }
  | .echo => .ok { a with echo := true }
  | .force => .ok { a with force := true }
  | .noSpec => .ok { a with noSpec := true }
  | .noArbitrary => .ok { a with noArbitrary := true }
  | .noStrict => .ok { a with noStrict := true }
  | .failOnWarnings => .ok { a with failOnWarnings := true }
  | .verbose => .ok { a with verbosity := a.verbosity + 1 }
  | .quiet => .ok { a with quiet := true }
  | f => .error (.misuse (.valueMissing f))

/-- Takes in an option with its value. -/
def withValue (a : Arguments) (f : Flag) (value : String) : Except Stop Arguments :=
  if !f.choices.isEmpty && value ∉ f.choices then .error (.misuse (.notAChoice f value))
  else match f with
    | .input => .ok { a with input := value }
    | .table => .ok { a with tables := a.tables ++ [value] }
    | .className => .ok { a with className := value }
    | .sourceDir => .ok { a with sourceDir := value }
    | .testDir => .ok { a with testDir := value }
    | .package => .ok { a with package := value }
    | .template => .ok { a with template := value }
    | .testTemplate => .ok { a with testTemplate := value }
    | .manifest => .ok { a with manifest := value }
    | f => .error (.misuse (.valueIgnored f value))

/-- How the word of an option ends: with an option that has its value in the word or waits for it,
or with letters that are no option. -/
inductive Ending where
  | complete
  | valued (flag : Flag) (value : String)
  | waiting (flag : Flag)
  | unknown (text : String)
  deriving DecidableEq, Repr

/-- The options without a value in one word, and the end of the word. -/
structure Chain where
  flags : List Flag
  ending : Ending
  deriving DecidableEq, Repr

/-- A short option together with the letters behind it. -/
def readChain (f : Flag) : List Char → Except Misuse Chain
  | [] => .ok (if f.takesValue then ⟨[], .waiting f⟩ else ⟨[f], .complete⟩)
  | c :: rest =>
    if f.takesValue then
      .ok ⟨[], .valued f (String.ofList (if c = '=' then rest else c :: rest))⟩
    else if c = '=' then .error (.valueIgnored f (String.ofList rest))
    else if c = '-' then .error (.valueIgnored f (String.ofList (c :: rest)))
    else match Flag.ofSpelling? (String.ofList ['-', c]) with
      | some next => (readChain next rest).map fun chain => ⟨f :: chain.flags, chain.ending⟩
      | none => .ok ⟨[f], .unknown (String.ofList ('-' :: c :: rest))⟩

/-- What the word of an option says by itself. -/
def chainOf (f : Flag) (isLong : Bool) : Option Attached → Except Misuse Chain
  | none => readChain f []
  | some ⟨isMarked, value⟩ =>
    if f.takesValue then .ok ⟨[], .valued f (String.ofList value)⟩
    else if isLong || isMarked then .error (.valueIgnored f (String.ofList value))
    else readChain f value

/-- Reads words, with the words that nothing takes. -/
def readWords (a : Arguments) (extra : List String) :
    List Word → Except Stop (Arguments × List String)
  | [] => .ok (a, extra)
  | .plain s :: rest => readWords a (extra ++ [s]) rest
  | .unknown s :: rest => readWords a (extra ++ [s]) rest
  | .separator :: rest => readWords a (extra ++ ["--"]) rest
  | .flag f isLong attached :: rest => do
    let chain ← (chainOf f isLong attached).mapError .misuse
    match chain.ending with
    | .complete => readWords (← chain.flags.foldlM withFlag a) extra rest
    | .unknown s => readWords (← chain.flags.foldlM withFlag a) (extra ++ [s]) rest
    | .valued last value =>
      readWords (← (← chain.flags.foldlM withFlag a).withValue last value) extra rest
    | .waiting last =>
      match rest with
      | .plain value :: rest =>
        readWords (← (← chain.flags.foldlM withFlag a).withValue last value) extra rest
      | _ => throw (.misuse (.valueMissing last))

/-- The arguments that words give. An input is required, and no word may be left over. -/
def parse (words : List String) : Except Stop Arguments := do
  let words ← (Word.ofTexts words).mapError .misuse
  let (a, extra) ← readWords .initial [] words
  if a.input.isNone then throw (.misuse .inputMissing)
  if !extra.isEmpty then throw (.misuse (.unrecognized extra))
  return a

end Arguments

namespace Flag

/-- What an option is for. -/
def purpose : Flag → String
  | help => "Show this text."
  | version => "Show the version."
  | input => "Path to the table metadata file (JSON or YAML)."
  | table => "Only process this table (repeatable). Matching is case-insensitive."
  | className => "Override the generated class name. Requires exactly one --table."
  | validateOnly => "Only validate the input without generating code."
  | echo => "Print the model source of each selected table instead of writing files."
  | sourceDir => "Override the model source root."
  | testDir => "Override the test source root."
  | package => "Override the Scala package (e.g. \x27com.example.models\x27)."
  | template => "Override how the generated methods build SQL."
  | testTemplate =>
    "Override the test framework (ScalaTestFlatSpec, specs2unit, specs2acceptance)."
  | force => "Overwrite existing files (tables in table_names_to_skip stay skipped)."
  | noSpec => "Do not write test specs."
  | noArbitrary => "Do not write ScalaCheck arbitraries."
  | noStrict => "Continue even if validation has errors."
  | failOnWarnings => "Treat validation warnings as errors."
  | manifest => "Write the list of write events as JSON to PATH."
  | verbose => "Tell more about the run."
  | quiet => "Suppress everything except errors."

/-- An option behind one of its spellings. -/
def valued (f : Flag) (spelling : String) : String :=
  match f.valueName? with
  | some name => spelling ++ " " ++ name
  | none => spelling

end Flag

/-- How the command is called. -/
def usage : String :=
  "usage: mappergen " ++ join " " (Flag.all.map fun f =>
    let text := f.valued (f.spellings.headD "")
    if f = .input then text else "[" ++ text ++ "]")

/-- How the command is called and what every option is for. -/
def helpText : String :=
  join "\n" ([usage, "", "mappergen - scalikejdbc mapper generator.", "", "options:"] ++
    Flag.all.flatMap fun f =>
      ["  " ++ join ", " (f.spellings.map f.valued), "      " ++ f.purpose])

end RecordMapper.Command
