import RecordMapper.Batch.Account
import RecordMapper.Input
import RecordMapper.InputFile

/-!
# Runs from files

A run whose tables and configuration come from a file, with settings that replace those of the
file. Bad input ends in a report like any other run; other failures do not.
-/
namespace RecordMapper.Batch

open RecordMapper.Disk RecordMapper.Output

/-- The fields that a list of pairs stands for, from the pair of an index on. -/
def fieldsOfPairs (index : Nat) (done : List (String × Value)) :
    List Value → Except Failure (List (String × Value))
  | [] => return done
  | pair :: rest => do
    match pair.items? with
    | none => throw .wrongType
    | some [key, value] => match Yaml.keyName? key with
      | none => throw .wrongType
      | some name => fieldsOfPairs (index + 1) (Value.setField name value done) rest
    | some items => throw (.unevenPair index items.length)

/-- A raw configuration as fields; nothing given is no field at all. -/
def configFields (config : Option Value) : Except Failure (List (String × Value)) :=
  match config with
  | none => .ok []
  | some (.mapping fields) => .ok fields
  | some value =>
    if !value.isGiven then .ok []
    else match value.items? with
      | none => .error .wrongType
      | some items => fieldsOfPairs 0 [] items

/-- A document with settings that replace its own. -/
def withSettings (overrides : List (String × Value)) (document : Value) : Except Failure Value :=
  match document with
  | .mapping fields =>
    if overrides.isEmpty then .ok document
    else do
      let config ← configFields (fields.lookup "config")
      return .mapping (Value.setField "config" (.mapping (Value.setFields overrides config)) fields)
  | _ => .ok document

def loadInput (disk : Disk) (path : Path) (overrides : List (String × Value)) :
    Except Failure Input := do
  Input.ofDocument (← withSettings overrides (← InputFile.read disk path))

def loadStep (success : Bool) (detail : String) : Step where
  name := "Load Input"
  success
  seconds := noTime
  detail

/-- The report of a run that had no input. -/
def inputReport (failure : Failure) : Report :=
  Report.concluded {
    Report.blank with
    steps := [loadStep false failure.message]
    inputErrors := [failure.message] }

/-- Loads a file and runs on what it holds. -/
def performFile (options : Options) (path : Path) (overrides : List (String × Value))
    (disk : Disk) : Except Failure Report × Disk :=
  match loadInput disk path overrides with
  | .error failure =>
    (if failure.isBadInput then .ok (inputReport failure) else .error failure, disk)
  | .ok input =>
    let loaded := loadStep true (toString input.tables.length ++ " table(s) from " ++ path.name)
    match Run.perform options input.tables input.config [] disk with
    | (.ok run, disk) => (.ok (run.report [loaded]), disk)
    | (.error failure, disk) => (.error failure, disk)

end RecordMapper.Batch
