import RecordMapper.Config.Settings
import RecordMapper.Notice
import RecordMapper.Schema.Table

/-!
# Input documents

The tables and the configuration of a run, read from one raw document.
-/
namespace RecordMapper

open RecordMapper.Config RecordMapper.Schema

structure Input where
  tables : List Table
  config : Settings

namespace Input

/-- A failure of an unusable value is reported in the context it came from; others pass through. -/
def inContext {α : Type} (context : Failure → Failure) (reading : Except Failure α) :
    Except Failure α :=
  reading.mapError fun cause => if cause.kind.isUnusable then context cause else cause

def readEntry (index : Nat) (entry : Value) : Except Failure Table :=
  match entry with
  | .mapping _ => inContext (.entryInvalid index) (Table.parse entry)
  | _ => .error (.entryNotMapping index)

/-- The entries one after another; the first failure ends the reading. -/
def readEntries (entries : List Value) : Except Failure (List Table) :=
  (entries.mapIdx readEntry).mapM id

/-- The raw configuration, nothing when it is missing or null. -/
def configValue? (document : Value) : Option Value :=
  match document with
  | .mapping fields => match fields.lookup "config" with
    | some .null | none => none
    | some value => some value
  | _ => none

/-- The raw entries of the tables. -/
def entriesOf (document : Value) : Except Failure (List Value) := do
  if !(← Table.holds "tables" document) then throw .noTables
  match document with
  | .mapping fields => match fields.lookup "tables" with
    | some (.list entries) => return entries
    | some other => throw (.tablesNotList other.typeName)
    | none => throw .noTables
  | _ => throw .wrongType

/-- What is said about a document that leaves the configuration out. -/
def notices (document : Value) : List Notice :=
  match entriesOf document, configValue? document with
  | .ok _, none => [⟨.info, "mappergen.generator",
      "No generator config found in input; using defaults."⟩]
  | _, _ => []

/-- The input of a document. -/
def ofDocument (document : Value) : Except Failure Input := do
  let tables ← readEntries (← entriesOf document)
  let config ← inContext .configInvalid
    (Settings.read ((configValue? document).getD (.mapping [])))
  return { tables, config }

end Input

end RecordMapper
