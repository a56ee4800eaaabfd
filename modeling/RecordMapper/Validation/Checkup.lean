import RecordMapper.Source.Spec
import RecordMapper.Text.Encoding
import RecordMapper.Validation.Names

/-!
# Checkups

All checks of tables and a configuration. The issues are kept by what was checked: the tables, the
configuration, and the names it skips against the tables.
-/
namespace RecordMapper.Validation

open RecordMapper.Config RecordMapper.Schema RecordMapper.View RecordMapper.Text

/-- Tables without a primary key are matched on all their columns. -/
def checkPrimaryKeys (tables : List Table) : List Issue :=
  (tables.filter fun t => t.primaryKey.isEmpty && !t.columns.isEmpty).map fun t =>
    .noPrimaryKey t.name t.columns.length

/-- The type of a column as its name or, without one, its code. -/
def typeLabel (column : Column) : String :=
  if column.typeName.isEmpty then toString column.typeCode else column.typeName

def untypedColumn (table : Table) (c : ColumnView) : Issue :=
  .untypedColumn table.name c.name (typeLabel c.column) (JdbcType.ofCode? c.column.typeCode).isSome

/-- Columns of an unknown type, and tables that are wider than a tuple. -/
def checkTypesOf (config : Settings) (table : Table) : Except Failure (List Issue) := do
  let v := TableView.of config table none
  Demand.each ColumnView.demandType v.columns
  return (v.columns.filter ColumnView.isAny).map (untypedColumn table) ++
    (if Source.maxTupleSize < table.columns.length then
      [.wideTable table.name table.columns.length] else [])

def checkColumnTypes (tables : List Table) (config : Settings) : Except Failure (List Issue) :=
  return (← tables.mapM (checkTypesOf config)).flatten

def checkPackage (package : String) : List Issue :=
  if package.isEmpty then [.emptyPackage]
  else match (split '.' package).find? fun segment => !Naming.isPlainIdentifier segment with
    | some segment => [.invalidPackage package segment]
    | none => []

/-- What is wrong with the settings by themselves. -/
def checkConfig (config : Settings) : List Issue :=
  checkPackage config.package ++
    (if (Encoding.ofName? config.encoding).isNone then
      [.unknownEncoding config.encoding] else []) ++
    (if config.sourceDir.isEmpty then [.emptySourceDir] else []) ++
    (if config.testDir.isEmpty then [.emptyTestDir] else []) ++
    (if !config.testTemplate.isEmpty && (Source.framework? config).isNone then
      [.unknownFramework config.testTemplate] else [])

/-- The check of the settings, which ends at an encoding that cannot be looked up. -/
def checkSettings (config : Settings) : Except Failure (List Issue) := do
  let _ ← Encoding.find config.encoding
  return checkConfig config

/-- Every name to skip is the name of a table, in lower case. -/
def checkSkippedNames (tables : List Table) (config : Settings) : List Issue :=
  (config.skipNames.filter fun name => name ∉ tables.map fun t => lower t.name).map
    .unknownSkippedTable

def checkTables (tables : List Table) (config : Settings) : Except Failure (List Issue) := do
  let tableNames ← checkTableNames tables config
  let columnNames ← checkColumnNames tables config
  let columnTypes ← checkColumnTypes tables config
  return tableNames ++ columnNames ++ checkPrimaryKeys tables ++ columnTypes

structure Checkup where
  ofTables : List Issue
  ofConfig : List Issue
  ofSkippedNames : List Issue

namespace Checkup

def issues (c : Checkup) : List Issue := c.ofTables ++ c.ofConfig ++ c.ofSkippedNames

def report (c : Checkup) : Report := Report.ofIssues c.issues

/-- The report on the tables alone. -/
def tableReport (c : Checkup) : Report := Report.ofIssues c.ofTables

end Checkup

/-- All checks; a policy that answers with something unusable ends them, and so does an encoding
that cannot be looked up. -/
def check (tables : List Table) (config : Settings) : Except Failure Checkup := do
  return {
    ofTables := ← checkTables tables config
    ofConfig := ← checkSettings config
    ofSkippedNames := checkSkippedNames tables config }

end RecordMapper.Validation
