import RecordMapper.Source.Arbitrary
import RecordMapper.Validation.Report

/-!
# Issues

What validation can find, as causes, and the finding that each is reported as.
-/
namespace RecordMapper.Validation

open RecordMapper.Text

inductive Issue where
  | duplicateTable (table : String)
  | invalidClassName (table : String) (className : Value)
  | classNameCollision (className : String) (tables : List String)
  | noColumns (table : String)
  | duplicateColumn (table column : String)
  | invalidFieldName (table column fieldName : String)
  | fieldNameCollision (table fieldName : String) (columns : List String)
  | noPrimaryKey (table : String) (columnCount : Nat)
  | untypedColumn (table column typeName : String) (isKnownCode : Bool)
  | wideTable (table : String) (columnCount : Nat)
  | invalidPackage (package segment : String)
  | emptyPackage
  | unknownEncoding (encoding : String)
  | emptySourceDir
  | emptyTestDir
  | unknownFramework (framework : String)
  | unknownSkippedTable (table : String)

namespace Issue

def level : Issue → Level
  | fieldNameCollision .. | noPrimaryKey .. | emptyPackage | unknownFramework _
  | unknownSkippedTable _ => .warning
  | untypedColumn .. | wideTable .. => .info
  | _ => .error

def code : Issue → String
  | duplicateTable _ => "DUPLICATE_TABLE_NAME"
  | invalidClassName .. => "INVALID_CLASS_NAME"
  | classNameCollision .. => "CLASS_NAME_COLLISION"
  | noColumns _ => "TABLE_HAS_NO_COLUMNS"
  | duplicateColumn .. => "DUPLICATE_COLUMN_NAME"
  | invalidFieldName .. => "INVALID_FIELD_NAME"
  | fieldNameCollision .. => "FIELD_NAME_COLLISION"
  | noPrimaryKey .. => "NO_PRIMARY_KEY"
  | untypedColumn .. => "UNTYPED_COLUMN"
  | wideTable .. => "WIDE_TABLE"
  | invalidPackage .. => "INVALID_PACKAGE_NAME"
  | emptyPackage => "EMPTY_PACKAGE_NAME"
  | unknownEncoding _ => "UNKNOWN_ENCODING"
  | emptySourceDir => "EMPTY_SRC_DIR"
  | emptyTestDir => "EMPTY_TEST_DIR"
  | unknownFramework _ => "UNKNOWN_TEST_TEMPLATE"
  | unknownSkippedTable _ => "SKIP_UNKNOWN_TABLE"

def message : Issue → String
  | duplicateTable table => "Table '" ++ table ++ "' is defined more than once."
  | invalidClassName table className =>
    "Table '" ++ table ++ "' maps to class name '" ++ className.display ++
      "', which is not a valid identifier."
  | classNameCollision className tables =>
    "Tables " ++ shownList tables ++ " all map to class '" ++ className ++ "'."
  | noColumns table => "Table '" ++ table ++ "' has no columns."
  | duplicateColumn table column =>
    "Column '" ++ table ++ "." ++ column ++ "' is defined more than once."
  | invalidFieldName table column fieldName =>
    "Column '" ++ table ++ "." ++ column ++ "' maps to field '" ++ fieldName ++
      "', which is not a valid identifier."
  | fieldNameCollision table fieldName columns =>
    "Columns " ++ shownList columns ++ " of '" ++ table ++ "' all map to field '" ++ fieldName ++
      "'; the generated class will not compile."
  | noPrimaryKey table columnCount =>
    "Table '" ++ table ++ "' has no primary key; find/save/destroy will match on all " ++
      toString columnCount ++ " columns."
  | untypedColumn table column typeName _ =>
    "Column '" ++ table ++ "." ++ column ++ "' (" ++ typeName ++ ") maps to " ++ ScalaType.any ++
      "; inserts and updates bind it explicitly."
  | wideTable table columnCount =>
    "Table '" ++ table ++ "' has " ++ toString columnCount ++
      " columns; the arbitrary generator splits them into groups of " ++
      toString Source.maxTupleSize ++ "."
  | invalidPackage package segment =>
    "Package name '" ++ package ++ "' has an invalid segment '" ++ segment ++ "'."
  | emptyPackage => "package_name is empty; generated files will not compile."
  | unknownEncoding encoding => "Encoding '" ++ encoding ++ "' is not known to Python."
  | emptySourceDir => "src_dir must not be empty."
  | emptyTestDir => "test_dir must not be empty."
  | unknownFramework framework =>
    "Test template '" ++ framework ++ "' is not supported; no specs will be generated."
  | unknownSkippedTable table =>
    "table_names_to_skip lists '" ++ table ++ "', which is not among the input tables."

def context : Issue → List (String × Value)
  | duplicateTable table | noColumns table | noPrimaryKey table _ | wideTable table _
  | unknownSkippedTable table => [("table", .text table)]
  | invalidClassName table className => [("table", .text table), ("class_name", className)]
  | classNameCollision className tables =>
    [("class_name", .text className), ("tables", Value.texts tables)]
  | duplicateColumn table column => [("table", .text table), ("column", .text column)]
  | invalidFieldName table column fieldName =>
    [("table", .text table), ("column", .text column), ("field", .text fieldName)]
  | fieldNameCollision table fieldName columns =>
    [("table", .text table), ("field", .text fieldName), ("columns", Value.texts columns)]
  | untypedColumn table column _ isKnownCode =>
    [("table", .text table), ("column", .text column), ("known_code", .bool isKnownCode)]
  | invalidPackage package _ => [("package_name", .text package)]
  | unknownEncoding encoding => [("encoding", .text encoding)]
  | unknownFramework framework => [("test_template", .text framework)]
  | emptyPackage | emptySourceDir | emptyTestDir => []

def finding (issue : Issue) : Finding :=
  ⟨issue.level, issue.code, issue.message, issue.context⟩

end Issue

def Report.ofIssues (issues : List Issue) : Report := ⟨issues.map Issue.finding⟩

end RecordMapper.Validation
