import RecordMapper.Text.Case

/-!
# Column type codes

The type codes of the database interface: every type has a number and a name.
-/
namespace RecordMapper.Schema

inductive JdbcType where
  | bit | tinyInt | smallInt | integer | bigInt | float | real | double | numeric | decimal
  | char | varChar | longVarChar | date | time | timestamp | binary | varBinary | longVarBinary
  | null | other | javaObject | distinct | struct | array | blob | clob | ref | dataLink | boolean
  | rowId | nChar | nVarChar | longNVarChar | nClob | sqlXml | refCursor | timeWithTimezone
  | timestampWithTimezone
  deriving DecidableEq, Repr

namespace JdbcType

def all : List JdbcType := [
  bit, tinyInt, smallInt, integer, bigInt, float, real, double, numeric, decimal, char, varChar,
  longVarChar, date, time, timestamp, binary, varBinary, longVarBinary, null, other, javaObject,
  distinct, struct, array, blob, clob, ref, dataLink, boolean, rowId, nChar, nVarChar,
  longNVarChar, nClob, sqlXml, refCursor, timeWithTimezone, timestampWithTimezone]

def code : JdbcType → Int
  | bit => -7
  | tinyInt => -6
  | smallInt => 5
  | integer => 4
  | bigInt => -5
  | float => 6
  | real => 7
  | double => 8
  | numeric => 2
  | decimal => 3
  | char => 1
  | varChar => 12
  | longVarChar => -1
  | date => 91
  | time => 92
  | timestamp => 93
  | binary => -2
  | varBinary => -3
  | longVarBinary => -4
  | null => 0
  | other => 1111
  | javaObject => 2000
  | distinct => 2001
  | struct => 2002
  | array => 2003
  | blob => 2004
  | clob => 2005
  | ref => 2006
  | dataLink => 70
  | boolean => 16
  | rowId => -8
  | nChar => -15
  | nVarChar => -9
  | longNVarChar => -16
  | nClob => 2011
  | sqlXml => 2009
  | refCursor => 2012
  | timeWithTimezone => 2013
  | timestampWithTimezone => 2014

def name : JdbcType → String
  | bit => "BIT"
  | tinyInt => "TINYINT"
  | smallInt => "SMALLINT"
  | integer => "INTEGER"
  | bigInt => "BIGINT"
  | float => "FLOAT"
  | real => "REAL"
  | double => "DOUBLE"
  | numeric => "NUMERIC"
  | decimal => "DECIMAL"
  | char => "CHAR"
  | varChar => "VARCHAR"
  | longVarChar => "LONGVARCHAR"
  | date => "DATE"
  | time => "TIME"
  | timestamp => "TIMESTAMP"
  | binary => "BINARY"
  | varBinary => "VARBINARY"
  | longVarBinary => "LONGVARBINARY"
  | null => "NULL"
  | other => "OTHER"
  | javaObject => "JAVA_OBJECT"
  | distinct => "DISTINCT"
  | struct => "STRUCT"
  | array => "ARRAY"
  | blob => "BLOB"
  | clob => "CLOB"
  | ref => "REF"
  | dataLink => "DATALINK"
  | boolean => "BOOLEAN"
  | rowId => "ROWID"
  | nChar => "NCHAR"
  | nVarChar => "NVARCHAR"
  | longNVarChar => "LONGNVARCHAR"
  | nClob => "NCLOB"
  | sqlXml => "SQLXML"
  | refCursor => "REF_CURSOR"
  | timeWithTimezone => "TIME_WITH_TIMEZONE"
  | timestampWithTimezone => "TIMESTAMP_WITH_TIMEZONE"

def ofCode? (code : Int) : Option JdbcType := all.find? fun t => t.code = code

/-- The type with a name in any case. -/
def ofName? (name : String) : Option JdbcType := all.find? fun t => t.name = Text.upper name

/-- The name of the type with a code, `OTHER` when no type has it. -/
def nameOfCode (code : Int) : String :=
  match ofCode? code with
  | some t => t.name
  | none => other.name

end JdbcType

end RecordMapper.Schema
