import RecordMapper.Text.Case
import RecordMapper.Text.Lines

/-!
# Names

How table and column names become names of Scala classes and fields. A column name goes through
three steps: camel case, back-quotes around a reserved word, and a suffix where the field would
clash with a member that every case class has.
-/
namespace RecordMapper.Naming

open RecordMapper.Text

/-- Words that need back-quotes as an identifier. -/
def reservedWords : List String := [
  "abstract", "case", "catch", "class", "def", "do", "else", "extends", "false", "final",
  "finally", "for", "forSome", "if", "implicit", "import", "lazy", "match", "new", "null", "macro",
  "object", "override", "package", "private", "protected", "return", "sealed", "super", "then",
  "this", "throw", "trait", "try", "true", "type", "val", "var", "while", "with", "yield"]

/-- Members that every generated case class already has. -/
def caseClassMembers : List String := [
  "toString", "hashCode", "wait", "getClass", "notify", "notifyAll", "productArity",
  "productElementName", "productElementNames", "productIterator", "productPrefix", "copy"]

/-- Aliases that the generated companion uses for its own locals. -/
def takenAliases : List String := ["rs"]

def defaultAlias : String := "r"

def conflictSuffix : String := "Column"

/-- The first character in upper case and the others in lower case; a blank word vanishes. -/
def properChars (word : List Char) : List Char :=
  if word.all isBlank then []
  else match word with
    | [] => []
    | c :: rest => upperChar c ++ lowerAfter [] rest

/-- The words between underscores, each in proper case, put together. -/
def camelChars (name : List Char) : List Char :=
  (pieces '_' name).flatMap properChars

def lowerCamelChars (name : List Char) : List Char :=
  match camelChars name with
  | [] => []
  | c :: rest => lowerAfter [] [c] ++ rest

def properCase (word : String) : String := String.ofList (properChars word.toList)

/-- Only underscores separate words, so `userId` becomes `Userid`. -/
def camelCase (name : String) : String := String.ofList (camelChars name.toList)

def lowerCamelCase (name : String) : String := String.ofList (lowerCamelChars name.toList)

/-- Puts back-quotes around a reserved word. -/
def quoteReserved (name : String) : String :=
  if name ∈ reservedWords then "`" ++ name ++ "`" else name

/-- Takes surrounding back-quotes away. -/
def unquote (name : String) : String :=
  match name.toList with
  | '\x60' :: rest => if rest.getLast? = some '\x60' then String.ofList rest.dropLast else name
  | _ => name

/-- Appends the suffix to the name of a case class member. -/
def suffixConflict (suffix name : String) : String :=
  if name ∈ caseClassMembers then name ++ suffix else name

/-- The field of a column without a suffix on conflicts. -/
def plainFieldName (column : String) : String := quoteReserved (lowerCamelCase column)

/-- The field of a column. -/
def fieldName (column : String) : String := suffixConflict conflictSuffix (plainFieldName column)

/-- The class of a table. -/
def className (table : String) : String := camelCase table

/-- The alias of a table: the ASCII capitals of its class name in lower case. -/
def tableAlias (table : String) : String :=
  let name := String.ofList ((((camelCase table).toList).filter Char.isUpper).map Char.toLower)
  if name.isEmpty || name ∈ takenAliases then defaultAlias else name

/-- The first character in upper case, the others as they are. -/
def capitalize (name : String) : String :=
  match name.toList with
  | [] => ""
  | c :: rest => String.ofList (upperChar c ++ rest)

/-- A name inside a package; the name alone when the package has none. -/
def qualified (package name : String) : String :=
  if package.isEmpty then name else package ++ "." ++ name

end RecordMapper.Naming
