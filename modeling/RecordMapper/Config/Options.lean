import RecordMapper.Checked

/-!
# Options

The settings that choose one of a few values. A choice is written as its value or as the name of
its member; in the name, case, hyphens and underscores do not matter.
-/
namespace RecordMapper.Config

open RecordMapper.Text

/-- A type whose members can be chosen by value or by name. -/
class Choice (α : Type) where
  title : String
  members : List α
  value : α → String
  memberName : α → String

namespace Choice

variable {α : Type} [Choice α]

/-- The name of a member without underscores, in lower case. -/
def foldedName (a : α) : String := lower (replaceAll "_" "" (memberName a))

/-- A written choice without underscores and hyphens, in lower case. -/
def folded (s : String) : String := lower (replaceAll "-" "" (replaceAll "_" "" s))

def ofValue? (s : String) : Option α := members.find? fun a => value a = s

/-- The member chosen by a text; a value wins over a name. -/
def parse? (s : String) : Option α :=
  match ofValue? s with
  | some a => some a
  | none => members.find? fun a => foldedName a = folded s

def read : Value → Checked α
  | .text s => match parse? s with
    | some a => .ok a
    | none => Checked.fault .notMember
  | _ => Checked.fault .notMember

end Choice

/-- How generated methods build their SQL. -/
inductive SqlTemplate where
  | interpolation
  | queryDsl
  deriving DecidableEq, Repr

instance : Choice SqlTemplate where
  title := "GeneratorTemplate"
  members := [.interpolation, .queryDsl]
  value
    | .interpolation => "interpolation"
    | .queryDsl => "queryDsl"
  memberName
    | .interpolation => "INTERPOLATION"
    | .queryDsl => "QUERY_DSL"

/-- The test frameworks that a spec can be written for. -/
inductive TestFramework where
  | scalatestFlatSpec
  | specs2Unit
  | specs2Acceptance
  deriving DecidableEq, Repr

instance : Choice TestFramework where
  title := "TestTemplate"
  members := [.scalatestFlatSpec, .specs2Unit, .specs2Acceptance]
  value
    | .scalatestFlatSpec => "ScalaTestFlatSpec"
    | .specs2Unit => "specs2unit"
    | .specs2Acceptance => "specs2acceptance"
  memberName
    | .scalatestFlatSpec => "SCALATEST_FLAT_SPEC"
    | .specs2Unit => "SPECS2_UNIT"
    | .specs2Acceptance => "SPECS2_ACCEPTANCE"

/-- The container of rows and of batch insert counts. -/
inductive ReturnCollection where
  | list
  | vector
  | array
  | factory
  deriving DecidableEq, Repr

instance : Choice ReturnCollection where
  title := "ReturnCollectionType"
  members := [.list, .vector, .array, .factory]
  value
    | .list => "List"
    | .vector => "Vector"
    | .array => "Array"
    | .factory => "Factory"
  memberName
    | .list => "LIST"
    | .vector => "VECTOR"
    | .array => "ARRAY"
    | .factory => "FACTORY"

/-- The type of timestamp columns. -/
inductive DateTimeClass where
  | joda
  | zoned
  | offset
  | localTime
  deriving DecidableEq, Repr

namespace DateTimeClass

def simpleName : DateTimeClass → String
  | joda => "DateTime"
  | zoned => "ZonedDateTime"
  | offset => "OffsetDateTime"
  | localTime => "LocalDateTime"

def isJoda (d : DateTimeClass) : Bool := d = joda

def package : DateTimeClass → String
  | joda => "org.joda.time"
  | _ => "java.time"

end DateTimeClass

instance : Choice DateTimeClass where
  title := "DateTimeClass"
  members := [.joda, .zoned, .offset, .localTime]
  value d := d.package ++ "." ++ d.simpleName
  memberName
    | .joda => "JODA_DATE_TIME"
    | .zoned => "ZONED_DATE_TIME"
    | .offset => "OFFSET_DATE_TIME"
    | .localTime => "LOCAL_DATE_TIME"

/-- What ends the lines of generated files. -/
inductive LineBreak where
  | cr
  | lf
  | crlf
  deriving DecidableEq, Repr

namespace LineBreak

def text : LineBreak → String
  | cr => "\r"
  | lf => "\n"
  | crlf => "\r\n"

end LineBreak

instance : Choice LineBreak where
  title := "LineBreak"
  members := [.cr, .lf, .crlf]
  value := LineBreak.text
  memberName
    | .cr => "CR"
    | .lf => "LF"
    | .crlf => "CRLF"

end RecordMapper.Config
