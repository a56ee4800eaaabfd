import RecordMapper.Config.Options
import RecordMapper.Text.Lines

/-!
# Bodies of test specs

The test class for a model in each of the supported frameworks. All three go through the same
scenarios; a framework brings its own matchers and its own layout. What depends on the table is
left open as placeholders between percent signs.
-/
namespace RecordMapper.Source

open RecordMapper.Text RecordMapper.Config

/-- What a spec leaves open. -/
inductive Placeholder where
  | package
  | timeImport
  | additionalImport
  | modifier
  | specClassName
  | className
  | baseTypes
  | primaryKeys
  | syntaxObject
  | whereExample
  | createFields
  deriving DecidableEq, Repr

namespace Placeholder

def label : Placeholder → String
  | package => "package"
  | timeImport => "timeImport"
  | additionalImport => "additionalImport"
  | modifier => "modifier"
  | specClassName => "specClassName"
  | className => "className"
  | baseTypes => "baseTypes"
  | primaryKeys => "primaryKeys"
  | syntaxObject => "syntaxObject"
  | whereExample => "whereExample"
  | createFields => "createFields"

/-- The placeholder as it stands in a body. -/
def token (p : Placeholder) : String := "%" ++ p.label ++ "%"

end Placeholder

/-- The wording of expectations in a framework. -/
structure Matchers where
  isTrue : String
  isFalse : String
  isAbove : String → String
  isPresent : String
  differsFrom : String → String
  isOne : String → List String

namespace Matchers

def scalatest : Matchers where
  isTrue := "should be(true)"
  isFalse := "should be(false)"
  isAbove limit := "should be >(" ++ limit ++ ")"
  isPresent := "should not be(null)"
  differsFrom other := "should not equal(" ++ other ++ ")"
  isOne expr := ["val deleted = " ++ expr, "deleted should be(1)"]

def specs2 : Matchers where
  isTrue := "should beTrue"
  isFalse := "should beFalse"
  isAbove limit := "should be_>(" ++ limit ++ ")"
  isPresent := "should not beNull"
  differsFrom other := "should not equalTo(" ++ other ++ ")"
  isOne expr := ["val deleted = " ++ expr ++ " == 1", "deleted should beTrue"]

end Matchers

/-- One behaviour that a spec exercises. -/
structure Scenario where
  title : String
  method : String
  statements : Matchers → List String

/-- A call of the generated companion. -/
def companionCall (call : String) : String := Placeholder.className.token ++ "." ++ call

def findByKey : String := companionCall ("find(" ++ Placeholder.primaryKeys.token ++ ")")

def byExample (method : String) : String :=
  companionCall (method ++ "(" ++ Placeholder.whereExample.token ++ ")")

def scenarios : List Scenario := [
  { title := "find by primary keys"
    method := "findByPrimaryKeys"
    statements m := ["val maybeFound = " ++ findByKey, "maybeFound.isDefined " ++ m.isTrue] },
  { title := "find by where clauses"
    method := "findBy"
    statements m :=
      ["val maybeFound = " ++ byExample "findBy", "maybeFound.isDefined " ++ m.isTrue] },
  { title := "find all records"
    method := "findAll"
    statements m :=
      ["val allResults = " ++ companionCall "findAll()", "allResults.size " ++ m.isAbove "0"] },
  { title := "count all records"
    method := "countAll"
    statements m := ["val count = " ++ companionCall "countAll()", "count " ++ m.isAbove "0L"] },
  { title := "find all by where clauses"
    method := "findAllBy"
    statements m := ["val results = " ++ byExample "findAllBy", "results.size " ++ m.isAbove "0"] },
  { title := "count by where clauses"
    method := "countBy"
    statements m := ["val count = " ++ byExample "countBy", "count " ++ m.isAbove "0L"] },
  { title := "create new record"
    method := "create"
    statements m := [
      "val created = " ++ companionCall ("create(" ++ Placeholder.createFields.token ++ ")"),
      "created " ++ m.isPresent] },
  { title := "save a record"
    method := "save"
    statements m := [
      "val entity = " ++ companionCall "findAll().head",
      "// modify fields as needed",
      "val modified = entity",
      "val updated = " ++ companionCall "save(modified)",
      "updated " ++ m.differsFrom "entity"] },
  { title := "destroy a record"
    method := "destroy"
    statements m :=
      ["val entity = " ++ companionCall "findAll().head"] ++
        m.isOne (companionCall "destroy(entity)") ++
        ["val shouldBeNone = " ++ findByKey, "shouldBeNone.isDefined " ++ m.isFalse] },
  { title := "perform batch insert"
    method := "batchInsert"
    statements m := [
      "val entities = " ++ companionCall "findAll()",
      "entities.foreach(e => " ++ companionCall "destroy(e)" ++ ")",
      "val batchInserted = " ++ companionCall "batchInsert(entities)",
      "batchInserted.size " ++ m.isAbove "0"] }]

/-- The package, the imports and the open import lines. -/
def specHeader (imports : List String) : List String :=
  ["package " ++ Placeholder.package.token, ""] ++ imports.map ("import " ++ ·) ++
    ["import scalikejdbc._", Placeholder.timeImport.token, Placeholder.additionalImport.token, ""]

/-- The head of the test class up to its opening brace. -/
def specHead (parents : String) : String :=
  Placeholder.modifier.token ++ "class " ++ Placeholder.specClassName.token ++ " extends " ++
    parents ++ " " ++ Placeholder.baseTypes.token ++ "\x7b"

/-- A block at a level, with statements one level below. -/
def specBlock (level : Nat) (head : String) (statements : List String) : List String :=
  [margin level ++ head ++ " \x7b"] ++ statements.map (margin (level + 1) ++ ·) ++
    [margin level ++ "\x7d"]

def scalatestBody : List String :=
  specHeader ["org.scalatest.flatspec.FixtureAnyFlatSpec", "org.scalatest.matchers.should.Matchers",
    "scalikejdbc.scalatest.AutoRollback"] ++
  [ specHead "FixtureAnyFlatSpec with Matchers with AutoRollback",
    margin 1 ++ Placeholder.syntaxObject.token,
    "",
    margin 1 ++ "behavior of \"" ++ Placeholder.className.token ++ "\"",
    ""] ++
  scenarios.flatMap (fun s =>
    [margin 1 ++ "it should \"" ++ s.title ++ "\" in \x7b implicit session =>"] ++
      (s.statements .scalatest).map (margin 2 ++ ·) ++ [margin 1 ++ "\x7d"]) ++
  ["\x7d"]

def specs2UnitBody : List String :=
  specHeader ["scalikejdbc.specs2.mutable.AutoRollback", "org.specs2.mutable._"] ++
  [ specHead "Specification",
    "",
    margin 1 ++ "\"" ++ Placeholder.className.token ++ "\" should \x7b",
    "",
    margin 2 ++ Placeholder.syntaxObject.token,
    ""] ++
  scenarios.flatMap (fun s =>
    specBlock 2 ("\"" ++ s.title ++ "\" in new AutoRollback") (s.statements .specs2)) ++
  [margin 1 ++ "\x7d", "", "\x7d"]

/-- The width of the titles in the list of examples. -/
def titleWidth : Nat := 31

def specs2AcceptanceBody : List String :=
  specHeader ["scalikejdbc.specs2.AutoRollback", "org.specs2._"] ++
  [ specHead "Specification" ++ " def is =",
    "",
    margin 1 ++ "\"The '" ++ Placeholder.className.token ++ "' model should\" ^"] ++
  scenarios.map (fun s =>
    margin 2 ++ padRight titleWidth ("\"" ++ s.title ++ "\"") ++ "! autoRollback()." ++ s.method ++
      " ^") ++
  [ margin 2 ++ spaces titleWidth ++ "end",
    "",
    margin 1 ++ "case class autoRollback() extends AutoRollback \x7b",
    margin 2 ++ Placeholder.syntaxObject.token,
    ""] ++
  scenarios.flatMap (fun s =>
    specBlock 2 ("def " ++ s.method ++ " = this") (s.statements .specs2)) ++
  [margin 1 ++ "\x7d", "", "\x7d"]

/-- The body for a framework, with its placeholders open. -/
def specBody (framework : TestFramework) : String :=
  let lines := match framework with
    | .scalatestFlatSpec => scalatestBody
    | .specs2Unit => specs2UnitBody
    | .specs2Acceptance => specs2AcceptanceBody
  join "\n" (lines ++ [""])

end RecordMapper.Source
