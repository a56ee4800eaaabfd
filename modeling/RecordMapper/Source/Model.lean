import RecordMapper.Source.Collection
import RecordMapper.Source.Imports
import RecordMapper.Source.Statement
import RecordMapper.Text.Quoted

/-!
# Model sources

The model of a table: a case class with a field for every column and a companion object with the
row mappers and the operations. A source is kept as its parts, and each operation as a signature
and a body, since only bodies depend on the style of statements.
-/
namespace RecordMapper.Source

open RecordMapper.Text RecordMapper.View RecordMapper.Config RecordMapper.Schema

/-- An operation of the companion. -/
structure Method where
  signature : String
  body : List String
  deriving DecidableEq, Repr

namespace Method

def lines (m : Method) : List String :=
  [margin 1 ++ m.signature ++ " = \x7b"] ++ indent 2 m.body ++ [margin 1 ++ "\x7d"]

end Method

structure ModelSource where
  header : List String
  caseClass : List String
  companion : List String
  methods : List Method
  deriving DecidableEq, Repr

namespace ModelSource

/-- The lines of the file; every method has a blank line before it. -/
def lines (m : ModelSource) : List String :=
  m.header ++ [""] ++ m.caseClass ++ [""] ++ m.companion ++
    m.methods.flatMap (fun method => "" :: method.lines) ++ ["", "\x7d", ""]

end ModelSource

/-- The implicit session parameter; its default may belong to an owner. -/
def sessionParameter (config : Settings) (owner : String) : String :=
  if config.defaultAutoSession then
    "implicit session: DBSession = " ++ (if owner.isEmpty then "" else owner ++ ".") ++
      "autoSession"
  else "implicit session: DBSession"

def modelHeader (config : Settings) (v : TableView) : List String :=
  ["package " ++ config.package, ""] ++
    (if (CollectionShape.of config.returnCollection).usesFactory then [compatImport] else []) ++
    [libraryImport] ++ timeImports config v ++ sqlImports v ++ importLines config.imports

/-- The case class, given the clause of its base types. -/
def caseClass (config : Settings) (v : TableView) (clause : String) : List String :=
  let name := v.className
  let session := sessionParameter config (if v.classAnswer.isGiven then name else "")
  onLast (· ++ ") " ++ clause ++ "\x7b")
      (("case class " ++ name ++ "(") :: listed 1 (v.columns.map ColumnView.parameter)) ++
    [ "",
      "  def save()(" ++ session ++ "): " ++ name ++ " = " ++ name ++ ".save(this)(session)",
      "",
      "  def destroy()(" ++ session ++ "): Int = " ++ name ++ ".destroy(this)(session)",
      "",
      "\x7d"]

/-- The map from fields to columns for the fields that are not the plain camel case of their
column, or nothing when there are none. -/
def nameConverters (v : TableView) : List String :=
  let pairs := (v.columns.filter fun c => Naming.plainFieldName c.name ≠ c.fieldName).map fun c =>
    literal c.bareName ++ " -> " ++ literal c.name
  if pairs.isEmpty then []
  else ["  override val nameConverters: Map[String, String] = Map(" ++ join ", " pairs ++ ")", ""]

/-- How a column is taken from a row. -/
def rowAssignment (v : TableView) (c : ColumnView) : String :=
  let getter := if c.isAny then (if c.isNotNull then "any" else "anyOpt") else "get"
  margin 2 ++ c.fieldName ++ " = rs." ++ getter ++ "(" ++ v.syntaxVariable ++ "." ++
    c.fieldName ++ ")"

/-- Lines separated by commas, a blank line when there are none. -/
def assignments (lines : List String) : List String :=
  if lines.isEmpty then [""] else withCommas lines

/-- The signature of a row mapper from a provider of columns. -/
def mapperHead (v : TableView) (provider : String) : String :=
  "  def apply(" ++ v.syntaxVariable ++ ": " ++ provider ++ "[" ++ v.className ++
    "])(rs: WrappedResultSet): " ++ v.className ++ " = "

def rowMapper (config : Settings) (v : TableView) : List String :=
  let m := v.syntaxVariable
  if config.autoConstruct then
    [mapperHead v "SyntaxProvider" ++ "autoConstruct(rs, " ++ m ++ ")",
      mapperHead v "ResultName" ++ "autoConstruct(rs, " ++ m ++ ")"]
  else
    cutLines ([mapperHead v "SyntaxProvider" ++ "apply(" ++ m ++ ".resultName)(rs)",
      mapperHead v "ResultName" ++ "new " ++ v.className ++ "("] ++
      assignments (v.columns.map (rowAssignment v)) ++ ["  )"])

/-- The companion up to its operations, given the clause of its base types. -/
def companion (config : Settings) (v : TableView) (clause : String) : List String :=
  let name := v.className
  ["object " ++ name ++ " extends SQLSyntaxSupport[" ++ name ++ "] " ++ clause ++ "\x7b", ""] ++
    (match v.schema? with
      | some schema => ["  override val schemaName = Some(" ++ literal schema ++ ")", ""]
      | none => []) ++
    nameConverters v ++
    [ "  override val tableName = " ++ literal v.tableName,
      "",
      "  override val columns = Seq(" ++
        join ", " (v.columns.map fun c => literal c.name) ++ ")",
      ""] ++
    rowMapper config v ++
    [ "",
      "  val " ++ v.syntaxVariable ++ " = " ++ name ++ ".syntax(\"" ++ v.syntaxName ++ "\")",
      "",
      "  override val autoSession = AutoSession"]

/-- The operations of the companion in their order. -/
def methods (config : Settings) (style : Style) (v : TableView) : List Method :=
  let name := v.className
  let shape := CollectionShape.of config.returnCollection
  let session := "(" ++ sessionParameter config "" ++ ")"
  let rowsSession := "(" ++ sessionParameter config "" ++ shape.factoryParameter name ++ ")"
  let countsSession := "(" ++ sessionParameter config "" ++ shape.factoryParameter "Int" ++ ")"
  let keyFields := join ", " (v.key.map ColumnView.typed)
  let createFields := join ", " (v.insert.map ColumnView.parameter)
  [ ⟨"def find(" ++ keyFields ++ ")" ++ session ++ ": Option[" ++ name ++ "]", style.find v⟩,
    ⟨"def findAll" ++ shape.typeParameter ++ "()" ++ rowsSession ++ ": " ++ shape.applied name,
      style.findAll v shape.rows⟩,
    ⟨"def countAll()" ++ session ++ ": Long", style.countAll v⟩,
    ⟨"def findBy(where: SQLSyntax)" ++ session ++ ": Option[" ++ name ++ "]", style.findBy v⟩,
    ⟨"def findAllBy" ++ shape.typeParameter ++ "(where: SQLSyntax)" ++ rowsSession ++ ": " ++
      shape.applied name, style.findAllBy v shape.rows⟩,
    ⟨"def countBy(where: SQLSyntax)" ++ session ++ ": Long", style.countBy v⟩,
    ⟨"def create(" ++ createFields ++ ")" ++ session ++ ": " ++ name, createBody style v⟩,
    ⟨"def batchInsert" ++ shape.typeParameter ++ "(entities: collection.Seq[" ++ name ++ "])" ++
      countsSession ++ ": " ++ shape.applied "Int", batchInsertBody v shape.returnType⟩,
    ⟨"def save(entity: " ++ name ++ ")" ++ session ++ ": " ++ name, style.save v⟩,
    ⟨"def destroy(entity: " ++ name ++ ")" ++ session ++ ": Int", style.destroy v⟩]

/-- The parts of the model of a view. What they ask of the view is checked in their order. -/
def modelOf (config : Settings) (v : TableView) : Except Failure ModelSource := do
  let style := Style.of config.template
  v.demandTypes
  let classClause ← policyClause config.baseTypes v "extends"
  let companionClause ← policyClause config.companionBaseTypes v "with"
  Demand.each ColumnView.demandLiteral v.columns
  demandBodies style v
  return {
    header := modelHeader config v
    caseClass := caseClass config v classClause
    companion := companion config v companionClause
    methods := methods config style v }

/-- The model source of a table. -/
def modelSource (config : Settings) (table : Table) (className : Option Value) :
    Except Failure String := do
  let model ← modelOf config (TableView.of config table className)
  return render config.eol model.lines

end RecordMapper.Source
