import RecordMapper.Source.Model

/-!
# Arbitrary sources

A trait with a generator for every column and one for whole records. Tuples have at most 22
components, so the columns are generated in groups of that size and the record is put together
from the components of the groups.
-/
namespace RecordMapper.Source

open RecordMapper.Text RecordMapper.View RecordMapper.Config RecordMapper.Schema

/-- The greatest number of components of a tuple. -/
def maxTupleSize : Nat := 22

section Groups

variable {α : Type}

/-- Cuts a list into what still has room in the group in progress and the groups after it. -/
def groupsFrom (size : Nat) : Nat → List α → List α × List (List α)
  | _, [] => ([], [])
  | 0, x :: rest =>
    let (group, groups) := groupsFrom size (size - 1) rest
    ([], (x :: group) :: groups)
  | room + 1, x :: rest =>
    let (group, groups) := groupsFrom size room rest
    (x :: group, groups)

/-- Consecutive groups of a size; only the last may be smaller. -/
def groupsOf (size : Nat) (items : List α) : List (List α) := (groupsFrom size 0 items).2

/-- Cutting loses nothing. -/
theorem append_flatten_groupsFrom (size room : Nat) (items : List α) :
    (groupsFrom size room items).1 ++ (groupsFrom size room items).2.flatten = items := by
  fun_induction groupsFrom size room items with
  | case1 => rfl
  | case2 x rest group groups h ih => simpa [h] using ih
  | case3 room x rest group groups h ih => simpa [h] using ih

/-- The groups of a size, which has to be positive. -/
def group? (items : List α) (size : Int) : Except Failure (List (List α)) :=
  if size < 1 then .error (.groupSize size) else .ok (groupsOf size.toNat items)

end Groups

/-- The name a column would be bound to by itself. A back-quoted name would be a pattern instead
of a binding, so reserved words get a suffix. -/
def bindingName (c : ColumnView) : String :=
  if c.bareName ∈ Naming.reservedWords then c.bareName ++ "Value" else c.fieldName

/-- The first of `base`, `base2`, `base3` and so on that is not taken. -/
def freeName (taken : List String) (base : String) : String :=
  let numbered := (List.range' 2 (taken.length + 1)).map fun i => base ++ toString i
  ((base :: numbered).find? (· ∉ taken)).getD base

/-- The bindings of columns, given those before them. A name that is not the column's own field
avoids all fields and all earlier bindings. -/
def bindingsAfter (fields done : List String) : List ColumnView → List String
  | [] => []
  | c :: rest =>
    let base := bindingName c
    let name := if base = c.fieldName then base else freeName (fields ++ done) base
    name :: bindingsAfter fields (done ++ [name]) rest

def bindingNames (columns : List ColumnView) : List String :=
  bindingsAfter (columns.map ColumnView.fieldName) [] columns

theorem length_bindingsAfter (fields done : List String) (columns : List ColumnView) :
    (bindingsAfter fields done columns).length = columns.length := by
  fun_induction bindingsAfter fields done columns <;> simp_all

/-- The call of a column's generator; text columns pass their size. -/
def generatorCall (c : ColumnView) : String :=
  c.generatorName ++
    (if c.rawType = ScalaType.string then "(" ++ toString (max c.column.size 1) ++ ")" else "()")

def generatorDefinition (c : ColumnView) : String :=
  let type := c.fieldType
  let head (parameters : String) : String :=
    "def " ++ c.generatorName ++ parameters ++ ": Gen[" ++ type ++ "] = "
  if type = ScalaType.string then head "(size: Int)" ++ "stringArbitrary(size)"
  else if type = ScalaType.optionalString then head "(size: Int)" ++ "stringOptArbitrary(size)"
  else head "()" ++ "Arbitrary.arbitrary[" ++ type ++ "]"

/-- A tuple of names; one name alone needs the constructor. -/
def tupleOf (names : List String) : String :=
  match names with
  | [name] => "Tuple1(" ++ name ++ ")"
  | _ => "(" ++ join ", " names ++ ")"

/-- The generator of the tuple of one group of columns with their bindings. -/
def groupLines (index : Nat) (members : List (ColumnView × String)) : List String :=
  ["    val gen" ++ toString index ++ " = for \x7b"] ++
    members.map (fun (c, name) => margin 3 ++ name ++ " <- " ++ generatorCall c) ++
    [margin 2 ++ "\x7d yield " ++ tupleOf (members.map Prod.snd), ""]

/-- The arguments of the record that come from one group. -/
def groupArguments (index : Nat) (members : List (ColumnView × String)) : List String :=
  members.mapIdx fun position (c, _) =>
    margin 3 ++ c.fieldName ++ " = value" ++ toString index ++ "._" ++ toString (position + 1)

/-- The generator of whole records. -/
def arbitraryMethod (v : TableView) : List String :=
  let groups := groupsOf maxTupleSize (v.columns.zip (bindingNames v.columns))
  cutLines (
    ["  def arbitrary: Arbitrary[" ++ v.className ++ "] = Arbitrary \x7b", ""] ++
      (groups.mapIdx groupLines).flatten ++
      ["    for \x7b"] ++
      groups.mapIdx (fun i _ => margin 3 ++ "value" ++ toString i ++ " <- gen" ++ toString i) ++
      ["    \x7d yield " ++ v.className ++ "("] ++
      assignments (groups.mapIdx groupArguments).flatten ++
      ["    )", "  \x7d"])

/-- Helpers for texts and optional texts, as far as they are needed, then a generator for every
column, with a blank line between any two. -/
def generatorMethods (v : TableView) : List String :=
  let texts := if ScalaType.string ∈ v.columns.map ColumnView.rawType then
      [ "  def stringArbitrary(max: Int): Gen[String] =",
        "    Gen.choose[Int](1, max).flatMap(Gen.listOfN[Char](_, Gen.alphaChar)).map(_.mkString)",
        ""]
    else []
  let optionalTexts := if ScalaType.optionalString ∈ v.columns.map ColumnView.fieldType then
      [ "  def stringOptArbitrary(max: Int): Gen[Option[String]] =",
        "    Gen.option(stringArbitrary(max))",
        ""]
    else []
  (texts ++ optionalTexts ++
    v.columns.flatMap fun c => [margin 1 ++ generatorDefinition c, ""]).dropLast

def arbitraryTrait (v : TableView) : List String :=
  ["trait " ++ v.className ++ "Arbitrary \x7b", ""] ++ arbitraryMethod v ++ [""] ++
    generatorMethods v ++ ["\x7d"]

def arbitraryHeader (config : Settings) (v : TableView) : List String :=
  ["package " ++ config.package, ""] ++
    (if config.returnCollection = .factory then [compatImport] else []) ++
    ["import org.scalacheck.\x7bArbitrary, Gen\x7d", "import org.scalacheck.Arbitrary._"] ++
    timeImports config v ++ importLines config.arbitraryImports

/-- The arbitrary source of a table. -/
def arbitrarySource (config : Settings) (table : Table) (className : Option Value) :
    Except Failure String := do
  let v := TableView.of config table className
  v.demandTypes
  Demand.each ColumnView.demandText v.columns
  return render config.eol (arbitraryHeader config v ++ [""] ++ arbitraryTrait v ++ [""])

end RecordMapper.Source
