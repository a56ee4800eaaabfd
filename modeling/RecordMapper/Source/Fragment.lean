import RecordMapper.Source.Layout
import RecordMapper.View.Table

/-!
# Clauses of statements

The column lists, predicates and bindings that the generated statements are put together from, one
entry for every column. A value whose static type is `Any` is bound by an explicit binder.
-/
namespace RecordMapper.Source

open RecordMapper.Text RecordMapper.View

/-- The explicit binder of a value. -/
def anyBinder (value : String) : String :=
  "ParameterBinder(" ++ value ++ ", (ps, i) => ps.setObject(i, " ++ value ++ "))"

/-- A value as it is bound for a column. -/
def bound (c : ColumnView) (value : String) : String :=
  if c.isAny then anyBinder value else value

/-- An equation for every column, between the column of `owner` and a value. -/
def interpolatedPredicate (columns : List ColumnView) (owner valuePath : String) : String :=
  join " and " (columns.map fun c =>
    interpolate (owner ++ "." ++ c.fieldName) ++ " = " ++ interpolate (valuePath ++ c.fieldName))

/-- The predicate joins its owner and the fields. -/
def demandPredicate (columns : List ColumnView) (owner : Value) : Demand :=
  Demand.each (fun c => do Demand.isText owner; c.demandText) columns

/-- The same predicate as a chain of calls. -/
def dslPredicate (columns : List ColumnView) (owner valuePath : String) : String :=
  join ".and" (columns.map fun c =>
    ".eq(" ++ owner ++ "." ++ c.fieldName ++ ", " ++ valuePath ++ c.fieldName ++ ")")

def interpolatedColumn (c : ColumnView) : String := interpolate ("column." ++ c.fieldName)

def interpolatedColumns (columns : List ColumnView) : List String :=
  columns.map interpolatedColumn

/-- The interpolated value of a column, bound. -/
def interpolatedValue (valuePath : String) (c : ColumnView) : String :=
  interpolate (bound c (valuePath ++ c.fieldName))

def interpolatedPlaceholders (columns : List ColumnView) (valuePath : String) : List String :=
  columns.map (interpolatedValue valuePath)

def interpolatedAssignments (columns : List ColumnView) (valuePath : String) : List String :=
  columns.map fun c => interpolatedColumn c ++ " = " ++ interpolatedValue valuePath c

/-- A pair of column and value for the query builder. -/
def namedValue (valuePath : String) (c : ColumnView) : String :=
  let value := valuePath ++ c.fieldName
  if c.isAny then "(column." ++ c.fieldName ++ ", " ++ anyBinder value ++ ")"
  else "column." ++ c.fieldName ++ " -> " ++ value

def namedValues (columns : List ColumnView) (valuePath : String) : List String :=
  columns.map (namedValue valuePath)

/-- A named parameter of a batch insert. -/
def batchParameter (c : ColumnView) : String :=
  let value := "entity." ++ c.fieldName
  "\"" ++ c.bareName ++ "\" -> " ++
    (if c.isAny then anyBinder value else "toParameterBinder(" ++ value ++ ")")

/-- The place of a named parameter in the statement. -/
def batchPlaceholder (c : ColumnView) : String := "\x7b" ++ c.bareName ++ "\x7d"

/-- Conversions from the type of generated keys to other types. -/
def keyConversions : List (String × String) := [
  ("Byte", "generatedKey.toByte"), ("Int", "generatedKey.toInt"),
  ("Short", "generatedKey.toShort"), ("Float", "generatedKey.toFloat"),
  ("Double", "generatedKey.toDouble"), ("String", "generatedKey.toString"),
  ("BigDecimal", "BigDecimal.valueOf(generatedKey)")]

/-- The generated key in the type of a column. -/
def generatedKeyExpression (c : ColumnView) : String :=
  let expr := (keyConversions.lookup c.rawType).getD "generatedKey"
  if c.isNotNull then expr else "Some(" ++ expr ++ ")"

theorem exists_generatedKeyExpression_eq (c : ColumnView) :
    ∃ expr ∈ "generatedKey" :: keyConversions.map Prod.snd,
      generatedKeyExpression c = if c.isNotNull then expr else "Some(" ++ expr ++ ")" := by
  refine ⟨_, ?_, rfl⟩
  cases hfound : keyConversions.lookup c.rawType with
  | none => exact .head _
  | some expr =>
    obtain ⟨before, after, hentry, -⟩ := List.lookup_eq_some_iff.mp hfound
    simp [hentry]

end RecordMapper.Source
