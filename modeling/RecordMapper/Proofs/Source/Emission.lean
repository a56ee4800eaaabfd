import RecordMapper.Proofs.Source.Styles
import RecordMapper.Proofs.View.Partitions
import RecordMapper.Source.Arbitrary
import RecordMapper.Source.Spec

/-!
# Emission without failure

Names, types and literals come from policies, and a place in a source can fail only on what is no
text. Where the policies answer in kind, every name, type and literal of a view is a text, so all
three sources of a table are made, whatever its columns are and even if it has none.
-/
namespace RecordMapper.Source

open RecordMapper.Config RecordMapper.Schema RecordMapper.Text RecordMapper.View

/-- An answer about a type or a literal. -/
inductive TextOrNothing : Value → Prop
  | nothing : TextOrNothing .null
  | text (s : String) : TextOrNothing (.text s)

/-- Naming policies answer with texts, type and literal policies with a text or with nothing, and
base type policies with lists of texts. -/
structure AnswersInKind (config : Settings) : Prop where
  className : ∀ table, ∃ name, config.className table = .text name
  fieldName : ∀ column, ∃ name, config.fieldName column = .text name
  syntaxName : ∀ table, ∃ name, config.syntaxName table = .text name
  syntaxVariable : ∀ table, ∃ name, config.syntaxVariable table = .text name
  fieldType : ∀ className fieldName, ∃ type,
    config.fieldType (.text className) (.text fieldName) = .ok type ∧ TextOrNothing type
  typeOfTypeName : ∀ name, TextOrNothing (config.typeOfTypeName name)
  sampleOfType : ∀ type, ∃ literal,
    config.sampleOfType (.text type) = .ok literal ∧ TextOrNothing literal
  baseTypes : ∀ table, ∃ types, config.baseTypes table = Value.texts types
  companionBaseTypes : ∀ table, ∃ types, config.companionBaseTypes table = Value.texts types
  specBaseTypes : ∀ table, ∃ types, config.specBaseTypes table = Value.texts types

/-- Everything about a column is a text. -/
structure TextColumn (c : ColumnView) : Prop where
  field : ∃ s, c.fieldAnswer = .text s
  type : ∃ s, c.typeAnswer = .ok (.text s)
  sample : ∃ s, c.sampleAnswer = .ok (.text s)

/-- What the sources join to other text is text. -/
structure TextView (v : TableView) : Prop where
  className : ∃ s, v.classAnswer = .text s
  syntaxVariable : ∃ s, v.variableAnswer = .text s
  columns : ∀ c ∈ v.columns, TextColumn c
  key : ∀ c ∈ v.key, TextColumn c

section Columns

variable {config : Settings} (h : AnswersInKind config)

theorem TextOrNothing.exists_ifNull {answer other : Value} (h : TextOrNothing answer)
    (hother : ∃ s, other = .text s) : ∃ s, answer.ifNull other = .text s := by
  cases h with
  | nothing => exact hother
  | text s => exact ⟨s, rfl⟩

theorem textOrNothing_lookup (literals : List (String × String)) (type : String) : TextOrNothing
    (lookupPolicy (literals.map fun (type, literal) => (type, .text literal)) type) := by
  unfold lookupPolicy
  induction literals with
  | nil => exact .nothing
  | cons entry rest ih =>
    rw [List.map_cons, List.lookup_cons]
    split
    · exact .text _
    · exact ih

include h

theorem exists_resolve (className fieldName : String) (column : Column) : ∃ type,
    ScalaType.resolve config (.text className) (.text fieldName) column = .ok (.text type) := by
  obtain ⟨ofField, hfield, hkind⟩ := h.fieldType className fieldName
  obtain ⟨type, htype⟩ := hkind.exists_ifNull
    ((h.typeOfTypeName column.typeName).exists_ifNull ⟨_, rfl⟩)
  refine ⟨type, ?_⟩
  rw [ScalaType.resolve, hfield, ok_bind, htype]
  rfl

/-- Without an override and without a known literal there is still the null literal. -/
theorem exists_innerSample (type : String) : ∃ literal,
    ScalaType.innerSample config (.text type) = .ok (.text literal) := by
  obtain ⟨ofType, hofType, hkind⟩ := h.sampleOfType type
  have hgiven {inner : Value} (hinner : TextOrNothing inner) : ∃ literal,
      (if inner.isGiven then inner else .text ScalaType.nullLiteral) = .text literal := by
    cases hinner with
    | nothing => exact ⟨_, rfl⟩
    | text s => split <;> exact ⟨_, rfl⟩
  rw [ScalaType.innerSample, hofType]
  cases hkind with
  | text s =>
    obtain ⟨literal, hliteral⟩ := hgiven (.text s)
    exact ⟨literal, congrArg Except.ok hliteral⟩
  | nothing =>
    obtain ⟨literal, hliteral⟩ := hgiven (textOrNothing_lookup ScalaType.samples type)
    exact ⟨literal, congrArg Except.ok hliteral⟩

theorem exists_sample (type : String) (isNotNull : Bool) : ∃ literal,
    ScalaType.sample config (.text type) isNotNull = .ok (.text literal) := by
  obtain ⟨wrapped, hwrapped⟩ : ∃ wrapped,
      ScalaType.nullableValue (.text type) isNotNull = .text wrapped := by
    cases isNotNull <;> exact ⟨_, rfl⟩
  obtain ⟨literal, hliteral, hkind⟩ := h.sampleOfType wrapped
  rw [ScalaType.sample, hwrapped, hliteral, ok_bind]
  -- An override for the type of the field counts as it is, also an empty one.
  cases hkind with
  | text s => exact ⟨s, rfl⟩
  | nothing =>
    obtain ⟨inner, hinner⟩ := exists_innerSample h type
    simp only [hinner, ok_bind]
    cases isNotNull <;> exact ⟨_, rfl⟩

theorem textColumn_of (className : String) (column : Column) :
    TextColumn (ColumnView.of config (.text className) column) := by
  obtain ⟨field, hfield⟩ := h.fieldName column.name
  obtain ⟨type, htype⟩ := exists_resolve h className field column
  obtain ⟨sample, hsample⟩ := exists_sample h type column.isNotNull
  rw [← hfield] at htype
  refine ⟨⟨field, hfield⟩, ⟨type, htype⟩, sample, ?_⟩
  rw [ColumnView.of, htype]
  exact hsample

theorem textView_of (table : Table) (explicit : Option String) :
    TextView (TableView.of config table (explicit.map .text)) := by
  obtain ⟨className, hclass⟩ : ∃ className,
      classOf config table (explicit.map .text) = .text className := by
    unfold classOf
    cases explicit with
    | none => exact h.className table.name
    | some name =>
      rw [Option.map_some]
      dsimp only
      split
      · exact ⟨name, rfl⟩
      · exact h.className table.name
  have hcolumns : ∀ c ∈ (TableView.of config table (explicit.map .text)).columns,
      TextColumn c := by
    intro c hc
    obtain ⟨column, -, rfl⟩ := (partitioned_of config table (explicit.map .text)).viewed c hc
    have hanswer : (TableView.of config table (explicit.map .text)).classAnswer = .text className :=
      hclass
    rw [hanswer]
    exact textColumn_of h className column
  exact {
    className := ⟨className, hclass⟩
    syntaxVariable := h.syntaxVariable table.name
    columns := hcolumns
    key := fun c hc => hcolumns c
      (mem_columns_of_mem_pick config table _ (declares_keyColumns table) hc) }

end Columns

section Demands

variable {v : TableView}

theorem mem_of_mem_distinctAfter {value : Value} {seen values : List Value}
    (h : value ∈ Value.distinctAfter seen values) : value ∈ values := by
  fun_induction Value.distinctAfter seen values with
  | case1 => exact h
  | case2 seen other rest hseen ih => exact List.mem_cons_of_mem _ (ih h)
  | case3 seen other rest hnew ih =>
    rcases List.mem_cons.mp h with rfl | h
    · exact List.mem_cons_self ..
    · exact List.mem_cons_of_mem _ (ih h)

variable (h : TextView v)

include h

theorem demandTypes_eq_ok : v.demandTypes = .ok () := by
  have hmapped : v.columns.mapM ColumnView.typeAnswer =
      .ok (v.columns.map fun c => .text c.rawType) := by
    refine mapM_eq_ok fun c hc => ?_
    obtain ⟨type, htype⟩ := (h.columns c hc).type
    rw [ColumnView.rawType, htype]
    rfl
  rw [TableView.demandTypes, TableView.typeAnswers, hmapped, ok_bind]
  refine Demand.each_eq_ok_iff.mpr fun type htype => ?_
  obtain ⟨c, -, rfl⟩ := List.mem_map.mp (mem_of_mem_distinctAfter htype)
  rfl

theorem exists_policyClause {policy : Policy} (hpolicy : ∃ types, policy v.tableName =
    Value.texts types) (keyword : String) :
    ∃ clause, policyClause policy v keyword = .ok clause := by
  obtain ⟨types, htypes⟩ := hpolicy
  obtain ⟨className, hclass⟩ := h.className
  have hmapped : (types.map Value.text).mapM (clauseType v.classAnswer) = .ok types := by
    rw [mapM_eq_ok_iff, List.map_map]
    refine List.map_congr_left fun type _ => ?_
    rw [Function.comp_apply, clauseType, hclass]
    rfl
  have hitems : Policy.items (Value.texts types) = .ok (types.map .text) := rfl
  rw [policyClause, htypes, hitems, ok_bind, hmapped]
  exact ⟨_, rfl⟩

theorem demandLiterals_eq_ok : Demand.each ColumnView.demandLiteral v.columns = .ok () := by
  refine Demand.each_eq_ok_iff.mpr fun c hc => ?_
  obtain ⟨field, hfield⟩ := (h.columns c hc).field
  rw [ColumnView.demandLiteral, ColumnView.bareAnswer, hfield]
  rfl

theorem demandSamples_eq_ok {columns : List ColumnView} (hcolumns : columns ⊆ v.columns) :
    Demand.each ColumnView.demandSample columns = .ok () := by
  refine Demand.each_eq_ok_iff.mpr fun c hc => ?_
  obtain ⟨sample, hsample⟩ := (h.columns c (hcolumns hc)).sample
  rw [ColumnView.demandSample, hsample]
  rfl

theorem demandStyle_eq_ok (template : SqlTemplate) : (Style.of template).demand v = .ok () := by
  cases template with
  | interpolation => exact demand_interpolationStyle_iff.mpr ⟨h.syntaxVariable, h.className⟩
  | queryDsl => rfl

theorem exists_placeholderValues {config : Settings}
    (hpolicy : ∃ types, config.specBaseTypes v.tableName = Value.texts types) :
    ∃ values, placeholderValues config v = .ok values := by
  obtain ⟨className, hclass⟩ := h.className
  obtain ⟨clause, hclause⟩ := exists_policyClause h hpolicy "with"
  have hkeys : v.key.mapM ColumnView.sampleAnswer = .ok (v.key.map fun c => .text c.sample) := by
    refine mapM_eq_ok fun c hc => ?_
    obtain ⟨sample, hsample⟩ := (h.key c hc).sample
    rw [ColumnView.sample, hsample]
    rfl
  have htexts : Demand.each Demand.isText (v.key.map fun c => .text c.sample) = .ok () := by
    refine Demand.each_eq_ok_iff.mpr fun value hvalue => ?_
    obtain ⟨c, -, rfl⟩ := List.mem_map.mp hvalue
    rfl
  have hname : Demand.isText v.classAnswer = .ok () := by rw [hclass]; rfl
  have hcreated : Demand.each ColumnView.demandSample v.createFields = .ok () :=
    demandSamples_eq_ok h List.filter_sublist.subset
  simp only [placeholderValues, demandTypes_eq_ok h, hname, hclause, hkeys, htexts, hcreated,
    ok_bind]
  exact ⟨_, rfl⟩

end Demands

/-- All sources of a table are made; a spec only for a known framework. -/
structure Emits (config : Settings) (table : Table) (explicit : Option Value) : Prop where
  model : ∃ text, modelSource config table explicit = .ok text
  arbitrary : ∃ text, arbitrarySource config table explicit = .ok text
  spec : ∃ text?, specSource config table explicit = .ok text? ∧
    text?.isSome = (framework? config).isSome

theorem emits_of_kind {config : Settings} (h : AnswersInKind config) (table : Table)
    (explicit : Option String) : Emits config table (explicit.map .text) := by
  have hview := textView_of h table explicit
  have htypes := demandTypes_eq_ok hview
  refine ⟨?_, ?_, ?_⟩
  · obtain ⟨model, hmodel⟩ := exists_modelOf_iff.mpr ⟨htypes,
      exists_policyClause hview (h.baseTypes table.name) "extends",
      exists_policyClause hview (h.companionBaseTypes table.name) "with",
      demandLiterals_eq_ok hview, demandStyle_eq_ok hview config.template,
      demandSamples_eq_ok hview List.filter_sublist.subset⟩
    rw [modelSource, hmodel]
    exact ⟨_, rfl⟩
  · have hfields : Demand.each ColumnView.demandText
        (TableView.of config table (explicit.map .text)).columns = .ok () := by
      refine Demand.each_eq_ok_iff.mpr fun c hc => ?_
      obtain ⟨field, hfield⟩ := (hview.columns c hc).field
      rw [ColumnView.demandText, hfield]
      rfl
    simp only [arbitrarySource, htypes, hfields, ok_bind]
    exact ⟨_, rfl⟩
  · obtain ⟨values, hvalues⟩ := exists_placeholderValues hview (h.specBaseTypes table.name)
    unfold specSource
    cases hframework : framework? config with
    | none => exact ⟨none, rfl, rfl⟩
    | some framework =>
      simp only [hvalues, ok_bind]
      exact ⟨_, rfl, rfl⟩

/-- Under policies that answer in kind the view of any table is built without a missing column, its
lists divide the columns as the table declares it with one view for every name, and all its sources
are made. The table may be of either shape: its columns and keys may be repeated or absent, and a
subset may describe a column differently. -/
theorem sources_emitted {config : Settings} (h : AnswersInKind config) (table : Table)
    (explicit : Option String) :
    let given := explicit.map Value.text
    let v := TableView.of config table given
    TableView.build? config table given = some v ∧ Partitioned config table v ∧
      Emits config table given :=
  ⟨build?_eq_some config table _, partitioned_of config table _, emits_of_kind h table explicit⟩

namespace Sample

/-- Interpolated statements, a spec, base types and an override for one column type. -/
def overriding : Settings := { Settings.default with
  template := .interpolation
  testTemplate := "specs2unit"
  baseTypes := sameTypes [.text "Row[$className]"]
  typeOfTypeName := lookupPolicy [("INTEGER", .text "Long")] }

theorem answersInKind_overriding : AnswersInKind overriding where
  className _ := ⟨_, rfl⟩
  fieldName _ := ⟨_, rfl⟩
  syntaxName _ := ⟨_, rfl⟩
  syntaxVariable _ := ⟨_, rfl⟩
  fieldType _ _ := ⟨_, rfl, .nothing⟩
  typeOfTypeName := textOrNothing_lookup [("INTEGER", "Long")]
  sampleOfType _ := ⟨_, rfl, .nothing⟩
  baseTypes _ := ⟨["Row[$className]"], rfl⟩
  companionBaseTypes _ := ⟨[], rfl⟩
  specBaseTypes _ := ⟨[], rfl⟩

/-- A table with a repeated column and a repeated key. The columns of its subsets are not described
as they are among all columns. -/
def roster : Table where
  name := "roster"
  columns := [⟨"id", -5, "BIGINT", 0, true, false, false⟩,
    ⟨"name", 12, "VARCHAR", 30, true, false, false⟩, ⟨"id", 4, "INTEGER", 0, false, false, false⟩]
  autoIncrement := [⟨"id", 12, "VARCHAR", 9, true, true, false⟩]
  primaryKey := [⟨"name", 91, "DATE", 0, false, false, false⟩,
    ⟨"name", 91, "DATE", 0, false, false, false⟩]
  generated := []
  schema := none
  autoIncrement_declared := by decide
  primaryKey_declared := by decide
  generated_declared := by decide

/-- A table without columns. -/
def blank : Table where
  name := "blank"
  columns := []
  autoIncrement := []
  primaryKey := []
  generated := []
  schema := none
  autoIncrement_declared := by decide
  primaryKey_declared := by decide
  generated_declared := by decide

end Sample

/-- The last description of a repeated column counts in all lists. -/
theorem sources_emitted_of_roster :
    let v := TableView.of Sample.overriding Sample.roster none
    AnswersInKind Sample.overriding ∧
    v.columns.map ColumnView.fieldType = ["Option[Long]", "String", "Option[Long]"] ∧
    v.key.map ColumnView.fieldType = ["String", "String"] ∧
    v.autoIncrement.map ColumnView.fieldType = ["Option[Long]"] ∧
    TableView.build? Sample.overriding Sample.roster none = some v ∧
    Partitioned Sample.overriding Sample.roster v ∧
    Emits Sample.overriding Sample.roster none ∧ Emits Sample.overriding Sample.blank none := by
  intro v
  have hkind := Sample.answersInKind_overriding
  obtain ⟨hbuild, hpartitioned, hemits⟩ := sources_emitted hkind Sample.roster none
  obtain ⟨-, -, hblank⟩ := sources_emitted hkind Sample.blank none
  exact ⟨hkind, by decide +kernel, by decide +kernel, by decide +kernel, hbuild, hpartitioned,
    hemits, hblank⟩

end RecordMapper.Source
