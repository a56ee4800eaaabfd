import RecordMapper.Proofs.Source.NestedParts
import RecordMapper.Proofs.View.Subsets
import RecordMapper.Source.Model

/-!
# Nested method bodies

The bodies of all operations are nested in both styles. An insert is continued after its last line,
and the record that `create` returns and the parameters of a batch insert are closed there.
-/
namespace RecordMapper.Source

open RecordMapper.Config RecordMapper.Schema RecordMapper.Text RecordMapper.View

/-- What is written of a table and of its columns is nested. -/
structure NestedView (v : TableView) : Prop where
  className : Nested v.className
  syntaxName : Nested v.syntaxName
  syntaxVariable : Nested v.syntaxVariable
  tableName : Nested v.tableName
  schema : ∀ schema, v.table.schema = some schema → Nested schema
  columns : ∀ c ∈ v.columns, NestedColumn c

/-- The subsets of the columns that statements are about. -/
structure DrawsColumns (v : TableView) : Prop where
  key : v.key ⊆ v.columns
  insert : v.insert ⊆ v.columns
  update : v.update ⊆ v.columns

section Views

theorem pick_subset {views : List ColumnView} {columns subset : List Column}
    (h : Declares columns subset) : pick views subset ⊆ pick views columns := by
  intro c hc
  obtain ⟨column, hcolumn, hfound⟩ := List.mem_filterMap.mp hc
  obtain ⟨declared, hdeclared, hname⟩ := List.mem_map.mp (h column hcolumn)
  exact List.mem_filterMap.mpr ⟨declared, hdeclared, by rw [hname]; exact hfound⟩

theorem drawsColumns (config : Settings) (table : Table) (explicit : Option Value) :
    DrawsColumns (TableView.of config table explicit) where
  key := pick_subset (declares_keyColumns table)
  insert := pick_subset (declares_insertColumns table)
  update := pick_subset (declares_updateColumns table)

variable {v : TableView}

theorem NestedView.schema? (h : NestedView v) {schema : String}
    (hschema : v.schema? = some schema) : Nested schema :=
  h.schema schema (Option.filter_eq_some_iff.mp hschema).1

theorem NestedView.of_subset (h : NestedView v) {subset : List ColumnView}
    (hsubset : subset ⊆ v.columns) : ∀ c ∈ subset, NestedColumn c :=
  fun c hc => h.columns c (hsubset hc)

theorem NestedView.qualifiedName (h : NestedView v) : Nested v.qualifiedName := by
  unfold TableView.qualifiedName
  split
  · rename_i schema hschema
    exact nested_append (nested_append (h.schema? hschema) (by decide)) h.tableName
  · exact h.tableName

theorem nested_rowMapping (h : NestedView v) : Nested (rowMapping v) := by
  rw [nested_iff]
  unfold rowMapping
  simp only [readText_append, h.className.readText_eq, h.syntaxVariable.readText_eq]
  decide

theorem nested_aliased (h : NestedView v) : Nested (aliased v) :=
  nested_append (nested_append h.className (by decide)) h.syntaxVariable

end Views

/-- The bodies of a style are nested, and its inserts have a line that can be continued. -/
structure NestedStyle (style : Style) (v : TableView) : Prop where
  find : NestedLines (style.find v)
  findAll : ∀ {rows}, Nested rows → NestedLines (style.findAll v rows)
  countAll : NestedLines (style.countAll v)
  findBy : NestedLines (style.findBy v)
  findAllBy : ∀ {rows}, Nested rows → NestedLines (style.findAllBy v rows)
  countBy : NestedLines (style.countBy v)
  insert : NestedLines (style.insert v)
  insert_ne_nil : style.insert v ≠ []
  save : NestedLines (style.save v)
  destroy : NestedLines (style.destroy v)
  whereExample : ∀ {c}, NestedColumn c → Nested (style.whereExample v c)
  syntaxObject : Nested (style.syntaxObject v)

section Interpolated

open Interpolation

theorem readText_sql {awaited : Awaited} (statement : String) :
    readText awaited (sql statement) = readText awaited statement := by
  have hopening : Nested "sql" := by decide
  have hquotes : Nested quotes := by decide
  unfold sql
  simp only [readText_append, hopening.readText_eq, hquotes.readText_eq]

variable {v : TableView} (h : NestedView v)

include h

theorem nested_interpolatedSelect : Nested (selectFrom v) := by
  have hresult : Nested (interpolate (v.syntaxVariable ++ ".result.*")) :=
    nested_interpolate (nested_append h.syntaxVariable (by decide))
  have haliased : Nested (interpolate (aliased v)) := nested_interpolate (nested_aliased h)
  exact nested_append (nested_append (nested_append (by decide) hresult) (by decide)) haliased

theorem nested_table : Nested (Interpolation.table v) :=
  nested_interpolate (nested_append h.className (by decide))

theorem nestedLines_interpolatedInsert (hinsert : v.insert ⊆ v.columns) :
    NestedLines (Interpolation.insert v) := by
  have hcolumns : NestedLines (interpolatedColumns v.insert) :=
    nestedLines_map fun c hc => nested_interpolatedColumn (h.of_subset hinsert c hc)
  have hplaces : NestedLines (interpolatedPlaceholders v.insert "") :=
    nestedLines_map fun c hc => nested_interpolatedValue nested_empty (h.of_subset hinsert c hc)
  rw [nestedLines_iff]
  unfold Interpolation.insert
  simp only [readTexts_append, readTexts_cons, readTexts_nil, readText_append, readTexts_listed,
    hcolumns.readTexts_eq, hplaces.readTexts_eq, (nested_table h).readText_eq,
    (nested_margin _).readText_eq]
  decide

theorem nestedLines_interpolatedSave (hupdate : v.update ⊆ v.columns)
    (hentity : Nested (entityPredicate v)) : NestedLines (save v) := by
  have hpath : Nested "entity." := by decide
  have hsets : NestedLines (interpolatedAssignments v.update "entity.") := by
    refine nestedLines_map fun c hc => ?_
    have hc := h.of_subset hupdate c hc
    have hvalue := nested_interpolatedValue hpath hc
    exact nested_append (nested_append (nested_interpolatedColumn hc) (by decide)) hvalue
  rw [nestedLines_iff]
  unfold save
  simp only [readTexts_append, readTexts_cons, readTexts_nil, readText_append, readTexts_listed,
    hsets.readTexts_eq, hentity.readText_eq, (nested_table h).readText_eq,
    (nested_margin _).readText_eq]
  decide

theorem nestedStyle_interpolation (hdraws : DrawsColumns v) : NestedStyle interpolationStyle v := by
  have hkey := h.of_subset hdraws.key
  have hpredicate := nested_interpolatedPredicate hkey h.syntaxVariable nested_empty
  have hentity : Nested (entityPredicate v) :=
    nested_interpolatedPredicate hkey (by decide) (by decide)
  have hselect := nested_interpolatedSelect h
  have htable := nested_table h
  have haliased := nested_interpolate (nested_aliased h)
  have hrow := nested_rowMapping h
  have hgiven : Nested whereGiven := by decide
  have hsingle : Nested single := by decide
  constructor
  case find =>
    rw [nestedLines_iff]
    unfold interpolationStyle
    simp only [readTexts_cons, readTexts_nil, readText_append, readText_sql, hselect.readText_eq,
      hpredicate.readText_eq, hrow.readText_eq, hsingle.readText_eq, (nested_margin _).readText_eq]
    decide
  case findAll =>
    intro rows hrows
    rw [nestedLines_iff]
    unfold interpolationStyle
    simp only [readTexts_cons, readTexts_nil, readText_append, readText_sql, hselect.readText_eq,
      hrow.readText_eq, hrows.readText_eq]
    decide
  case countAll =>
    rw [nestedLines_iff]
    unfold interpolationStyle
    simp only [readTexts_cons, readTexts_nil, readText_append, readText_sql, htable.readText_eq]
    decide
  case findBy =>
    rw [nestedLines_iff]
    unfold interpolationStyle
    simp only [readTexts_cons, readTexts_nil, readText_append, readText_sql, hselect.readText_eq,
      hgiven.readText_eq, hrow.readText_eq, hsingle.readText_eq, (nested_margin _).readText_eq]
  case findAllBy =>
    intro rows hrows
    rw [nestedLines_iff]
    unfold interpolationStyle
    simp only [readTexts_cons, readTexts_nil, readText_append, readText_sql, hselect.readText_eq,
      hgiven.readText_eq, hrow.readText_eq, hrows.readText_eq, (nested_margin _).readText_eq]
    decide
  case countBy =>
    rw [nestedLines_iff]
    unfold interpolationStyle
    simp only [readTexts_cons, readTexts_nil, readText_append, readText_sql, haliased.readText_eq,
      hgiven.readText_eq, (nested_margin _).readText_eq]
    decide
  case insert => exact nestedLines_interpolatedInsert h hdraws.insert
  case insert_ne_nil => exact List.cons_ne_nil _ _
  case save => exact nestedLines_interpolatedSave h hdraws.update hentity
  case destroy =>
    rw [nestedLines_iff]
    unfold interpolationStyle
    simp only [readTexts_cons, readTexts_nil, readText_append, readText_sql, htable.readText_eq,
      hentity.readText_eq]
    decide
  case whereExample =>
    intro c hc
    have hsample := nested_interpolate hc.sample
    rw [nested_iff]
    unfold interpolationStyle
    simp only [readText_append, hc.name.readText_eq, hsample.readText_eq]
    decide
  case syntaxObject => exact nested_empty

end Interpolated

section Queried

open QueryDsl

variable {v : TableView} (h : NestedView v)

include h

theorem nested_queriedSelect : Nested (selectFrom v) := by
  rw [nested_iff]
  unfold selectFrom
  simp only [readText_append, (nested_aliased h).readText_eq]
  decide

theorem nested_countFrom : Nested (countFrom v) := by
  rw [nested_iff]
  unfold countFrom
  simp only [readText_append, (nested_aliased h).readText_eq]
  decide

omit h in
theorem nestedLines_block {query after : String} (hquery : Nested query) (hafter : Nested after) :
    NestedLines (block query after) := by
  rw [nestedLines_iff]
  unfold block opening
  simp only [readTexts_cons, readTexts_nil, readText_append, hquery.readText_eq, hafter.readText_eq,
    (nested_margin _).readText_eq]
  decide

theorem nestedLines_namedValues {subset : List ColumnView} (hsubset : subset ⊆ v.columns)
    {path : String} (hpath : Nested path) : NestedLines (namedValues subset path) :=
  nestedLines_map fun c hc => nested_namedValue hpath (h.of_subset hsubset c hc)

theorem nestedLines_queriedInsert (hinsert : v.insert ⊆ v.columns) :
    NestedLines (QueryDsl.insert v) := by
  have hvalues := nestedLines_namedValues h hinsert nested_empty
  rw [nestedLines_iff]
  unfold QueryDsl.insert opening
  simp only [readTexts_append, readTexts_cons, readTexts_nil, readText_append, readTexts_listed,
    hvalues.readTexts_eq, h.className.readText_eq, (nested_margin _).readText_eq]
  decide

theorem nestedLines_queriedSave (hupdate : v.update ⊆ v.columns)
    (hentity : Nested (entityPredicate v)) : NestedLines (save v) := by
  have hpath : Nested "entity." := by decide
  have hsets := nestedLines_namedValues h hupdate hpath
  rw [nestedLines_iff]
  unfold save opening
  simp only [readTexts_append, readTexts_cons, readTexts_nil, readText_append, readTexts_listed,
    hsets.readTexts_eq, hentity.readText_eq, h.className.readText_eq, (nested_margin _).readText_eq]
  decide

theorem nestedStyle_queryDsl (hdraws : DrawsColumns v) : NestedStyle queryDslStyle v := by
  have hkey := h.of_subset hdraws.key
  have hpredicate := nested_dslPredicate hkey h.syntaxVariable nested_empty
  have hentity : Nested (entityPredicate v) := nested_dslPredicate hkey (by decide) (by decide)
  have hselect := nested_queriedSelect h
  have hcount := nested_countFrom h
  have hrow := nested_rowMapping h
  have hgiven : Nested whereGiven := by decide
  have hsingle : Nested single := by decide
  constructor
  case find =>
    exact nestedLines_block (nested_append (nested_append hselect (by decide)) hpredicate)
      (nested_append hrow hsingle)
  case findAll =>
    intro rows hrows
    rw [nestedLines_iff]
    unfold queryDslStyle
    simp only [readTexts_cons, readTexts_nil, readText_append, hselect.readText_eq,
      hrow.readText_eq, hrows.readText_eq]
    decide
  case countAll =>
    rw [nestedLines_iff]
    unfold queryDslStyle
    simp only [readTexts_cons, readTexts_nil, readText_append, hcount.readText_eq]
    decide
  case findBy => exact nestedLines_block (nested_append hselect hgiven) (nested_append hrow hsingle)
  case findAllBy =>
    intro rows hrows
    exact nestedLines_block (nested_append hselect hgiven)
      (nested_append (nested_append hrow (by decide)) hrows)
  case countBy => exact nestedLines_block (nested_append hcount hgiven) (by decide)
  case insert => exact nestedLines_queriedInsert h hdraws.insert
  case insert_ne_nil => exact List.cons_ne_nil _ _
  case save => exact nestedLines_queriedSave h hdraws.update hentity
  case destroy =>
    rw [nestedLines_iff]
    unfold queryDslStyle opening
    simp only [readTexts_cons, readTexts_nil, readText_append, h.className.readText_eq,
      hentity.readText_eq]
    decide
  case whereExample =>
    intro c hc
    rw [nested_iff]
    unfold queryDslStyle
    simp only [readText_append, h.syntaxVariable.readText_eq, hc.field.readText_eq,
      hc.sample.readText_eq]
    decide
  case syntaxObject =>
    rw [nested_iff]
    unfold queryDslStyle syntaxObject
    simp only [readText_append, h.syntaxVariable.readText_eq, h.className.readText_eq,
      h.syntaxName.readText_eq]
    decide

end Queried

theorem nestedStyle {v : TableView} (template : SqlTemplate) (h : NestedView v)
    (hdraws : DrawsColumns v) : NestedStyle (Style.of template) v := by
  cases template with
  | interpolation => exact nestedStyle_interpolation h hdraws
  | queryDsl => exact nestedStyle_queryDsl h hdraws

section Inserts

variable {v : TableView} (h : NestedView v)

theorem onLast_ne_nil {f : String → String} {lines : List String} (h : lines ≠ []) :
    onLast f lines ≠ [] := by
  fun_cases onLast f lines with
  | case1 => exact h
  | case2 => exact List.cons_ne_nil _ _
  | case3 => exact List.cons_ne_nil _ _

theorem nestedLines_createStatement {style : Style} (hstyle : NestedStyle style v) :
    NestedLines (createStatement style v) := by
  have hexecute : Nested (executeInsert v) := by
    unfold executeInsert
    split <;> decide
  have hstatement : NestedLines (onLast (· ++ executeInsert v) (style.insert v)) := by
    rw [nestedLines_iff, readTexts_onLast hstyle.insert_ne_nil, hstyle.insert.readTexts_eq,
      hexecute.readText_eq]
  have hkey : Nested "val generatedKey = " := by decide
  unfold createStatement
  dsimp only
  split
  · rw [nestedLines_iff, readTexts_onFirst (onLast_ne_nil hstyle.insert_ne_nil), hkey.readText_eq,
      hstatement.readTexts_eq]
  · exact hstatement

include h

theorem nestedLines_createRecord : NestedLines (createRecord v) := by
  have harguments : NestedLines (v.columns.filterMap (createArgument v)) := by
    refine nestedLines_of_nested fun argument hargument => ?_
    obtain ⟨c, hc, hfound⟩ := List.mem_filterMap.mp hargument
    have hc := h.columns c hc
    have hassign : Nested (c.fieldName ++ " = ") := nested_append hc.field (by decide)
    unfold createArgument at hfound
    split at hfound
    · cases hfound
      exact nested_append hassign (nested_generatedKeyExpression c)
    · split at hfound
      · cases hfound
        exact nested_append hassign hc.field
      · split at hfound
        · cases hfound
          exact nested_append hassign hc.sample
        · cases hfound
  rw [nestedLines_iff]
  unfold createRecord
  rw [readTexts_onLast (List.cons_ne_nil _ _), readTexts_cons, readTexts_listed,
    harguments.readTexts_eq, readText_append, h.className.readText_eq]
  decide

theorem nestedLines_createBody {style : Style} (hstyle : NestedStyle style v) :
    NestedLines (createBody style v) :=
  nestedLines_append (nestedLines_append (nestedLines_createStatement hstyle)
    (nestedLines_cons nested_empty nestedLines_nil)) (nestedLines_createRecord h)

theorem nestedLines_batchInsertBody (hdraws : DrawsColumns v) {collection : String}
    (hcollection : Nested collection) : NestedLines (batchInsertBody v collection) := by
  have hinsert := h.of_subset hdraws.insert
  have hparameters : NestedLines (v.insert.map batchParameter) :=
    nestedLines_map fun c hc => nested_batchParameter (hinsert c hc)
  have hnames : NestedLines (v.insert.map ColumnView.name) :=
    nestedLines_map fun c hc => (hinsert c hc).name
  have hplaces : NestedLines (v.insert.map batchPlaceholder) :=
    nestedLines_map fun c hc => nested_batchPlaceholder (hinsert c hc)
  rw [nestedLines_iff]
  unfold batchInsertBody
  simp only [readTexts_append, readTexts_cons, readTexts_nil, readText_append, readTexts_listed,
    readTexts_onLast (List.cons_ne_nil _ _), hparameters.readTexts_eq, hnames.readTexts_eq,
    hplaces.readTexts_eq, h.qualifiedName.readText_eq, hcollection.readText_eq,
    (nested_margin _).readText_eq]
  simp only [readText_ofList]
  decide +kernel

end Inserts

end RecordMapper.Source
