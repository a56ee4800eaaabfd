import RecordMapper.Proofs.Validation.Conditions
import RecordMapper.Source.Model

/-!
# Names in the scopes of a model

Generated code puts names of its own beside the fields of a table: methods of the case class, the
session and the syntax variable of `find`, the session and the generated key of `create`. The checks
compare fields with each other, so an input that passes them has distinct names in a scope exactly
when no field meets one of these and none is another in back-quotes.
-/
namespace RecordMapper.Source

open RecordMapper.Config RecordMapper.Naming RecordMapper.Schema RecordMapper.Validation
open RecordMapper.View

/-- The fields and the methods of the case class, without back-quotes. -/
def caseClassNames (v : TableView) : List String :=
  v.columns.map ColumnView.bareName ++ ["save", "destroy"]

/-- The parameters of `find`, the implicit one included, and the syntax variable in its body. -/
def findNames (v : TableView) : List String :=
  v.key.map ColumnView.bareName ++ ["session", v.syntaxVariable]

/-- The parameters of `create`, the implicit one included, and the generated key if there is one. -/
def createNames (v : TableView) : List String :=
  v.insert.map ColumnView.bareName ++
    ("session" :: if v.generatedKey?.isSome then ["generatedKey"] else [])

/-- Names come from the default policies. -/
structure DefaultNaming (config : Settings) : Prop where
  className : config.className = Settings.default.className
  fieldName : config.fieldName = Settings.default.fieldName
  syntaxName : config.syntaxName = Settings.default.syntaxName
  syntaxVariable : config.syntaxVariable = Settings.default.syntaxVariable

/-- The field of a column without back-quotes. -/
def bareField (column : String) : String := unquote (fieldName column)

/-- One of the columns has the field of another in back-quotes. -/
def Requoted (columns : List String) : Prop :=
  ∃ a ∈ columns, ∃ b ∈ columns, fieldName a = backQuoted (fieldName b)

section Columns

theorem ne_backQuoted (name : String) : name ≠ backQuoted name := by
  intro h
  have hlength := congrArg (fun name => name.toList.length) h
  simp only [toList_backQuoted, List.length_append, List.length_cons, List.length_nil] at hlength
  omega

/-- Columns with different fields have different names in a scope unless they are requoted. -/
theorem nodup_map_bareField_iff {columns : List String}
    (hidentifier : ∀ column ∈ columns, isIdentifier (fieldName column) = true)
    (hinjective : ∀ a ∈ columns, ∀ b ∈ columns, fieldName a = fieldName b → a = b) :
    (columns.map bareField).Nodup ↔ columns.Nodup ∧ ¬Requoted columns := by
  constructor
  · intro h
    refine ⟨h.of_map bareField, ?_⟩
    rintro ⟨a, ha, b, hb, hquoted⟩
    have hbare : bareField a = bareField b :=
      (unquote_eq_unquote_iff (hidentifier a ha) (hidentifier b hb)).mpr (.inr (.inl hquoted))
    rw [List.inj_on_of_nodup_map h ha hb hbare] at hquoted
    exact ne_backQuoted _ hquoted
  · rintro ⟨hnodup, hfree⟩
    refine hnodup.map_on fun a ha b hb hbare => ?_
    rcases (unquote_eq_unquote_iff (hidentifier a ha) (hidentifier b hb)).mp hbare with
      hsame | hquoted | hquoted
    · exact hinjective a ha b hb hsame
    · exact absurd ⟨a, ha, b, hb, hquoted⟩ hfree
    · exact absurd ⟨b, hb, a, ha, hquoted⟩ hfree

end Columns

/-- What checks without findings say about the columns of a table. -/
structure SoundTable (table : Table) : Prop where
  nodup : (namesOf table.columns).Nodup
  keyed : table.primaryKey ≠ []
  identifier : ∀ name ∈ namesOf table.columns, isIdentifier (fieldName name) = true
  injective : ∀ a ∈ namesOf table.columns, ∀ b ∈ namesOf table.columns,
    fieldName a = fieldName b → a = b

section Tables

variable {config : Settings} {table : Table} {explicit : Option Value}

theorem soundTable_of_check (hnaming : DefaultNaming config) {tables : List Table}
    {checkup : Checkup} (hcheck : check tables config = .ok checkup)
    (herrors : checkup.report.hasErrors = false) (hwarnings : checkup.report.hasWarnings = false)
    (htable : table ∈ tables) : SoundTable table := by
  have hanswers : Answers config Naming.className Naming.fieldName tables :=
    answers_of_check (fun _ => by rw [hnaming.className]; rfl)
      (fun _ => by rw [hnaming.fieldName]; rfl) hcheck
  obtain ⟨-, -, hnul, -⟩ := check_eq_ok_iff.mp hcheck
  obtain ⟨decided, hdecided, hfaulty, hdoubtful⟩ := check_decided hanswers hnul
  rw [hcheck] at hdecided
  cases hdecided
  have hsound : ¬Faulty Naming.className Naming.fieldName config tables := by
    rw [← hfaulty, herrors]
    exact Bool.false_ne_true
  have hclear : ¬Doubtful Naming.fieldName config tables := by
    rw [← hdoubtful, hwarnings]
    exact Bool.false_ne_true
  refine ⟨?_, fun hkey => ?_, fun name hname => ?_, fun a ha b hb hsame => ?_⟩
  · by_contra hsame
    exact hsound (.sameColumn htable hsame)
  · by_cases hcolumns : table.columns = []
    · exact hsound (.noColumns htable hcolumns)
    · exact hclear (.noPrimaryKey htable hcolumns hkey)
  · obtain ⟨column, hcolumn, rfl⟩ := List.mem_map.mp hname
    by_contra hbad
    rw [isIdentifier_iff, not_or] at hbad
    exact hsound (.fieldName htable hcolumn hbad.1 hbad.2)
  · obtain ⟨first, hfirst, rfl⟩ := List.mem_map.mp ha
    obtain ⟨second, hsecond, rfl⟩ := List.mem_map.mp hb
    by_contra hne
    exact hclear (.sameField htable hfirst hsecond hne hsame)

/-- The views of a subset under their names in a scope. -/
theorem map_bareName_pick (hfield : config.fieldName = Settings.default.fieldName)
    (explicit : Option Value) {subset : List Column} (h : Declares table.columns subset) :
    (pick (table.columns.map (ColumnView.of config (classOf config table explicit))) subset).map
      ColumnView.bareName = (namesOf subset).map bareField := by
  rw [← map_name_pick_of_declares config table explicit h, List.map_map]
  refine List.map_congr_left fun c hc => ?_
  obtain ⟨column, -, rfl⟩ := List.mem_map.mp (mem_of_mem_pick hc)
  have hanswer : config.fieldName column.name = .text (fieldName column.name) := by
    rw [hfield]
    rfl
  simp only [Function.comp_apply, ColumnView.bareName, ColumnView.fieldName, ColumnView.name,
    ColumnView.of, hanswer, Value.display, bareField]

/-- The scope of a subset of the columns and some other names. -/
theorem nodup_scope_iff (h : SoundTable table) {subset : List Column}
    (hdeclares : Declares table.columns subset) (locals : List String) :
    ((namesOf subset).map bareField ++ locals).Nodup ↔
      ((namesOf subset).Nodup ∧ ¬Requoted (namesOf subset)) ∧ locals.Nodup ∧
        ∀ column ∈ subset, bareField column.name ∉ locals := by
  have hdeclared : ∀ name ∈ namesOf subset, name ∈ namesOf table.columns := by
    intro name hname
    obtain ⟨column, hcolumn, rfl⟩ := List.mem_map.mp hname
    exact hdeclares column hcolumn
  rw [List.nodup_append, nodup_map_bareField_iff
    (fun name hname => h.identifier _ (hdeclared _ hname))
    fun a ha b hb => h.injective a (hdeclared a ha) b (hdeclared b hb)]
  refine and_congr_right' (and_congr_right' ⟨fun hfree column hcolumn hlocal => ?_, ?_⟩)
  · exact hfree _ (List.mem_map_of_mem (List.mem_map_of_mem hcolumn)) _ hlocal rfl
  · intro hfree name hname other hlocal
    obtain ⟨_, hmem, rfl⟩ := List.mem_map.mp hname
    obtain ⟨column, hcolumn, rfl⟩ := List.mem_map.mp hmem
    rintro rfl
    exact hfree column hcolumn hlocal

theorem syntaxVariable_eq (hnaming : DefaultNaming config) :
    (TableView.of config table explicit).syntaxVariable = tableAlias table.name := by
  have hanswer : config.syntaxVariable table.name = .text (tableAlias table.name) := by
    rw [hnaming.syntaxVariable]
    rfl
  simp only [TableView.syntaxVariable, TableView.of, hanswer, Value.display]

theorem isSome_generatedKey? :
    (TableView.of config table explicit).generatedKey?.isSome = !table.autoIncrement.isEmpty := by
  have hlength := congrArg List.length (map_name_autoIncrement config table explicit)
  rw [namesOf, List.length_map, List.length_map] at hlength
  rw [TableView.generatedKey?, Bool.eq_iff_iff, List.isSome_head?]
  simp only [ne_eq, Bool.not_eq_true', List.isEmpty_eq_false_iff, ← List.length_pos_iff, hlength]

end Tables

/-- For a table of an input that passes all checks under the default policies, when the names in the
scopes of its model are distinct. The fields of the case class have to differ from its methods; the
key has to list a column once, and its fields and the syntax variable have to differ from each other
and from the session; the fields of `create` have to differ from the session and from the generated
key; and in no scope one field is another in back-quotes. -/
theorem scopes_distinct_iff {config : Settings} (hnaming : DefaultNaming config)
    {tables : List Table} {checkup : Checkup} (hcheck : check tables config = .ok checkup)
    (herrors : checkup.report.hasErrors = false) (hwarnings : checkup.report.hasWarnings = false)
    {table : Table} (htable : table ∈ tables) (explicit : Option Value) :
    let v := TableView.of config table explicit
    ((caseClassNames v).Nodup ↔
      ¬Requoted (namesOf table.columns) ∧
      ∀ c ∈ table.columns, bareField c.name ≠ "save" ∧ bareField c.name ≠ "destroy") ∧
    ((findNames v).Nodup ↔
      ((namesOf table.primaryKey).Nodup ∧ ¬Requoted (namesOf table.primaryKey)) ∧
      tableAlias table.name ≠ "session" ∧
      ∀ c ∈ table.primaryKey,
        bareField c.name ≠ "session" ∧ bareField c.name ≠ tableAlias table.name) ∧
    ((createNames v).Nodup ↔
      ¬Requoted (namesOf table.insertColumns) ∧
      ∀ c ∈ table.insertColumns, bareField c.name ≠ "session" ∧
        (table.autoIncrement ≠ [] → bareField c.name ≠ "generatedKey")) := by
  intro v
  have hsound := soundTable_of_check hnaming hcheck herrors hwarnings htable
  have hbare {subset : List Column} (hdeclares : Declares table.columns subset) :=
    map_bareName_pick hnaming.fieldName explicit hdeclares
  -- A key is listed, so the other columns do not stand in for it.
  have hkey : table.keyColumns = table.primaryKey := by
    rw [Table.keyColumns, if_neg (by rw [List.isEmpty_iff]; exact hsound.keyed)]
  refine ⟨?_, ?_, ?_⟩
  · have hnames : v.columns.map ColumnView.bareName = (namesOf table.columns).map bareField :=
      hbare (declares_columns table)
    rw [caseClassNames, hnames, nodup_scope_iff hsound (declares_columns table)]
    simp [hsound.nodup]
  · have hnames : v.key.map ColumnView.bareName = (namesOf table.primaryKey).map bareField := by
      rw [← hkey]
      exact hbare (declares_keyColumns table)
    rw [findNames, hnames, syntaxVariable_eq hnaming,
      nodup_scope_iff hsound table.primaryKey_declared]
    simp [eq_comm]
  · have hnames : v.insert.map ColumnView.bareName = (namesOf table.insertColumns).map bareField :=
      hbare (declares_insertColumns table)
    have hnodup : (namesOf table.insertColumns).Nodup :=
      hsound.nodup.sublist (List.filter_sublist.map _)
    rw [createNames, hnames, isSome_generatedKey?,
      nodup_scope_iff hsound (declares_insertColumns table)]
    cases table.autoIncrement <;> simp [hnodup]

namespace Sample

/-- A table that is nothing but its key. -/
def keyed (key : String) : Table where
  name := "emp"
  columns := [⟨key, -5, "BIGINT", 0, true, false, false⟩]
  autoIncrement := []
  primaryKey := [⟨key, -5, "BIGINT", 0, true, false, false⟩]
  generated := []
  schema := none
  autoIncrement_declared := fun _ h => absurd h List.not_mem_nil
  primaryKey_declared := fun _ h => List.mem_map_of_mem h
  generated_declared := fun _ h => absurd h List.not_mem_nil

end Sample

/-- A reserved word as a column is in back-quotes and meets no other name. -/
theorem scopes_distinct_iff_of_type :
    DefaultNaming Settings.default ∧
    ∃ checkup, check [Sample.keyed "type"] Settings.default = .ok checkup ∧
      checkup.report.hasErrors = false ∧ checkup.report.hasWarnings = false ∧
      let v := TableView.of Settings.default (Sample.keyed "type") none
      (caseClassNames v).Nodup ∧ (findNames v).Nodup ∧ (createNames v).Nodup := by
  have hnaming : DefaultNaming Settings.default := ⟨rfl, rfl, rfl, rfl⟩
  refine ⟨hnaming, _, rfl, by decide +kernel, by decide +kernel, ?_⟩
  obtain ⟨hcaseClass, hfind, hcreate⟩ := scopes_distinct_iff hnaming rfl (by decide +kernel)
    (by decide +kernel) (List.mem_singleton_self (Sample.keyed "type")) none
  have hfree : ¬Requoted ["type"] := by
    unfold Requoted
    decide +kernel
  exact ⟨hcaseClass.mpr ⟨hfree, by decide +kernel⟩,
    hfind.mpr ⟨⟨by decide +kernel, hfree⟩, by decide +kernel, by decide +kernel⟩,
    hcreate.mpr ⟨hfree, by decide +kernel⟩⟩

/-- A column `save` passes all checks, and the case class has its field beside the method. -/
theorem save_meets_method :
    (∃ checkup, check [Sample.keyed "save"] Settings.default = .ok checkup ∧
      checkup.report.hasErrors = false ∧ checkup.report.hasWarnings = false) ∧
    ¬(caseClassNames (TableView.of Settings.default (Sample.keyed "save") none)).Nodup := by
  exact ⟨⟨_, rfl, by decide +kernel, by decide +kernel⟩, by decide +kernel⟩

end RecordMapper.Source
