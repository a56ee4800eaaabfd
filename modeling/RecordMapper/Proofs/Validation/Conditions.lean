import Mathlib.Data.List.Forall2
import RecordMapper.Proofs.Validation.Decision
import RecordMapper.Proofs.View.Subsets

/-!
# Faulty and doubtful inputs

The conditions under which the checks of tables and a configuration report an error or a warning.
The order of the tables and of the columns of a table plays no part in them.
-/
namespace RecordMapper.Validation

open RecordMapper.Config RecordMapper.Naming RecordMapper.Schema RecordMapper.Text RecordMapper.View

/-- Names of classes and fields are texts, and the types of the fields of the tables are found. -/
structure Answers (config : Settings) (className fieldName : String → String)
    (tables : List Table) : Prop where
  classes : ∀ table, config.className table = .text (className table)
  fields : ∀ column, config.fieldName column = .text (fieldName column)
  types : ∀ table ∈ tables, ∀ column ∈ table.columns, ∃ type,
    config.fieldType (.text (className table.name)) (.text (fieldName column.name)) = .ok type

/-- What makes an input unusable. -/
inductive Faulty (className fieldName : String → String) (config : Settings)
    (tables : List Table) : Prop
  | sameTable (hsame : ¬(tables.map Table.name).Nodup)
  | className {table : Table} (htable : table ∈ tables)
      (hname : className table.name = "" ∨ ¬PlainIdentifier (className table.name))
  | sameClass {first second : Table} (hfirst : first ∈ tables) (hsecond : second ∈ tables)
      (hne : first.name ≠ second.name) (hsame : className first.name = className second.name)
      (haccepted : PlainIdentifier (className first.name))
  | noColumns {table : Table} (htable : table ∈ tables) (hcolumns : table.columns = [])
  | sameColumn {table : Table} (htable : table ∈ tables) (hsame : ¬(namesOf table.columns).Nodup)
  | fieldName {table : Table} {column : Column} (htable : table ∈ tables)
      (hcolumn : column ∈ table.columns) (hplain : ¬PlainIdentifier (fieldName column.name))
      (hquoted : ¬QuotedIdentifier (fieldName column.name))
  | package {segment : String} (hfilled : config.package ≠ "")
      (hsegment : segment ∈ split '.' config.package) (hname : ¬PlainIdentifier segment)
  | encoding (hunknown : Encoding.ofName? config.encoding = none)
  | sourceDir (hempty : config.sourceDir = "")
  | testDir (hempty : config.testDir = "")

/-- What is worth a warning. The names to skip are kept in lower case. -/
inductive Doubtful (fieldName : String → String) (config : Settings) (tables : List Table) : Prop
  | sameField {table : Table} {first second : Column} (htable : table ∈ tables)
      (hfirst : first ∈ table.columns) (hsecond : second ∈ table.columns)
      (hne : first.name ≠ second.name) (hsame : fieldName first.name = fieldName second.name)
  | noPrimaryKey {table : Table} (htable : table ∈ tables) (hcolumns : table.columns ≠ [])
      (hkey : table.primaryKey = [])
  | package (hempty : config.package = "")
  | testTemplate (hfilled : config.testTemplate ≠ "") (hunknown : Source.framework? config = none)
  | skipped {name : String} (hname : name ∈ config.skipNames)
      (hunknown : ∀ table ∈ tables, lower table.name ≠ name)

section TableNames

variable {config : Settings} {className : String → String}

/-- The check of a class name by itself. -/
def checkClassName (config : Settings) (table : Table) : Except Failure (List Issue) := do
  let accepted ← acceptedClassName config table
  return if accepted.isNone then [.invalidClassName table.name (config.className table.name)]
    else []

theorem decides_classNameIssues (h : ∀ table, config.className table = .text (className table))
    (seen : List String) (tables : List Table) :
    Decides (classNameIssues config seen tables)
      (Clashes Table.name seen tables ∨
        ∃ table ∈ tables, ¬PlainIdentifier (className table.name)) False := by
  refine decides_seen (fun table => .duplicateTable table.name) (checkClassName config)
    (fun _ => rfl) (fun seen table rest => ?_) (fun _ => rfl) (fun table _ => ?_) seen
  · rw [classNameIssues, checkClassName, bind_assoc]
    rfl
  · refine ⟨_, by simp only [checkClassName, acceptedClassName_eq (h _), ok_bind]; rfl, ?_, ?_⟩
    · rw [raises_ite, ← isPlainIdentifier_iff]
      simp [Issue.level]
    · rw [raises_ite]
      simp [Issue.level]

/-- The tables whose class names are identifiers, with these. -/
def classPairs (className : String → String) (tables : List Table) : List (String × String) :=
  (tables.filter fun table => isPlainIdentifier (className table.name)).map fun table =>
    (table.name, className table.name)

theorem acceptedClassNames_eq (h : ∀ table, config.className table = .text (className table))
    (tables : List Table) :
    acceptedClassNames config tables = .ok (classPairs className tables) := by
  have hall : ∀ table ∈ tables, (do
      return (← acceptedClassName config table).map fun name => (table.name, name)) =
        Except.ok (if isPlainIdentifier (className table.name) then
          some (table.name, className table.name) else none) := by
    intro table _
    rw [acceptedClassName_eq (h table.name)]
    split <;> rfl
  rw [acceptedClassNames, mapM_eq_ok hall, ok_bind, List.filterMap_map]
  refine congrArg Except.ok ?_
  rw [classPairs, ← List.filterMap_eq_map, List.filterMap_filter]
  exact List.filterMap_congr fun table _ => rfl

theorem collisions_classPairs_iff {tables : List Table} :
    collisions (classPairs className tables) ≠ [] ↔
      ∃ first ∈ tables, ∃ second ∈ tables, first.name ≠ second.name ∧
        className first.name = className second.name ∧ PlainIdentifier (className first.name) := by
  simp only [collisions_ne_nil_iff, classPairs, List.mem_map, List.mem_filter, Prod.mk.injEq,
    isPlainIdentifier_iff]
  constructor
  · rintro ⟨_, _, _, ⟨first, ⟨hfirst, haccepted⟩, rfl, rfl⟩,
      ⟨second, ⟨hsecond, -⟩, rfl, hsame⟩, hne⟩
    exact ⟨first, hfirst, second, hsecond, hne, hsame.symm, haccepted⟩
  · rintro ⟨first, hfirst, second, hsecond, hne, hsame, haccepted⟩
    exact ⟨_, _, _, ⟨first, ⟨hfirst, haccepted⟩, rfl, rfl⟩,
      ⟨second, ⟨hsecond, hsame ▸ haccepted⟩, rfl, hsame.symm⟩, hne⟩

/-- What can be wrong with the names of tables and of their classes. -/
def FaultyNames (className : String → String) (tables : List Table) : Prop :=
  ¬(tables.map Table.name).Nodup ∨
    (∃ table ∈ tables, ¬PlainIdentifier (className table.name)) ∨
    ∃ first ∈ tables, ∃ second ∈ tables, first.name ≠ second.name ∧
      className first.name = className second.name ∧ PlainIdentifier (className first.name)

theorem decides_checkTableNames (h : ∀ table, config.className table = .text (className table))
    (tables : List Table) :
    Decides (checkTableNames tables config) (FaultyNames className tables) False := by
  obtain ⟨single, hsingle, herror, hwarning⟩ := decides_classNameIssues h [] tables
  have hclashes : Clashes Table.name [] tables ↔ ¬(tables.map Table.name).Nodup := by
    simp [Clashes]
  refine ⟨_, by rw [checkTableNames, hsingle, ok_bind, acceptedClassNames_eq h]; rfl, ?_, ?_⟩
  · rw [raises_append, herror, raises_map .error (fun _ => rfl), hclashes,
      collisions_classPairs_iff, or_assoc, FaultyNames]
    simp only [true_and]
  · rw [raises_append, hwarning, raises_map .error (fun _ => rfl)]
    simp

end TableNames

section Columns

variable {config : Settings} {className fieldName : String → String}

/-- The check of a field name by itself. -/
def checkFieldName (config : Settings) (table : String) (column : Column) :
    Except Failure (List Issue) := do
  let fieldName ← Policy.name (config.fieldName column.name)
  return if isIdentifier fieldName then [] else [.invalidFieldName table column.name fieldName]

theorem decides_fieldNameIssues (h : ∀ column, config.fieldName column = .text (fieldName column))
    (table : String) (seen : List String) (columns : List Column) :
    Decides (fieldNameIssues config table seen columns)
      (Clashes Column.name seen columns ∨ ∃ column ∈ columns,
        ¬PlainIdentifier (fieldName column.name) ∧ ¬QuotedIdentifier (fieldName column.name))
      False := by
  refine decides_seen (fun column => .duplicateColumn table column.name)
    (checkFieldName config table) (fun _ => rfl) (fun seen column rest => ?_) (fun _ => rfl)
    (fun column _ => ?_) seen
  · rw [fieldNameIssues, checkFieldName, bind_assoc]
    rfl
  · have hbad : isIdentifier (fieldName column.name) = true ↔
        ¬(¬PlainIdentifier (fieldName column.name) ∧
          ¬QuotedIdentifier (fieldName column.name)) := by
      rw [isIdentifier_iff, not_and_or, not_not, not_not]
    refine ⟨_, by simp only [checkFieldName, h, Policy.name, ok_bind]; rfl, ?_, ?_⟩
    · rw [← ite_not, raises_ite, hbad, not_not]
      simp [Issue.level]
    · rw [← ite_not, raises_ite]
      simp [Issue.level]

theorem collisions_fieldPairs_iff {columns : List Column} :
    collisions (columns.map fun column => (column.name, fieldName column.name)) ≠ [] ↔
      ∃ first ∈ columns, ∃ second ∈ columns, first.name ≠ second.name ∧
        fieldName first.name = fieldName second.name := by
  simp only [collisions_ne_nil_iff, List.mem_map, Prod.mk.injEq]
  constructor
  · rintro ⟨_, _, _, ⟨first, hfirst, rfl, rfl⟩, ⟨second, hsecond, rfl, hsame⟩, hne⟩
    exact ⟨first, hfirst, second, hsecond, hne, hsame.symm⟩
  · rintro ⟨first, hfirst, second, hsecond, hne, hsame⟩
    exact ⟨_, _, _, ⟨first, hfirst, rfl, rfl⟩, ⟨second, hsecond, rfl, hsame.symm⟩, hne⟩

/-- What can be wrong with the columns of a table and with the names of their fields. -/
def FaultyColumns (fieldName : String → String) (table : Table) : Prop :=
  table.columns = [] ∨ ¬(namesOf table.columns).Nodup ∨ ∃ column ∈ table.columns,
    ¬PlainIdentifier (fieldName column.name) ∧ ¬QuotedIdentifier (fieldName column.name)

/-- Two columns of a table have one field. -/
def SharesField (fieldName : String → String) (table : Table) : Prop :=
  ∃ first ∈ table.columns, ∃ second ∈ table.columns, first.name ≠ second.name ∧
    fieldName first.name = fieldName second.name

theorem decides_checkColumnsOf (h : ∀ column, config.fieldName column = .text (fieldName column))
    (table : Table) :
    Decides (checkColumnsOf config table) (FaultyColumns fieldName table)
      (SharesField fieldName table) := by
  rw [checkColumnsOf]
  -- A table without columns is reported for nothing else.
  by_cases hempty : table.columns = []
  · refine ⟨[.noColumns table.name], by rw [hempty]; rfl, ?_, ?_⟩
    · rw [raises_singleton]
      exact iff_of_true rfl (.inl hempty)
    · rw [raises_singleton, SharesField, hempty]
      simp [Issue.level]
  · obtain ⟨single, hsingle, herror, hwarning⟩ :=
      decides_fieldNameIssues h table.name [] table.columns
    have hnames : fieldNames config table.columns =
        .ok (table.columns.map fun column => (column.name, fieldName column.name)) :=
      mapM_eq_ok fun column _ => by rw [h]; rfl
    have hclashes : Clashes Column.name [] table.columns ↔ ¬(namesOf table.columns).Nodup := by
      simp [Clashes, namesOf]
    rw [if_neg (by rwa [List.isEmpty_iff])]
    refine ⟨_, by rw [hsingle, ok_bind, hnames]; rfl, ?_, ?_⟩
    · rw [raises_append, herror, raises_map .warning (fun _ => rfl), hclashes, FaultyColumns]
      simp [hempty]
    · rw [raises_append, hwarning, raises_map .warning (fun _ => rfl), collisions_fieldPairs_iff,
        SharesField]
      simp only [true_and, false_or]

theorem raises_checkPrimaryKeys {level : Level} {tables : List Table} :
    Raises level (checkPrimaryKeys tables) ↔
      .warning = level ∧ ∃ table ∈ tables, table.columns ≠ [] ∧ table.primaryKey = [] := by
  rw [checkPrimaryKeys, raises_map .warning (fun _ => rfl), ne_eq, List.filter_eq_nil_iff]
  simp [and_comm]

/-- Nothing that is found about types is more than information. -/
theorem decides_checkTypesOf {table : Table}
    (hclass : config.className table.name = .text (className table.name))
    (hfield : ∀ column, config.fieldName column = .text (fieldName column))
    (htypes : ∀ column ∈ table.columns, ∃ type, config.fieldType (.text (className table.name))
      (.text (fieldName column.name)) = .ok type) :
    Decides (checkTypesOf config table) False False := by
  have hdemand : Demand.each ColumnView.demandType (TableView.of config table none).columns =
      .ok () := by
    refine Demand.each_eq_ok_iff.mpr fun c hc => ?_
    obtain ⟨column, hcolumn, rfl⟩ := List.mem_map.mp (mem_of_mem_pick hc)
    obtain ⟨type, htype⟩ := htypes column hcolumn
    simp only [ColumnView.demandType, ColumnView.of, ScalaType.resolve, classOf, hclass, hfield,
      htype]
    rfl
  refine ⟨_, by rw [checkTypesOf]; simp only [hdemand, ok_bind]; rfl, ?_, ?_⟩ <;>
  · rw [raises_append, raises_map .info (fun _ => rfl), raises_ite]
    simp [Issue.level]

end Columns

section Configurations

variable {config : Settings} {level : Level}

theorem raises_checkPackage {package : String} :
    Raises level (checkPackage package) ↔
      (package = "" ∧ .warning = level) ∨ (package ≠ "" ∧
        (∃ segment ∈ split '.' package, ¬PlainIdentifier segment) ∧ .error = level) := by
  have hfound : (∃ segment ∈ split '.' package, ¬PlainIdentifier segment) ↔
      ((split '.' package).find? fun segment => !isPlainIdentifier segment).isSome = true := by
    simp [List.find?_isSome, ← isPlainIdentifier_iff]
  rw [checkPackage, hfound]
  by_cases hempty : package = ""
  · rw [if_pos (by rw [hempty]; rfl), raises_singleton]
    simp [hempty, Issue.level]
  · rw [if_neg (by rwa [String.isEmpty_iff])]
    cases (split '.' package).find? fun segment => !isPlainIdentifier segment with
    | none => simp [hempty, not_raises_nil]
    | some segment => simp [hempty, raises_singleton, Issue.level]

theorem raises_error_checkConfig :
    Raises .error (checkConfig config) ↔
      (config.package ≠ "" ∧ ∃ segment ∈ split '.' config.package, ¬PlainIdentifier segment) ∨
        Encoding.ofName? config.encoding = none ∨ config.sourceDir = "" ∨ config.testDir = "" := by
  simp [checkConfig, raises_append, raises_checkPackage, raises_ite, Issue.level]

theorem raises_warning_checkConfig :
    Raises .warning (checkConfig config) ↔
      config.package = "" ∨ (config.testTemplate ≠ "" ∧ Source.framework? config = none) := by
  simp [checkConfig, raises_append, raises_checkPackage, raises_ite, Issue.level]

theorem raises_checkSkippedNames {tables : List Table} :
    Raises level (checkSkippedNames tables config) ↔
      .warning = level ∧ ∃ name ∈ config.skipNames, ∀ table ∈ tables, lower table.name ≠ name := by
  rw [checkSkippedNames, raises_map .warning (fun _ => rfl), ne_eq,
    List.filter_eq_nil_iff]
  simp

end Configurations

section Checkups

variable {config : Settings} {className fieldName : String → String} {tables : List Table}

theorem faulty_iff : Faulty className fieldName config tables ↔
    FaultyNames className tables ∨ (∃ table ∈ tables, FaultyColumns fieldName table) ∨
    (config.package ≠ "" ∧ ∃ segment ∈ split '.' config.package, ¬PlainIdentifier segment) ∨
    Encoding.ofName? config.encoding = none ∨ config.sourceDir = "" ∨ config.testDir = "" := by
  constructor
  · intro h
    cases h with
    | sameTable hsame => exact .inl (.inl hsame)
    | className htable hname =>
      refine .inl (.inr (.inl ⟨_, htable, ?_⟩))
      rcases hname with hempty | hname
      · rw [hempty, ← isPlainIdentifier_iff]
        decide
      · exact hname
    | sameClass hfirst hsecond hne hsame haccepted =>
      exact .inl (.inr (.inr ⟨_, hfirst, _, hsecond, hne, hsame, haccepted⟩))
    | noColumns htable hcolumns => exact .inr (.inl ⟨_, htable, .inl hcolumns⟩)
    | sameColumn htable hsame => exact .inr (.inl ⟨_, htable, .inr (.inl hsame)⟩)
    | fieldName htable hcolumn hplain hquoted =>
      exact .inr (.inl ⟨_, htable, .inr (.inr ⟨_, hcolumn, hplain, hquoted⟩)⟩)
    | package hfilled hsegment hname =>
      exact .inr (.inr (.inl ⟨hfilled, _, hsegment, hname⟩))
    | encoding hunknown => exact .inr (.inr (.inr (.inl hunknown)))
    | sourceDir hempty => exact .inr (.inr (.inr (.inr (.inl hempty))))
    | testDir hempty => exact .inr (.inr (.inr (.inr (.inr hempty))))
  · rintro ((hsame | ⟨table, htable, hname⟩ |
        ⟨first, hfirst, second, hsecond, hne, hsame, haccepted⟩) |
      ⟨table, htable, hcolumns | hsame | ⟨column, hcolumn, hplain, hquoted⟩⟩ |
      ⟨hfilled, segment, hsegment, hname⟩ | hunknown | hempty | hempty)
    · exact .sameTable hsame
    · exact .className htable (.inr hname)
    · exact .sameClass hfirst hsecond hne hsame haccepted
    · exact .noColumns htable hcolumns
    · exact .sameColumn htable hsame
    · exact .fieldName htable hcolumn hplain hquoted
    · exact .package hfilled hsegment hname
    · exact .encoding hunknown
    · exact .sourceDir hempty
    · exact .testDir hempty

theorem doubtful_iff : Doubtful fieldName config tables ↔
    (∃ table ∈ tables, SharesField fieldName table) ∨
    (∃ table ∈ tables, table.columns ≠ [] ∧ table.primaryKey = []) ∨
    (config.package = "" ∨ (config.testTemplate ≠ "" ∧ Source.framework? config = none)) ∨
    ∃ name ∈ config.skipNames, ∀ table ∈ tables, lower table.name ≠ name := by
  constructor
  · intro h
    cases h with
    | sameField htable hfirst hsecond hne hsame =>
      exact .inl ⟨_, htable, _, hfirst, _, hsecond, hne, hsame⟩
    | noPrimaryKey htable hcolumns hkey => exact .inr (.inl ⟨_, htable, hcolumns, hkey⟩)
    | package hempty => exact .inr (.inr (.inl (.inl hempty)))
    | testTemplate hfilled hunknown => exact .inr (.inr (.inl (.inr ⟨hfilled, hunknown⟩)))
    | skipped hname hunknown => exact .inr (.inr (.inr ⟨_, hname, hunknown⟩))
  · rintro (⟨table, htable, first, hfirst, second, hsecond, hne, hsame⟩ |
      ⟨table, htable, hcolumns, hkey⟩ | (hempty | ⟨hfilled, hunknown⟩) | ⟨name, hname, hunknown⟩)
    · exact .sameField htable hfirst hsecond hne hsame
    · exact .noPrimaryKey htable hcolumns hkey
    · exact .package hempty
    · exact .testTemplate hfilled hunknown
    · exact .skipped hname hunknown

/-- The checks of the tables are possible, and report what is wrong with their names and columns. -/
theorem decides_checkTables (h : Answers config className fieldName tables) :
    Decides (checkTables tables config)
      (FaultyNames className tables ∨ ∃ table ∈ tables, FaultyColumns fieldName table)
      ((∃ table ∈ tables, SharesField fieldName table) ∨
        ∃ table ∈ tables, table.columns ≠ [] ∧ table.primaryKey = []) := by
  obtain ⟨tableNames, htableNames, htableErrors, htableWarnings⟩ :=
    decides_checkTableNames h.classes tables
  obtain ⟨columnNames, hcolumnNames, hcolumnErrors, hcolumnWarnings⟩ :
      Decides (checkColumnNames tables config) _ _ :=
    decides_each fun table _ => decides_checkColumnsOf h.fields table
  obtain ⟨columnTypes, hcolumnTypes, htypeErrors, htypeWarnings⟩ :
      Decides (checkColumnTypes tables config) _ _ :=
    decides_each fun table htable =>
      decides_checkTypesOf (h.classes _) h.fields (h.types table htable)
  refine ⟨_, by rw [checkTables, htableNames, hcolumnNames, hcolumnTypes]; rfl, ?_, ?_⟩
  · simp only [raises_append, htableErrors, hcolumnErrors, htypeErrors, raises_checkPrimaryKeys]
    simp
  · simp only [raises_append, htableWarnings, hcolumnWarnings, htypeWarnings,
      raises_checkPrimaryKeys]
    simp

/-- Where the encoding can be looked up, all checks are possible, and report an error for a faulty
input and a warning for a doubtful one. -/
theorem check_decided (h : Answers config className fieldName tables)
    (hnul : hasNul config.encoding = false) :
    ∃ checkup, check tables config = .ok checkup ∧
      (checkup.report.hasErrors = true ↔ Faulty className fieldName config tables) ∧
      (checkup.report.hasWarnings = true ↔ Doubtful fieldName config tables) := by
  obtain ⟨issues, hissues, herrors, hwarnings⟩ := decides_checkTables h
  refine ⟨_, check_eq_ok_iff.mpr ⟨issues, hissues, hnul, rfl⟩, ?_, ?_⟩
  · simp only [Checkup.report, Checkup.issues, hasErrors_iff, raises_append, herrors,
      raises_error_checkConfig, raises_checkSkippedNames, faulty_iff]
    simp [or_assoc]
  · simp only [Checkup.report, Checkup.issues, hasWarnings_iff, raises_append, hwarnings,
      raises_warning_checkConfig, raises_checkSkippedNames, doubtful_iff]
    simp [or_assoc]

/-- Where the encoding cannot be looked up, there is no report on any tables. -/
theorem check_of_nul (h : Answers config className fieldName tables)
    (hnul : hasNul config.encoding = true) : check tables config = .error .nulInName := by
  obtain ⟨issues, hissues, -⟩ := decides_checkTables h
  rw [check, hissues, checkSettings_of_nul hnul]
  rfl

/-- Where all checks were possible, the types of the fields are found. -/
theorem answers_of_check (hclasses : ∀ table, config.className table = .text (className table))
    (hfields : ∀ column, config.fieldName column = .text (fieldName column)) {checkup : Checkup}
    (h : check tables config = .ok checkup) : Answers config className fieldName tables := by
  refine ⟨hclasses, hfields, fun table htable column hcolumn => ?_⟩
  obtain ⟨_, hissues, -, -⟩ := check_eq_ok_iff.mp h
  obtain ⟨_, -, hissues⟩ := bind_eq_ok_iff.mp hissues
  obtain ⟨_, -, hissues⟩ := bind_eq_ok_iff.mp hissues
  obtain ⟨_, htypes, -⟩ := bind_eq_ok_iff.mp hissues
  obtain ⟨_, hlists, -⟩ := bind_eq_ok_iff.mp htypes
  obtain ⟨_, hown⟩ := exists_of_mapM_eq_ok hlists table htable
  obtain ⟨_, hdemand, -⟩ := bind_eq_ok_iff.mp hown
  -- The types were asked of the views, so there has to be one of the column.
  have hname : column.name ∈ (TableView.of config table none).columns.map ColumnView.name := by
    rw [map_name_columns]
    exact List.mem_map_of_mem hcolumn
  obtain ⟨c, hc, hsame⟩ := List.mem_map.mp hname
  have hown := Demand.each_eq_ok_iff.mp hdemand c hc
  obtain ⟨viewed, -, rfl⟩ := List.mem_map.mp (mem_of_mem_pick hc)
  have hview : viewed.name = column.name := hsame
  cases htype : config.fieldType (.text (className table.name)) (.text (fieldName column.name)) with
  | ok type => exact ⟨type, rfl⟩
  | error failure =>
    simp only [ColumnView.demandType, ColumnView.of, ScalaType.resolve, classOf, hclasses, hfields,
      hview, htype] at hown
    cases hown

end Checkups

section Order

/-- One table with its columns, and with its key, in two orders. -/
structure Reordered (t u : Table) : Prop where
  name_eq : u.name = t.name
  columns : t.columns.Perm u.columns
  primaryKey : t.primaryKey.Perm u.primaryKey

theorem Reordered.symm {t u : Table} (h : Reordered t u) : Reordered u t :=
  ⟨h.name_eq.symm, h.columns.symm, h.primaryKey.symm⟩

/-- The same tables in another order, each with its columns in any order. -/
def Rearranged (tables other : List Table) : Prop :=
  ∃ middle, tables.Perm middle ∧ List.Forall₂ Reordered middle other

/-- What the conditions see of some tables is there in others. -/
structure Covers (tables other : List Table) : Prop where
  names : (tables.map Table.name).Perm (other.map Table.name)
  reordered : ∀ t ∈ tables, ∃ u ∈ other, Reordered t u

theorem exists_of_forall₂ {α β : Type} {R : α → β → Prop} {as : List α} {bs : List β}
    (h : List.Forall₂ R as bs) : ∀ a ∈ as, ∃ b ∈ bs, R a b := by
  induction h with
  | nil => exact fun _ ha => absurd ha List.not_mem_nil
  | cons hab _ ih =>
    intro a ha
    rcases List.mem_cons.mp ha with rfl | ha
    · exact ⟨_, List.mem_cons_self .., hab⟩
    · obtain ⟨b, hb, hr⟩ := ih a ha
      exact ⟨b, List.mem_cons_of_mem _ hb, hr⟩

namespace Rearranged

variable {tables other : List Table}

theorem names (h : Rearranged tables other) :
    (tables.map Table.name).Perm (other.map Table.name) := by
  obtain ⟨middle, hperm, hforall⟩ := h
  have hnames : middle.map Table.name = other.map Table.name := by
    rw [← List.forall₂_eq_eq_eq, List.forall₂_map_left_iff, List.forall₂_map_right_iff]
    exact hforall.imp fun _ _ hr => hr.name_eq.symm
  exact (hperm.map _).trans (.of_eq hnames)

theorem covers (h : Rearranged tables other) : Covers tables other := by
  refine ⟨h.names, fun t ht => ?_⟩
  obtain ⟨middle, hperm, hforall⟩ := h
  exact exists_of_forall₂ hforall t (hperm.mem_iff.mp ht)

theorem covered (h : Rearranged tables other) : Covers other tables := by
  refine ⟨h.names.symm, fun u hu => ?_⟩
  obtain ⟨middle, hperm, hforall⟩ := h
  have hback : List.Forall₂ Reordered other middle :=
    .flip (hforall.imp fun _ _ hr => hr.symm)
  obtain ⟨t, ht, hr⟩ := exists_of_forall₂ hback u hu
  exact ⟨t, hperm.mem_iff.mpr ht, hr⟩

end Rearranged

variable {config : Settings} {className fieldName : String → String} {tables other : List Table}

theorem Answers.of_covers (h : Answers config className fieldName tables)
    (hcovers : Covers other tables) : Answers config className fieldName other := by
  refine ⟨h.classes, h.fields, fun table htable column hcolumn => ?_⟩
  obtain ⟨t, ht, hr⟩ := hcovers.reordered table htable
  rw [← hr.name_eq]
  exact h.types t ht column (hr.columns.mem_iff.mp hcolumn)

theorem Faulty.of_covers (h : Faulty className fieldName config tables)
    (hcovers : Covers tables other) : Faulty className fieldName config other := by
  cases h with
  | sameTable hsame => exact .sameTable (by rwa [← hcovers.names.nodup_iff])
  | className htable hname =>
    obtain ⟨u, hu, hr⟩ := hcovers.reordered _ htable
    exact .className hu (by rwa [hr.name_eq])
  | sameClass hfirst hsecond hne hsame haccepted =>
    obtain ⟨u, hu, hr⟩ := hcovers.reordered _ hfirst
    obtain ⟨v, hv, hs⟩ := hcovers.reordered _ hsecond
    rw [← hr.name_eq] at hne hsame haccepted
    rw [← hs.name_eq] at hne hsame
    exact .sameClass hu hv hne hsame haccepted
  | noColumns htable hcolumns =>
    obtain ⟨u, hu, hr⟩ := hcovers.reordered _ htable
    exact .noColumns hu (List.perm_nil.mp (hcolumns ▸ hr.columns.symm))
  | sameColumn htable hsame =>
    obtain ⟨u, hu, hr⟩ := hcovers.reordered _ htable
    exact .sameColumn hu (by rwa [namesOf, ← (hr.columns.map Column.name).nodup_iff])
  | fieldName htable hcolumn hplain hquoted =>
    obtain ⟨u, hu, hr⟩ := hcovers.reordered _ htable
    exact .fieldName hu (hr.columns.mem_iff.mp hcolumn) hplain hquoted
  | package hfilled hsegment hname => exact .package hfilled hsegment hname
  | encoding hunknown => exact .encoding hunknown
  | sourceDir hempty => exact .sourceDir hempty
  | testDir hempty => exact .testDir hempty

theorem Doubtful.of_covers (h : Doubtful fieldName config tables)
    (hcovers : Covers tables other) : Doubtful fieldName config other := by
  cases h with
  | sameField htable hfirst hsecond hne hsame =>
    obtain ⟨u, hu, hr⟩ := hcovers.reordered _ htable
    exact .sameField hu (hr.columns.mem_iff.mp hfirst) (hr.columns.mem_iff.mp hsecond) hne hsame
  | noPrimaryKey htable hcolumns hkey =>
    obtain ⟨u, hu, hr⟩ := hcovers.reordered _ htable
    refine .noPrimaryKey hu (fun hnone => hcolumns ?_)
      (List.perm_nil.mp (hkey ▸ hr.primaryKey.symm))
    exact List.perm_nil.mp (hnone ▸ hr.columns)
  | package hempty => exact .package hempty
  | testTemplate hfilled hunknown => exact .testTemplate hfilled hunknown
  | skipped hname hunknown =>
    refine .skipped hname fun u hu => ?_
    have hmem := hcovers.names.mem_iff.mpr (List.mem_map_of_mem hu)
    obtain ⟨t, ht, hsame⟩ := List.mem_map.mp hmem
    rw [← hsame]
    exact hunknown t ht

/-- Where the encoding can be looked up, the checks report an error exactly for a faulty input and a
warning exactly for a doubtful one, and the answers are the same for the tables and their columns in
any other order. A name of an encoding that has a NUL in it ends the checks without any report. -/
theorem check_reports_exactly (h : Answers config className fieldName tables) :
    (hasNul config.encoding = false → ∃ checkup, check tables config = .ok checkup ∧
      (checkup.report.hasErrors = true ↔ Faulty className fieldName config tables) ∧
      (checkup.report.hasWarnings = true ↔ Doubtful fieldName config tables) ∧
      ∀ other, Rearranged tables other → ∃ again, check other config = .ok again ∧
        again.report.hasErrors = checkup.report.hasErrors ∧
        again.report.hasWarnings = checkup.report.hasWarnings) ∧
    (hasNul config.encoding = true → check tables config = .error .nulInName) := by
  refine ⟨fun hnul => ?_, check_of_nul h⟩
  obtain ⟨checkup, hcheck, herrors, hwarnings⟩ := check_decided h hnul
  refine ⟨checkup, hcheck, herrors, hwarnings, fun other hother => ?_⟩
  obtain ⟨again, hagain, herrorsAgain, hwarningsAgain⟩ :=
    check_decided (h.of_covers hother.covered) hnul
  refine ⟨again, hagain, Bool.eq_iff_iff.mpr ?_, Bool.eq_iff_iff.mpr ?_⟩
  · rw [herrorsAgain, herrors]
    exact ⟨fun hfaulty => hfaulty.of_covers hother.covered,
      fun hfaulty => hfaulty.of_covers hother.covers⟩
  · rw [hwarningsAgain, hwarnings]
    exact ⟨fun hdoubtful => hdoubtful.of_covers hother.covered,
      fun hdoubtful => hdoubtful.of_covers hother.covers⟩

end Order

namespace Sample

/-- Two columns with one field, and no primary key. -/
def colliding : Table where
  name := "emp"
  columns := [⟨"dept_no", -5, "BIGINT", 0, true, false, false⟩,
    ⟨"dept__no", -5, "BIGINT", 0, true, false, false⟩]
  autoIncrement := []
  primaryKey := []
  generated := []
  schema := none
  autoIncrement_declared := by decide
  primaryKey_declared := by decide
  generated_declared := by decide

theorem answers_colliding (encoding : String) :
    Answers { Settings.default with encoding := encoding } Naming.className Naming.fieldName
      [colliding] :=
  ⟨fun _ => rfl, fun _ => rfl, fun _ _ _ _ => ⟨_, rfl⟩⟩

end Sample

/-- The table is warned of, with its columns in either order. -/
theorem check_reports_exactly_of_colliding :
    Answers Settings.default Naming.className Naming.fieldName [Sample.colliding] ∧
    ∃ checkup, check [Sample.colliding] Settings.default = .ok checkup ∧
      checkup.report.hasWarnings = true ∧
      ∀ other, Rearranged [Sample.colliding] other → ∃ again,
        check other Settings.default = .ok again ∧ again.report.hasWarnings = true := by
  have hanswers := Sample.answers_colliding "UTF-8"
  have hdoubtful : Doubtful Naming.fieldName Settings.default [Sample.colliding] :=
    .sameField (List.mem_singleton_self _) (List.mem_cons_self ..)
      (List.mem_cons_of_mem _ (List.mem_singleton_self _)) (by decide) (by decide +kernel)
  obtain ⟨checkup, hcheck, -, hwarnings, hothers⟩ := (check_reports_exactly hanswers).1 rfl
  refine ⟨hanswers, checkup, hcheck, hwarnings.mpr hdoubtful, fun other hother => ?_⟩
  obtain ⟨again, hagain, -, hsame⟩ := hothers other hother
  exact ⟨again, hagain, hsame.trans (hwarnings.mpr hdoubtful)⟩

/-- No encoding has a name with a NUL, and the checks do not come to reporting it. -/
theorem check_misses_nul :
    let config := { Settings.default with encoding := "utf-8\x00" }
    Answers config Naming.className Naming.fieldName [Sample.colliding] ∧
      Faulty Naming.className Naming.fieldName config [Sample.colliding] ∧
      check [Sample.colliding] config = .error .nulInName :=
  ⟨Sample.answers_colliding _, .encoding (by decide +kernel),
    check_of_nul (Sample.answers_colliding _) (by decide)⟩

end RecordMapper.Validation
