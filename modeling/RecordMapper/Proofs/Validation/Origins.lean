import RecordMapper.Proofs.Validation.Names

/-!
# Origins of issues

An issue of any kind is found by one of the checks only, so what a checkup has of this kind is what
that check found.
-/
namespace RecordMapper.Validation

open RecordMapper.Config RecordMapper.Schema RecordMapper.View

/-- The checks. -/
inductive Origin where
  | tableNames
  | columnNames
  | primaryKeys
  | columnTypes
  | config
  | skippedNames

/-- The check that finds an issue. -/
def Issue.origin : Issue → Origin
  | duplicateTable _ | invalidClassName .. | classNameCollision .. => .tableNames
  | noColumns _ | duplicateColumn .. | invalidFieldName .. | fieldNameCollision .. => .columnNames
  | noPrimaryKey .. => .primaryKeys
  | untypedColumn .. | wideTable .. => .columnTypes
  | invalidPackage .. | emptyPackage | unknownEncoding _ | emptySourceDir | emptyTestDir
  | unknownFramework _ => .config
  | unknownSkippedTable _ => .skippedNames

/-- One check finds all the issues. -/
def ComeFrom (origin : Origin) (issues : List Issue) : Prop :=
  ∀ issue ∈ issues, issue.origin = origin

section Lists

variable {origin : Origin} {issues others : List Issue}

theorem comeFrom_nil : ComeFrom origin [] := fun _ h => absurd h List.not_mem_nil

theorem comeFrom_append :
    ComeFrom origin (issues ++ others) ↔ ComeFrom origin issues ∧ ComeFrom origin others :=
  List.forall_mem_append

theorem comeFrom_map {α : Type} {issue : α → Issue} (items : List α)
    (h : ∀ a, (issue a).origin = origin) : ComeFrom origin (items.map issue) :=
  List.forall_mem_map.mpr fun a _ => h a

theorem comeFrom_ite {c : Prop} [Decidable c] {issue : Issue} (h : issue.origin = origin) :
    ComeFrom origin (if c then [issue] else []) := by
  split
  · exact fun other hother => List.mem_singleton.mp hother ▸ h
  · exact comeFrom_nil

theorem comeFrom_each {tables : List Table} {f : Table → Except Failure (List Issue)}
    (h : (do return (← tables.mapM f).flatten) = Except.ok issues)
    (hf : ∀ table own, f table = .ok own → ComeFrom origin own) : ComeFrom origin issues := by
  intro issue hissue
  obtain ⟨table, -, own, hfound, hissue⟩ := (mem_each_iff h).mp hissue
  exact hf table own hfound issue hissue

theorem ComeFrom.not_mem (h : ComeFrom origin issues) {issue : Issue}
    (hother : issue.origin ≠ origin) : issue ∉ issues :=
  fun hissue => hother (h issue hissue)

end Lists

section Checks

variable {config : Settings} {tables : List Table} {issues : List Issue}

theorem comeFrom_classNameIssues {seen : List String}
    (h : classNameIssues config seen tables = .ok issues) : ComeFrom .tableNames issues := by
  induction tables generalizing seen issues with
  | nil =>
    cases h
    exact comeFrom_nil
  | cons table rest ih =>
    obtain ⟨accepted, -, h⟩ := bind_eq_ok_iff.mp h
    obtain ⟨later, hlater, h⟩ := bind_eq_ok_iff.mp h
    cases h
    rw [comeFrom_append, comeFrom_append]
    exact ⟨⟨comeFrom_ite rfl, comeFrom_ite rfl⟩, ih hlater⟩

theorem comeFrom_checkTableNames (h : checkTableNames tables config = .ok issues) :
    ComeFrom .tableNames issues := by
  obtain ⟨single, hsingle, h⟩ := bind_eq_ok_iff.mp h
  obtain ⟨pairs, -, h⟩ := bind_eq_ok_iff.mp h
  cases h
  rw [comeFrom_append]
  exact ⟨comeFrom_classNameIssues hsingle, comeFrom_map _ fun _ => rfl⟩

theorem comeFrom_fieldNameIssues {table : String} {seen : List String} {columns : List Column}
    (h : fieldNameIssues config table seen columns = .ok issues) :
    ComeFrom .columnNames issues := by
  induction columns generalizing seen issues with
  | nil =>
    cases h
    exact comeFrom_nil
  | cons column rest ih =>
    obtain ⟨fieldName, -, h⟩ := bind_eq_ok_iff.mp h
    obtain ⟨later, hlater, h⟩ := bind_eq_ok_iff.mp h
    cases h
    rw [comeFrom_append, comeFrom_append]
    refine ⟨⟨comeFrom_ite rfl, ?_⟩, ih hlater⟩
    rw [← ite_not]
    exact comeFrom_ite rfl

theorem comeFrom_checkColumnsOf {table : Table} (h : checkColumnsOf config table = .ok issues) :
    ComeFrom .columnNames issues := by
  unfold checkColumnsOf at h
  split at h
  · cases h
    exact fun other hother => List.mem_singleton.mp hother ▸ rfl
  · obtain ⟨single, hsingle, h⟩ := bind_eq_ok_iff.mp h
    obtain ⟨names, -, h⟩ := bind_eq_ok_iff.mp h
    cases h
    rw [comeFrom_append]
    exact ⟨comeFrom_fieldNameIssues hsingle, comeFrom_map _ fun _ => rfl⟩

theorem comeFrom_checkTypesOf {table : Table} (h : checkTypesOf config table = .ok issues) :
    ComeFrom .columnTypes issues := by
  obtain ⟨-, -, h⟩ := bind_eq_ok_iff.mp h
  cases h
  rw [comeFrom_append]
  exact ⟨comeFrom_map _ fun _ => rfl, comeFrom_ite rfl⟩

theorem comeFrom_checkConfig (config : Settings) : ComeFrom .config (checkConfig config) := by
  have hpackage : ComeFrom .config (checkPackage config.package) := by
    unfold checkPackage
    split
    · exact fun other hother => List.mem_singleton.mp hother ▸ rfl
    · split
      · exact fun other hother => List.mem_singleton.mp hother ▸ rfl
      · exact comeFrom_nil
  unfold checkConfig
  simp only [comeFrom_append]
  exact ⟨⟨⟨⟨hpackage, comeFrom_ite rfl⟩, comeFrom_ite rfl⟩, comeFrom_ite rfl⟩, comeFrom_ite rfl⟩

/-- What a checkup has of the names of tables, and of columns, is what the check for them found. -/
theorem exists_names_of_check {checkup : Checkup} (h : check tables config = .ok checkup) :
    ∃ tableNames columnNames, checkTableNames tables config = .ok tableNames ∧
      checkColumnNames tables config = .ok columnNames ∧
      (∀ issue, issue.origin = .tableNames → (issue ∈ checkup.issues ↔ issue ∈ tableNames)) ∧
      ∀ issue, issue.origin = .columnNames → (issue ∈ checkup.issues ↔ issue ∈ columnNames) := by
  obtain ⟨ofTables, hofTables, -, rfl⟩ := check_eq_ok_iff.mp h
  obtain ⟨tableNames, htableNames, hofTables⟩ := bind_eq_ok_iff.mp hofTables
  obtain ⟨columnNames, hcolumnNames, hofTables⟩ := bind_eq_ok_iff.mp hofTables
  obtain ⟨columnTypes, hcolumnTypes, hofTables⟩ := bind_eq_ok_iff.mp hofTables
  cases hofTables
  have hnames := comeFrom_checkTableNames htableNames
  have hcolumns : ComeFrom .columnNames columnNames :=
    comeFrom_each hcolumnNames fun _ _ => comeFrom_checkColumnsOf
  have htypes : ComeFrom .columnTypes columnTypes :=
    comeFrom_each hcolumnTypes fun _ _ => comeFrom_checkTypesOf
  have hkeys : ComeFrom .primaryKeys (checkPrimaryKeys tables) := comeFrom_map _ fun _ => rfl
  have hconfig := comeFrom_checkConfig config
  have hskipped : ComeFrom .skippedNames (checkSkippedNames tables config) :=
    comeFrom_map _ fun _ => rfl
  refine ⟨tableNames, columnNames, htableNames, hcolumnNames, fun issue horigin => ?_,
    fun issue horigin => ?_⟩
  · simp [Checkup.issues, hcolumns.not_mem, hkeys.not_mem, htypes.not_mem, hconfig.not_mem,
      hskipped.not_mem, horigin]
  · simp [Checkup.issues, hnames.not_mem, hkeys.not_mem, htypes.not_mem, hconfig.not_mem,
      hskipped.not_mem, horigin]

end Checks

end RecordMapper.Validation
