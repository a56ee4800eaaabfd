import RecordMapper.Proofs.Naming.Merging
import RecordMapper.Proofs.Validation.Conditions
import RecordMapper.Proofs.Validation.Origins

/-!
# Reported fields

What a report says about fields that columns share. Under the default policy and for canonical
column names these are the fields with a suffix that a second column has by its own name, so a
collision is always one of two columns, and it is known which.
-/
namespace RecordMapper.Validation

open RecordMapper.Config RecordMapper.Naming RecordMapper.Schema RecordMapper.Text

/-- The report warns that the columns of a table have one field. -/
def ReportsFieldCollision (r : Report) (table field : String) (columns : List String) : Prop :=
  ∃ f ∈ r.warnings, f.code = "FIELD_NAME_COLLISION" ∧
    f.context = [("table", .text table), ("field", .text field), ("columns", Value.texts columns)]

/-- Two columns of a table that the default policy merges. -/
structure MergedIn (t : Table) (plain suffixed : String) : Prop where
  plain_mem : plain ∈ namesOf t.columns
  suffixed_mem : suffixed ∈ namesOf t.columns
  mergesInto : MergesInto plain suffixed

/-- The report warns of the merged columns of the tables, and of no other columns with one field. -/
def ReportsMerged (tables : List Table) (r : Report) : Prop :=
  ∀ table field columns, ReportsFieldCollision r table field columns ↔
    ∃ t ∈ tables, t.name = table ∧ ∃ plain suffixed, MergedIn t plain suffixed ∧
      field = Naming.fieldName plain ∧ columns = [plain, suffixed]

section Pairs

variable {names : List String} {plain suffixed : String}

theorem pairwise_distinctSorted (names : List String) :
    (distinctSorted names).Pairwise (· ≤ ·) := by
  refine (List.pairwise_mergeSort (fun a b c hab hbc => ?_) (fun a b => ?_) _).imp
    fun h => of_decide_eq_true h
  · exact decide_eq_true (String.le_trans (of_decide_eq_true hab) (of_decide_eq_true hbc))
  · simpa using String.le_total a b

theorem le_append_right (text more : String) : text ≤ text ++ more := by
  rw [← String.not_lt, String.lt_iff, String.toList_append]
  exact List.le_append_left

/-- Canonical names with their fields. -/
def fieldPairs (names : List String) : List (String × String) :=
  names.map fun name => (name, Naming.fieldName name)

theorem mem_fieldPairs {name field : String} :
    (name, field) ∈ fieldPairs names ↔ name ∈ names ∧ Naming.fieldName name = field := by
  simp only [fieldPairs, List.mem_map, Prod.mk.injEq]
  constructor
  · rintro ⟨_, hname, rfl, rfl⟩
    exact ⟨hname, rfl⟩
  · rintro ⟨hname, rfl⟩
    exact ⟨name, hname, rfl, rfl⟩

/-- The columns of a merged field are listed with the plain one first. -/
theorem mappedTo_of_mergesInto (hcanonical : ∀ name ∈ names, Canonical name)
    (hplain : plain ∈ names) (hsuffixed : suffixed ∈ names) (h : MergesInto plain suffixed) :
    mappedTo (Naming.fieldName plain) (fieldPairs names) = [plain, suffixed] := by
  have hnodup : [plain, suffixed].Nodup := by simpa using h.ne
  have hsorted : [plain, suffixed].Pairwise (· ≤ ·) := by
    simpa [h.suffixed_eq] using le_append_right plain suffixWord
  have hmem : ∀ name, name ∈ mappedTo (Naming.fieldName plain) (fieldPairs names) ↔
      name ∈ [plain, suffixed] := by
    intro name
    rw [mem_mappedTo, mem_fieldPairs, List.mem_pair]
    constructor
    · rintro ⟨hname, hsame⟩
      exact (h.fieldName_eq_iff_or (hcanonical _ hplain) (hcanonical _ hname)).mp hsame
    · rintro hname
      have hin : name ∈ names := hname.elim (· ▸ hplain) (· ▸ hsuffixed)
      exact ⟨hin, (h.fieldName_eq_iff_or (hcanonical _ hplain) (hcanonical _ hin)).mpr hname⟩
  exact List.Perm.eq_of_pairwise (fun _ _ _ _ => String.le_antisymm) (pairwise_distinctSorted _)
    hsorted ((List.perm_ext_iff_of_nodup (nodup_distinctSorted _) hnodup).mpr hmem)

/-- Names collide exactly when the default policy merges them. -/
theorem mem_collisions_fieldPairs_iff (hcanonical : ∀ name ∈ names, Canonical name)
    {field : String} {columns : List String} : (field, columns) ∈ collisions (fieldPairs names) ↔
      ∃ plain suffixed, (plain ∈ names ∧ suffixed ∈ names ∧ MergesInto plain suffixed) ∧
        field = Naming.fieldName plain ∧ columns = [plain, suffixed] := by
  constructor
  · intro hcollision
    have hmapped : columns = mappedTo field (fieldPairs names) := by
      obtain ⟨_, -, hsame⟩ := List.mem_map.mp (List.mem_filter.mp hcollision).1
      obtain ⟨rfl, rfl⟩ := Prod.mk.inj hsame
      rfl
    obtain ⟨first, second, hfirst, hsecond, hne⟩ := exists_collision_iff.mp ⟨_, hcollision⟩
    rw [mem_fieldPairs] at hfirst hsecond
    obtain ⟨hfirst, rfl⟩ := hfirst
    obtain ⟨hsecond, hsame⟩ := hsecond
    rcases (fieldName_eq_iff (hcanonical _ hfirst) (hcanonical _ hsecond) hne).mp hsame.symm
      with h | h
    · exact ⟨first, second, ⟨hfirst, hsecond, h⟩, rfl,
        hmapped.trans (mappedTo_of_mergesInto hcanonical hfirst hsecond h)⟩
    · refine ⟨second, first, ⟨hsecond, hfirst, h⟩, hsame.symm, ?_⟩
      rw [hmapped, ← hsame, mappedTo_of_mergesInto hcanonical hsecond hfirst h]
  · rintro ⟨plain, suffixed, ⟨hplain, hsuffixed, h⟩, rfl, rfl⟩
    rw [← mappedTo_of_mergesInto hcanonical hplain hsuffixed h]
    have hsame : Naming.fieldName suffixed = Naming.fieldName plain :=
      (h.fieldName_eq_iff_or (hcanonical _ hplain) (hcanonical _ hsuffixed)).mpr (.inr rfl)
    exact mem_collisions_of_ne (mem_fieldPairs.mpr ⟨hplain, rfl⟩)
      (mem_fieldPairs.mpr ⟨hsuffixed, hsame⟩) h.ne

end Pairs

section Issues

variable {config : Settings} {tables : List Table} {issues : List Issue}

theorem Issue.code_eq_fieldNameCollision {issue : Issue} (h : issue.code = "FIELD_NAME_COLLISION") :
    ∃ table field columns, issue = fieldNameCollision table field columns := by
  cases issue <;> first | exact ⟨_, _, _, rfl⟩ | simp [code] at h

theorem reportsFieldCollision_iff {table field : String} {columns : List String} :
    ReportsFieldCollision (Report.ofIssues issues) table field columns ↔
      .fieldNameCollision table field columns ∈ issues := by
  constructor
  · rintro ⟨f, hf, hcode, hcontext⟩
    obtain ⟨issue, hissue, -, rfl⟩ := mem_ofLevel_iff.mp hf
    obtain ⟨_, _, others, rfl⟩ := Issue.code_eq_fieldNameCollision hcode
    simp only [Issue.finding, Issue.context, Value.texts, List.cons.injEq, Prod.mk.injEq,
      Value.text.injEq, Value.list.injEq, true_and, and_true] at hcontext
    obtain ⟨rfl, rfl, hcolumns⟩ := hcontext
    obtain rfl : others = columns :=
      List.map_injective_iff.mpr (fun _ _ => Value.text.inj) hcolumns
    exact hissue
  · intro hissue
    exact ⟨_, mem_ofLevel_iff.mpr ⟨_, hissue, rfl, rfl⟩, rfl, rfl⟩

theorem fieldNames_of_default (h : ∀ column, config.fieldName column =
    .text (Naming.fieldName column)) (columns : List Column) :
    fieldNames config columns = .ok (fieldPairs (namesOf columns)) := by
  have hall : ∀ column ∈ columns, (do
      return (column.name, ← Policy.name (config.fieldName column.name)) : Except Failure _) =
        .ok (column.name, Naming.fieldName column.name) := by
    intro column _
    rw [h]
    rfl
  rw [fieldNames, mapM_eq_ok hall, fieldPairs, namesOf, List.map_map]
  rfl

/-- By themselves columns are no more than wrong, which is an error. -/
theorem fieldNameCollision_not_mem (h : ∀ column, config.fieldName column =
    .text (Naming.fieldName column)) {table : String} {seen : List String} {columns : List Column}
    (hissues : fieldNameIssues config table seen columns = .ok issues) (other field : String)
    (names : List String) : .fieldNameCollision other field names ∉ issues := by
  obtain ⟨found, hfound, -, hwarning⟩ := decides_fieldNameIssues h table seen columns
  obtain rfl := Except.ok.inj (hfound.symm.trans hissues)
  exact fun hmem => hwarning.mp ⟨_, hmem, rfl⟩

/-- The check of a table finds the collisions of the names of its columns. -/
theorem mem_checkColumnsOf_iff (h : ∀ column, config.fieldName column =
    .text (Naming.fieldName column)) {t : Table} (hown : checkColumnsOf config t = .ok issues)
    {table field : String} {columns : List String} :
    .fieldNameCollision table field columns ∈ issues ↔
      t.name = table ∧ (field, columns) ∈ collisions (fieldPairs (namesOf t.columns)) := by
  unfold checkColumnsOf at hown
  split at hown
  next hempty =>
    cases hown
    rw [List.isEmpty_iff] at hempty
    simp [hempty, namesOf, fieldPairs, collisions]
  next =>
    obtain ⟨single, hsingle, hown⟩ := bind_eq_ok_iff.mp hown
    obtain ⟨pairs, hpairs, hown⟩ := bind_eq_ok_iff.mp hown
    cases hown
    obtain rfl := Except.ok.inj ((fieldNames_of_default h t.columns).symm.trans hpairs)
    rw [List.mem_append, or_iff_right (fieldNameCollision_not_mem h hsingle _ _ _)]
    simp only [List.mem_map, Prod.exists, Issue.fieldNameCollision.injEq]
    constructor
    · rintro ⟨_, _, hcollision, rfl, rfl, rfl⟩
      exact ⟨rfl, hcollision⟩
    · rintro ⟨rfl, hcollision⟩
      exact ⟨_, _, hcollision, rfl, rfl, rfl⟩

/-- The check of the names of columns is possible and warns of those that are merged. -/
theorem reportsMerged_checkColumnNames (h : ∀ column, config.fieldName column =
    .text (Naming.fieldName column))
    (hcanonical : ∀ t ∈ tables, ∀ name ∈ namesOf t.columns, Canonical name) :
    ∃ issues, checkColumnNames tables config = .ok issues ∧
      ReportsMerged tables (Report.ofIssues issues) := by
  obtain ⟨issues, hissues, -⟩ : Decides (checkColumnNames tables config) _ _ :=
    decides_each fun table _ => decides_checkColumnsOf h table
  refine ⟨issues, hissues, fun table field columns => ?_⟩
  rw [reportsFieldCollision_iff, mem_each_iff hissues]
  refine exists_congr fun t => and_congr_right fun ht => ?_
  obtain ⟨own, hown, -⟩ := decides_checkColumnsOf h t
  have hmerged : (field, columns) ∈ collisions (fieldPairs (namesOf t.columns)) ↔ _ :=
    mem_collisions_fieldPairs_iff (hcanonical t ht)
  constructor
  · rintro ⟨own, hown, hissue⟩
    obtain ⟨hname, hcollision⟩ := (mem_checkColumnsOf_iff h hown).mp hissue
    obtain ⟨plain, suffixed, ⟨hplain, hsuffixed, hmerges⟩, hfield, hcolumns⟩ :=
      hmerged.mp hcollision
    exact ⟨hname, plain, suffixed, ⟨hplain, hsuffixed, hmerges⟩, hfield, hcolumns⟩
  · rintro ⟨hname, plain, suffixed, hpair, hfield, hcolumns⟩
    exact ⟨own, hown, (mem_checkColumnsOf_iff h hown).mpr ⟨hname, hmerged.mpr ⟨plain, suffixed,
      ⟨hpair.plain_mem, hpair.suffixed_mem, hpair.mergesInto⟩, hfield, hcolumns⟩⟩⟩

theorem reportsMerged_of_check (h : ∀ column, config.fieldName column =
    .text (Naming.fieldName column))
    (hcanonical : ∀ t ∈ tables, ∀ name ∈ namesOf t.columns, Canonical name) {checkup : Checkup}
    (hcheck : check tables config = .ok checkup) : ReportsMerged tables checkup.report := by
  obtain ⟨-, columnNames, -, hcolumnNames, -, hsame⟩ := exists_names_of_check hcheck
  obtain ⟨issues, hissues, hmerged⟩ := reportsMerged_checkColumnNames h hcanonical
  obtain rfl := Except.ok.inj (hissues.symm.trans hcolumnNames)
  intro table field columns
  rw [← hmerged, Checkup.report, reportsFieldCollision_iff, reportsFieldCollision_iff]
  exact hsame _ rfl

end Issues

/-- No field of the default policy is a member of case classes or a reserved word as it stands. Two
canonical names have one field exactly when one of them comes out as a member and the other is this
name followed by the word that becomes the suffix. For tables with canonical column names the checks
warn of such columns, for each table that has them, and of no others. -/
theorem default_fields_merge :
    (∀ column, Naming.fieldName column ∉ caseClassMembers ∧
      Naming.fieldName column ∉ reservedWords) ∧
    (∀ m n, Canonical m → Canonical n → m ≠ n →
      (Naming.fieldName m = Naming.fieldName n ↔ MergesInto m n ∨ MergesInto n m)) ∧
    ∀ (config : Settings) (tables : List Table),
      (∀ column, config.fieldName column = .text (Naming.fieldName column)) →
      (∀ t ∈ tables, ∀ name ∈ namesOf t.columns, Canonical name) →
        (∃ issues, checkColumnNames tables config = .ok issues ∧
          ReportsMerged tables (Report.ofIssues issues)) ∧
        ∀ checkup, check tables config = .ok checkup → ReportsMerged tables checkup.report :=
  ⟨fun column => ⟨fieldName_not_member column, fieldName_not_reserved column⟩,
    fun _ _ => fieldName_eq_iff,
    fun _ _ h hcanonical => ⟨reportsMerged_checkColumnNames h hcanonical,
      fun _ => reportsMerged_of_check h hcanonical⟩⟩

namespace Sample

/-- A column that needs the suffix, and one that has it already. -/
def printed : Table where
  name := "doc"
  columns := [⟨"type", 12, "VARCHAR", 9, true, false, false⟩,
    ⟨"to_string_column", 12, "VARCHAR", 9, true, false, false⟩,
    ⟨"to_string", 12, "VARCHAR", 9, true, false, false⟩]
  autoIncrement := []
  primaryKey := []
  generated := []
  schema := none
  autoIncrement_declared := by decide
  primaryKey_declared := by decide
  generated_declared := by decide

end Sample

/-- The two columns have one field and are warned of. -/
theorem default_fields_merge_of_printed :
    Canonical "to_string" ∧ Canonical "to_string_column" ∧
    Naming.fieldName "to_string" = Naming.fieldName "to_string_column" ∧
    ∃ checkup, check [Sample.printed] Settings.default = .ok checkup ∧
      ReportsFieldCollision checkup.report "doc" "toStringColumn"
        ["to_string", "to_string_column"] := by
  obtain ⟨-, hpairs, hreports⟩ := default_fields_merge
  have hplain : Canonical "to_string" := by decide +kernel
  have hsuffixed : Canonical "to_string_column" := by decide +kernel
  have hmerges : MergesInto "to_string" "to_string_column" := ⟨by decide +kernel, by decide⟩
  have hanswers : Answers Settings.default Naming.className Naming.fieldName [Sample.printed] :=
    ⟨fun _ => rfl, fun _ => rfl, fun _ _ _ _ => ⟨_, rfl⟩⟩
  obtain ⟨checkup, hcheck, -⟩ := check_decided hanswers rfl
  refine ⟨hplain, hsuffixed, (hpairs _ _ hplain hsuffixed (by decide)).mpr (.inl hmerges), checkup,
    hcheck, ?_⟩
  refine ((hreports Settings.default [Sample.printed] (fun _ => rfl) ?_).2 checkup hcheck _ _ _).mpr
    ⟨Sample.printed, List.mem_singleton_self _, rfl, "to_string", "to_string_column",
      ⟨by decide, by decide, hmerges⟩, by decide +kernel, rfl⟩
  rintro t ht
  rw [List.mem_singleton.mp ht]
  decide +kernel

end RecordMapper.Validation
