import RecordMapper.Proofs.Validation.Decision
import RecordMapper.Proofs.Validation.Origins

/-!
# Reported class names

What a report says about class names. The checks take the class names from the policy alone: a table
is reported when its name there is no identifier, and a class when tables of different names have it
there.
-/
namespace RecordMapper.Validation

open RecordMapper.Config RecordMapper.Naming RecordMapper.Schema RecordMapper.Text

/-- A class name that is accepted: a text that is an identifier. -/
def AcceptedName (v : Value) : Prop := ∃ name, v = .text name ∧ PlainIdentifier name

/-- The report has an error about the class name of a table. -/
def ReportsInvalid (r : Report) (table : String) : Prop :=
  ∃ f ∈ r.errors, f.code = "INVALID_CLASS_NAME" ∧ ("table", .text table) ∈ f.context

/-- The report has an error about a class name that tables share. -/
def ReportsCollision (r : Report) (className : String) : Prop :=
  ∃ f ∈ r.errors, f.code = "CLASS_NAME_COLLISION" ∧ ("class_name", .text className) ∈ f.context

/-- Tables of different names have one accepted class name. -/
def Shares (naming : Table → Value) (tables : List Table) (className : String) : Prop :=
  PlainIdentifier className ∧ ∃ first ∈ tables, ∃ second ∈ tables, first.name ≠ second.name ∧
    naming first = .text className ∧ naming second = .text className

/-- The report is about the class names that a naming gives to the tables: it has an error for each
that is not accepted and for each that is shared, and no other. -/
structure Judges (naming : Table → Value) (tables : List Table) (r : Report) : Prop where
  invalid : ∀ name, ReportsInvalid r name ↔
    ∃ table ∈ tables, table.name = name ∧ ¬AcceptedName (naming table)
  collision : ∀ className, ReportsCollision r className ↔ Shares naming tables className

/-- Tables of one name are given one class name. -/
def GoesByName (naming : Table → Value) : Prop :=
  ∀ table other : Table, table.name = other.name → naming table = naming other

namespace Judges

variable {naming other : Table → Value} {tables : List Table} {r : Report}

theorem invalid_iff (h : Judges naming tables r) (hnaming : GoesByName naming) {table : Table}
    (htable : table ∈ tables) : ReportsInvalid r table.name ↔ ¬AcceptedName (naming table) := by
  rw [h.invalid]
  constructor
  · rintro ⟨same, -, hname, hnot⟩
    rwa [hnaming same table hname] at hnot
  · exact fun hnot => ⟨table, htable, rfl, hnot⟩

/-- A report about one naming is about another exactly when the two agree on what is accepted and
what is shared. -/
theorem iff_of_judges (hother : Judges other tables r) (hothers : GoesByName other)
    (hnaming : GoesByName naming) : Judges naming tables r ↔
      (∀ table ∈ tables, AcceptedName (naming table) ↔ AcceptedName (other table)) ∧
      ∀ className, Shares naming tables className ↔ Shares other tables className := by
  constructor
  · refine fun h => ⟨fun table htable => ?_, fun className => ?_⟩
    · rw [← not_iff_not, ← h.invalid_iff hnaming htable, hother.invalid_iff hothers htable]
    · rw [← h.collision, hother.collision]
  · rintro ⟨haccepted, hshared⟩
    refine ⟨fun name => ?_, fun className => ?_⟩
    · rw [hother.invalid]
      refine exists_congr fun table => and_congr_right fun htable => and_congr_right fun _ => ?_
      rw [haccepted table htable]
    · rw [hother.collision, hshared]

end Judges

namespace Issue

theorem code_eq_invalidClassName {issue : Issue} (h : issue.code = "INVALID_CLASS_NAME") :
    ∃ table className, issue = invalidClassName table className := by
  cases issue <;> first | exact ⟨_, _, rfl⟩ | simp [code] at h

theorem code_eq_classNameCollision {issue : Issue} (h : issue.code = "CLASS_NAME_COLLISION") :
    ∃ className tables, issue = classNameCollision className tables := by
  cases issue <;> first | exact ⟨_, _, rfl⟩ | simp [code] at h

end Issue

section Reports

variable {issues : List Issue}

theorem reportsInvalid_iff {table : String} : ReportsInvalid (Report.ofIssues issues) table ↔
    ∃ className, .invalidClassName table className ∈ issues := by
  constructor
  · rintro ⟨f, hf, hcode, hcontext⟩
    obtain ⟨issue, hissue, -, rfl⟩ := mem_ofLevel_iff.mp hf
    obtain ⟨other, className, rfl⟩ := Issue.code_eq_invalidClassName hcode
    obtain rfl : table = other := by simpa [Issue.finding, Issue.context] using hcontext
    exact ⟨className, hissue⟩
  · rintro ⟨className, hissue⟩
    exact ⟨_, mem_ofLevel_iff.mpr ⟨_, hissue, rfl, rfl⟩, rfl, List.mem_cons_self⟩

theorem reportsCollision_iff {className : String} :
    ReportsCollision (Report.ofIssues issues) className ↔
      ∃ tables, .classNameCollision className tables ∈ issues := by
  constructor
  · rintro ⟨f, hf, hcode, hcontext⟩
    obtain ⟨issue, hissue, -, rfl⟩ := mem_ofLevel_iff.mp hf
    obtain ⟨other, tables, rfl⟩ := Issue.code_eq_classNameCollision hcode
    obtain rfl : className = other := by simpa [Issue.finding, Issue.context] using hcontext
    exact ⟨tables, hissue⟩
  · rintro ⟨tables, hissue⟩
    exact ⟨_, mem_ofLevel_iff.mpr ⟨_, hissue, rfl, rfl⟩, rfl, List.mem_cons_self⟩

end Reports

section Names

variable {config : Settings} {tables : List Table} {issues : List Issue}

theorem isNone_of_acceptedClassName {table : Table} {accepted : Option String}
    (h : acceptedClassName config table = .ok accepted) :
    accepted.isNone = true ↔ ¬AcceptedName (config.className table.name) := by
  have hnone : accepted = none ↔ ¬AcceptedName (config.className table.name) := by
    cases accepted with
    | some name =>
      obtain ⟨hclass, hplain⟩ := acceptedClassName_eq_some h
      exact iff_of_false (by simp) (not_not_intro ⟨name, hclass, isPlainIdentifier_iff.mp hplain⟩)
    | none =>
      refine iff_of_true rfl ?_
      rintro ⟨name, hclass, hplain⟩
      rw [acceptedClassName_eq hclass, if_pos (isPlainIdentifier_iff.mpr hplain)] at h
      cases h
  rw [Option.isNone_iff_eq_none, hnone]

/-- A table is reported by itself when the policy has no accepted name for it. -/
theorem mem_classNameIssues_iff {seen : List String}
    (h : classNameIssues config seen tables = .ok issues) {name : String} :
    (∃ className, .invalidClassName name className ∈ issues) ↔
      ∃ table ∈ tables, table.name = name ∧ ¬AcceptedName (config.className table.name) := by
  induction tables generalizing seen issues with
  | nil =>
    cases h
    simp
  | cons table rest ih =>
    obtain ⟨accepted, haccepted, h⟩ := bind_eq_ok_iff.mp h
    obtain ⟨later, hlater, h⟩ := bind_eq_ok_iff.mp h
    cases h
    have hduplicate (className : Value) : .invalidClassName name className ∉
        (if table.name ∈ seen then [Issue.duplicateTable table.name] else []) := by
      split <;> simp
    have hown : (∃ className, .invalidClassName name className ∈
        (if accepted.isNone then [Issue.invalidClassName table.name (config.className table.name)]
          else [])) ↔ table.name = name ∧ ¬AcceptedName (config.className table.name) := by
      rw [← isNone_of_acceptedClassName haccepted]
      split
      next hnone => simp [hnone, eq_comm]
      next hsome => simp [hsome]
    simp only [List.mem_append, hduplicate, false_or, exists_or, hown, ih hlater,
      List.exists_mem_cons_iff]

theorem classNameCollision_not_mem {seen : List String}
    (h : classNameIssues config seen tables = .ok issues) (className : String)
    (names : List String) : .classNameCollision className names ∉ issues := by
  induction tables generalizing seen issues with
  | nil =>
    cases h
    exact List.not_mem_nil
  | cons table rest ih =>
    obtain ⟨accepted, -, h⟩ := bind_eq_ok_iff.mp h
    obtain ⟨later, hlater, h⟩ := bind_eq_ok_iff.mp h
    cases h
    simp only [List.mem_append, not_or]
    refine ⟨⟨?_, ?_⟩, ih hlater⟩
    · split <;> simp
    · split <;> simp

/-- What the check of the names of tables finds about class names. -/
theorem checkTableNames_judges (h : checkTableNames tables config = .ok issues) :
    Judges (fun table => config.className table.name) tables (Report.ofIssues issues) := by
  obtain ⟨single, hsingle, h⟩ := bind_eq_ok_iff.mp h
  obtain ⟨pairs, hpairs, h⟩ := bind_eq_ok_iff.mp h
  cases h
  refine ⟨fun name => ?_, fun className => ?_⟩
  · rw [reportsInvalid_iff, ← mem_classNameIssues_iff hsingle]
    simp
  · have hshared : (∃ names, (className, names) ∈ collisions pairs) ↔
        Shares (fun table => config.className table.name) tables className := by
      simp only [exists_collision_iff, mem_acceptedClassNames_iff hpairs, isPlainIdentifier_iff]
      constructor
      · rintro ⟨_, _, ⟨first, hfirst, rfl, hfirstClass, hplain⟩,
          ⟨second, hsecond, rfl, hsecondClass, -⟩, hne⟩
        exact ⟨hplain, first, hfirst, second, hsecond, hne, hfirstClass, hsecondClass⟩
      · rintro ⟨hplain, first, hfirst, second, hsecond, hne, hfirstClass, hsecondClass⟩
        exact ⟨_, _, ⟨first, hfirst, rfl, hfirstClass, hplain⟩,
          ⟨second, hsecond, rfl, hsecondClass, hplain⟩, hne⟩
    rw [reportsCollision_iff, ← hshared]
    simp [classNameCollision_not_mem hsingle]

end Names

section Checks

variable {config : Settings} {tables : List Table} {issues others : List Issue}

/-- Only the issues of the names of tables are about class names. -/
theorem Judges.congr {naming : Table → Value}
    (h : Judges naming tables (Report.ofIssues issues))
    (hsame : ∀ issue, issue.origin = .tableNames → (issue ∈ others ↔ issue ∈ issues)) :
    Judges naming tables (Report.ofIssues others) := by
  refine ⟨fun name => ?_, fun className => ?_⟩
  · rw [← h.invalid, reportsInvalid_iff, reportsInvalid_iff]
    exact exists_congr fun className => hsame _ rfl
  · rw [← h.collision, reportsCollision_iff, reportsCollision_iff]
    exact exists_congr fun tables => hsame _ rfl

/-- The checks report the class names that the policy gives to the tables. -/
theorem judges_of_check {checkup : Checkup} (h : check tables config = .ok checkup) :
    Judges (fun table => config.className table.name) tables checkup.report := by
  obtain ⟨tableNames, -, htableNames, -, hnames, -⟩ := exists_names_of_check h
  exact (checkTableNames_judges htableNames).congr hnames

end Checks

end RecordMapper.Validation
