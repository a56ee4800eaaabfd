import RecordMapper.Proofs.Batch.Turns
import RecordMapper.Proofs.Output.Places
import RecordMapper.Proofs.Validation.ClassNames
import RecordMapper.Proofs.Validation.Conditions

/-!
# Class names in use

A run writes every table under its explicit class name, or under that of the policy, but its checks
see the policy alone. What they report about class names is right for the names in use just as far
as the explicit ones are accepted and shared like those that they replace.
-/
namespace RecordMapper.Batch

open RecordMapper.Config RecordMapper.Disk RecordMapper.Naming RecordMapper.Output
open RecordMapper.Schema RecordMapper.Validation RecordMapper.View

/-- The class name that a run uses for a table. -/
def usedName (config : Settings) (classNames : ClassNames) (table : Table) : Value :=
  classOf config table (classNames.lookup table.name)

/-- The class name that the policy gives to a table. -/
def policyName (config : Settings) (table : Table) : Value := config.className table.name

/-- The event is about a source of one of the tables under the class name in use. -/
def IsOfTable (config : Settings) (classNames : ClassNames) (tables : List Table)
    (event : Event) : Prop :=
  ∃ table ∈ tables, ∃ (name : String) (a : Artefact),
    usedName config classNames table = .text name ∧
    event.target = (a.target config name).qualifiedName ∧
    event.path = (a.target config name).path

/-- The event is about a source of an accepted class, directly in the directory of the package below
that of the models or that of the tests. -/
def IsInPackage (config : Settings) (classNames : ClassNames) (tables : List Table)
    (event : Event) : Prop :=
  ∃ table ∈ tables, ∃ (name : String) (a : Artefact),
    usedName config classNames table = .text name ∧ PlainIdentifier name ∧
    event.target = (a.target config name).qualifiedName ∧
    event.path = (a.target config name).path ∧
    event.path.parent = Path.ofString (a.root config) ++ packagePath config.package

section Events

variable {options : Options} {config : Settings} {classNames : ClassNames} {tables : List Table}

theorem text_of_resolvedName {table : Table} {name : String}
    (h : (TableOutput.mk config table (classNames.lookup table.name)).resolvedName = .ok name) :
    usedName config classNames table = .text name := by
  unfold TableOutput.resolvedName Policy.name at h
  unfold usedName
  dsimp only at h
  split at h
  next hname =>
    cases h
    exact hname
  · cases h

/-- The work on a table records events about its own sources only. -/
theorem isOfTable_writeTable {table : Table} (htable : table ∈ tables) {w : Workspace}
    (hw : ∀ event ∈ w.log.events, IsOfTable config classNames tables event) :
    ∀ event ∈ (Action.on w (writeTable options
        ⟨config, table, classNames.lookup table.name⟩)).2.log.events,
      IsOfTable config classNames tables event := by
  cases hname : (TableOutput.mk config table (classNames.lookup table.name)).resolvedName with
  | error failure =>
    obtain ⟨_, hon⟩ := on_writeTable_of_error (w := w) options hname
    rw [hon]
    exact hw
  | ok name =>
    obtain ⟨events, hrow⟩ := row_writeTable options w hname
    rw [hrow.log_eq]
    intro event hevent
    rcases List.mem_append.mp hevent with hevent | hevent
    · exact hw event hevent
    · obtain ⟨r, hr, before, between, hperform⟩ := hrow.perform_of_mem_events hevent
      obtain ⟨a, hdestination⟩ := destination_of_mem_requests hname hr
      have hplace := (records_perform hperform).destination_eq
      rw [hdestination] at hplace
      obtain ⟨htarget, hpath⟩ := Prod.mk.inj (Except.ok.inj hplace)
      exact ⟨table, htable, name, a, text_of_resolvedName hname, htarget.symm, hpath.symm⟩

theorem isOfTable_writeTables (disk : Disk) :
    ∀ event ∈ (writeTables options config classNames tables ⟨disk, .empty⟩).2.log.events,
      IsOfTable config classNames tables event := by
  rw [writeTables_eq]
  exact leftBy_turns_preserves options config classNames
    (P := fun w => ∀ event ∈ w.log.events, IsOfTable config classNames tables event)
    (fun _ htable _ hw => isOfTable_writeTable htable hw)
    fun _ h => absurd h List.not_mem_nil

/-- Under accepted names all sources are directly in their package. -/
theorem IsOfTable.isInPackage {event : Event} (h : IsOfTable config classNames tables event)
    (haccepted : ∀ table ∈ tables, AcceptedName (usedName config classNames table)) :
    IsInPackage config classNames tables event := by
  obtain ⟨table, htable, name, a, hname, htarget, hpath⟩ := h
  obtain ⟨other, hother, hplain⟩ := haccepted table htable
  obtain rfl : name = other := Value.text.inj (hname.symm.trans hother)
  have hslash : '/' ∉ name.toList :=
    not_mem_of_isPlainIdentifier (isPlainIdentifier_iff.mpr hplain) (by decide) (by decide)
  refine ⟨table, htable, name, a, hname, hplain, htarget, hpath, ?_⟩
  rw [hpath, a.target_eq, parent_below config _ (a.noSlash_className hslash config)]

end Events

section Runs

variable {options : Options} {config : Settings} {classNames : ClassNames} {tables : List Table}
  {disk after : Disk} {run : Run}

/-- What a strict run has to show: the findings of its checks, and events of a run that they let
pass. -/
theorem strict_run (hstrict : options.strict = true)
    (hrun : Run.perform options tables config classNames disk = (.ok run, after)) :
    check tables config = .ok run.checkup ∧
      (∀ event ∈ run.log.events, IsOfTable config classNames tables event) ∧
      (run.log.events ≠ [] → run.checkup.report.hasErrors = false) := by
  unfold Run.perform at hrun
  split at hrun
  · cases hrun
  next checkup hcheck =>
    dsimp only at hrun
    split at hrun
    next hgo =>
      rw [hstrict, Bool.not_true, Bool.or_false, Run.passes, Bool.and_eq_true,
        Bool.not_eq_true'] at hgo
      cases hrun
      exact ⟨hcheck, isOfTable_writeTables disk, fun _ => hgo.1⟩
    · cases hrun
      exact ⟨hcheck, fun _ h => absurd h List.not_mem_nil, fun h => absurd rfl h⟩

/-- A run comes to its report wherever the policies answer and the encoding can be looked up. -/
theorem exists_run_of_answers {className fieldName : String → String}
    (h : Answers config className fieldName tables) (hnul : Text.hasNul config.encoding = false)
    (options : Options) (classNames : ClassNames) (disk : Disk) :
    ∃ run after, Run.perform options tables config classNames disk = (.ok run, after) := by
  obtain ⟨checkup, hcheck, -⟩ := check_decided h hnul
  unfold Run.perform
  rw [hcheck]
  dsimp only
  split
  · exact ⟨_, _, rfl⟩
  · exact ⟨_, _, rfl⟩

/-- The class names that the checks of a strict run judge are those of the policy, and the sources
are written under the names in use. The report is right for the names in use exactly when these are
accepted and shared like those of the policy. Then, if anything is written, it is about accepted
classes and directly in its package. -/
theorem strict_run_judges_policy (tables : List Table) (config : Settings) (classNames : ClassNames)
    (disk : Disk) (hstrict : options.strict = true) :
    let used := usedName config classNames
    let policy := policyName config
    (∀ className fieldName, Answers config className fieldName tables →
      Text.hasNul config.encoding = false → ∃ run after,
        Run.perform options tables config classNames disk = (.ok run, after)) ∧
    ∀ run after, Run.perform options tables config classNames disk = (.ok run, after) →
      Judges policy tables run.checkup.report ∧
      (Judges used tables run.checkup.report ↔
        (∀ table ∈ tables, AcceptedName (used table) ↔ AcceptedName (policy table)) ∧
        ∀ className, Shares used tables className ↔ Shares policy tables className) ∧
      (∀ event ∈ run.log.events, IsOfTable config classNames tables event ∧
        ∀ table ∈ tables, AcceptedName (policy table)) ∧
      (Judges used tables run.checkup.report →
        ∀ event ∈ run.log.events, IsInPackage config classNames tables event) := by
  intro used policy
  refine ⟨fun _ _ h hnul => exists_run_of_answers h hnul options classNames disk,
    fun run after hrun => ?_⟩
  obtain ⟨hcheck, hevents, hvalid⟩ := strict_run hstrict hrun
  have hjudges : Judges policy tables run.checkup.report := judges_of_check hcheck
  have hused : GoesByName used := fun table other h => by
    simp only [used, usedName, classOf, h]
  have hpolicy : GoesByName policy := fun table other h => congrArg config.className h
  refine ⟨hjudges, hjudges.iff_of_judges hpolicy hused, fun event hevent => ?_,
    fun hright event hevent => ?_⟩
  · refine ⟨hevents event hevent, fun table htable => ?_⟩
    have hnames := (names_of_check hcheck (hvalid (List.ne_nil_of_mem hevent))).1
    obtain ⟨name, hname, hplain⟩ := hnames.named table htable
    exact ⟨name, hname, isPlainIdentifier_iff.mp hplain⟩
  · refine (hevents event hevent).isInPackage fun table htable => ?_
    have hnone : run.checkup.report.errors = [] :=
      Validation.Report.hasErrors_eq_false_iff.mp (hvalid (List.ne_nil_of_mem hevent))
    by_contra hnot
    obtain ⟨f, hf, -⟩ := (hright.invalid_iff hused htable).mpr hnot
    rw [hnone] at hf
    cases hf

end Runs

namespace Sample

/-- Models alone, without force, after strict checks. -/
def modelsOnly : Options := ⟨false, false, false, true, false⟩

/-- A run over one table under an explicit class name, on an empty disk. -/
def runUnder (name : String) : Except Failure Run × Disk :=
  Run.perform modelsOnly [emp] .default [("emp", .text name)] bare

/-- Whether the checks of a run find errors, and the paths of its new files. -/
def told? (out : Except Failure Run × Disk) : Option (Bool × List Path) :=
  out.1.toOption.map fun run =>
    (run.checkup.report.hasErrors, run.log.created.map Event.path)

theorem exists_run_of_told {out : Except Failure Run × Disk} {errors : Bool} {paths : List Path}
    (h : told? out = some (errors, paths)) : ∃ run after, out = (.ok run, after) ∧
      run.checkup.report.hasErrors = errors ∧ run.log.created.map Event.path = paths := by
  obtain ⟨_ | run, after⟩ := out
  · cases h
  · obtain ⟨herrors, hpaths⟩ := Prod.mk.inj (Option.some.inj h)
    exact ⟨run, after, rfl, herrors, hpaths⟩

end Sample

/-- Where the explicit name is an identifier like the one that it replaces, the model is in its
package. -/
theorem strict_run_judges_policy_of_staff : ∃ run after,
    Sample.runUnder "Staff" = (.ok run, after) ∧
    run.log.created.map Event.path =
      [⟨"", ["src", "main", "scala", "models", "Staff.scala"]⟩] ∧
    ∀ event ∈ run.log.events, IsInPackage .default [("emp", .text "Staff")] [Sample.emp] event := by
  have htold : Sample.told? (Sample.runUnder "Staff") =
      some (false, [⟨"", ["src", "main", "scala", "models", "Staff.scala"]⟩]) := by decide +kernel
  obtain ⟨run, after, hrun, -, hpaths⟩ := Sample.exists_run_of_told htold
  refine ⟨run, after, hrun, hpaths, ?_⟩
  obtain ⟨-, hiff, -, hplaces⟩ :=
    (strict_run_judges_policy [Sample.emp] .default _ _ (rfl : Sample.modelsOnly.strict = true)).2
      run after hrun
  have haccepted {name : String} (h : isPlainIdentifier name = true) : AcceptedName (.text name) :=
    ⟨name, rfl, isPlainIdentifier_iff.mp h⟩
  have hnone (naming : Table → Value) (className : String) :
      ¬Shares naming [Sample.emp] className := by
    rintro ⟨-, first, hfirst, second, hsecond, hne, -⟩
    rw [List.mem_singleton.mp hfirst, List.mem_singleton.mp hsecond] at hne
    exact hne rfl
  refine hplaces (hiff.mpr ⟨fun table htable => ?_, fun className => ?_⟩)
  · rw [List.mem_singleton.mp htable]
    exact iff_of_true (haccepted (by decide +kernel)) (haccepted (by decide +kernel))
  · exact iff_of_false (hnone _ _) (hnone _ _)

/-- An explicit class name that leads out of the package is not reported, and a model is written
under it. -/
theorem strict_run_misses_explicit : ∃ run after,
    Sample.runUnder "../Emp" = (.ok run, after) ∧
    ¬AcceptedName (usedName .default [("emp", .text "../Emp")] Sample.emp) ∧
    ¬ReportsInvalid run.checkup.report "emp" ∧
    run.log.created.map Event.path =
      [⟨"", ["src", "main", "scala", "models", "..", "Emp.scala"]⟩] := by
  have htold : Sample.told? (Sample.runUnder "../Emp") =
      some (false, [⟨"", ["src", "main", "scala", "models", "..", "Emp.scala"]⟩]) := by
    decide +kernel
  obtain ⟨run, after, hrun, hvalid, hpaths⟩ := Sample.exists_run_of_told htold
  refine ⟨run, after, hrun, ?_, ?_, hpaths⟩
  · rintro ⟨name, hname, hplain⟩
    cases hname
    rw [← isPlainIdentifier_iff] at hplain
    exact absurd hplain (by decide)
  · rintro ⟨f, hf, -⟩
    rw [Validation.Report.hasErrors_eq_false_iff.mp hvalid] at hf
    cases hf

end RecordMapper.Batch
