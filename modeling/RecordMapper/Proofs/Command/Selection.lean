import RecordMapper.Proofs.Command.Generation
import RecordMapper.Proofs.Validation.Selection

/-!
# Restricted runs

A run restricted to some tables of an input that passes the checks. The requested names select
tables without regard to case, and only the names to skip can be missed by what they select.
-/
namespace RecordMapper.Command

open RecordMapper.Batch RecordMapper.Config RecordMapper.Disk RecordMapper.Schema RecordMapper.Text
open RecordMapper.Validation

section Requests

variable {requested : List String} {tables : List Table}

theorem tableNamed?_eq_some {name : String} {t : Table} (h : tableNamed? tables name = some t) :
    t ∈ tables ∧ lower t.name = lower name := by
  have hname := List.find?_some h
  exact ⟨List.mem_reverse.mp (List.mem_of_find?_eq_some h), of_decide_eq_true hname⟩

theorem isSome_tableNamed? {name : String} (h : ∃ t ∈ tables, lower t.name = lower name) :
    (tableNamed? tables name).isSome = true := by
  obtain ⟨t, ht, hname⟩ := h
  exact List.find?_isSome.mpr ⟨t, List.mem_reverse.mpr ht, decide_eq_true hname⟩

/-- Names that are all found select a table each. -/
theorem map_lower_filterMap (h : ∀ name ∈ requested, ∃ t ∈ tables, lower t.name = lower name) :
    (requested.filterMap (tableNamed? tables)).map (fun t => lower t.name) =
      requested.map lower := by
  induction requested with
  | nil => rfl
  | cons name rest ih =>
    obtain ⟨t, ht⟩ := Option.isSome_iff_exists.mp (isSome_tableNamed? (h name List.mem_cons_self))
    rw [List.filterMap_cons_some ht, List.map_cons, (tableNamed?_eq_some ht).2,
      ih fun other hother => h other (List.mem_cons_of_mem _ hother)]
    rfl

theorem selectTables_of_known (hne : requested ≠ [])
    (h : ∀ name ∈ requested, ∃ t ∈ tables, lower t.name = lower name) :
    selectTables requested tables = .ok (requested.filterMap (tableNamed? tables)) := by
  have hfilled : requested.isEmpty = false := by
    rw [Bool.eq_false_iff, Ne, List.isEmpty_iff]
    exact hne
  have hknown : (requested.filter fun name => (tableNamed? tables name).isNone).isEmpty = true := by
    rw [List.isEmpty_iff, List.filter_eq_nil_iff]
    intro name hname
    simpa [Option.isSome_iff_ne_none] using isSome_tableNamed? (h name hname)
  unfold selectTables
  rw [hfilled]
  simp only [Bool.false_eq_true, if_false, hknown, if_true]

end Requests

theorem not_rejects_iff {options : Options} {r : Validation.Report}
    (hoptions : options.failOnWarnings = true) :
    ¬Rejects options r ↔ r.errors = [] ∧ r.warnings = [] := by
  simp [Rejects, hoptions, Validation.Report.hasErrors, Validation.Report.hasWarnings]

/-- Names that restrict a run over an input: no table is requested twice, all are known, and those
that are to be skipped are all among them. -/
structure Restricts (input : Input) (names : List String) : Prop where
  nodup : (names.map lower).Nodup
  known : ∀ name ∈ names, ∃ t ∈ input.tables, lower t.name = lower name
  skips : ∀ name ∈ input.config.skipNames, name ∈ names.map lower

section Restricted

variable {a : Arguments} {disk : Disk} {input : Input} {names : List String}

/-- What a restricted run loads. -/
theorem exists_selection (hall : a.tables = []) (hload : load a disk = .ok input)
    (hne : names ≠ []) (hnames : Restricts input names) :
    ∃ selection, load { a with tables := names } disk = .ok ⟨selection, input.config⟩ ∧
      selection.Nodup ∧ selection ⊆ input.tables ∧
        ∀ name ∈ input.config.skipNames, ∃ t ∈ selection, lower t.name = name := by
  obtain ⟨tables, hrequested⟩ := exists_load_of_requested hload
  have htables : tables = input.tables := by
    have hwhole : { a with tables := [] } = a := by rw [← hall]
    rw [← hwhole] at hload
    exact congrArg Input.tables (Except.ok.inj ((hrequested []).symm.trans hload))
  subst htables
  have hlower := map_lower_filterMap hnames.known
  refine ⟨names.filterMap (tableNamed? input.tables), ?_, ?_, fun t ht => ?_, fun name hname => ?_⟩
  · rw [hrequested, selectTables_of_known hne hnames.known]
    rfl
  · exact .of_map _ (hlower ▸ hnames.nodup)
  · obtain ⟨name, -, hname⟩ := List.mem_filterMap.mp ht
    exact (tableNamed?_eq_some hname).1
  · have hmem := hnames.skips name hname
    rw [← hlower] at hmem
    exact List.mem_map.mp hmem

/-- A restricted run that lacks no table to be skipped passes the checks where the whole run does
and warnings count as errors. -/
theorem passes_of_restricts {words restricted : List String} {checkup : Checkup}
    (hwhole : Generates words a disk input) (hall : a.tables = [])
    (hwarnings : a.failOnWarnings = true)
    (hcheck : check input.tables input.config = .ok checkup)
    (hpasses : ¬Rejects a.options checkup.report)
    (hparse : Arguments.parse restricted = .ok { a with tables := names })
    (hnames : Restricts input names) :
    ∃ selected again, Generates restricted { a with tables := names } disk selected ∧
      check selected.tables selected.config = .ok again ∧ ¬Rejects a.options again.report := by
  by_cases hne : names = []
  · have hsame : { a with tables := names } = a := by
      rw [hne, ← hall]
    rw [hsame] at hparse ⊢
    exact ⟨input, checkup, { hwhole with parse_eq := hparse }, hcheck, hpasses⟩
  · obtain ⟨selection, hload, hnodup, hsubset, hskips⟩ :=
      exists_selection hall hwhole.load_eq hne hnames
    have hclean : Clean input.tables input.config :=
      ⟨checkup, hcheck, (not_rejects_iff hwarnings).mp hpasses⟩
    obtain ⟨again, hagain, hquiet⟩ := (clean_selection_iff hclean hnodup hsubset).mpr hskips
    refine ⟨⟨selection, input.config⟩, again, ⟨hparse, ?_, hload, hwhole.validateOnly_eq,
      hwhole.echo_eq⟩, hagain, (not_rejects_iff hwarnings).mpr hquiet⟩
    -- Without a requested table there is no class name that would need exactly one.
    have hconsistent := hwhole.isConsistent
    rw [Arguments.isConsistent, hall] at hconsistent
    have hnone : a.givenClassName.isNone = true := by simpa using hconsistent
    rw [Arguments.isConsistent, show Arguments.givenClassName { a with tables := names } =
      a.givenClassName from rfl, hnone]
    rfl

end Restricted

/-- A selection of tables that the checks find nothing wrong with has no errors, and a warning for
each name to skip that it lacks. So where warnings count as errors, a run passes when it is
restricted to tables among which all those to be skipped are. -/
theorem selection_lacks_only_skips :
    (∀ (tables selection : List Table) (config : Settings), Clean tables config →
      selection.Nodup → selection ⊆ tables →
        (∃ again, check selection config = .ok again ∧ again.report.errors = [] ∧
          again.report.warnings = (unmatchedSkips selection config).map fun name =>
            (Issue.unknownSkippedTable name).finding) ∧
        (Clean selection config ↔
          ∀ name ∈ config.skipNames, ∃ t ∈ selection, lower t.name = name)) ∧
    ∀ (words restricted names : List String) (a : Arguments) (disk : Disk) (input : Input)
      (checkup : Checkup), Generates words a disk input → a.tables = [] →
      a.failOnWarnings = true → check input.tables input.config = .ok checkup →
      ¬Rejects a.options checkup.report →
      Arguments.parse restricted = .ok { a with tables := names } → Restricts input names →
        ∃ selected again, Generates restricted { a with tables := names } disk selected ∧
          check selected.tables selected.config = .ok again ∧
            ¬Rejects a.options again.report :=
  ⟨fun _ _ _ hclean hnodup hsubset => ⟨check_selection hclean hnodup hsubset,
    clean_selection_iff hclean hnodup hsubset⟩,
  fun _ _ _ _ _ _ _ hwhole hall hwarnings hcheck hpasses hparse hnames =>
    passes_of_restricts hwhole hall hwarnings hcheck hpasses hparse hnames⟩

namespace Sample

theorem clean_skipping :
    Clean [Batch.Sample.emp, Batch.Sample.dept] Batch.Sample.skipping := by
  have hfound : found? [Batch.Sample.emp, Batch.Sample.dept] Batch.Sample.skipping =
      some (false, false) := by decide +kernel
  obtain ⟨checkup, hcheck, herrors, hwarnings⟩ := exists_checkup_of_found hfound
  exact ⟨checkup, hcheck, Report.hasErrors_eq_false_iff.mp herrors,
    Report.hasWarnings_eq_false_iff.mp hwarnings⟩

end Sample

/-- The table that is to be skipped can do without the other one. -/
theorem selection_lacks_only_skips_of_dept :
    Clean [Batch.Sample.dept] Batch.Sample.skipping ∧ ∃ selected again,
      Generates (Sample.careful ++ ["-t", "Dept"])
        { Sample.carefulArguments with tables := ["Dept"] } Sample.staffed selected ∧
      check selected.tables selected.config = .ok again ∧
      ¬Rejects Sample.carefulArguments.options again.report := by
  obtain ⟨hselection, hrestricted⟩ := selection_lacks_only_skips
  constructor
  · have hclean := hselection _ [Batch.Sample.dept] _ Sample.clean_skipping (by decide) (by decide)
    exact hclean.2.mpr (by decide +kernel)
  · obtain ⟨input, checkup, hload, hnames, hskips, hcheck, herrors, hwarnings⟩ :=
      Sample.exists_checkup_of_summary Sample.summary_staffed
    have hpasses : ¬Rejects Sample.carefulArguments.options checkup.report := by
      simp [Rejects, herrors, hwarnings]
    have hdept : "dept" ∈ input.tables.map Table.name := by
      rw [hnames]
      decide
    have hrestricts : Restricts input ["Dept"] := by
      refine ⟨by decide, fun name hname => ?_, by rw [hskips]; decide +kernel⟩
      obtain ⟨t, ht, hsame⟩ := List.mem_map.mp hdept
      rw [List.mem_singleton.mp hname]
      exact ⟨t, ht, by rw [hsame]; decide +kernel⟩
    exact hrestricted Sample.careful _ ["Dept"] Sample.carefulArguments Sample.staffed input checkup
      ⟨by decide +kernel, rfl, hload, rfl, rfl⟩ rfl rfl hcheck hpasses (by decide +kernel)
      hrestricts

/-- The other table alone is warned of, since the one to be skipped is not selected. Names that
differ in case select one table twice, which is an error even where all tables are selected. -/
theorem selection_warned_of_skip :
    Clean [Batch.Sample.emp, Batch.Sample.dept] Batch.Sample.skipping ∧
      ([Batch.Sample.emp].Nodup ∧ [Batch.Sample.emp] ⊆ [Batch.Sample.emp, Batch.Sample.dept] ∧
        ¬Clean [Batch.Sample.emp] Batch.Sample.skipping) ∧
      ["emp", "EMP", "dept"].Nodup ∧
      selectTables ["emp", "EMP", "dept"] [Batch.Sample.emp, Batch.Sample.dept] =
        .ok [Batch.Sample.emp, Batch.Sample.emp, Batch.Sample.dept] ∧
      ¬Clean [Batch.Sample.emp, Batch.Sample.emp, Batch.Sample.dept] Batch.Sample.skipping := by
  refine ⟨Sample.clean_skipping, ⟨by decide, by decide, ?_⟩, by decide, ?_, ?_⟩
  · rw [clean_selection_iff Sample.clean_skipping (by decide) (by decide)]
    decide +kernel
  · rw [selectTables_of_known (by decide) (by decide +kernel)]
    exact congrArg Except.ok (by decide +kernel)
  · rintro ⟨checkup, hcheck, herrors, -⟩
    have hnames := (names_of_check hcheck (Report.hasErrors_eq_false_iff.mpr herrors)).1
    exact absurd hnames.nodup (by decide)

end RecordMapper.Command
