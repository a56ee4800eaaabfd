import RecordMapper.Proofs.Command.Selection

/-!
# Requested tables

Each requested name selects one table, and all of them have to be there. Names are compared without
regard to case, and of several tables that bear a name the last one counts. A table with just the
requested name is therefore the one that is selected unless a later table has the name in another
case; it cannot be requested then.
-/
namespace RecordMapper.Command

open RecordMapper.Batch RecordMapper.Config RecordMapper.Disk RecordMapper.Schema RecordMapper.Text

/-- A table bears a name, where case does not matter. -/
def Bears (name : String) (t : Table) : Prop := lower t.name = lower name

instance (name : String) (t : Table) : Decidable (Bears name t) :=
  inferInstanceAs (Decidable (_ = _))

/-- The last of the tables that bear a name. -/
structure LastBearing (tables : List Table) (name : String) (t : Table) : Prop where
  bears : Bears name t
  last : ∃ before after, tables = before ++ t :: after ∧ ∀ other ∈ after, ¬Bears name other

/-- A table has just this name, and no later one has it in another case. -/
def Reachable (tables : List Table) (name : String) : Prop :=
  ∃ before t after, tables = before ++ t :: after ∧ t.name = name ∧
    ∀ other ∈ after, Bears name other → other.name = name

section Names

variable {tables : List Table} {name : String} {t : Table}

theorem LastBearing.mem (h : LastBearing tables name t) : t ∈ tables := by
  obtain ⟨before, after, rfl, -⟩ := h.last
  exact List.mem_append_right _ (List.mem_cons_self ..)

theorem tableNamed?_eq_some_iff : tableNamed? tables name = some t ↔ LastBearing tables name t := by
  rw [tableNamed?, List.find?_eq_some_iff_append]
  constructor
  · rintro ⟨hname, before, after, hsplit, hbefore⟩
    refine ⟨of_decide_eq_true hname, after.reverse, before.reverse, ?_, fun other hother => ?_⟩
    · rw [← List.reverse_inj, hsplit]
      simp
    · simpa [Bears] using hbefore other (List.mem_reverse.mp hother)
  · rintro ⟨hname, before, after, rfl, hafter⟩
    refine ⟨decide_eq_true hname, after.reverse, before.reverse, by simp, fun other hother => ?_⟩
    simpa [Bears] using hafter other (List.mem_reverse.mp hother)

theorem tableNamed?_eq_none_iff :
    tableNamed? tables name = none ↔ ∀ t ∈ tables, ¬Bears name t := by
  simp [tableNamed?, Bears]

/-- A name selects the table with just this name when that is no table lost behind a later one. -/
theorem LastBearing.name_eq_iff (h : LastBearing tables name t) :
    t.name = name ↔ Reachable tables name := by
  obtain ⟨before, after, hsplit, hafter⟩ := h.last
  constructor
  · intro hname
    exact ⟨before, t, after, hsplit, hname,
      fun other hother hbears => absurd hbears (hafter other hother)⟩
  · rintro ⟨left, exactly, right, hother, hname, hright⟩
    have hbears : Bears name exactly := congrArg lower hname
    rcases List.append_eq_append_iff.mp (hsplit.symm.trans hother) with
      ⟨between, hleft, hrest⟩ | ⟨between, hbefore, hrest⟩
    -- The exactly named table is not after the last one that bears the name.
    · cases between with
      | nil => exact (List.cons.inj hrest).1 ▸ hname
      | cons first between =>
        have hmem : exactly ∈ after := by simp [(List.cons.inj hrest).2]
        exact absurd hbears (hafter exactly hmem)
    · cases between with
      | nil => exact (List.cons.inj hrest).1 ▸ hname
      | cons first between =>
        have hmem : t ∈ right := by simp [(List.cons.inj hrest).2]
        exact hright t hmem h.bears

end Names

section Selections

variable {tables : List Table} {requested : List String}

theorem forall₂_filterMap_tableNamed? (h : ∀ name ∈ requested, ∃ t ∈ tables, Bears name t) :
    List.Forall₂ (LastBearing tables) requested (requested.filterMap (tableNamed? tables)) := by
  induction requested with
  | nil => exact List.Forall₂.nil
  | cons name rest ih =>
    obtain ⟨t, ht⟩ := Option.isSome_iff_exists.mp (isSome_tableNamed? (h name List.mem_cons_self))
    rw [List.filterMap_cons_some ht]
    exact .cons (tableNamed?_eq_some_iff.mp ht)
      (ih fun other hother => h other (List.mem_cons_of_mem _ hother))

/-- Names that no table bears are told, all of them. -/
theorem selectTables_of_unknown (h : ∃ name ∈ requested, ∀ t ∈ tables, ¬Bears name t) :
    selectTables requested tables =
      .error (.unknownTables (requested.filter fun name => ∀ t ∈ tables, ¬Bears name t)) := by
  obtain ⟨name, hname, hnone⟩ := h
  have hfilled : requested.isEmpty = false := by
    rw [Bool.eq_false_iff, Ne, List.isEmpty_iff]
    exact List.ne_nil_of_mem hname
  have hunknown : (requested.filter fun name => (tableNamed? tables name).isNone) =
      requested.filter fun name => ∀ t ∈ tables, ¬Bears name t := by
    refine List.filter_congr fun other _ => ?_
    rw [Bool.eq_iff_iff, Option.isNone_iff_eq_none, tableNamed?_eq_none_iff, decide_eq_true_iff]
  have hne : (requested.filter fun name => ∀ t ∈ tables, ¬Bears name t).isEmpty = false := by
    rw [Bool.eq_false_iff, Ne, List.isEmpty_iff]
    exact List.ne_nil_of_mem (List.mem_filter.mpr ⟨hname, decide_eq_true hnone⟩)
  unfold selectTables
  rw [hfilled, hunknown]
  dsimp only
  rw [hne]
  rfl

end Selections

/-- Requested names restrict loaded input to a table for each name, in the order of the requests,
when every name is borne by some table; other names are told. Each selected table is the last one
that bears its name. It has just this name except where every table with it comes before one that
has it in another case. -/
theorem requests_select {a : Arguments} {disk : Disk} {input : Input}
    (h : load { a with tables := [] } disk = .ok input) {names : List String} (hne : names ≠ []) :
    ((∃ selected, load { a with tables := names } disk = .ok selected) ↔
      ∀ name ∈ names, ∃ t ∈ input.tables, Bears name t) ∧
    (∀ failure, load { a with tables := names } disk = .error failure →
      failure = .unknownTables (names.filter fun name => ∀ t ∈ input.tables, ¬Bears name t)) ∧
    ∀ selected, load { a with tables := names } disk = .ok selected →
      selected.config = input.config ∧
      List.Forall₂ (LastBearing input.tables) names selected.tables ∧
      List.Forall₂ (fun name t => t.name = name ↔ Reachable input.tables name)
        names selected.tables := by
  obtain ⟨tables, hrequested⟩ := exists_load_of_requested h
  have htables : tables = input.tables :=
    congrArg Input.tables (Except.ok.inj ((hrequested []).symm.trans h))
  subst htables
  by_cases hknown : ∀ name ∈ names, ∃ t ∈ input.tables, Bears name t
  · have hload : load { a with tables := names } disk =
        .ok ⟨names.filterMap (tableNamed? input.tables), input.config⟩ := by
      rw [hrequested, selectTables_of_known hne hknown]
      rfl
    rw [hload]
    refine ⟨iff_of_true ⟨_, rfl⟩ hknown, ?_, ?_⟩
    · rintro failure hfailure
      cases hfailure
    · rintro selected hselected
      cases hselected
      have hlast := forall₂_filterMap_tableNamed? hknown
      exact ⟨rfl, hlast, hlast.imp fun _ _ => LastBearing.name_eq_iff⟩
  · have hunknown : ∃ name ∈ names, ∀ t ∈ input.tables, ¬Bears name t := by simpa using hknown
    have hload : load { a with tables := names } disk = .error (.unknownTables
        (names.filter fun name => ∀ t ∈ input.tables, ¬Bears name t)) := by
      rw [hrequested, selectTables_of_unknown hunknown]
      rfl
    rw [hload]
    refine ⟨iff_of_false (fun ⟨_, hselected⟩ => by cases hselected) hknown, ?_, ?_⟩
    · rintro failure hfailure
      cases hfailure
      rfl
    · rintro selected hselected
      cases hselected

namespace Sample

/-- Two tables whose names differ in case. -/
def cased : Disk := diskOf ("tables:\n" ++
  "- {name: Emp, columns: [{name: id, data_type: BIGINT}]}\n" ++
  "- {name: emp, columns: [{name: code, data_type: VARCHAR}]}\n")

end Sample

/-- Tables come in the order of the requests, a second time when they are requested again. -/
theorem requests_select_of_dept : ∃ input selected,
    load { Sample.carefulArguments with tables := [] } Sample.staffed = .ok input ∧
    load { Sample.carefulArguments with tables := ["DEPT", "emp", "Dept"] } Sample.staffed =
      .ok selected ∧
    List.Forall₂ (LastBearing input.tables) ["DEPT", "emp", "Dept"] selected.tables := by
  obtain ⟨input, -, hload, hnames, -⟩ :=
    Sample.exists_checkup_of_summary Sample.summary_staffed
  have hemp : "emp" ∈ input.tables.map Table.name := by
    rw [hnames]
    decide
  have hdept : "dept" ∈ input.tables.map Table.name := by
    rw [hnames]
    decide
  obtain ⟨emp, hemp, hempName⟩ := List.mem_map.mp hemp
  obtain ⟨dept, hdept, hdeptName⟩ := List.mem_map.mp hdept
  have hnone : ["DEPT", "emp", "Dept"] ≠ [] := List.cons_ne_nil _ _
  obtain ⟨hknown, -, hselects⟩ := requests_select (a := Sample.carefulArguments) hload hnone
  have hall : ∀ name ∈ ["DEPT", "emp", "Dept"], ∃ t ∈ input.tables, Bears name t := by
    simp only [List.forall_mem_cons, Bears]
    refine ⟨⟨dept, hdept, ?_⟩, ⟨emp, hemp, ?_⟩, ⟨dept, hdept, ?_⟩, by simp⟩
    · rw [hdeptName]
      decide +kernel
    · rw [hempName]
    · rw [hdeptName]
      decide +kernel
  obtain ⟨selected, hselected⟩ := hknown.mpr hall
  exact ⟨input, selected, hload, hselected, (hselects selected hselected).2.1⟩

/-- The first of the tables is requested by its very name and the second is selected. -/
theorem request_selects_other_case : ∃ input selected,
    Arguments.parse (Sample.careful ++ ["-t", "Emp"]) =
      .ok { Sample.carefulArguments with tables := ["Emp"] } ∧
    load Sample.carefulArguments Sample.cased = .ok input ∧
    input.tables.map Table.name = ["Emp", "emp"] ∧
    load { Sample.carefulArguments with tables := ["Emp"] } Sample.cased = .ok selected ∧
    selected.tables.map Table.name = ["emp"] := by
  have hwhole : Sample.ofLoaded? (fun input => input.tables.map Table.name)
      Sample.carefulArguments Sample.cased = some ["Emp", "emp"] := by decide +kernel
  obtain ⟨input, hload, hnames⟩ := Sample.exists_load_of_ofLoaded hwhole
  obtain ⟨tables, hrequested⟩ := exists_load_of_requested (a := Sample.carefulArguments) hload
  have htables : tables = input.tables :=
    congrArg Input.tables (Except.ok.inj ((hrequested []).symm.trans hload))
  obtain ⟨first, second, hpair, -, hsecond⟩ : ∃ first second,
      input.tables = [first, second] ∧ first.name = "Emp" ∧ second.name = "emp" := by
    simpa [List.map_eq_cons_iff] using hnames
  have hlast : LastBearing tables "Emp" second := by
    refine ⟨?_, [first], [], htables.trans hpair, by simp⟩
    rw [Bears, hsecond]
    decide +kernel
  have hselect : selectTables ["Emp"] tables = .ok [second] := by
    rw [selectTables_of_known (List.cons_ne_nil _ _)
      (List.forall_mem_singleton.mpr ⟨second, hlast.mem, hlast.bears⟩),
      List.filterMap_cons_some (tableNamed?_eq_some_iff.mpr hlast), List.filterMap_nil]
  refine ⟨input, ⟨[second], input.config⟩, by decide +kernel, hload, hnames, ?_, ?_⟩
  · rw [hrequested, hselect]
    rfl
  · rw [List.map_singleton, hsecond]

end RecordMapper.Command
