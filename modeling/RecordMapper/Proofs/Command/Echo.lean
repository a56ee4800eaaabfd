import RecordMapper.Proofs.Command.Generation
import RecordMapper.Proofs.Command.Switches

/-!
# Echoed models

A run that prints models instead of writing them goes through the tables by itself. What it prints
is what the forced run over the same input hands to the writer, table by table and up to the first
model that cannot be generated.
-/
namespace RecordMapper.Batch

open RecordMapper.Config RecordMapper.Output RecordMapper.Schema

/-- The work of a turn is that of the writer on a text for the model, and what follows a model. -/
def Turn.Writes (options : Options) (turn : Turn) (text : String) : Prop :=
  ∃ name, turn.output.resolvedName = .ok name ∧
    (turn.result, turn.after) = Action.on turn.before
      (Session.write turn.output.config.encoding
          (.ofTarget (Target.model turn.output.config name) text) >>= fun _ =>
        writeCompanions options turn.output)

/-- The texts that turns have for their models, up to the first turn that has none. The turn of a
table that is not to be skipped hands its text to the writer, and without a text it fails and leaves
everything as it was. -/
inductive Models (options : Options) : List Turn → List String → Prop
  | done : Models options [] []
  | stopped {turn : Turn} {rest : List Turn} {cause : Failure}
      (model : turn.output.model = .error cause)
      (fails : turn.output.isSkipped = false →
        turn.result = .error cause ∧ turn.after = turn.before) :
      Models options (turn :: rest) []
  | next {turn : Turn} {rest : List Turn} {text : String} {texts : List String}
      (model : turn.output.model = .ok text)
      (writes : turn.output.isSkipped = false → turn.Writes options text)
      (later : Models options rest texts) : Models options (turn :: rest) (text :: texts)

section Forced

variable {options : Options} {t : TableOutput}

theorem on_writeTable_of_force (hforce : options.force = true) (hskip : t.isSkipped = false)
    (w : Workspace) : Action.on w (writeTable options t) =
      Action.on w ((Request.model t).perform >>= fun _ => writeCompanions options t) := by
  have hmodel : writeModel options t = t.writeModel >>= fun _ => pure true := by
    rw [writeModel, hforce, hskip]
    rfl
  rw [writeTable_eq, hmodel, bind_assoc]
  exact Action.on_bind_congr (on_writeModel w t) fun _ _ => rfl

variable {turn : Turn}

/-- A forced turn of a table that is not to be skipped begins with its model. -/
theorem Turn.writes_of_force (hforce : options.force = true)
    (hturn : (turn.result, turn.after) = Action.on turn.before (writeTable options turn.output))
    (hskip : turn.output.isSkipped = false) {name text : String}
    (hname : turn.output.resolvedName = .ok name) (hmodel : turn.output.model = .ok text) :
    turn.Writes options text := by
  have hverdict : (Request.model turn.output).verdict turn.before.disk =
      .ok (.store turn.output.config.encoding
        (.ofTarget (Target.model turn.output.config name) text)) := by
    rw [Request.verdict, hmodel, ok_bind, hname]
    rfl
  refine ⟨name, hname, ?_⟩
  rw [hturn, on_writeTable_of_force hforce hskip]
  exact Action.on_bind_congr (on_perform_of_ok _ hverdict) fun _ _ => rfl

theorem Turn.fails_of_force (hforce : options.force = true)
    (hturn : (turn.result, turn.after) = Action.on turn.before (writeTable options turn.output))
    (hskip : turn.output.isSkipped = false) {cause : Failure}
    (hmodel : turn.output.model = .error cause) :
    turn.result = .error cause ∧ turn.after = turn.before := by
  have hverdict : (Request.model turn.output).verdict turn.before.disk = .error cause := by
    rw [Request.verdict, hmodel]
    rfl
  rw [on_writeTable_of_force hforce hskip,
    Action.on_bind_of_error (on_perform_of_error _ hverdict)] at hturn
  exact Prod.mk.inj hturn

end Forced

end RecordMapper.Batch

namespace RecordMapper.Command

open RecordMapper.Batch RecordMapper.Config RecordMapper.Disk RecordMapper.Output
open RecordMapper.Schema RecordMapper.Source RecordMapper.Validation RecordMapper.View

section ClassNames

variable {a : Arguments} {input : Input} {disk : Disk}

theorem length_selectTables {requested : List String} {tables selected : List Table}
    (hone : requested.length = 1) (h : selectTables requested tables = .ok selected) :
    selected.length ≤ 1 := by
  have hfilled : requested.isEmpty = false := by
    cases requested with
    | nil => cases hone
    | cons => rfl
  unfold selectTables at h
  rw [hfilled] at h
  dsimp only at h
  split at h
  next hempty => cases hempty
  next =>
    split at h
    · cases h
      exact (List.length_filterMap_le _ _).trans hone.le
    · cases h

theorem length_tables_of_load (hone : a.tables.length = 1) (h : load a disk = .ok input) :
    input.tables.length ≤ 1 := by
  obtain ⟨tables, hrequested⟩ := exists_load_of_requested h
  have hselect := (hrequested a.tables).symm.trans h
  obtain ⟨selected, hselected, hinput⟩ := map_eq_ok_iff.mp hselect
  rw [← hinput]
  exact length_selectTables hone hselected

/-- The explicit class name goes with the one selected table, and an empty one with none. -/
theorem classOf_classNames (hconsistent : a.isConsistent = true)
    (hload : load a disk = .ok input) {table : Table} (htable : table ∈ input.tables) :
    classOf input.config table (a.className.map .text) =
      classOf input.config table ((classNames a input).lookup table.name) := by
  unfold classNames
  cases hgiven : a.givenClassName with
  | none =>
    cases hname : a.className with
    | none => rfl
    | some name =>
      rw [Arguments.givenClassName, hname] at hgiven
      have hempty : name.isEmpty = true := by simpa using hgiven
      simp [classOf, Value.isGiven, hempty]
  | some name =>
    have hone : a.tables.length = 1 := by
      rw [Arguments.isConsistent, hgiven] at hconsistent
      simpa using hconsistent
    have hname : a.className = some name := (Option.filter_eq_some_iff.mp hgiven).1
    have hlength := length_tables_of_load hone hload
    rcases Nat.le_one_iff_eq_zero_or_eq_one.mp hlength with hnone | hsingle
    · rw [List.length_eq_zero_iff.mp hnone] at htable
      cases htable
    · obtain ⟨only, hselected⟩ := List.length_eq_one_iff.mp hsingle
      rw [hselected] at htable ⊢
      obtain rfl := List.mem_singleton.mp htable
      simp [hname]

theorem text_of_mem_classNames : ∀ entry ∈ classNames a input, ∃ text, entry.2 = .text text := by
  unfold classNames
  split
  · simp
  · simp

/-- Every table of loaded input has a class name, explicit or by default. -/
theorem resolvedName_of_load (hload : load a disk = .ok input) (table : Table) :
    ∃ name, (TableOutput.mk input.config table
      ((classNames a input).lookup table.name)).resolvedName = .ok name := by
  obtain ⟨document, -, hinput⟩ := bind_eq_ok_iff.mp hload
  refine resolvedName_eq_ok ?_ text_of_mem_classNames
  rw [(namesByDefault_of_inputOf hinput).className]
  exact ⟨_, rfl⟩

theorem model_congr {config : Settings} {table : Table} {explicit other : Option Value}
    (h : classOf config table explicit = classOf config table other) :
    (TableOutput.mk config table explicit).model = (TableOutput.mk config table other).model := by
  have hview : TableView.of config table explicit = TableView.of config table other := by
    unfold TableView.of
    rw [h]
  unfold TableOutput.model modelSource
  rw [hview]

end ClassNames

section Echo

variable {options : Options} {config : Settings} {className : Option Value}
  {classNames : ClassNames}

/-- What is printed for tables is what their turns have for models. -/
theorem models_echoTables (hforce : options.force = true) {tables : List Table}
    (hsame : ∀ table ∈ tables, (TableOutput.mk config table className).model =
      (TableOutput.mk config table (classNames.lookup table.name)).model)
    (hnamed : ∀ table ∈ tables, ∃ name,
      (TableOutput.mk config table (classNames.lookup table.name)).resolvedName = .ok name)
    (w : Workspace) : ∃ texts, (echoTables config className tables).1 = String.join texts ∧
      Models options (turns options config classNames tables w) texts := by
  induction tables generalizing w with
  | nil => exact ⟨[], rfl, .done⟩
  | cons table rest ih =>
    have hmodel := hsame table List.mem_cons_self
    obtain ⟨name, hname⟩ := hnamed table List.mem_cons_self
    rw [echoTables, hmodel]
    cases hmade : (TableOutput.mk config table (classNames.lookup table.name)).model with
    | error cause =>
      exact ⟨[], rfl, .stopped hmade fun hskip => Turn.fails_of_force hforce rfl hskip hmade⟩
    | ok text =>
      obtain ⟨texts, hjoin, hrest⟩ := ih
        (fun other hother => hsame other (List.mem_cons_of_mem _ hother))
        (fun other hother => hnamed other (List.mem_cons_of_mem _ hother))
        (Turn.ofTable options config classNames w table).after
      refine ⟨text :: texts, ?_, .next hmade (fun hskip => ?_) hrest⟩
      · rw [String.join_cons, ← hjoin]
      · exact Turn.writes_of_force hforce rfl hskip hname hmade

end Echo

section Forcing

variable {words : List String} {a : Arguments} {disk : Disk} {input : Input}

/-- The words of the run that writes the sources over what is there in place of printing models. -/
def forcing (words : List String) : List String := withoutSwitch .echo words ++ ["--force"]

/-- The arguments of that run. -/
def Arguments.forcing (a : Arguments) : Arguments := { a with echo := false, force := true }

theorem parse_forcing (h : Arguments.parse words = .ok a) :
    Arguments.parse (forcing words) = .ok a.forcing :=
  parse_append_switch (g := .force) (by decide) (by decide +kernel)
    (parse_withoutSwitch (g := .echo) (by decide) h) rfl

theorem generates_forcing (hparse : Arguments.parse words = .ok a)
    (hvalidateOnly : a.validateOnly = false) (hconsistent : a.isConsistent = true)
    (hload : load a disk = .ok input) : Generates (forcing words) a.forcing disk input :=
  ⟨parse_forcing hparse, hconsistent, hload, hvalidateOnly, rfl⟩

/-- An echo changes nothing and prints what the forced run over the same input hands to the writer
for the models of its tables, in their order and up to the first that has none. The models of tables
that are to be skipped are printed too, and so are models that the other run does not come to, since
its checks turn the input down or its encoding cannot be looked up. -/
theorem echo_prints_forced_models (hparse : Arguments.parse words = .ok a) (hecho : a.echo = true)
    (hvalidateOnly : a.validateOnly = false) (hconsistent : a.isConsistent = true)
    (hload : load a disk = .ok input) :
    let b := a.forcing
    let taken := turns b.options input.config (classNames b input) input.tables ⟨disk, .empty⟩
    (∃ outcome texts, Command.run words disk = (.ok outcome, disk) ∧
      outcome.stdout = String.join texts ∧ Models b.options taken texts) ∧
    Generates (forcing words) b disk input ∧ b.force = true ∧
    (Text.hasNul input.config.encoding = false →
      ∃ checkup run written, check input.tables input.config = .ok checkup ∧
        Run.perform b.options input.tables input.config (classNames b input) disk =
          (.ok run, written) ∧
        (b.noStrict = true ∨ ¬Rejects b.options checkup.report →
          Processed b.options input.tables input.config (classNames b input) disk run written)) ∧
    (Text.hasNul input.config.encoding = true →
      Command.run (forcing words) disk = (.error .nulInName, disk)) := by
  intro b taken
  have hgenerates := generates_forcing hparse hvalidateOnly hconsistent hload
  refine ⟨?_, hgenerates, rfl, fun hnul => ?_, run_of_nul hgenerates⟩
  · obtain ⟨text, hrun⟩ := run_of_load hparse hconsistent hload
    have hmode : runMode a input disk = (.ok (runEcho a input), disk) := by
      unfold runMode
      rw [hvalidateOnly, hecho]
      rfl
    have hstdout : (runEcho a input).stdout =
        (echoTables input.config (a.className.map .text) input.tables).1 := by
      unfold runEcho
      rcases echoTables input.config (a.className.map .text) input.tables with ⟨text, _ | failure⟩
      · rfl
      · rfl
    have hforce : b.options.force = true := rfl
    obtain ⟨texts, hjoin, hmodels⟩ := models_echoTables hforce
      (fun table htable => model_congr (classOf_classNames hconsistent hload htable))
      (fun table _ => resolvedName_of_load hload table) ⟨disk, .empty⟩
    rw [hrun, hmode]
    exact ⟨_, texts, rfl, hstdout.trans hjoin, hmodels⟩
  · obtain ⟨checkup, hcheck⟩ := check_of_load hload hnul
    obtain ⟨run, written, hperform, -, -, -, hprocessed⟩ := exists_perform b disk hcheck
    exact ⟨checkup, run, written, hcheck, hperform, hprocessed⟩

end Forcing

namespace Sample

/-- Arguments of an echo that also ask for a manifest. -/
def echoing : Arguments :=
  { Arguments.initial with input := some "in.yaml", echo := true, manifest := some "log.json" }

theorem summary_echoing :
    summary? echoing staffed = some (["emp", "dept"], ["dept"], some (false, false)) := by
  have hload : load echoing staffed = load carefulArguments staffed :=
    load_congr rfl rfl rfl staffed
  exact (summary_congr hload).trans summary_staffed

end Sample

/-- The models of both tables are printed, though one of them is to be skipped. -/
theorem echo_prints_forced_models_of_staffed :
    let words := ["-i", "in.yaml", "--echo", "--manifest", "log.json"]
    forcing words = ["-i", "in.yaml", "--manifest", "log.json", "--force"] ∧
      ∃ input outcome texts, Generates (forcing words) Sample.echoing.forcing Sample.staffed input ∧
        input.tables.map Table.name = ["emp", "dept"] ∧ input.config.skipNames = ["dept"] ∧
        Command.run words Sample.staffed = (.ok outcome, Sample.staffed) ∧
        outcome.stdout = String.join texts ∧
        Models Sample.echoing.forcing.options
          (turns Sample.echoing.forcing.options input.config (classNames Sample.echoing input)
            input.tables ⟨Sample.staffed, .empty⟩) texts ∧
        ∃ run written, Run.perform Sample.echoing.forcing.options input.tables input.config
          (classNames Sample.echoing input) Sample.staffed = (.ok run, written) ∧
          Processed Sample.echoing.forcing.options input.tables input.config
            (classNames Sample.echoing input) Sample.staffed run written := by
  intro words
  obtain ⟨input, checkup, hload, hnames, hskips, hcheck, herrors, hwarnings⟩ :=
    Sample.exists_checkup_of_summary Sample.summary_echoing
  have hparse : Arguments.parse words = .ok Sample.echoing := by decide +kernel
  obtain ⟨⟨outcome, texts, hrun, hstdout, hmodels⟩, hgenerates, -, hforced, -⟩ :=
    echo_prints_forced_models hparse rfl rfl rfl hload
  obtain ⟨-, -, hnul, -⟩ := check_eq_ok_iff.mp hcheck
  obtain ⟨again, run, written, hagain, hperform, hprocessed⟩ := hforced hnul
  obtain rfl := Except.ok.inj (hcheck.symm.trans hagain)
  have hpasses : ¬Rejects Sample.echoing.forcing.options checkup.report := by
    simp [Rejects, herrors, hwarnings]
  exact ⟨by decide +kernel, input, outcome, texts, hgenerates, hnames, hskips, hrun, hstdout,
    hmodels, run, written, hperform, hprocessed (.inr hpasses)⟩

end RecordMapper.Command
