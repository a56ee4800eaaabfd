import RecordMapper.Proofs.Batch.Segments
import RecordMapper.Proofs.Output.Places

/-!
# Runs with force

A strict run with force that succeeds has checked that all its targets have places of their own, so
nothing that it writes is written over. Afterwards the wanted sources of every table are there, and
all other files are as they were.
-/
namespace RecordMapper.Batch

open RecordMapper.Config RecordMapper.Disk RecordMapper.Naming RecordMapper.Output
open RecordMapper.Schema RecordMapper.Source RecordMapper.Text RecordMapper.Validation

/-- The artefacts that are asked for and can be made. -/
def wanted (options : Options) (config : Settings) : List Artefact :=
  (artefacts options).filter fun a => a ≠ .spec || (framework? config).isSome

/-- A table with its class name from the policy. -/
def outputOf (config : Settings) (table : Table) : TableOutput := ⟨config, table, none⟩

def classNameOf (config : Settings) (table : Table) : String :=
  (config.className table.name).display

theorem requests_of_force {options : Options} (hforce : options.force = true) (t : TableOutput)
    (name : String) (d : Disk) :
    requests options t name d =
      if t.isSkipped then
        [.skipped (Target.model t.config name).qualifiedName (Target.model t.config name).path]
      else (artefacts options).map (Artefact.request true t) := by
  rw [requests, hforce]
  cases t.isSkipped <;> rfl

theorem Turn.result_eq_ok {turn : Turn} (h : turn.failure? = none) : turn.result = .ok () := by
  unfold Turn.failure? at h
  split at h
  · assumption
  · cases h

/-- A forced run in which no table fails is one row of requests. -/
theorem row_turns_of_force {options : Options} (hforce : options.force = true) {config : Settings}
    {tables : List Table}
    (hnamed : ∀ table ∈ tables,
      (outputOf config table).resolvedName = .ok (classNameOf config table))
    (disk : Disk) {w : Workspace}
    (hnone : (turns options config [] tables w).filterMap Turn.failure? = []) :
    ∃ events, Row (tables.flatMap fun table =>
        requests options (outputOf config table) (classNameOf config table) disk) w events (.ok ())
      (leftBy w (turns options config [] tables w)) := by
  induction tables generalizing w with
  | nil => exact ⟨[], .done w⟩
  | cons table rest ih =>
    obtain ⟨events, hrow⟩ :=
      row_writeTable options w (hnamed table (List.mem_cons_self ..))
    rw [requests_of_force hforce, ← requests_of_force hforce _ _ disk] at hrow
    have hall := List.filterMap_eq_nil_iff.mp hnone
    have hok : (Action.on w (writeTable options (outputOf config table))).1 = .ok () :=
      Turn.result_eq_ok (hall (Turn.ofTable options config [] w table) (List.mem_cons_self ..))
    rw [hok] at hrow
    obtain ⟨later, hlater⟩ := ih (fun other hother => hnamed other (List.mem_cons_of_mem _ hother))
      (List.filterMap_eq_nil_iff.mpr fun turn hturn => hall turn (List.mem_cons_of_mem _ hturn))
    exact ⟨events ++ later, hrow.append hlater⟩

section

variable {options : Options} {config : Settings} {tables : List Table} {disk : Disk}

/-- A run that lists no validation errors has none, and no warnings that count. -/
theorem passes_of_validationErrors {run : Run}
    (hcount : run.warningsCount = Run.failsOnWarnings options run.checkup.report)
    (h : (run.report []).validationErrors = []) :
    run.checkup.report.hasErrors = false ∧ Run.passes options run.checkup.report = true := by
  obtain ⟨hlines, hwarnings⟩ := List.append_eq_nil_iff.mp h
  have hvalid : run.checkup.report.hasErrors = false := by
    rw [Validation.Report.hasErrors, List.map_eq_nil_iff.mp hlines]
    rfl
  have hfails : Run.failsOnWarnings options run.checkup.report = false := by
    rw [← hcount]
    cases hcase : run.warningsCount with
    | false => rfl
    | true =>
      rw [hcase] at hwarnings
      cases hwarnings
  exact ⟨hvalid, by rw [Run.passes, hvalid, hfails]; rfl⟩

/-- A run that lists neither generation errors nor write errors has no failures. -/
theorem failures_of_no_lines {run : Run} {generation : Generation}
    (hrun : run.generation = some generation) (hgeneration : (run.report []).generationErrors = [])
    (hwrite : (run.report []).writeErrors = []) : generation.failures = [] := by
  have hlines (which : TableFailure → Bool) (h : run.failureLines which = []) :
      ∀ failure ∈ generation.failures, which failure = false := by
    rw [Run.failureLines, hrun] at h
    have hnone := List.filter_eq_nil_iff.mp (List.map_eq_nil_iff.mp h)
    exact fun failure hmem => by simpa using hnone failure hmem
  refine List.eq_nil_iff_forall_not_mem.mpr fun failure hmem => ?_
  have hother := hlines _ hgeneration failure hmem
  rw [hlines _ hwrite failure hmem] at hother
  cases hother

/-- What a run that succeeds has shown: the input is free of errors, and no table failed. -/
theorem check_of_success {run : Run} {after : Disk}
    (hrun : Run.perform options tables config [] disk = (.ok run, after))
    (hsuccess : (run.report []).success = true) :
    NamedApart config tables ∧ ErrorFree (checkPackage config.package) ∧
      writeTables options config [] tables ⟨disk, .empty⟩ = ([], ⟨after, run.log⟩) := by
  have hclean : (run.report []).isClean = true := hsuccess
  simp only [Report.isClean, Bool.and_eq_true, List.isEmpty_iff] at hclean
  obtain ⟨⟨⟨-, hvalidation⟩, hgeneration⟩, hwrite⟩ := hclean
  cases hcheck : check tables config with
  | error failure =>
    rw [Run.perform, hcheck] at hrun
    cases hrun
  | ok checkup =>
    have hsame : run.checkup = checkup ∧
        run.warningsCount = Run.failsOnWarnings options checkup.report := by
      rw [Run.perform, hcheck] at hrun
      dsimp only at hrun
      split at hrun <;> cases hrun <;> exact ⟨rfl, rfl⟩
    obtain ⟨rfl, hcount⟩ := hsame
    obtain ⟨hvalid, hpasses⟩ := passes_of_validationErrors hcount hvalidation
    obtain ⟨hnames, hpackage⟩ := names_of_check hcheck hvalid
    have hgenerated : ∃ generation, run.generation = some generation := by
      rw [Run.perform, hcheck] at hrun
      simp only [hpasses, Bool.true_or, if_true, Prod.mk.injEq, Except.ok.injEq] at hrun
      rw [← hrun.1]
      exact ⟨_, rfl⟩
    obtain ⟨generation, hsome⟩ := hgenerated
    obtain ⟨-, hwritten⟩ := writeTables_of_perform hrun hsome
    rw [failures_of_no_lines hsome hgeneration hwrite] at hwritten
    exact ⟨hnames, hpackage, hwritten⟩

theorem resolvedName_outputOf {table : Table} {name : String}
    (h : config.className table.name = .text name) :
    (outputOf config table).resolvedName = .ok (classNameOf config table) := by
  rw [classNameOf, h, outputOf, TableOutput.resolvedName]
  show Policy.name (config.className table.name) = _
  rw [h]
  rfl

theorem isPlainIdentifier_classNameOf (hnames : NamedApart config tables) {table : Table}
    (htable : table ∈ tables) :
    config.className table.name = .text (classNameOf config table) ∧
      isPlainIdentifier (classNameOf config table) = true := by
  obtain ⟨name, hname, hplain⟩ := hnames.named table htable
  have hsame : classNameOf config table = name := by rw [classNameOf, hname]; rfl
  rw [hsame]
  exact ⟨hname, hplain⟩

theorem nodup_artefacts (options : Options) : (artefacts options).Nodup := by
  rw [artefacts, companions]
  cases options.withSpecs <;> cases options.withArbitraries <;> decide

/-- The requests of a forced run are about places of their own. -/
theorem apart_requests (hforce : options.force = true) (hnames : NamedApart config tables)
    (hpackage : ErrorFree (checkPackage config.package))
    (hdirs : disk.placeOf (Path.ofString config.sourceDir) ≠
      disk.placeOf (Path.ofString config.testDir)) :
    (tables.flatMap fun table =>
      requests options (outputOf config table) (classNameOf config table) disk).Pairwise
        (Apart disk) := by
  have hnamed {table : Table} (htable : table ∈ tables) :=
    resolvedName_outputOf (isPlainIdentifier_classNameOf hnames htable).1
  have hplain {table : Table} (htable : table ∈ tables) :=
    (isPlainIdentifier_classNameOf hnames htable).2
  -- Within a table the kinds of artefacts differ, between tables the class names do.
  refine List.pairwise_flatMap.mpr ⟨fun table htable => ?_, ?_⟩
  · rw [requests_of_force hforce]
    split
    · exact List.pairwise_singleton _ _
    · refine List.pairwise_map.mpr ((nodup_artefacts options).imp fun {a b} hne p q hp hq heq => ?_)
      rw [Artefact.destination_request (hnamed htable)] at hp hq
      cases hp
      cases hq
      exact hne (eq_of_placeOf_target_eq hpackage hdirs (hplain htable) (hplain htable) heq).1
  · refine (List.pairwise_map.mp hnames.nodup).imp_of_mem
      fun {first second} hfirst hsecond hne r hr s hs p q hp hq heq => hne ?_
    obtain ⟨a, ha⟩ := destination_of_mem_requests (hnamed hfirst) hr
    obtain ⟨b, hb⟩ := destination_of_mem_requests (hnamed hsecond) hs
    rw [ha] at hp
    rw [hb] at hq
    cases hp
    cases hq
    have hname := (eq_of_placeOf_target_eq hpackage hdirs (hplain hfirst) (hplain hsecond) heq).2
    refine hnames.injective first hfirst second hsecond ?_
    rw [(isPlainIdentifier_classNameOf hnames hfirst).1,
      (isPlainIdentifier_classNameOf hnames hsecond).1, hname]

/-- An event of a new file tells of a wanted artefact of a table that is not skipped. -/
theorem wanted_of_created (hforce : options.force = true) {t : TableOutput} {name : String}
    (hname : t.resolvedName = .ok name) {r : Request} (hr : r ∈ requests options t name disk)
    {w after : Workspace} {event : Event} (h : Action.on w r.perform = (.ok event, after))
    (hcreated : event.outcome = .created) :
    t.isSkipped = false ∧
      ∃ a ∈ wanted options t.config, event.path = (a.target t.config name).path := by
  rw [requests_of_force hforce] at hr
  split at hr
  · cases List.mem_singleton.mp hr
    have houtcome := (admits_skipped _ h).2.2
    rw [hcreated] at houtcome
    cases List.mem_singleton.mp houtcome
  · rename_i hskip
    obtain ⟨a, ha, rfl⟩ := List.mem_map.mp hr
    rw [← hforce] at h
    obtain ⟨-, hpath, houtcome⟩ := admits_request hname (fun _ => hforce) h
    refine ⟨by simpa using hskip, a, List.mem_filter.mpr ⟨ha, ?_⟩, hpath⟩
    cases a with
    | model => rfl
    | arbitrary => rfl
    | spec =>
      rw [hcreated] at houtcome
      cases hframework : framework? t.config with
      | some framework => rfl
      | none =>
        simp only [slotOf, Artefact.outcomes, hframework] at houtcome
        cases List.mem_singleton.mp houtcome

/-- The request of a wanted artefact ends in a new file. -/
theorem created_of_wanted {t : TableOutput} {a : Artefact}
    (ha : a ∈ wanted options t.config) {w after : Workspace} {event : Event}
    (h : Action.on w (a.request true t).perform = (.ok event, after)) :
    event.outcome = .created := by
  have houtcome := Artefact.outcome_mem_outcomes (fun _ => rfl) h
  obtain ⟨-, hmade⟩ := List.mem_filter.mp ha
  cases a with
  | model => exact List.mem_singleton.mp houtcome
  | arbitrary => exact List.mem_singleton.mp houtcome
  | spec =>
    obtain ⟨framework, hframework⟩ := Option.isSome_iff_exists.mp hmade
    rw [Artefact.outcomes, hframework] at houtcome
    exact List.mem_singleton.mp houtcome

end

/-- What a successful run with force leaves, if models and tests have directories of their own: the
wanted artefacts of all tables that are not skipped, each with its source in the configured
encoding, and everywhere else the files that were there. In particular nothing becomes of the files
of a skipped table. -/
theorem forced_run_files {options : Options} {config : Settings} {tables : List Table}
    {disk after : Disk} {run : Run} (hforce : options.force = true)
    (hdirs : disk.placeOf (Path.ofString config.sourceDir) ≠
      disk.placeOf (Path.ofString config.testDir))
    (hrun : Run.perform options tables config [] disk = (.ok run, after))
    (hsuccess : (run.report []).success = true) :
    (∀ table ∈ tables, config.skips table.name = false → ∀ a ∈ wanted options config,
      ∃ text content, a.source (outputOf config table) = .ok (some text) ∧
        Encoding.encodeNamed disk.codePages config.encoding text = .ok content ∧
        after.content? (a.target config (classNameOf config table)).path = some content) ∧
    (∀ location, (∀ table ∈ tables, config.skips table.name = false → ∀ a ∈ wanted options config,
        location ≠ disk.placeOf (a.target config (classNameOf config table)).path) →
      after.fileAt location = disk.fileAt location) ∧
    ∀ table ∈ tables, config.skips table.name = true → ∀ a : Artefact,
      after.fileAt (disk.placeOf (a.target config (classNameOf config table)).path) =
        disk.fileAt (disk.placeOf (a.target config (classNameOf config table)).path) := by
  obtain ⟨hnames, hpackage, hwritten⟩ := check_of_success hrun hsuccess
  have hnamed : ∀ table ∈ tables,
      (outputOf config table).resolvedName = .ok (classNameOf config table) :=
    fun table htable => resolvedName_outputOf (isPlainIdentifier_classNameOf hnames htable).1
  rw [writeTables_eq] at hwritten
  obtain ⟨hnone, hleft⟩ := Prod.mk.inj hwritten
  obtain ⟨events, hrow⟩ := row_turns_of_force hforce hnamed disk hnone
  rw [hleft] at hrow
  have hframe : ∀ location, (∀ table ∈ tables, config.skips table.name = false →
      ∀ a ∈ wanted options config,
        location ≠ disk.placeOf (a.target config (classNameOf config table)).path) →
      after.fileAt location = disk.fileAt location := by
    intro location hout
    refine hrow.fileAt_eq fun event hevent hcreated => ?_
    obtain ⟨r, hr, before, between, hperform⟩ := hrow.perform_of_mem_events hevent
    obtain ⟨table, htable, hr⟩ := List.mem_flatMap.mp hr
    obtain ⟨hskip, a, ha, hpath⟩ :=
      wanted_of_created hforce (hnamed table htable) hr hperform hcreated
    rw [hpath]
    exact hout table htable hskip a ha
  refine ⟨fun table htable hskip a ha => ?_, hframe, fun table htable hskip a => ?_⟩
  · have hrequest : a.request true (outputOf config table) ∈ tables.flatMap fun table =>
        requests options (outputOf config table) (classNameOf config table) disk := by
      refine List.mem_flatMap.mpr ⟨table, htable, ?_⟩
      have hwanted : (outputOf config table).isSkipped = false := hskip
      rw [requests_of_force hforce, hwanted]
      exact List.mem_map_of_mem (List.mem_filter.mp ha).1
    obtain ⟨before, between, event, hperform, hcontent⟩ :=
      hrow.content?_eq (apart_requests hforce hnames hpackage hdirs) hrequest
    obtain ⟨content, hbytes, hfound⟩ :=
      hcontent (created_of_wanted (t := outputOf config table) ha hperform)
    obtain ⟨text, htext, hcode⟩ := Artefact.source_of_bytes hbytes
    have hpath : event.path = (a.target config (classNameOf config table)).path := by
      have hevent := (records_perform hperform).destination_eq
      rw [Artefact.destination_request (hnamed table htable)] at hevent
      exact (Prod.mk.inj (Except.ok.inj hevent)).2.symm
    exact ⟨text, content, htext, hcode, hpath ▸ hfound⟩
  · refine hframe _ fun other hother hwanted b _ heq => ?_
    have hname := (eq_of_placeOf_target_eq hpackage hdirs
      (isPlainIdentifier_classNameOf hnames htable).2
      (isPlainIdentifier_classNameOf hnames hother).2 heq).2
    have hsame : table.name = other.name := by
      refine hnames.injective table htable other hother ?_
      rw [(isPlainIdentifier_classNameOf hnames htable).1,
        (isPlainIdentifier_classNameOf hnames hother).1, hname]
    rw [hsame, hwanted] at hskip
    cases hskip

namespace Sample

/-- A disk with models of two tables and a file of its own. -/
def modelled : Disk where
  entries := [(["Emp.scala", "models", "scala", "main", "src"], .file [107]),
    (["Dept.scala", "models", "scala", "main", "src"], .file [100]),
    (["models", "scala", "main", "src"], .directory), (["scala", "main", "src"], .directory),
    (["main", "src"], .directory), (["notes", "src"], .file [110]), (["src"], .directory)]
  here := []

end Sample

/-- A forced run puts the new model of one table at its place and leaves the old model of the table
that is to be skipped, and the file that no table has to do with. -/
theorem forced_run_files_of_modelled :
    ∃ run after, Run.perform ⟨true, true, true, true, false⟩ [Sample.emp, Sample.dept]
        Sample.skipping [] Sample.modelled = (.ok run, after) ∧
      (∃ text content,
        Artefact.model.source (outputOf Sample.skipping Sample.emp) = .ok (some text) ∧
        Encoding.encodeNamed .none "UTF-8" text = .ok content ∧
        after.content? (Target.model Sample.skipping "Emp").path = some content) ∧
      after.fileAt ["Dept.scala", "models", "scala", "main", "src"] = some [100] ∧
      after.fileAt ["notes", "src"] = some [110] := by
  have hsuccess : ((Run.perform ⟨true, true, true, true, false⟩ [Sample.emp, Sample.dept]
      Sample.skipping [] Sample.modelled).1.toOption.map fun run => (run.report []).success) =
      some true := by decide +kernel
  rcases hrun : Run.perform ⟨true, true, true, true, false⟩ [Sample.emp, Sample.dept]
    Sample.skipping [] Sample.modelled with ⟨failure | run, after⟩
  · rw [hrun] at hsuccess
    cases hsuccess
  · rw [hrun] at hsuccess
    have hreported : (run.report []).success = true := Option.some.inj hsuccess
    have hdirs : Sample.modelled.placeOf (Path.ofString Sample.skipping.sourceDir) ≠
        Sample.modelled.placeOf (Path.ofString Sample.skipping.testDir) := by decide +kernel
    obtain ⟨hwritten, hframe, hskipped⟩ := forced_run_files rfl hdirs hrun hreported
    refine ⟨run, after, rfl, ?_, ?_, (hframe _ ?_).trans (by decide +kernel)⟩
    · exact hwritten Sample.emp (by decide) (by decide +kernel) .model (by decide +kernel)
    · exact (hskipped Sample.dept (by decide) (by decide +kernel) .model).trans (by decide +kernel)
    · intro table htable hskip a ha
      rcases List.mem_pair.mp htable with rfl | rfl
      · revert ha
        cases a <;> decide +kernel
      · exact absurd hskip (by decide +kernel)

end RecordMapper.Batch
