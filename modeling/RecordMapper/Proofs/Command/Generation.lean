import RecordMapper.Proofs.Batch.Segments
import RecordMapper.Proofs.Command.Loading
import RecordMapper.Proofs.Disk.Replacement

/-!
# Generating runs

How a run that writes sources ends. The checks of its input decide whether any table has its turn,
and the exit code is that of the first of three kinds of fault that there is: faults of the input,
of storage, and of generation.
-/
namespace RecordMapper.Batch

open RecordMapper.Config RecordMapper.Disk RecordMapper.Output RecordMapper.Schema
open RecordMapper.Validation

/-- The checks turn the input down. -/
def Rejects (options : Options) (r : Validation.Report) : Prop :=
  r.hasErrors = true ∨ options.failOnWarnings = true ∧ r.hasWarnings = true

theorem passes_eq_false_iff {options : Options} {r : Validation.Report} :
    Run.passes options r = false ↔ Rejects options r := by
  simp only [Run.passes, Run.failsOnWarnings, Rejects]
  cases r.hasErrors <;> cases r.hasWarnings <;> cases options.failOnWarnings <;> decide

/-- The turn ended in a failure, of storage or of anything else. -/
def Turn.Fails (turn : Turn) (isStorage : Bool) : Prop :=
  ∃ cause, turn.result = .error cause ∧ cause.kind.isStorage = isStorage

section

variable (options : Options) (tables : List Table) (config : Settings) (classNames : ClassNames)
  (disk : Disk)

/-- No table had its turn. -/
structure Stopped (run : Run) (written : Disk) : Prop where
  generation_eq : run.generation = none
  log_eq : run.log = .empty
  written_eq : written = disk

/-- Every table had its turn, and the run tells and leaves what the turns did. -/
structure Processed (run : Run) (written : Disk) : Prop where
  tables_eq : (turns options config classNames tables ⟨disk, .empty⟩).map
    (fun turn => turn.output.table) = tables
  generation_eq : run.generation = some ⟨tables.length,
    (turns options config classNames tables ⟨disk, .empty⟩).filterMap Turn.failure?⟩
  left_eq : leftBy ⟨disk, .empty⟩ (turns options config classNames tables ⟨disk, .empty⟩) =
    ⟨written, run.log⟩

variable {tables config}

/-- A run over input that can be checked stops where strict checks turn the input down, and
processes every table otherwise. -/
theorem perform_of_check {checkup : Checkup} (hcheck : check tables config = .ok checkup) :
    ∃ run written, Run.perform options tables config classNames disk = (.ok run, written) ∧
      run.checkup = checkup ∧
      run.warningsCount = Run.failsOnWarnings options checkup.report ∧
      (Rejects options checkup.report → options.strict = true → Stopped disk run written) ∧
      (¬Rejects options checkup.report ∨ options.strict = false →
        Processed options tables config classNames disk run written) := by
  unfold Run.perform
  rw [hcheck]
  dsimp only
  split
  next hgo =>
    refine ⟨_, _, rfl, rfl, rfl, ?_, fun _ => ?_⟩
    · intro hrejects hstrict
      rw [passes_eq_false_iff.mpr hrejects, hstrict] at hgo
      cases hgo
    · rw [writeTables_eq]
      exact ⟨map_table_turns options config classNames tables _, rfl, rfl⟩
  next hstop =>
    refine ⟨_, _, rfl, rfl, rfl, fun _ _ => ⟨rfl, rfl, rfl⟩, ?_⟩
    intro hprocess
    rw [← passes_eq_false_iff, Bool.not_eq_false] at hprocess
    rcases hprocess with hpasses | hstrict
    · simp [hpasses] at hstop
    · simp [hstrict] at hstop

end

section Failures

theorem exists_failure_iff {taken : List Turn} {isStorage : Bool} :
    (∃ f ∈ taken.filterMap Turn.failure?, f.isStorage = isStorage) ↔
      ∃ turn ∈ taken, turn.Fails isStorage := by
  constructor
  · rintro ⟨f, hf, hkind⟩
    obtain ⟨turn, hturn, hfailure⟩ := List.mem_filterMap.mp hf
    unfold Turn.failure? at hfailure
    split at hfailure
    · cases hfailure
    next cause hcause =>
      cases hfailure
      exact ⟨turn, hturn, cause, hcause, hkind⟩
  · rintro ⟨turn, hturn, cause, hcause, hkind⟩
    refine ⟨⟨turn.output.table.name, cause⟩, List.mem_filterMap.mpr ⟨turn, hturn, ?_⟩, hkind⟩
    simp only [Turn.failure?, hcause]

theorem failureLines_nonempty_iff {run : Run} {g : Generation} (h : run.generation = some g)
    (which : TableFailure → Bool) :
    (run.failureLines which).isEmpty = false ↔ ∃ f ∈ g.failures, which f = true := by
  simp [Run.failureLines, h]

theorem validationErrors_isEmpty (run : Run) : (run.report []).validationErrors.isEmpty =
    !(run.checkup.report.hasErrors || run.warningsCount) := by
  have hfields : (run.report []).validationErrors =
      run.checkup.report.errors.map Validation.Finding.line ++
        (if run.warningsCount then ["Warnings treated as errors (fail_on_warnings)."] else []) :=
    rfl
  rw [hfields, Validation.Report.hasErrors]
  cases run.checkup.report.errors <;> cases run.warningsCount <;> rfl

end Failures

end RecordMapper.Batch

namespace RecordMapper.Command

open RecordMapper.Batch RecordMapper.Config RecordMapper.Disk RecordMapper.Output
open RecordMapper.Schema RecordMapper.Validation

/-- The exit code of a generating run, by whether its input was turned down and by the turns of its
tables. -/
structure Concludes (rejected : Prop) (taken : List Turn) (exit : Nat) : Prop where
  validation : exit = Exit.validation ↔ rejected
  write : ¬rejected → (∃ turn ∈ taken, turn.Fails true) → exit = Exit.write
  generation : ¬rejected → (∀ turn ∈ taken, ¬turn.Fails true) →
    (∃ turn ∈ taken, turn.Fails false) → exit = Exit.generation
  success : ¬rejected → (∀ turn ∈ taken, turn.result = .ok ()) → exit = Exit.success

section Exits

/-- Faults of the input come before those of storage, and these before all others. -/
theorem exitOf_report (run : Run) : exitOf (run.report []) =
    if run.checkup.report.hasErrors || run.warningsCount then Exit.validation
    else if !(run.failureLines TableFailure.isStorage).isEmpty then Exit.write
    else if !(run.failureLines fun f => !f.isStorage).isEmpty then Exit.generation
    else Exit.success := by
  have hclean : (run.report []).success = (true && (run.report []).validationErrors.isEmpty &&
      (run.failureLines fun f => !f.isStorage).isEmpty &&
      (run.failureLines TableFailure.isStorage).isEmpty) := rfl
  have hstorage : (run.report []).writeErrors = run.failureLines TableFailure.isStorage := rfl
  rw [exitOf, hclean, hstorage, validationErrors_isEmpty]
  cases run.checkup.report.hasErrors || run.warningsCount <;>
    cases (run.failureLines TableFailure.isStorage).isEmpty <;>
    cases (run.failureLines fun f => !f.isStorage).isEmpty <;> rfl

variable {options : Options} {checkup : Checkup} {run : Run}

theorem rejected_iff (hcheckup : run.checkup = checkup)
    (hwarnings : run.warningsCount = Run.failsOnWarnings options checkup.report) :
    (run.checkup.report.hasErrors || run.warningsCount) = true ↔
      Rejects options checkup.report := by
  rw [hcheckup, hwarnings, Run.failsOnWarnings, Rejects]
  cases checkup.report.hasErrors <;> cases checkup.report.hasWarnings <;>
    cases options.failOnWarnings <;> decide

/-- The exit code of a run that processes every table when its input is not turned down. -/
theorem concludes_of_processed {tables : List Table} {config : Settings}
    {classNames : ClassNames} {disk written : Disk} (hcheckup : run.checkup = checkup)
    (hwarnings : run.warningsCount = Run.failsOnWarnings options checkup.report)
    (hprocessed : ¬Rejects options checkup.report →
      Processed options tables config classNames disk run written) :
    Concludes (Rejects options checkup.report)
      (turns options config classNames tables ⟨disk, .empty⟩) (exitOf (run.report [])) := by
  have hrejected := rejected_iff hcheckup hwarnings
  have hstorage (hnot : ¬Rejects options checkup.report) :
      (run.failureLines TableFailure.isStorage).isEmpty = false ↔
        ∃ turn ∈ turns options config classNames tables ⟨disk, .empty⟩, turn.Fails true := by
    rw [← exists_failure_iff]
    exact failureLines_nonempty_iff (hprocessed hnot).generation_eq _
  have hother (hnot : ¬Rejects options checkup.report) :
      (run.failureLines fun f => !f.isStorage).isEmpty = false ↔
        ∃ turn ∈ turns options config classNames tables ⟨disk, .empty⟩, turn.Fails false := by
    rw [← exists_failure_iff, failureLines_nonempty_iff (hprocessed hnot).generation_eq]
    simp only [Bool.not_eq_true']
  rw [exitOf_report]
  refine ⟨?_, fun hnot hfails => ?_, fun hnot hstored hfails => ?_, fun hnot hok => ?_⟩
  · rw [← hrejected]
    split
    next h => exact iff_of_true rfl h
    next h =>
      refine iff_of_false ?_ h
      split
      · decide
      · split <;> decide
  · rw [if_neg (mt hrejected.mp hnot), (hstorage hnot).mpr hfails]
    rfl
  · rw [if_neg (mt hrejected.mp hnot), (hother hnot).mpr hfails]
    have hnone : (run.failureLines TableFailure.isStorage).isEmpty = true := by
      rw [← Bool.not_eq_false, hstorage hnot]
      rintro ⟨turn, hturn, hstorage⟩
      exact hstored turn hturn hstorage
    rw [hnone]
    rfl
  · have hfine {isStorage : Bool} : ¬∃ turn ∈ turns options config classNames tables
        ⟨disk, .empty⟩, turn.Fails isStorage := by
      rintro ⟨turn, hturn, cause, hcause, -⟩
      rw [hok turn hturn] at hcause
      cases hcause
    rw [if_neg (mt hrejected.mp hnot)]
    have hnone := mt (hstorage hnot).mp hfine
    have hno := mt (hother hnot).mp hfine
    rw [Bool.not_eq_false] at hnone hno
    rw [hnone, hno]
    rfl

end Exits

section Manifest

variable {a : Arguments} {disk after : Disk}

/-- The disks differ at most in the manifest and in new directories above it. -/
structure ManifestOnly (a : Arguments) (disk after : Disk) : Prop where
  here_eq : after.here = disk.here
  codePages_eq : after.codePages = disk.codePages
  nodeAt_eq_or : ∀ location, after.nodeAt location = disk.nodeAt location ∨
    ∃ name, a.manifest = some name ∧ name ≠ "" ∧
      (location = disk.placeOf (Path.ofString name) ∨
        disk.OnWay (Path.ofString name).parent location ∧ disk.nodeAt location = none ∧
          after.nodeAt location = some .directory)

theorem ManifestOnly.refl (a : Arguments) (disk : Disk) : ManifestOnly a disk disk :=
  ⟨rfl, rfl, fun _ => .inl rfl⟩

theorem manifestOnly_of_written {name text : String} {result : Except Failure Nat}
    (hname : a.manifest = some name) (hfilled : name ≠ "")
    (h : Written "utf-8" (Path.ofString name) text disk (result, after)) :
    ManifestOnly a disk after := by
  cases h with
  | failed grown =>
    refine ⟨grown.here_eq, grown.codePages_eq, fun location => ?_⟩
    rcases grown.nodeAt_eq_or location with heq | hnew
    · exact .inl heq
    · exact .inr ⟨name, hname, hfilled, .inr hnew⟩
  | stored encoded stored =>
    refine ⟨stored.keeps.here_eq, stored.keeps.codePages_eq, fun location => ?_⟩
    obtain ⟨base, hgrown, -, -, rfl⟩ := stored.exists_grown
    by_cases hplace : location = disk.placeOf (Path.ofString name)
    · exact .inr ⟨name, hname, hfilled, .inl hplace⟩
    · rw [nodeAt_put_of_ne hplace]
      rcases hgrown.nodeAt_eq_or location with heq | hnew
      · exact .inl heq
      · exact .inr ⟨name, hname, hfilled, .inr hnew⟩

/-- Writing the manifest changes nothing else, whether it succeeds or fails. -/
theorem manifestOnly_writeManifest (a : Arguments) (log : Log) (disk : Disk) :
    ManifestOnly a disk ((writeManifest a log).on disk).2 := by
  unfold writeManifest
  split
  · exact .refl a disk
  next name hname =>
    obtain ⟨hmanifest, hfilled⟩ := Option.filter_eq_some_iff.mp hname
    have hwritten := written_writeText "utf-8" (Path.ofString name) (log.manifest (some 2)) disk
    have hname : name ≠ "" := by simpa using hfilled
    rw [Change.on, Action.on_bind]
    generalize Action.on disk (writeText "utf-8" (Path.ofString name) (log.manifest (some 2))) = out
      at hwritten
    obtain ⟨_ | _, e⟩ := out
    · exact manifestOnly_of_written hmanifest hname hwritten
    · exact manifestOnly_of_written hmanifest hname hwritten

end Manifest

section Runs

variable {words : List String} {a : Arguments} {disk after : Disk} {input : Input}

/-- Words of a run that loads its input and is asked for sources. -/
structure Generates (words : List String) (a : Arguments) (disk : Disk) (input : Input) : Prop where
  parse_eq : Arguments.parse words = .ok a
  isConsistent : a.isConsistent = true
  load_eq : load a disk = .ok input
  validateOnly_eq : a.validateOnly = false
  echo_eq : a.echo = false

theorem Generates.runMode_eq (h : Generates words a disk input) :
    runMode a input disk = runGeneration a input disk := by
  unfold runMode
  rw [h.validateOnly_eq, h.echo_eq]
  rfl

/-- The run over input whose checks are possible, by whether they turn it down and are strict. -/
theorem exists_perform (a : Arguments) {checkup : Checkup} (disk : Disk)
    (hcheck : check input.tables input.config = .ok checkup) :
    ∃ run written, Run.perform a.options input.tables input.config (classNames a input) disk =
        (.ok run, written) ∧
      run.checkup = checkup ∧
      run.warningsCount = Run.failsOnWarnings a.options checkup.report ∧
      (Rejects a.options checkup.report → a.noStrict = false → Stopped disk run written) ∧
      (a.noStrict = true ∨ ¬Rejects a.options checkup.report →
        Processed a.options input.tables input.config (classNames a input) disk run written) := by
  obtain ⟨run, written, hperform, hcheckup, hwarnings, hstopped, hprocessed⟩ :=
    perform_of_check a.options (classNames a input) disk hcheck
  have hstrict : a.options.strict = !a.noStrict := rfl
  refine ⟨run, written, hperform, hcheckup, hwarnings, fun hrejects hnoStrict => ?_, ?_⟩
  · exact hstopped hrejects (by rw [hstrict, hnoStrict]; rfl)
  · rintro (hnoStrict | hnot)
    · exact hprocessed (.inr (by rw [hstrict, hnoStrict]; rfl))
    · exact hprocessed (.inl hnot)

/-- Where the manifest is written, the exit code is that of the report. -/
theorem run_of_perform (h : Generates words a disk input) {run : Run} {written : Disk}
    {notices : List Notice}
    (hperform : Run.perform a.options input.tables input.config (classNames a input) disk =
      (.ok run, written))
    (hmanifest : (writeManifest a run.log).on written = (.ok notices, after)) :
    ∃ outcome, Command.run words disk = (.ok outcome, after) ∧
      outcome.exit = exitOf (run.report []) := by
  obtain ⟨text, hrun⟩ := run_of_load h.parse_eq h.isConsistent h.load_eq
  rw [hrun, h.runMode_eq]
  unfold runGeneration
  rw [hperform]
  dsimp only
  rw [hmanifest]
  exact ⟨_, rfl, rfl⟩

/-- A run that got so far exits with that code if its manifest is written, and with none if not. -/
theorem exitsWith_iff_of_perform (h : Generates words a disk input) {run : Run} {written : Disk}
    (hperform : Run.perform a.options input.tables input.config (classNames a input) disk =
      (.ok run, written)) (code : Nat) :
    ExitsWith code words disk ↔
      (∃ notices after, (writeManifest a run.log).on written = (.ok notices, after)) ∧
        exitOf (run.report []) = code := by
  constructor
  · rw [exitsWith_iff_of_load h.parse_eq h.isConsistent h.load_eq, h.runMode_eq]
    rintro ⟨outcome, after, hmode, hexit⟩
    unfold runGeneration at hmode
    rw [hperform] at hmode
    dsimp only at hmode
    rcases hmanifest : (writeManifest a run.log).on written with ⟨_ | notices, left⟩
    · rw [hmanifest] at hmode
      exact nomatch (Prod.mk.inj hmode).1
    · rw [hmanifest] at hmode
      rw [← Except.ok.inj (Prod.mk.inj hmode).1] at hexit
      exact ⟨⟨notices, left, rfl⟩, hexit⟩
  · rintro ⟨⟨notices, after, hmanifest⟩, hexit⟩
    obtain ⟨outcome, hrun, hsame⟩ := run_of_perform h hperform hmanifest
    exact ⟨outcome, after, hrun, hsame.trans hexit⟩

/-- An encoding that cannot be looked up ends the run with nothing written and no exit code. -/
theorem run_of_nul (h : Generates words a disk input)
    (hnul : Text.hasNul input.config.encoding = true) :
    Command.run words disk = (.error .nulInName, disk) := by
  have hcheck := check_of_nul (answers_of_load h.load_eq) hnul
  obtain ⟨text, hrun⟩ := run_of_load h.parse_eq h.isConsistent h.load_eq
  rw [hrun, h.runMode_eq, runGeneration, perform_of_error hcheck]
  rfl

/-- How a generating run ends. Its exit code is that of the checks where they turn the input down,
and follows from the turns of the tables otherwise. Strict checks that turn the input down leave the
disk as it was but for the manifest; in every other run each table has its turn. Only a run whose
encoding cannot be looked up has no exit code, and changes nothing. -/
theorem generation_concludes (h : Generates words a disk input) :
    let taken := turns a.options input.config (classNames a input) input.tables ⟨disk, .empty⟩
    (Text.hasNul input.config.encoding = false →
      ∃ checkup run written, check input.tables input.config = .ok checkup ∧
        Run.perform a.options input.tables input.config (classNames a input) disk =
          (.ok run, written) ∧
        (a.noStrict = true ∨ ¬Rejects a.options checkup.report →
          Processed a.options input.tables input.config (classNames a input) disk run written) ∧
        ∀ notices after, (writeManifest a run.log).on written = (.ok notices, after) →
          ∃ outcome, Command.run words disk = (.ok outcome, after) ∧
            Concludes (Rejects a.options checkup.report) taken outcome.exit ∧
            (outcome.exit = Exit.validation → a.noStrict = false →
              Stopped disk run written ∧ ManifestOnly a disk after)) ∧
    (Text.hasNul input.config.encoding = true →
      Command.run words disk = (.error .nulInName, disk)) := by
  intro taken
  refine ⟨fun hnul => ?_, run_of_nul h⟩
  obtain ⟨checkup, hcheck⟩ := check_of_load h.load_eq hnul
  obtain ⟨run, written, hperform, hcheckup, hwarnings, hstopped, hprocessed⟩ :=
    exists_perform a disk hcheck
  refine ⟨checkup, run, written, hcheck, hperform, hprocessed, ?_⟩
  intro notices after hmanifest
  obtain ⟨outcome, hrun, hexit⟩ := run_of_perform h hperform hmanifest
  have hconcludes : Concludes (Rejects a.options checkup.report) taken outcome.exit := by
    rw [hexit]
    exact concludes_of_processed hcheckup hwarnings fun hnot => hprocessed (.inr hnot)
  refine ⟨outcome, hrun, hconcludes, fun hvalidation hnoStrict => ?_⟩
  have hstop := hstopped (hconcludes.validation.mp hvalidation) hnoStrict
  have honly := manifestOnly_writeManifest a run.log written
  rw [hmanifest, hstop.written_eq] at honly
  exact ⟨hstop, honly⟩

end Runs

namespace Sample

/-- A disk with nothing but an input file. -/
def diskOf (text : String) : Disk where
  entries := [(["in.yaml"], .file (text.toList.map fun c => c.toNat.toUInt8))]
  here := []

/-- One table that has a column and no key. -/
def unkeyed : Disk :=
  diskOf "tables:\n- name: emp\n  columns:\n  - name: id\n    data_type: BIGINT\n"

/-- Two tables with keys, one of which is to be skipped. -/
def staffed : Disk := diskOf ("tables:\n" ++
  "- {name: emp, columns: [{name: id, data_type: BIGINT}], primary_keys: [id]}\n" ++
  "- {name: dept, columns: [{name: id, data_type: BIGINT}], primary_keys: [id]}\n" ++
  "config: {table_names_to_skip: [DEPT]}\n")

/-- The same input, and a file where the directory for tests would be. -/
def obstructed : Disk where
  entries := (["test", "src"], .file []) :: (["src"], .directory) :: staffed.entries
  here := []

/-- One table with a key, to be written in an encoding with a NUL in its name. -/
def unnameable : Disk := diskOf ("tables:\n" ++
  "- {name: emp, columns: [{name: id, data_type: BIGINT}], primary_keys: [id]}\n" ++
  "config:\n  encoding: \"utf-8\\0\"\n")

/-- Words that take a table without a key for an error. -/
def careful : List String := ["-i", "in.yaml", "-q", "--fail-on-warnings"]

def carefulArguments : Arguments :=
  { Arguments.initial with input := some "in.yaml", failOnWarnings := true, quiet := true }

/-- Words of a run that says nothing, and takes no warning for an error. -/
def quiet : List String := ["-i", "in.yaml", "-q"]

def quietArguments : Arguments :=
  { Arguments.initial with input := some "in.yaml", quiet := true }

/-- Whether the checks find an error, and whether they find a warning. -/
def found? (tables : List Table) (config : Settings) : Option (Bool × Bool) :=
  match check tables config with
  | .error _ => none
  | .ok checkup => some (checkup.report.hasErrors, checkup.report.hasWarnings)

theorem exists_checkup_of_found {tables : List Table} {config : Settings} {errors warnings : Bool}
    (h : found? tables config = some (errors, warnings)) : ∃ checkup,
      check tables config = .ok checkup ∧ checkup.report.hasErrors = errors ∧
        checkup.report.hasWarnings = warnings := by
  unfold found? at h
  split at h
  · cases h
  next checkup hcheck =>
    cases h
    exact ⟨checkup, hcheck, rfl, rfl⟩

/-- What is asked of loaded input. -/
def ofLoaded? {α : Type} (ask : Input → α) (a : Arguments) (disk : Disk) : Option α :=
  match load a disk with
  | .error _ => none
  | .ok input => some (ask input)

theorem exists_load_of_ofLoaded {α : Type} {ask : Input → α} {a : Arguments} {disk : Disk}
    {answer : α} (h : ofLoaded? ask a disk = some answer) :
    ∃ input, load a disk = .ok input ∧ ask input = answer := by
  unfold ofLoaded? at h
  split at h
  · cases h
  next input hload => exact ⟨input, hload, Option.some.inj h⟩

/-- The names of the tables of loaded input and the names to skip, with what the checks find. -/
def summary? : Arguments → Disk → Option (List String × List String × Option (Bool × Bool)) :=
  ofLoaded? fun input => (input.tables.map Table.name, input.config.skipNames,
    found? input.tables input.config)

theorem summary_congr {a b : Arguments} {disk : Disk} (h : load a disk = load b disk) :
    summary? a disk = summary? b disk := by
  simp only [summary?, ofLoaded?, h]

theorem exists_checkup_of_summary {a : Arguments} {disk : Disk} {names skips : List String}
    {errors warnings : Bool} (h : summary? a disk = some (names, skips, some (errors, warnings))) :
    ∃ input checkup, load a disk = .ok input ∧ input.tables.map Table.name = names ∧
      input.config.skipNames = skips ∧ check input.tables input.config = .ok checkup ∧
      checkup.report.hasErrors = errors ∧ checkup.report.hasWarnings = warnings := by
  obtain ⟨input, hload, hsame⟩ := exists_load_of_ofLoaded h
  obtain ⟨hnames, hrest⟩ := Prod.mk.inj hsame
  obtain ⟨hskips, hfound⟩ := Prod.mk.inj hrest
  obtain ⟨checkup, hcheck, herrors, hwarnings⟩ := exists_checkup_of_found hfound
  exact ⟨input, checkup, hload, hnames, hskips, hcheck, herrors, hwarnings⟩

/-- The table is worth a warning, and nothing is wrong with it. -/
theorem summary_unkeyed :
    summary? carefulArguments unkeyed = some (["emp"], [], some (false, true)) := by
  decide +kernel

theorem summary_staffed : summary? carefulArguments staffed =
    some (["emp", "dept"], ["dept"], some (false, false)) := by
  decide +kernel

end Sample

/-- The arbitrary trait of one table cannot be written, the other table is skipped, and the exit
code is that of storage. -/
theorem generation_concludes_of_obstructed : ∃ input outcome after,
    Generates Sample.quiet Sample.quietArguments Sample.obstructed input ∧
      input.tables.map Table.name = ["emp", "dept"] ∧ input.config.skipNames = ["dept"] ∧
      Command.run Sample.quiet Sample.obstructed = (.ok outcome, after) ∧
      outcome.exit = Exit.write := by
  have htold : Sample.ofLoaded? (fun input => (input.tables.map Table.name, input.config.skipNames,
      Sample.found? input.tables input.config,
      ((turns Sample.quietArguments.options input.config (classNames Sample.quietArguments input)
        input.tables ⟨Sample.obstructed, .empty⟩).filterMap Turn.failure?).map
          TableFailure.isStorage)) Sample.quietArguments Sample.obstructed =
      some (["emp", "dept"], ["dept"], some (false, false), [true]) := by decide +kernel
  obtain ⟨input, hload, hsame⟩ := Sample.exists_load_of_ofLoaded htold
  simp only [Prod.mk.injEq] at hsame
  obtain ⟨hnames, hskips, hfound, hkinds⟩ := hsame
  obtain ⟨checkup, hcheck, herrors, hwarnings⟩ := Sample.exists_checkup_of_found hfound
  have hgenerates : Generates Sample.quiet Sample.quietArguments Sample.obstructed input :=
    ⟨by decide +kernel, rfl, hload, rfl, rfl⟩
  have hpasses : ¬Rejects Sample.quietArguments.options checkup.report := by
    simp [Rejects, herrors, hwarnings]
  obtain ⟨f, hf, hkind⟩ := List.map_eq_singleton_iff.mp hkinds
  have hfails := exists_failure_iff.mp ⟨f, hf ▸ List.mem_singleton_self _, hkind⟩
  obtain ⟨-, -, hnul, -⟩ := check_eq_ok_iff.mp hcheck
  obtain ⟨again, run, written, hagain, -, -, hends⟩ := (generation_concludes hgenerates).1 hnul
  obtain rfl := Except.ok.inj (hcheck.symm.trans hagain)
  obtain ⟨outcome, hrun, hconcludes, -⟩ := hends [] written rfl
  exact ⟨input, outcome, written, hgenerates, hnames, hskips, hrun,
    hconcludes.write hpasses hfails⟩

/-- There is no exit code where the encoding cannot be looked up. -/
theorem generation_lacks_exit : ∃ input,
    Generates Sample.quiet Sample.quietArguments Sample.unnameable input ∧
      Sample.quietArguments.manifest = none ∧
      ∀ code, ¬ExitsWith code Sample.quiet Sample.unnameable := by
  have hnamed : Sample.ofLoaded? (fun input => Text.hasNul input.config.encoding)
      Sample.quietArguments Sample.unnameable = some true := by decide +kernel
  obtain ⟨input, hload, hnul⟩ := Sample.exists_load_of_ofLoaded hnamed
  have hgenerates : Generates Sample.quiet Sample.quietArguments Sample.unnameable input :=
    ⟨by decide +kernel, rfl, hload, rfl, rfl⟩
  refine ⟨input, hgenerates, rfl, fun code hexits => ?_⟩
  obtain ⟨outcome, after, hrun, -⟩ := hexits
  rw [run_of_nul hgenerates hnul] at hrun
  cases hrun

end RecordMapper.Command
