import RecordMapper.Proofs.Command.Generation
import RecordMapper.Proofs.Command.Switches

/-!
# Checking runs

What the exit code of a run that only checks its input tells about the run that generates. The
checks do not know that warnings may count as errors, and they do not write a manifest.
-/
namespace RecordMapper.Command

open RecordMapper.Batch RecordMapper.Disk RecordMapper.Validation

variable {words : List String} {a : Arguments} {disk : Disk} {input : Input} {checkup : Checkup}

/-- A generating run is turned away by the checks: it exits with their code, no table has its turn
and nothing is written but the manifest. -/
def StopsAtValidation (words : List String) (disk : Disk) : Prop :=
  ∃ a input run written, Generates words a disk input ∧
    Run.perform a.options input.tables input.config (classNames a input) disk =
      (.ok run, written) ∧
    Stopped disk run written ∧ ExitsWith Exit.validation words disk

/-- The manifest of a run without any event can be written, if one is asked for. -/
def WritesManifest (a : Arguments) (disk : Disk) : Prop :=
  ∃ notices after, (writeManifest a .empty).on disk = (.ok notices, after)

/-- The input that is loaded, and what its checks find. -/
structure Checks (a : Arguments) (disk : Disk) (input : Input) (checkup : Checkup) : Prop where
  isConsistent : a.isConsistent = true
  load_eq : load a disk = .ok input
  check_eq : check input.tables input.config = .ok checkup

theorem Checks.unique {input' : Input} {checkup' : Checkup} (h : Checks a disk input checkup)
    (h' : Checks a disk input' checkup') : input' = input ∧ checkup' = checkup := by
  obtain rfl := Except.ok.inj (h'.load_eq.symm.trans h.load_eq)
  exact ⟨rfl, Except.ok.inj (h'.check_eq.symm.trans h.check_eq)⟩

/-- Where the input is loaded, what holds of some input and its findings holds of these. -/
theorem Checks.exists_iff (h : Checks a disk input checkup) {P : Input → Checkup → Prop} :
    (∃ input checkup, Checks a disk input checkup ∧ P input checkup) ↔ P input checkup := by
  constructor
  · rintro ⟨other, found, hother, hP⟩
    obtain ⟨rfl, rfl⟩ := h.unique hother
    exact hP
  · exact fun hP => ⟨input, checkup, h, hP⟩

theorem exitsWith_validation_of_checks (hparse : Arguments.parse words = .ok a)
    (hmode : a.validateOnly = true) (h : Checks a disk input checkup) :
    ExitsWith Exit.validation words disk ↔ checkup.report.hasErrors = true := by
  have hrun : ∃ outcome, runMode a input disk = (.ok outcome, disk) ∧
      outcome.exit = if checkup.report.isValid then Exit.success else Exit.validation := by
    unfold runMode runCheck
    rw [if_pos hmode, h.check_eq]
    exact ⟨_, rfl, rfl⟩
  obtain ⟨outcome, hrun, hexit⟩ := hrun
  rw [exitsWith_iff_of_load hparse h.isConsistent h.load_eq, hrun]
  unfold Validation.Report.isValid at hexit
  cases herrors : checkup.report.hasErrors with
  | true =>
    rw [herrors] at hexit
    exact iff_of_true ⟨outcome, disk, rfl, hexit⟩ rfl
  | false =>
    rw [herrors] at hexit
    refine iff_of_false ?_ Bool.false_ne_true
    rintro ⟨told, after, hsame, hother⟩
    rw [← Except.ok.inj (Prod.mk.inj hsame).1, hexit] at hother
    cases hother

/-- A run that checks exits with the code of the checks exactly when it finds an error. -/
theorem exitsWith_validation_iff (hparse : Arguments.parse words = .ok a)
    (hmode : a.validateOnly = true) :
    ExitsWith Exit.validation words disk ↔
      ∃ input checkup, Checks a disk input checkup ∧ checkup.report.hasErrors = true := by
  constructor
  · intro h
    obtain ⟨hconsistent, input, hload⟩ := exists_loaded_of_exitsWith hparse (by decide) h
    obtain ⟨outcome, after, hrun, -⟩ := (exitsWith_iff_of_load hparse hconsistent hload _).mp h
    rw [runMode, if_pos hmode] at hrun
    obtain ⟨checkup, hcheck, -⟩ := bind_eq_ok_iff.mp (Prod.mk.inj hrun).1
    have hchecks : Checks a disk input checkup := ⟨hconsistent, hload, hcheck⟩
    exact ⟨input, checkup, hchecks, (exitsWith_validation_of_checks hparse hmode hchecks).mp h⟩
  · rintro ⟨input, checkup, hchecks, herrors⟩
    exact (exitsWith_validation_of_checks hparse hmode hchecks).mpr herrors

/-- A strict run stops at input that the checks turn down, and gets an exit code if its manifest is
written. -/
theorem stopsAtValidation_iff (hparse : Arguments.parse words = .ok a)
    (hvalidateOnly : a.validateOnly = false) (hecho : a.echo = false)
    (hstrict : a.noStrict = false) :
    StopsAtValidation words disk ↔ ∃ input checkup, Checks a disk input checkup ∧
      Rejects a.options checkup.report ∧ WritesManifest a disk := by
  constructor
  · rintro ⟨b, input, run, written, hgenerates, hperform, hstopped, hexits⟩
    obtain rfl := Except.ok.inj (hgenerates.parse_eq.symm.trans hparse)
    have hcheck := check_of_perform hperform
    refine ⟨input, run.checkup, ⟨hgenerates.isConsistent, hgenerates.load_eq, hcheck⟩, ?_, ?_⟩
    · by_contra hnot
      obtain ⟨other, left, hother, -, -, -, hprocessed⟩ := exists_perform b disk hcheck
      rw [hperform] at hother
      obtain rfl := Except.ok.inj (Prod.mk.inj hother).1
      have hgeneration := (hprocessed (.inr hnot)).generation_eq
      rw [hstopped.generation_eq] at hgeneration
      cases hgeneration
    · have hwritten := ((exitsWith_iff_of_perform hgenerates hperform _).mp hexits).1
      rwa [hstopped.log_eq, hstopped.written_eq] at hwritten
  · rintro ⟨input, checkup, hchecks, hrejects, hmanifest⟩
    have hgenerates : Generates words a disk input :=
      ⟨hparse, hchecks.isConsistent, hchecks.load_eq, hvalidateOnly, hecho⟩
    obtain ⟨run, written, hperform, hcheckup, hwarnings, hstopped, hprocessed⟩ :=
      exists_perform a disk hchecks.check_eq
    have hstopped := hstopped hrejects hstrict
    refine ⟨a, input, run, written, hgenerates, hperform, hstopped, ?_⟩
    rw [exitsWith_iff_of_perform hgenerates hperform, hstopped.log_eq, hstopped.written_eq]
    have hconcludes := concludes_of_processed hcheckup hwarnings fun hnot =>
      hprocessed (.inr hnot)
    exact ⟨hmanifest, hconcludes.validation.mpr hrejects⟩

/-- Checking alone and generating strictly turn away the same bad input. They agree on input that
the checks turn down exactly when it has an error and the manifest can be written, or it has none
and the manifest cannot be written. -/
theorem checking_predicts_iff (hparse : Arguments.parse words = .ok a)
    (hvalidateOnly : a.validateOnly = true) (hecho : a.echo = false)
    (hstrict : a.noStrict = false) (disk : Disk) :
    let generating := withoutSwitch .validateOnly words
    (ExitsWith Exit.input words disk ↔ ExitsWith Exit.input generating disk) ∧
    ((ExitsWith Exit.validation words disk ↔ StopsAtValidation generating disk) ↔
      ∀ input checkup, Checks a disk input checkup → Rejects a.options checkup.report →
        (checkup.report.hasErrors = true ↔ WritesManifest a disk)) := by
  intro generating
  have hgenerating : Arguments.parse generating = .ok (a.without .validateOnly) :=
    parse_withoutSwitch (by decide) hparse
  constructor
  · rw [exitsWith_input_iff hparse, exitsWith_input_iff hgenerating]
    exact Iff.rfl
  · rw [exitsWith_validation_iff hparse hvalidateOnly,
      stopsAtValidation_iff hgenerating rfl hecho hstrict]
    have hsame (input : Input) (checkup : Checkup) :
        Checks (a.without .validateOnly) disk input checkup ↔ Checks a disk input checkup :=
      ⟨fun h => ⟨h.isConsistent, h.load_eq, h.check_eq⟩,
        fun h => ⟨h.isConsistent, h.load_eq, h.check_eq⟩⟩
    simp only [hsame]
    by_cases hloaded : ∃ input checkup, Checks a disk input checkup
    · obtain ⟨input, checkup, hchecks⟩ := hloaded
      rw [hchecks.exists_iff (P := fun _ checkup => checkup.report.hasErrors = true),
        hchecks.exists_iff (P := fun _ checkup => Rejects _ checkup.report ∧ WritesManifest _ disk)]
      have hall : (∀ input checkup, Checks a disk input checkup →
          Rejects a.options checkup.report →
            (checkup.report.hasErrors = true ↔ WritesManifest a disk)) ↔
          (Rejects a.options checkup.report →
            (checkup.report.hasErrors = true ↔ WritesManifest a disk)) := by
        refine ⟨fun h => h input checkup hchecks, fun h other found hother => ?_⟩
        obtain ⟨rfl, rfl⟩ := hchecks.unique hother
        exact h
      have hrejects : checkup.report.hasErrors = true → Rejects a.options checkup.report := .inl
      rw [hall]
      change (_ ↔ Rejects a.options checkup.report ∧ WritesManifest a disk) ↔ _
      tauto
    · refine iff_of_true (iff_of_false ?_ ?_) ?_
      · exact fun ⟨input, checkup, h, _⟩ => hloaded ⟨input, checkup, h⟩
      · exact fun ⟨input, checkup, h, _⟩ => hloaded ⟨input, checkup, h⟩
      · exact fun input checkup h => absurd ⟨input, checkup, h⟩ hloaded

namespace Sample

/-- One table that has no column. -/
def columnless : Disk := diskOf "tables:\n- name: emp\n  columns: []\n"

def checking : Arguments :=
  { Arguments.initial with input := some "in.yaml", validateOnly := true, quiet := true }

theorem summary_columnless :
    summary? checking columnless = some (["emp"], [], some (true, false)) := by
  decide +kernel

end Sample

theorem checking_predicts_iff_of_columnless :
    ExitsWith Exit.validation ["-i", "in.yaml", "--validate-only", "-q"] Sample.columnless ↔
      StopsAtValidation ["-i", "in.yaml", "-q"] Sample.columnless := by
  have hparse : Arguments.parse ["-i", "in.yaml", "--validate-only", "-q"] =
      .ok Sample.checking := by decide +kernel
  have hgenerating : withoutSwitch .validateOnly ["-i", "in.yaml", "--validate-only", "-q"] =
      ["-i", "in.yaml", "-q"] := by decide +kernel
  have hpredicts := (checking_predicts_iff hparse rfl rfl rfl Sample.columnless).2
  rw [hgenerating] at hpredicts
  refine hpredicts.mpr fun input checkup hchecks _ => ?_
  obtain ⟨_, _, hload, -, -, hcheck, herrors, -⟩ :=
    Sample.exists_checkup_of_summary Sample.summary_columnless
  obtain ⟨rfl, rfl⟩ := hchecks.unique ⟨rfl, hload, hcheck⟩
  exact iff_of_true herrors ⟨[], _, rfl⟩

/-- Warnings that count as errors stop the generating run, but the run that checks succeeds. -/
theorem checking_misses_warnings :
    withoutSwitch .validateOnly ("--validate-only" :: Sample.careful) = Sample.careful ∧
      ¬ExitsWith Exit.validation ("--validate-only" :: Sample.careful) Sample.unkeyed ∧
      StopsAtValidation Sample.careful Sample.unkeyed := by
  obtain ⟨input, checkup, hload, -, -, hcheck, herrors, hwarnings⟩ :=
    Sample.exists_checkup_of_summary Sample.summary_unkeyed
  have hgenerating : Arguments.parse Sample.careful = .ok Sample.carefulArguments := by
    decide +kernel
  have hparse : Arguments.parse ("--validate-only" :: Sample.careful) =
      .ok { Sample.carefulArguments with validateOnly := true } := by
    decide +kernel
  refine ⟨by decide +kernel, ?_, ?_⟩
  · rw [exitsWith_validation_of_checks hparse rfl ⟨rfl, hload, hcheck⟩, herrors]
    exact Bool.false_ne_true
  · rw [stopsAtValidation_iff hgenerating rfl rfl rfl]
    exact ⟨input, checkup, ⟨rfl, hload, hcheck⟩, .inr ⟨rfl, hwarnings⟩, [], _, rfl⟩

end RecordMapper.Command
