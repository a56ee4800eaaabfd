import RecordMapper.Proofs.Batch.Unforced
import RecordMapper.Proofs.Disk.Blocked

/-!
# Repeated runs

A run without force that meets what an earlier one left stores nothing. Each model is there by then,
or its table is skipped again, or the model fails again and in the same place; and the companions of
a model are asked for only when it was just stored.
-/
namespace RecordMapper.Batch

open RecordMapper.Config RecordMapper.Disk RecordMapper.Output RecordMapper.Schema

/-- Writing a text, with or without success, keeps what is said of the disk. -/
def KeptByWriting (P : Disk → Prop) : Prop :=
  ∀ encoding path text d, P d → P (Action.on d (writeText encoding path text)).2

theorem keptByWriting_isFileSystem : KeptByWriting Disk.IsFileSystem :=
  fun encoding path text _ hd => isFileSystem_writeText hd encoding path text

theorem keptByWriting_persists (d : Disk) : KeptByWriting (Persists d) :=
  fun encoding path text _ hd => hd.trans (persists_writeText encoding path text _)

namespace KeptByWriting

variable {P : Disk → Prop} {w : Workspace}

theorem perform (h : KeptByWriting P) (r : Request) (hw : P w.disk) :
    P (Action.on w r.perform).2.disk := by
  cases hv : r.verdict w.disk with
  | error failure =>
    rw [on_perform_of_error w hv]
    exact hw
  | ok verdict =>
    rw [on_perform_of_ok w hv]
    cases verdict with
    | note target path outcome => exact hw
    | store encoding unit =>
      have hwrite := h encoding unit.path unit.content w.disk hw
      rw [Verdict.act, on_write]
      generalize Action.on w.disk (writeText encoding unit.path unit.content) = out at hwrite ⊢
      obtain ⟨_ | _, _⟩ := out <;> exact hwrite

theorem writeTable (h : KeptByWriting P) (options : Options) (t : TableOutput) (hw : P w.disk) :
    P (Action.on w (writeTable options t)).2.disk := by
  cases hname : t.resolvedName with
  | error failure =>
    obtain ⟨_, hon⟩ := on_writeTable_of_error (w := w) options hname
    rw [hon]
    exact hw
  | ok name =>
    obtain ⟨events, hrow⟩ := row_writeTable options w hname
    exact hrow.preserves (P := fun w => P w.disk) (fun r _ _ hw => h.perform r hw) hw

theorem leftBy_turns (h : KeptByWriting P) (options : Options) (config : Settings)
    (classNames : ClassNames) (tables : List Table) (hw : P w.disk) :
    P (leftBy w (turns options config classNames tables w)).disk :=
  leftBy_turns_preserves options config classNames (P := fun w => P w.disk)
    (fun _ _ _ hw => h.writeTable options _ hw) hw

end KeptByWriting

/-- The request was made without any effect on the disk, and no new file is told of. -/
structure Idle (w : Workspace) (out : Except Failure Event × Workspace) : Prop where
  disk_eq : out.2.disk = w.disk
  created_eq : out.2.log.created = w.log.created
  wrote : ∀ event, out.1 = .ok event → event.outcome.wrote = false

section Idle

variable {r : Request} {w : Workspace}

theorem idle_of_undecided {failure : Failure} (h : r.verdict w.disk = .error failure) :
    Idle w (Action.on w r.perform) := by
  rw [on_perform_of_error w h]
  exact ⟨rfl, rfl, fun _ hevent => by cases hevent⟩

theorem idle_of_noted {target : String} {path : Path} {outcome : Outcome}
    (h : r.verdict w.disk = .ok (.note target path outcome)) :
    Idle w (Action.on w r.perform) := by
  have hne : outcome ≠ .created := (fits_verdict h w.disk.codePages).2
  rw [on_perform_of_ok w h]
  refine ⟨rfl, ?_, fun event hevent => ?_⟩
  · show (w.log.add ⟨target, path, outcome, 0⟩).created = w.log.created
    rw [Log.created, Log.withOutcome_add, if_neg hne, List.append_nil, Log.created]
  · cases hevent
    exact decide_eq_false hne

theorem idle_of_failed {encoding : String} {unit : SourceUnit} {failure : Failure}
    (h : r.verdict w.disk = .ok (.store encoding unit))
    (hfailed : Action.on w.disk (writeText encoding unit.path unit.content) =
      (.error failure, w.disk)) :
    Idle w (Action.on w r.perform) := by
  rw [on_perform_of_ok w h, Verdict.act, on_write, hfailed]
  exact ⟨rfl, rfl, fun _ hevent => by cases hevent⟩

end Idle

/-- From the disk on, asking for the model is idle. -/
def Finished (t : TableOutput) (d : Disk) : Prop :=
  ∀ w : Workspace, Persists d w.disk → Idle w (Action.on w (Request.modelIfWanted t).perform)

theorem Finished.persists {t : TableOutput} {d e : Disk} (h : Finished t d) (hde : Persists d e) :
    Finished t e :=
  fun w hw => h w (hde.trans hw)

/-- Where a model is stored if nothing is there, it would have been stored before, too, as nothing
was there either. -/
theorem verdict_of_keeps {t : TableOutput} {d e : Disk} (hkeeps : Keeps d e) {encoding : String}
    {unit : SourceUnit} (h : (Request.modelIfWanted t).verdict e = .ok (.store encoding unit)) :
    (Request.modelIfWanted t).verdict d = .ok (.store encoding unit) := by
  have hlater : e.has unit.path = false := leavesFiles_modelIfWanted t _ _ _ h
  have hbefore : d.has unit.path = false := by
    by_contra hhas
    rw [has_of_keeps hkeeps (Bool.not_eq_false _ ▸ hhas)] at hlater
    cases hlater
  obtain ⟨name, hname, ⟨-, -, hnote⟩ | ⟨hwanted, text, htext, hunit⟩⟩ :=
    Request.modelIfWanted_decided h
  · cases hnote
  · unfold Verdict.ofUnit at hunit
    split at hunit
    · cases hunit
      have hskip : t.isSkipped = false := by
        refine hwanted.resolve_right fun hhas => ?_
        rw [show e.has (Target.model t.config name).path = false from hlater] at hhas
        cases hhas
      have habsent : d.has (Target.model t.config name).path = false := hbefore
      rw [Request.verdict_modelIfWanted d hname, hskip, Bool.false_and, if_neg Bool.false_ne_true,
        Request.absentModel, htext, hname]
      simp only [ok_bind, Verdict.ofUnit, SourceUnit.ofTarget, habsent]
      rfl
    · cases hunit

/-- Once a model was asked for, asking again is idle at any later time. -/
theorem finished_perform (t : TableOutput) {w : Workspace} (hw : w.disk.IsFileSystem) :
    Finished t (Action.on w (Request.modelIfWanted t).perform).2.disk := by
  intro later hlater
  have hpersists : Persists w.disk later.disk :=
    ((keptByWriting_persists w.disk).perform _ (.refl _)).trans hlater
  cases hverdict : (Request.modelIfWanted t).verdict later.disk with
  | error failure => exact idle_of_undecided hverdict
  | ok verdict =>
    cases verdict with
    | note target path outcome => exact idle_of_noted hverdict
    | store encoding unit =>
      have habsent : later.disk.has unit.path = false :=
        leavesFiles_modelIfWanted t _ _ _ hverdict
      have hbefore := verdict_of_keeps hpersists.keeps hverdict
      rw [on_perform_of_ok w hbefore, Verdict.act, on_write] at hlater
      rcases hwrite : Action.on w.disk (writeText encoding unit.path unit.content) with
        ⟨failure | size, disk⟩
      · -- The model failed before, so it fails again.
        rw [hwrite] at hlater
        rcases on_writeText_of_failed hw hwrite hlater with hhas | ⟨again, hagain⟩
        · rw [hhas] at habsent
          cases habsent
        · exact idle_of_failed hverdict hagain
      · -- The model was stored before, so something is there.
        rw [hwrite] at hlater
        have hwritten := written_writeText encoding unit.path unit.content w.disk
        rw [hwrite] at hwritten
        cases hwritten with
        | stored _ stored =>
          rw [has_of_keeps hlater.keeps stored.has] at habsent
          cases habsent

section Tables

variable {options : Options} {t : TableOutput} {w : Workspace}

theorem writeModel_of_unforced (hforce : options.force = false) (t : TableOutput) :
    writeModel options t = t.writeModelIfWanted := by
  rw [writeModel, hforce, if_neg Bool.false_ne_true]

/-- The model of a table is asked for first. -/
theorem finished_writeTable (hforce : options.force = false) (hw : w.disk.IsFileSystem) :
    Finished t (Action.on w (writeTable options t)).2.disk := by
  have hfinished := finished_perform t hw
  rw [writeTable_eq, writeModel_of_unforced hforce,
    Action.on_bind_congr (on_writeModelIfWanted w t) fun _ _ => rfl, bind_assoc]
  rcases hperform : Action.on w (Request.modelIfWanted t).perform with ⟨failure | event, between⟩
  · rw [Action.on_bind_of_error hperform]
    rwa [hperform] at hfinished
  · rw [Action.on_bind_of_ok hperform, pure_bind]
    rw [hperform] at hfinished
    refine hfinished.persists ?_
    split
    · rw [on_writeCompanions]
      obtain ⟨events, hrow⟩ := row_performAll _ between
      exact hrow.preserves (P := fun w => Persists between.disk w.disk)
        (fun r _ _ hw => (keptByWriting_persists _).perform r hw) (.refl _)
    · exact .refl _

theorem on_writeTable_of_finished (hforce : options.force = false) (h : Finished t w.disk) :
    (Action.on w (writeTable options t)).2.disk = w.disk ∧
      (Action.on w (writeTable options t)).2.log.created = w.log.created := by
  have hidle := h w (.refl _)
  rw [writeTable_eq, writeModel_of_unforced hforce,
    Action.on_bind_congr (on_writeModelIfWanted w t) fun _ _ => rfl, bind_assoc]
  rcases hperform : Action.on w (Request.modelIfWanted t).perform with ⟨failure | event, after⟩
  · rw [Action.on_bind_of_error hperform]
    rw [hperform] at hidle
    exact ⟨hidle.disk_eq, hidle.created_eq⟩
  · rw [hperform] at hidle
    rw [Action.on_bind_of_ok hperform, pure_bind, hidle.wrote event rfl, if_neg Bool.false_ne_true]
    exact ⟨hidle.disk_eq, hidle.created_eq⟩

variable {config : Settings} {classNames : ClassNames} {tables : List Table}

/-- After the turns of tables all of them are finished. -/
theorem finished_turns (hforce : options.force = false) (hw : w.disk.IsFileSystem) :
    ∀ table ∈ tables, Finished ⟨config, table, classNames.lookup table.name⟩
      (leftBy w (turns options config classNames tables w)).disk := by
  induction tables generalizing w with
  | nil => exact fun _ h => absurd h List.not_mem_nil
  | cons table rest ih =>
    let first := Turn.ofTable options config classNames w table
    have hfirst : first.after.disk.IsFileSystem :=
      keptByWriting_isFileSystem.writeTable options _ hw
    intro other hother
    rcases List.mem_cons.mp hother with rfl | hother
    · exact (finished_writeTable hforce hw).persists
        ((keptByWriting_persists _).leftBy_turns options config classNames rest (.refl _))
    · exact ih hfirst other hother

theorem leftBy_turns_of_finished (options : Options) (w : Workspace)
    (hforce : options.force = false)
    (h : ∀ table ∈ tables, Finished ⟨config, table, classNames.lookup table.name⟩ w.disk) :
    (leftBy w (turns options config classNames tables w)).disk = w.disk ∧
      (leftBy w (turns options config classNames tables w)).log.created = w.log.created := by
  induction tables generalizing w with
  | nil => exact ⟨rfl, rfl⟩
  | cons table rest ih =>
    let first := Turn.ofTable options config classNames w table
    obtain ⟨hdisk, hcreated⟩ :
        first.after.disk = w.disk ∧ first.after.log.created = w.log.created :=
      on_writeTable_of_finished hforce (h table (List.mem_cons_self ..))
    obtain ⟨hdisks, hcreateds⟩ := ih first.after fun other hother => by
      rw [hdisk]
      exact h other (List.mem_cons_of_mem _ hother)
    exact ⟨hdisks.trans hdisk, hcreateds.trans hcreated⟩

end Tables

section Runs

variable (options : Options) {tables : List Table} {config : Settings}

/-- Whether the checks let a run write its tables. -/
def writes (options : Options) (tables : List Table) (config : Settings) : Bool :=
  match Validation.check tables config with
  | .error _ => false
  | .ok checkup => Run.passes options checkup.report || !options.strict

theorem perform_of_not_writes (h : writes options tables config = false)
    (classNames : ClassNames) (disk : Disk) :
    createdBy (Run.perform options tables config classNames disk).1 = [] ∧
      (Run.perform options tables config classNames disk).2 = disk := by
  unfold writes at h
  unfold Run.perform
  cases hcheck : Validation.check tables config with
  | error failure => exact ⟨rfl, rfl⟩
  | ok checkup =>
    simp only [hcheck] at h
    simp only [h, Bool.false_eq_true, if_false, and_true]
    rfl

theorem perform_of_writes (h : writes options tables config = true)
    (classNames : ClassNames) (disk : Disk) :
    let left := leftBy ⟨disk, .empty⟩ (turns options config classNames tables ⟨disk, .empty⟩)
    createdBy (Run.perform options tables config classNames disk).1 = left.log.created ∧
      (Run.perform options tables config classNames disk).2 = left.disk := by
  unfold writes at h
  unfold Run.perform
  cases hcheck : Validation.check tables config with
  | error failure =>
    rw [hcheck] at h
    cases h
  | ok checkup =>
    simp only [hcheck] at h
    simp only [h, if_true, writeTables_eq, and_true]
    rfl

end Runs

/-- A second run without force over what the first one left creates nothing and leaves the disk as
it is, whatever failed, collided or was skipped before, and whichever companions are asked for now.
-/
theorem rerun_creates_nothing (options : Options) (specs arbitraries : Bool) (tables : List Table)
    (config : Settings) (classNames : ClassNames) (disk : Disk) (hdisk : disk.IsFileSystem) :
    let first := Run.perform { options with force := false } tables config classNames disk
    let second := Run.perform
      { options with force := false, withSpecs := specs, withArbitraries := arbitraries }
      tables config classNames first.2
    createdBy second.1 = [] ∧ second.2 = first.2 := by
  intro first second
  let again : Options :=
    { options with force := false, withSpecs := specs, withArbitraries := arbitraries }
  -- What is asked for does not change whether the checks let a run write.
  cases hwrites : writes { options with force := false } tables config with
  | false => exact perform_of_not_writes again hwrites classNames first.2
  | true =>
    have hfirst : first.2 = _ := (perform_of_writes _ hwrites classNames disk).2
    obtain ⟨hcreated, hleft⟩ := perform_of_writes again hwrites classNames first.2
    have hfinished : ∀ table ∈ tables,
        Finished ⟨config, table, classNames.lookup table.name⟩ first.2 := by
      rw [hfirst]
      exact finished_turns rfl hdisk
    obtain ⟨hdisks, hnone⟩ := leftBy_turns_of_finished again ⟨first.2, .empty⟩ rfl hfinished
    exact ⟨hcreated.trans hnone, hleft.trans hdisks⟩

/-- The model is created and its spec fails; the model is not created again, and the spec is not
tried again. -/
theorem rerun_creates_nothing_of_blocked :
    let first := Run.perform ⟨false, true, true, true, false⟩ [Sample.emp] Settings.default []
      Sample.blocked
    let second := Run.perform ⟨false, true, false, true, false⟩ [Sample.emp] Settings.default []
      first.2
    (createdBy first.1).map Event.target = ["models.Emp"] ∧
      first.1.toOption.bind (fun run =>
        run.generation.map fun g => g.failures.map TableFailure.table) = some ["emp"] ∧
      Sample.blocked.IsFileSystem ∧ createdBy second.1 = [] ∧ second.2 = first.2 := by
  have hdisk : Sample.blocked.IsFileSystem := ⟨by decide, by decide⟩
  refine ⟨by decide +kernel, by decide +kernel, hdisk, ?_⟩
  exact rerun_creates_nothing ⟨false, true, true, true, false⟩ true false [Sample.emp]
    Settings.default [] Sample.blocked hdisk

end RecordMapper.Batch
