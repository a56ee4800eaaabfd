import RecordMapper.Proofs.Batch.Turns
import RecordMapper.Proofs.Disk.Hidden

/-!
# Runs without force

A run without force stores a text only at a path that leads nowhere when it is asked. Files are
different afterwards only where an event tells of a new file, and an existing one is among them only
if the path of the event hides it.
-/
namespace RecordMapper.Batch

open RecordMapper.Config RecordMapper.Disk RecordMapper.Output RecordMapper.Schema

/-- The request never stores at a path that leads to something. -/
def LeavesFiles (r : Request) : Prop :=
  ∀ (d : Disk) (encoding : String) (unit : SourceUnit),
    r.verdict d = .ok (.store encoding unit) → d.has unit.path = false

theorem absent_of_ofUnit {d : Disk} {encoding other : String} {unit stored : SourceUnit}
    (h : Verdict.ofUnit false d encoding unit = .store other stored) :
    d.has stored.path = false := by
  unfold Verdict.ofUnit at h
  split at h
  · rename_i habsent
    cases h
    simpa using habsent
  · cases h

theorem leavesFiles_modelIfWanted (t : TableOutput) : LeavesFiles (.modelIfWanted t) := by
  intro d encoding unit h
  obtain ⟨name, -, ⟨-, -, hnote⟩ | ⟨-, text, -, hunit⟩⟩ := Request.modelIfWanted_decided h
  · cases hnote
  · exact absent_of_ofUnit hunit.symm

theorem leavesFiles_request (t : TableOutput) (a : Artefact) :
    LeavesFiles (a.request false t) := by
  cases a with
  | model => exact leavesFiles_modelIfWanted t
  | spec =>
    intro d encoding unit h
    obtain ⟨content, name, -, -, hverdict⟩ := Request.spec_decided h
    cases content with
    | none => cases hverdict
    | some text => exact absent_of_ofUnit hverdict.symm
  | arbitrary =>
    intro d encoding unit h
    obtain ⟨text, name, -, -, hunit⟩ := Request.arbitrary_decided h
    exact absent_of_ofUnit hunit.symm

theorem leavesFiles_of_mem_requests {options : Options} (hforce : options.force = false)
    {t : TableOutput} {name : String} {d : Disk} {r : Request}
    (hr : r ∈ requests options t name d) : LeavesFiles r := by
  rw [requests, hforce, if_neg (by simp)] at hr
  split at hr
  · cases List.mem_singleton.mp hr
    exact leavesFiles_modelIfWanted t
  · obtain ⟨a, _, rfl⟩ := List.mem_map.mp hr
    exact leavesFiles_request t a

/-- What requests that leave files alone have done to a disk, told by the log. -/
structure Unforced (disk : Disk) (w : Workspace) : Prop where
  keeps : Keeps disk w.disk
  absent : ∀ event ∈ w.log.created, disk.has event.path = false
  stored : ∀ event ∈ w.log.created,
    ∃ content, w.disk.fileAt (disk.placeOf event.path) = some content
  fileAt_eq : ∀ location, (∀ event ∈ w.log.created, location ≠ disk.placeOf event.path) →
    w.disk.fileAt location = disk.fileAt location

namespace Unforced

variable {disk : Disk} {w : Workspace}

theorem start (disk : Disk) : Unforced disk ⟨disk, .empty⟩ :=
  ⟨.refl disk, fun _ h => absurd h List.not_mem_nil, fun _ h => absurd h List.not_mem_nil,
    fun _ _ => rfl⟩

/-- An event that tells of no new file. -/
theorem noted (h : Unforced disk w) {event : Event} (hcreated : event.outcome ≠ .created) :
    Unforced disk ⟨w.disk, w.log.add event⟩ := by
  have hlog : (w.log.add event).created = w.log.created := by
    rw [Log.created, Log.withOutcome_add, if_neg hcreated, List.append_nil]
    rfl
  refine ⟨h.keeps, ?_, ?_, ?_⟩ <;> simp only [hlog]
  · exact h.absent
  · exact h.stored
  · exact h.fileAt_eq

/-- New directories. -/
theorem grown (h : Unforced disk w) {fresh : Location → Prop} {d : Disk}
    (hgrown : Grown fresh w.disk d) : Unforced disk ⟨d, w.log⟩ := by
  refine ⟨h.keeps.trans hgrown.keeps, h.absent, fun event hevent => ?_, fun location hout => ?_⟩
  · rw [hgrown.fileAt_eq]
    exact h.stored event hevent
  · rw [hgrown.fileAt_eq]
    exact h.fileAt_eq location hout

/-- A new file at a path that led nowhere. -/
theorem store (h : Unforced disk w) {target : String} {path : Path} {content : List UInt8}
    {d : Disk} (habsent : w.disk.has path = false) (hstored : Stored path content w.disk d) :
    Unforced disk ⟨d, w.log.add ⟨target, path, .created, content.length⟩⟩ := by
  have hlog : (w.log.add ⟨target, path, .created, content.length⟩).created =
      w.log.created ++ [⟨target, path, .created, content.length⟩] := by
    rw [Log.created, Log.withOutcome_add, if_pos rfl]
    rfl
  have hplace : w.disk.placeOf path = disk.placeOf path := h.keeps.placeOf_eq path
  refine ⟨h.keeps.trans hstored.keeps, ?_, ?_, ?_⟩ <;> simp only [hlog]
  · intro event hevent
    rcases List.mem_append.mp hevent with hevent | hevent
    · exact h.absent event hevent
    · cases List.mem_singleton.mp hevent
      -- What the first disk has every later one has, so the path led nowhere there either.
      by_contra hhas
      rw [has_of_keeps h.keeps (Bool.not_eq_false _ ▸ hhas)] at habsent
      cases habsent
  · intro event hevent
    by_cases hsame : disk.placeOf event.path = disk.placeOf path
    · exact ⟨content, by rw [hsame, ← hplace]; exact hstored.fileAt_place⟩
    · rw [hstored.fileAt_of_ne (by rwa [hplace])]
      rcases List.mem_append.mp hevent with hevent | hevent
      · exact h.stored event hevent
      · cases List.mem_singleton.mp hevent
        exact absurd rfl hsame
  · intro location hout
    have hnot : location ≠ w.disk.placeOf path := by
      rw [hplace]
      exact hout _ (List.mem_append_right _ (List.mem_singleton_self _))
    rw [hstored.fileAt_of_ne hnot]
    exact h.fileAt_eq location fun event hevent => hout event (List.mem_append_left _ hevent)

theorem perform (h : Unforced disk w) {r : Request} (hr : LeavesFiles r) :
    Unforced disk (Action.on w r.perform).2 := by
  have hsettled := settled_perform r w
  generalize Action.on w r.perform = out at hsettled ⊢
  cases hsettled with
  | undecided => exact h
  | noted decided => exact h.noted (fits_verdict decided w.disk.codePages).2
  | failed _ grown => exact h.grown grown
  | stored decided _ stored => exact h.store (hr _ _ _ decided) stored

theorem writeTable {options : Options} (hforce : options.force = false) (t : TableOutput)
    (h : Unforced disk w) : Unforced disk (Action.on w (writeTable options t)).2 := by
  cases hname : t.resolvedName with
  | error failure =>
    obtain ⟨_, hon⟩ := on_writeTable_of_error (w := w) options hname
    rw [hon]
    exact h
  | ok name =>
    obtain ⟨events, hrow⟩ := row_writeTable options w hname
    exact hrow.preserves (fun r hr _ hw => hw.perform (leavesFiles_of_mem_requests hforce hr)) h

end Unforced

/-- The events of a run that tell of new files; a run that was not possible has none. -/
def createdBy : Except Failure Run → List Event
  | .ok run => run.log.created
  | .error _ => []

theorem unforced_perform {options : Options} (hforce : options.force = false) (tables : List Table)
    (config : Settings) (classNames : ClassNames) (disk : Disk) :
    ∃ log : Log, createdBy (Run.perform options tables config classNames disk).1 = log.created ∧
      Unforced disk ⟨(Run.perform options tables config classNames disk).2, log⟩ := by
  have htables : Unforced disk (writeTables options config classNames tables ⟨disk, .empty⟩).2 := by
    rw [writeTables_eq]
    exact leftBy_turns_preserves options config classNames
      (fun _ _ _ hw => hw.writeTable hforce _) (.start disk)
  unfold Run.perform
  split
  · exact ⟨.empty, rfl, .start disk⟩
  · split
    · exact ⟨_, rfl, htables⟩
    · exact ⟨.empty, rfl, .start disk⟩

/-- What a run without force does to files, with or without failures. Files differ only at the
places of events that tell of a new file, and the paths of these led nowhere before the run. All
existing files keep their content exactly when every such event whose path hid one put the same
content there, and on a tree a path hides a file only by double dots. -/
theorem unforced_run_files (options : Options) (tables : List Table) (config : Settings)
    (classNames : ClassNames) (disk : Disk) :
    let out := Run.perform { options with force := false } tables config classNames disk
    (∀ location, out.2.fileAt location ≠ disk.fileAt location →
      ∃ event ∈ createdBy out.1, location = disk.placeOf event.path) ∧
    (∀ event ∈ createdBy out.1, disk.has event.path = false ∧
      ∃ content, out.2.fileAt (disk.placeOf event.path) = some content) ∧
    ((∀ location content, disk.fileAt location = some content →
        out.2.fileAt location = some content) ↔
      ∀ event ∈ createdBy out.1, disk.Hides event.path →
        out.2.fileAt (disk.placeOf event.path) = disk.fileAt (disk.placeOf event.path)) ∧
    (disk.IsTree → ∀ event ∈ createdBy out.1, disk.Hides event.path → ".." ∈ event.path.parts) := by
  intro out
  have hforce : ({ options with force := false } : Options).force = false := rfl
  obtain ⟨log, hcreated, hunforced⟩ := unforced_perform hforce tables config classNames disk
  have hchanged : ∀ location, out.2.fileAt location ≠ disk.fileAt location →
      ∃ event ∈ createdBy out.1, location = disk.placeOf event.path := by
    intro location hne
    by_contra hnone
    push Not at hnone
    rw [hcreated] at hnone
    exact hne (hunforced.fileAt_eq location hnone)
  refine ⟨hchanged, fun event hevent => ?_, ⟨fun hall event hevent hhides => ?_, ?_⟩, ?_⟩
  · rw [hcreated] at hevent
    exact ⟨hunforced.absent event hevent, hunforced.stored event hevent⟩
  · obtain ⟨-, content, hcontent⟩ := hhides
    rw [hcontent]
    exact hall _ content hcontent
  · intro hhidden location content hcontent
    by_contra hne
    rw [← hcontent] at hne
    obtain ⟨event, hevent, rfl⟩ := hchanged location hne
    have habsent : disk.has event.path = false :=
      hunforced.absent event (by rwa [← hcreated])
    exact hne (hhidden event hevent ⟨habsent, content, hcontent⟩)
  · exact fun htree event _ hhides => dots_of_hides htree hhides

namespace Sample

/-- The source directory is named by way of one that does not exist. -/
def detour : Settings := { Settings.default with sourceDir := "new/../app" }

/-- A disk with a model that says "kept". -/
def kept : Disk where
  entries := [(["Emp.scala", "models", "app"], .file [107, 101, 112, 116]),
    (["models", "app"], .directory), (["app"], .directory)]
  here := []

end Sample

/-- The model is not found by way of the missing directory, and then replaced by way of the new
one. -/
theorem unforced_run_replaces_hidden :
    Sample.kept.IsTree ∧
    Sample.kept.fileAt ["Emp.scala", "models", "app"] = some [107, 101, 112, 116] ∧
    (Run.perform ⟨false, false, false, true, false⟩ [Sample.emp] Sample.detour []
      Sample.kept).2.fileAt ["Emp.scala", "models", "app"] ≠ some [107, 101, 112, 116] := by
  decide +kernel

end RecordMapper.Batch
