import RecordMapper.Batch.Account
import RecordMapper.Proofs.Batch.Turns

/-!
# Segments of the log

The log of a run is cut by its tables. What a table may record is planned when it is met; it records
its plan in full unless it fails, and then a beginning of it.
-/
namespace RecordMapper.Batch

open RecordMapper.Config RecordMapper.Output RecordMapper.Schema
open RecordMapper.View

/-- A place in a plan: what the event is about and the outcomes that it may tell. -/
structure Slot where
  target : Target
  outcomes : List Outcome

def Slot.Admits (slot : Slot) (event : Event) : Prop :=
  event.target = slot.target.qualifiedName ∧ event.path = slot.target.path ∧
    event.outcome ∈ slot.outcomes

/-- The slot of an artefact that is asked for. -/
def slotOf (options : Options) (t : TableOutput) (name : String) (a : Artefact) : Slot :=
  ⟨a.target t.config name, a.outcomes options.force t.config⟩

/-- The events that a table records if it does not fail, by what the table finds. -/
def plan (options : Options) (t : TableOutput) (name : String) (d : Disk) : List Slot :=
  let model := Target.model t.config name
  if t.isSkipped && (options.force || !d.has model.path) then [⟨model, [.skippedBySettings]⟩]
  else if !options.force && d.has model.path then [⟨model, [.alreadyExists]⟩]
  else (artefacts options).map (slotOf options t name)

section

variable {options : Options} {t : TableOutput} {name : String} {w after : Workspace}
  {event : Event}

theorem admits_of_destination {slot : Slot} {r : Request}
    (hdestination : r.destination = .ok (Request.destination.place slot.target))
    (h : Action.on w r.perform = (.ok event, after)) (houtcome : event.outcome ∈ slot.outcomes) :
    slot.Admits event := by
  have hevent := (records_perform h).destination_eq
  rw [hdestination] at hevent
  simp only [Request.destination.place, Except.ok.injEq, Prod.mk.injEq] at hevent
  exact ⟨hevent.1.symm, hevent.2.symm, houtcome⟩

theorem admits_skipped (target : Target)
    (h : Action.on w (Request.skipped target.qualifiedName target.path).perform =
      (.ok event, after)) : Slot.Admits ⟨target, [.skippedBySettings]⟩ event := by
  refine admits_of_destination rfl h ?_
  obtain ⟨verdict, hverdict, houtcome⟩ := decided_of_perform h
  cases hverdict
  rw [houtcome]
  exact List.mem_singleton_self _

theorem admits_modelIfWanted (hname : t.resolvedName = .ok name)
    (h : Action.on w (Request.modelIfWanted t).perform = (.ok event, after)) :
    Slot.Admits ⟨Target.model t.config name,
      [if w.disk.has (Target.model t.config name).path then .alreadyExists
        else if t.isSkipped then .skippedBySettings else .created]⟩ event := by
  refine admits_of_destination (Artefact.destination_request hname false .model) h ?_
  rw [Artefact.outcome_modelIfWanted hname h]
  exact List.mem_singleton_self _

theorem admits_request (hname : t.resolvedName = .ok name) {a : Artefact}
    (ha : a = .model → options.force = true)
    (h : Action.on w (a.request options.force t).perform = (.ok event, after)) :
    (slotOf options t name a).Admits event :=
  admits_of_destination (Artefact.destination_request hname options.force a) h
    (Artefact.outcome_mem_outcomes ha h)

end

/-- The requests of a row go with the slots of a plan: what a request records on the disk that it
finds fits its slot. -/
inductive Planned : List Request → List Slot → Disk → Prop
  | nil (d : Disk) : Planned [] [] d
  | cons {r : Request} {requests : List Request} {slot : Slot} {slots : List Slot} {d : Disk}
      (head : ∀ (w after : Workspace) (event : Event), w.disk = d →
        Action.on w r.perform = (.ok event, after) → slot.Admits event)
      (tail : ∀ e, Planned requests slots e) : Planned (r :: requests) (slot :: slots) d

namespace Planned

variable {requests more : List Request} {slots later : List Slot} {d : Disk}

theorem length_eq (h : Planned requests slots d) : requests.length = slots.length := by
  induction h with
  | nil => rfl
  | @cons r requests slot slots d head tail ih => exact congrArg (· + 1) (ih d)

/-- One request whose event fits on the disk that it finds. -/
theorem single {r : Request} {slot : Slot}
    (h : ∀ (w after : Workspace) (event : Event), w.disk = d →
      Action.on w r.perform = (.ok event, after) → slot.Admits event) : Planned [r] [slot] d :=
  .cons h fun e => .nil e

end Planned

theorem planned_map (options : Options) {t : TableOutput} {name : String}
    (hname : t.resolvedName = .ok name) {wanted : List Artefact}
    (hwanted : ∀ a ∈ wanted, a = .model → options.force = true) (d : Disk) :
    Planned (wanted.map (Artefact.request options.force t))
      (wanted.map (slotOf options t name)) d := by
  induction wanted generalizing d with
  | nil => exact .nil d
  | cons a rest ih =>
    refine .cons (fun _ _ _ _ h => admits_request hname (hwanted a (List.mem_cons_self ..)) h) ?_
    exact ih fun b hb => hwanted b (List.mem_cons_of_mem _ hb)

theorem model_not_mem_companions (options : Options) : .model ∉ companions options := by
  rw [companions]
  cases options.withSpecs <;> cases options.withArbitraries <;> decide

theorem planned_requests (options : Options) {t : TableOutput} {name : String}
    (hname : t.resolvedName = .ok name) (d : Disk) :
    Planned (requests options t name d) (plan options t name d) d := by
  have hcompanions := planned_map options hname fun a (ha : a ∈ companions options) hmodel =>
    absurd (hmodel ▸ ha) (model_not_mem_companions options)
  have hall (hforce : options.force = true) :=
    planned_map options hname fun a (_ : a ∈ artefacts options) _ => hforce
  unfold requests plan
  dsimp only
  cases hforce : options.force with
  | true =>
    cases t.isSkipped with
    | true => exact .single fun _ _ _ _ h => admits_skipped _ h
    | false =>
      rw [hforce] at hall
      exact hall rfl d
  | false =>
    have hwanted {w after : Workspace} {event : Event} (hd : w.disk = d)
        (h : Action.on w (Request.modelIfWanted t).perform = (.ok event, after)) :
        Slot.Admits ⟨Target.model t.config name,
          [if d.has (Target.model t.config name).path then .alreadyExists
            else if t.isSkipped then .skippedBySettings else .created]⟩ event := by
      rw [← hd]
      exact admits_modelIfWanted hname h
    rw [hforce] at hcompanions
    cases hhas : d.has (Target.model t.config name).path with
    | true =>
      rw [hhas] at hwanted
      cases t.isSkipped <;> exact .single fun _ _ _ hd h => hwanted hd h
    | false =>
      rw [hhas] at hwanted
      cases hskip : t.isSkipped with
      | true =>
        rw [hskip] at hwanted
        exact .single fun _ _ _ hd h => hwanted hd h
      | false =>
        rw [hskip] at hwanted
        exact .cons (fun _ _ _ hd h => hwanted hd h) hcompanions

theorem admits_of_row {requests : List Request} {slots : List Slot} {w after : Workspace}
    {events : List Event} {result : Except Failure Unit} (h : Row requests w events result after)
    (hplanned : Planned requests slots w.disk) :
    List.Forall₂ Slot.Admits (slots.take events.length) events := by
  induction h generalizing slots with
  | done => exact .nil
  | stopped => exact .nil
  | next perform row ih =>
    cases hplanned with
    | cons head tail => exact .cons (head _ _ _ rfl perform) (ih (tail _))

/-- What a turn adds to the log is a beginning of its plan, and all of it exactly when the turn does
not fail. -/
structure Segment (options : Options) (turn : Turn) (events : List Event) : Prop where
  log_eq : turn.after.log.events = turn.before.log.events ++ events
  planned : ∃ name, turn.output.resolvedName = .ok name ∧
    events.length ≤ (plan options turn.output name turn.before.disk).length ∧
    List.Forall₂ Slot.Admits
      ((plan options turn.output name turn.before.disk).take events.length) events ∧
    (events.length = (plan options turn.output name turn.before.disk).length ↔
      turn.result = .ok ())

theorem segment_ofTable (options : Options) {config : Settings} {classNames : ClassNames}
    {table : Table} (w : Workspace) {name : String}
    (hname : (TableOutput.mk config table (classNames.lookup table.name)).resolvedName = .ok name) :
    ∃ events, Segment options (Turn.ofTable options config classNames w table) events := by
  obtain ⟨events, hrow⟩ := row_writeTable options w hname
  have hplanned := planned_requests options hname w.disk
  refine ⟨events, hrow.log_eq, name, hname, ?_, admits_of_row hrow hplanned, ?_⟩
  · exact hplanned.length_eq ▸ hrow.length_le
  · exact hplanned.length_eq ▸ hrow.length_eq_iff

theorem segments_turns (options : Options) {config : Settings} {classNames : ClassNames}
    {tables : List Table}
    (hnamed : ∀ table ∈ tables, ∃ name,
      (TableOutput.mk config table (classNames.lookup table.name)).resolvedName = .ok name)
    (w : Workspace) :
    ∃ segments : List (List Event),
      (leftBy w (turns options config classNames tables w)).log.events =
        w.log.events ++ segments.flatten ∧
      List.Forall₂ (Segment options) (turns options config classNames tables w) segments := by
  induction tables generalizing w with
  | nil => exact ⟨[], (List.append_nil _).symm, .nil⟩
  | cons table rest ih =>
    obtain ⟨name, hname⟩ := hnamed table (List.mem_cons_self ..)
    obtain ⟨events, hsegment⟩ := segment_ofTable options w hname
    obtain ⟨segments, hlog, hall⟩ := ih
      (fun other hother => hnamed other (List.mem_cons_of_mem _ hother))
      (Turn.ofTable options config classNames w table).after
    refine ⟨events :: segments, ?_, .cons hsegment hall⟩
    rw [turns, leftBy, List.foldl_cons, ← leftBy, hlog, hsegment.log_eq, List.flatten_cons,
      List.append_assoc]
    rfl

/-- A class name from a policy that answers with texts, or an explicit text, is a name. -/
theorem resolvedName_eq_ok {config : Settings} {classNames : ClassNames} {table : Table}
    (hpolicy : ∃ text, config.className table.name = .text text)
    (hexplicit : ∀ entry ∈ classNames, ∃ text, entry.2 = .text text) :
    ∃ name, (TableOutput.mk config table (classNames.lookup table.name)).resolvedName =
      .ok name := by
  obtain ⟨text, htext⟩ := hpolicy
  have hdefault : Policy.name (config.className table.name) = .ok text := by rw [htext]; rfl
  unfold TableOutput.resolvedName classOf
  cases hlookup : classNames.lookup table.name with
  | none => exact ⟨text, hdefault⟩
  | some value =>
    obtain ⟨before, after, hentry, _⟩ := List.lookup_eq_some_iff.mp hlookup
    obtain ⟨explicit, hexplicit⟩ := hexplicit (table.name, value) (by rw [hentry]; simp)
    cases hexplicit
    dsimp only
    split
    · exact ⟨explicit, rfl⟩
    · exact ⟨text, hdefault⟩

/-- Without checks there is no run, and nothing is written. -/
theorem perform_of_error {tables : List Table} {config : Settings} {failure : Failure}
    (h : Validation.check tables config = .error failure) (options : Options)
    (classNames : ClassNames) (disk : Disk) :
    Run.perform options tables config classNames disk = (.error failure, disk) := by
  rw [Run.perform, h]

/-- A run reports what the checks found. -/
theorem check_of_perform {options : Options} {tables : List Table} {config : Settings}
    {classNames : ClassNames} {disk after : Disk} {run : Run}
    (hrun : Run.perform options tables config classNames disk = (.ok run, after)) :
    Validation.check tables config = .ok run.checkup := by
  unfold Run.perform at hrun
  split at hrun
  · cases hrun
  next checkup hcheck =>
    dsimp only at hrun
    split at hrun
    · cases hrun
      exact hcheck
    · cases hrun
      exact hcheck

/-- A run that reaches generation wrote its tables, starting from its disk and an empty log. -/
theorem writeTables_of_perform {options : Options} {tables : List Table} {config : Settings}
    {classNames : ClassNames} {disk after : Disk} {run : Run} {generation : Generation}
    (hrun : Run.perform options tables config classNames disk = (.ok run, after))
    (hgeneration : run.generation = some generation) :
    generation.tables = tables.length ∧
      writeTables options config classNames tables ⟨disk, .empty⟩ =
        (generation.failures, ⟨after, run.log⟩) := by
  unfold Run.perform at hrun
  split at hrun
  · cases hrun
  · split at hrun
    · cases hrun
      cases hgeneration
      exact ⟨rfl, rfl⟩
    · cases hrun
      cases hgeneration

/-- The shape of every run that reaches generation, when class names are texts. Each table has its
turn, in order and whatever failed before; the log is made of one segment for each turn; and the
failures of the turns, at most one for each, are what the report lists, those of storage apart from
the others. -/
theorem log_perform_segments {options : Options} {tables : List Table} {config : Settings}
    {classNames : ClassNames} {disk after : Disk} {run : Run} {generation : Generation}
    (hpolicy : ∀ table ∈ tables, ∃ text, config.className table.name = .text text)
    (hexplicit : ∀ entry ∈ classNames, ∃ text, entry.2 = .text text)
    (hrun : Run.perform options tables config classNames disk = (.ok run, after))
    (hgeneration : run.generation = some generation) :
    let taken := turns options config classNames tables ⟨disk, .empty⟩
    taken.map (fun turn => turn.output.table) = tables ∧ generation.tables = tables.length ∧
    (∃ segments : List (List Event), run.log.events = segments.flatten ∧
      List.Forall₂ (Segment options) taken segments) ∧
    ∀ before, (run.report before).writeErrors =
        ((taken.filterMap Turn.failure?).filter TableFailure.isStorage).map TableFailure.line ∧
      (run.report before).generationErrors =
        ((taken.filterMap Turn.failure?).filter fun f => !f.isStorage).map TableFailure.line := by
  intro taken
  obtain ⟨htables, hwrite⟩ := writeTables_of_perform hrun hgeneration
  rw [writeTables_eq] at hwrite
  have hfailures : taken.filterMap Turn.failure? = generation.failures := congrArg Prod.fst hwrite
  have hleft : leftBy ⟨disk, .empty⟩ taken = ⟨after, run.log⟩ := congrArg Prod.snd hwrite
  have hnamed : ∀ table ∈ tables, ∃ name,
      (TableOutput.mk config table (classNames.lookup table.name)).resolvedName = .ok name :=
    fun table htable => resolvedName_eq_ok (hpolicy table htable) hexplicit
  obtain ⟨segments, hlog, hall⟩ := segments_turns options hnamed ⟨disk, .empty⟩
  refine ⟨map_table_turns options config classNames tables _, htables, ⟨segments, ?_, hall⟩, ?_⟩
  · have hevents : (leftBy ⟨disk, .empty⟩ taken).log.events = segments.flatten := hlog
    rwa [hleft] at hevents
  · intro before
    have hlines (which : TableFailure → Bool) : run.failureLines which =
        (generation.failures.filter which).map TableFailure.line := by
      rw [Run.failureLines, hgeneration]
    rw [hfailures]
    exact ⟨hlines _, hlines _⟩

/-- Where no directory for tests can be made, the run records of one table all but its arbitrary
trait, whose failure it lists, and goes on to the table that the settings leave out. There is no
spec for lack of a framework. -/
theorem log_perform_segments_of_blocked :
    ∃ run after generation,
      Run.perform .default [Sample.emp, Sample.dept] Sample.skipping [] Sample.blocked =
        (.ok run, after) ∧
      run.generation = some generation ∧
      generation.failures.map TableFailure.table = ["emp"] ∧
      run.log.events.map Event.outcome = [.created, .noOutput, .skippedBySettings] ∧
      ∃ segments : List (List Event), run.log.events = segments.flatten ∧
        List.Forall₂ (Segment .default)
          (turns .default Sample.skipping [] [Sample.emp, Sample.dept] ⟨Sample.blocked, .empty⟩)
          segments := by
  have htold : ((Run.perform .default [Sample.emp, Sample.dept] Sample.skipping []
      Sample.blocked).1.toOption.bind fun run => run.generation.map fun generation =>
        (generation.failures.map TableFailure.table, run.log.events.map Event.outcome)) =
      some (["emp"], [.created, .noOutput, .skippedBySettings]) := by decide +kernel
  rcases hrun : Run.perform .default [Sample.emp, Sample.dept] Sample.skipping [] Sample.blocked
    with ⟨failure | run, after⟩
  · rw [hrun] at htold
    cases htold
  · rw [hrun] at htold
    obtain ⟨generation, hgeneration, hsame⟩ := Option.map_eq_some_iff.mp htold
    obtain ⟨hfailures, houtcomes⟩ := Prod.mk.inj hsame
    refine ⟨run, after, generation, rfl, hgeneration, hfailures, houtcomes, ?_⟩
    have hpolicy : ∀ table ∈ [Sample.emp, Sample.dept], ∃ text,
        Sample.skipping.className table.name = .text text :=
      fun table _ => ⟨Naming.className table.name, rfl⟩
    exact (log_perform_segments hpolicy (by simp) hrun hgeneration).2.2.1

end RecordMapper.Batch
