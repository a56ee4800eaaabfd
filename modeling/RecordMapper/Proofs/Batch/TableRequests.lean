import RecordMapper.Batch.Run
import RecordMapper.Proofs.Output.Artefact
import RecordMapper.Proofs.Output.Row

/-!
# Requests of a table

The sources of one table are a row of requests that is settled when the table is met: whether it is
skipped, and without force whether a model is there, decides if its companions are asked for.
-/
namespace RecordMapper.Batch

open RecordMapper.Output

/-- What is asked for beside the model. -/
def companions (options : Options) : List Artefact :=
  (if options.withSpecs then [.spec] else []) ++
    if options.withArbitraries then [.arbitrary] else []

/-- The artefacts of a table that is neither skipped nor there. -/
def artefacts (options : Options) : List Artefact := .model :: companions options

/-- The requests of a table under its class name, on the disk that it meets. -/
def requests (options : Options) (t : TableOutput) (name : String) (d : Disk) : List Request :=
  let target := Target.model t.config name
  if t.isSkipped && options.force then [.skipped target.qualifiedName target.path]
  else if !options.force && (t.isSkipped || d.has target.path) then [.modelIfWanted t]
  else (artefacts options).map (Artefact.request options.force t)

/-- A request of a table is about one of its artefacts. -/
theorem destination_of_mem_requests {options : Options} {t : TableOutput} {name : String}
    {d : Disk} (hname : t.resolvedName = .ok name) {r : Request}
    (hr : r ∈ requests options t name d) :
    ∃ a : Artefact, r.destination = .ok (Request.destination.place (a.target t.config name)) := by
  unfold requests at hr
  dsimp only at hr
  split at hr
  · cases List.mem_singleton.mp hr
    exact ⟨.model, rfl⟩
  · split at hr
    · cases List.mem_singleton.mp hr
      exact ⟨.model, Artefact.destination_request hname false .model⟩
    · obtain ⟨a, -, rfl⟩ := List.mem_map.mp hr
      exact ⟨a, Artefact.destination_request hname options.force a⟩

/-- The spec and the arbitrary trait. -/
def writeCompanions (options : Options) (t : TableOutput) : Session Unit := do
  if options.withSpecs then
    let _ ← t.writeSpec options.force none
  if options.withArbitraries then
    let _ ← t.writeArbitrary options.force none

theorem writeTable_eq (options : Options) (t : TableOutput) :
    writeTable options t =
      (writeModel options t >>= fun wrote =>
        if wrote then writeCompanions options t else pure ()) :=
  rfl

theorem on_writeCompanions (options : Options) (t : TableOutput) (w : Workspace) :
    Action.on w (writeCompanions options t) =
      Action.on w (performAll ((companions options).map (Artefact.request options.force t))) := by
  unfold writeCompanions companions
  have hspec := fun w => on_writeSpec w t options.force none
  have harbitrary := fun w => on_writeArbitrary w t options.force none
  cases options.withSpecs with
  | false => cases options.withArbitraries with
    | false => rfl
    | true => exact Action.on_bind_congr (harbitrary w) fun _ _ => rfl
  | true => cases options.withArbitraries with
    | false => exact Action.on_bind_congr (hspec w) fun _ _ => rfl
    | true =>
      refine Action.on_bind_congr (hspec w) fun _ w => ?_
      exact Action.on_bind_congr (harbitrary w) fun _ _ => rfl

section

variable {t : TableOutput} {name : String} {w after : Workspace} {event : Event}

/-- A wanted model and what follows it, if that depends on its outcome alone. -/
theorem on_writeModelIfWanted_then {next : Bool → Session Unit} {rest : List Request}
    (hnext : ∀ event after, Action.on w (Request.modelIfWanted t).perform = (.ok event, after) →
      Action.on after (next event.outcome.wrote) = Action.on after (performAll rest)) :
    Action.on w (t.writeModelIfWanted >>= next) =
      Action.on w (performAll (.modelIfWanted t :: rest)) := by
  rw [Action.on_bind_congr (on_writeModelIfWanted w t) fun _ _ => rfl, bind_assoc, performAll]
  rcases hperform : Action.on w (Request.modelIfWanted t).perform with ⟨failure | event, after⟩
  · rw [Action.on_bind_of_error hperform, Action.on_bind_of_error hperform]
  · rw [Action.on_bind_of_ok hperform, Action.on_bind_of_ok hperform]
    exact hnext event after hperform

/-- The requests of a table are what writing its sources performs. -/
theorem on_writeTable (options : Options) (hname : t.resolvedName = .ok name) :
    Action.on w (writeTable options t) =
      Action.on w (performAll (requests options t name w.disk)) := by
  have hcompanions := fun w => on_writeCompanions options t w
  rw [writeTable_eq, requests, writeModel]
  cases hforce : options.force with
  | true =>
    rw [hforce] at hcompanions
    cases t.isSkipped with
    | true =>
      have htarget := on_target w t Target.model
      rw [hname] at htarget
      have hmodel : Action.on w (do
          let target ← t.target Target.model
          let _ ← Session.skipped target.qualifiedName target.path
          return false) =
          (.ok false, ⟨w.disk, w.log.add ⟨(Target.model t.config name).qualifiedName,
            (Target.model t.config name).path, .skippedBySettings, 0⟩⟩) :=
        Action.on_bind_of_ok htarget _
      exact Action.on_bind_of_ok hmodel _
    | false =>
      show Action.on w ((t.writeModel >>= fun _ => pure true) >>= _) = _
      rw [bind_assoc]
      exact Action.on_bind_congr (on_writeModel w t) fun _ w => hcompanions w
  | false =>
    rw [hforce] at hcompanions
    -- The disk that the table meets decides the outcome of its model, and that what follows.
    have hwrote {event : Event} {after : Workspace}
        (h : Action.on w (Request.modelIfWanted t).perform = (.ok event, after)) :=
      Artefact.outcome_modelIfWanted hname h
    cases hhas : w.disk.has (Target.model t.config name).path with
    | true =>
      rw [Bool.or_true, Bool.and_false]
      refine on_writeModelIfWanted_then fun event after h => ?_
      rw [hwrote h, hhas]
      rfl
    | false =>
      cases hskip : t.isSkipped with
      | true =>
        refine on_writeModelIfWanted_then fun event after h => ?_
        rw [hwrote h, hhas, hskip]
        rfl
      | false =>
        refine on_writeModelIfWanted_then fun event after h => ?_
        rw [hwrote h, hhas, hskip]
        exact hcompanions after

/-- A table without a class name fails before anything is done. -/
theorem on_writeTable_of_error {failure : Failure} (options : Options)
    (hname : t.resolvedName = .error failure) :
    ∃ failure, Action.on w (writeTable options t) = (.error failure, w) := by
  have htarget := on_target w t Target.model
  rw [hname] at htarget
  have hperform : ∃ failure, Action.on w (Request.model t).perform = (.error failure, w) := by
    rw [on_perform, Request.verdict, hname]
    cases t.model with
    | error failure => exact ⟨_, rfl⟩
    | ok content => exact ⟨_, rfl⟩
  have hwanted : ∃ failure,
      Action.on w (Request.modelIfWanted t).perform = (.error failure, w) := by
    obtain ⟨failure, hverdict⟩ := Request.verdict_modelIfWanted_of_error w.disk hname
    exact ⟨failure, on_perform_of_error w hverdict⟩
  rw [writeTable_eq, writeModel]
  cases options.force with
  | true =>
    cases t.isSkipped with
    | true => exact ⟨_, Action.on_bind_of_error (Action.on_bind_of_error htarget _) _⟩
    | false =>
      obtain ⟨failure, hfailure⟩ := hperform
      rw [← on_writeModel] at hfailure
      exact ⟨_, Action.on_bind_of_error (Action.on_bind_of_error hfailure _) _⟩
  | false =>
    obtain ⟨failure, hfailure⟩ := hwanted
    have hmodel := (on_writeModelIfWanted w t).trans (Action.on_bind_of_error hfailure _)
    exact ⟨_, Action.on_bind_of_error hmodel _⟩

end

end RecordMapper.Batch
