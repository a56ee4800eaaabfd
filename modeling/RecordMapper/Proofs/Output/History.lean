import RecordMapper.Proofs.Output.Request
import Mathlib.Data.List.Forall2

/-!
# Histories of requests

Requests in any order on one workspace. A request that returns records one event, which tells what
became of the file of the request; one that fails records none and leaves all files as they were.
-/
namespace RecordMapper.Output

open RecordMapper.Disk RecordMapper.Text

namespace Request

/-- The target and the path that a request is about. -/
def destination : Request → Except Failure (String × Path)
  | write _ unit => .ok (unit.target, unit.path)
  | writeIfAbsent _ unit => .ok (unit.target, unit.path)
  | alreadyExists target path => .ok (target, path)
  | skipped target path => .ok (target, path)
  | noOutput target path => .ok (target, path)
  | model t => t.resolvedName.map fun name => place (Target.model t.config name)
  | modelIfWanted t => t.resolvedName.map fun name => place (Target.model t.config name)
  | spec t _ _ => t.resolvedName.map fun name => place (Target.spec t.config name)
  | arbitrary t _ _ => t.resolvedName.map fun name => place (Target.arbitrary t.config name)
where
  place (target : Target) : String × Path := (target.qualifiedName, target.path)

/-- The bytes that a request is to store with the code pages of a host, if it stores anything at
all. -/
def bytes (pages : CodePages) : Request → Except Failure (Option (List UInt8))
  | write encoding unit => encoded encoding unit.content
  | writeIfAbsent encoding unit => encoded encoding unit.content
  | alreadyExists _ _ => .ok none
  | skipped _ _ => .ok none
  | noOutput _ _ => .ok none
  | model t => do encoded t.config.encoding (← t.model)
  | modelIfWanted t => do encoded t.config.encoding (← t.model)
  | spec t _ given => do
    match ← t.specOr given with
    | none => return none
    | some text => encoded t.config.encoding text
  | arbitrary t _ given => do encoded t.config.encoding (← t.arbitraryOr given)
where
  encoded (encoding text : String) : Except Failure (Option (List UInt8)) :=
    (Encoding.encodeNamed pages encoding text).map some

end Request

/-- A verdict that is about the destination of its request and stores nothing but its bytes. -/
def Verdict.Fits (pages : CodePages) (r : Request) : Verdict → Prop
  | note target path outcome => r.destination = .ok (target, path) ∧ outcome ≠ .created
  | store encoding unit => r.destination = .ok (unit.target, unit.path) ∧
      r.bytes pages = (Encoding.encodeNamed pages encoding unit.content).map some

theorem fits_ofUnit {pages : CodePages} {r : Request} {encoding : String} {unit : SourceUnit}
    (h : (Verdict.store encoding unit).Fits pages r) (overwrite : Bool) (d : Disk) :
    (Verdict.ofUnit overwrite d encoding unit).Fits pages r := by
  unfold Verdict.ofUnit
  split
  · exact h
  · exact ⟨h.1, by decide⟩

theorem fits_verdict {r : Request} {d : Disk} {verdict : Verdict} (h : r.verdict d = .ok verdict)
    (pages : CodePages) : verdict.Fits pages r := by
  cases r with
  | write encoding unit =>
    cases h
    exact ⟨rfl, rfl⟩
  | writeIfAbsent encoding unit =>
    cases h
    exact fits_ofUnit ⟨rfl, rfl⟩ false d
  | alreadyExists target path =>
    cases h
    exact ⟨rfl, by decide⟩
  | skipped target path =>
    cases h
    exact ⟨rfl, by decide⟩
  | noOutput target path =>
    cases h
    exact ⟨rfl, by decide⟩
  | model t =>
    obtain ⟨text, name, htext, hname, rfl⟩ := Request.model_decided h
    exact ⟨by rw [Request.destination, hname]; rfl, by rw [Request.bytes, htext, ok_bind]; rfl⟩
  | modelIfWanted t =>
    obtain ⟨name, hname, ⟨_, _, rfl⟩ | ⟨_, text, htext, rfl⟩⟩ := Request.modelIfWanted_decided h
    · exact ⟨by rw [Request.destination, hname]; rfl, by decide⟩
    · exact fits_ofUnit
        ⟨by rw [Request.destination, hname]; rfl, by rw [Request.bytes, htext, ok_bind]; rfl⟩
        false d
  | spec t overwrite given =>
    obtain ⟨content, name, hcontent, hname, rfl⟩ := Request.spec_decided h
    have hdestination : (Request.spec t overwrite given).destination =
        .ok (Request.destination.place (Target.spec t.config name)) := by
      rw [Request.destination, hname]
      rfl
    cases content with
    | none => exact ⟨hdestination, by decide⟩
    | some text =>
      exact fits_ofUnit ⟨hdestination, by rw [Request.bytes, hcontent, ok_bind]; rfl⟩ overwrite d
  | arbitrary t overwrite given =>
    obtain ⟨text, name, htext, hname, rfl⟩ := Request.arbitrary_decided h
    exact fits_ofUnit
      ⟨by rw [Request.destination, hname]; rfl, by rw [Request.bytes, htext, ok_bind]; rfl⟩
      overwrite d

/-- What a request that returned has done. A new file holds the bytes of the request and is the only
file that is different; without a new file the disk is as it was. -/
structure Records (r : Request) (before after : Workspace) (event : Event) : Prop where
  log_eq : after.log = before.log.add event
  destination_eq : r.destination = .ok (event.target, event.path)
  created : event.outcome = .created →
    (∃ content, r.bytes before.disk.codePages = .ok (some content) ∧
      after.disk.content? event.path = some content ∧ event.size = content.length) ∧
    ∀ location, location ≠ before.disk.placeOf event.path →
      after.disk.fileAt location = before.disk.fileAt location
  unchanged : event.outcome ≠ .created → after.disk = before.disk ∧ event.size = 0

/-- What a request that failed has done: at most it made missing directories on the way to the
directory of its file. -/
structure Fails (r : Request) (before after : Workspace) : Prop where
  log_eq : after.log = before.log
  fileAt_eq : ∀ location, after.disk.fileAt location = before.disk.fileAt location
  made : ∀ location, after.disk.nodeAt location ≠ before.disk.nodeAt location →
    before.disk.nodeAt location = none ∧ after.disk.nodeAt location = some .directory ∧
      ∃ target path, r.destination = .ok (target, path) ∧ before.disk.OnWay path.parent location

theorem records_perform {r : Request} {w after : Workspace} {event : Event}
    (h : Action.on w r.perform = (.ok event, after)) : Records r w after event := by
  have hsettled := settled_perform r w
  rw [h] at hsettled
  cases hsettled with
  | noted decided =>
    obtain ⟨hdestination, hne⟩ := fits_verdict decided w.disk.codePages
    exact ⟨rfl, hdestination, fun hc => absurd hc hne, fun _ => ⟨rfl, rfl⟩⟩
  | stored decided encoded stored =>
    obtain ⟨hdestination, hbytes⟩ := fits_verdict decided w.disk.codePages
    rw [encoded] at hbytes
    refine ⟨rfl, hdestination, fun _ => ⟨⟨_, hbytes, stored.content?_eq, rfl⟩, ?_⟩,
      fun hc => absurd rfl hc⟩
    intro location hne
    exact stored.fileAt_of_ne hne

theorem fails_perform {r : Request} {w after : Workspace} {failure : Failure}
    (h : Action.on w r.perform = (.error failure, after)) : Fails r w after := by
  have hsettled := settled_perform r w
  rw [h] at hsettled
  cases hsettled with
  | undecided decided => exact ⟨rfl, fun _ => rfl, fun _ hne => absurd rfl hne⟩
  | failed decided grown =>
    refine ⟨rfl, grown.fileAt_eq, fun location hne => ?_⟩
    rcases grown.nodeAt_eq_or location with heq | ⟨hway, hfree, hmade⟩
    · exact absurd heq hne
    · exact ⟨hfree, hmade, _, _, (fits_verdict decided w.disk.codePages).1, hway⟩

/-- One request of a history, with what it found and what it left. -/
structure Step where
  request : Request
  before : Workspace
  result : Except Failure Unit
  after : Workspace

namespace Step

def ofRequest (w : Workspace) (request : Request) : Step :=
  let out := Action.on w request.session
  ⟨request, w, out.1, out.2⟩

def returned (step : Step) : Bool :=
  match step.result with
  | .ok _ => true
  | .error _ => false

end Step

/-- Requests one after another, each where the one before it ended. -/
def history : List Request → Workspace → List Step
  | [], _ => []
  | request :: rest, w =>
    let step := Step.ofRequest w request
    step :: history rest step.after

/-- The workspace after a history. -/
def replay : List Request → Workspace → Workspace
  | [], w => w
  | request :: rest, w => replay rest (Step.ofRequest w request).after

/-- A step records one event when it returns and none when it fails. -/
theorem step_ofRequest (w : Workspace) (request : Request) :
    let step := Step.ofRequest w request
    (step.returned = true ∧ ∃ event, Records request w step.after event) ∨
      (step.returned = false ∧ Fails request w step.after) := by
  have hsession := on_session w request
  rcases hperform : Action.on w request.perform with ⟨failure | event, after⟩
  · have hstep : Step.ofRequest w request = ⟨request, w, .error failure, after⟩ := by
      simp only [Step.ofRequest, hsession, hperform, Except.map]
    rw [hstep]
    exact .inr ⟨rfl, fails_perform hperform⟩
  · have hstep : Step.ofRequest w request = ⟨request, w, .ok (), after⟩ := by
      simp only [Step.ofRequest, hsession, hperform, Except.map]
    rw [hstep]
    exact .inl ⟨rfl, event, records_perform hperform⟩

/-- Over any requests on any workspace, the log grows by one event for each request that returns, in
their order, every such event tells what became of the disk, and a request that fails leaves the log
and all files alone. -/
theorem log_replay_faithful (requests : List Request) (w : Workspace) :
    (∃ events, (replay requests w).log.events = w.log.events ++ events ∧
      List.Forall₂ (fun step event => Records step.request step.before step.after event)
        ((history requests w).filter Step.returned) events) ∧
    ∀ step ∈ history requests w, step.returned = false →
      Fails step.request step.before step.after := by
  induction requests generalizing w with
  | nil => exact ⟨⟨[], (List.append_nil _).symm, .nil⟩, fun step hstep => by cases hstep⟩
  | cons request rest ih =>
    obtain ⟨⟨events, hevents, hall⟩, hfails⟩ := ih (Step.ofRequest w request).after
    rcases step_ofRequest w request with ⟨hreturned, event, hrecords⟩ | ⟨hfailed, hfail⟩
    · refine ⟨⟨event :: events, ?_, ?_⟩, ?_⟩
      · rw [replay, hevents, hrecords.log_eq, Log.add, List.append_assoc, List.singleton_append]
      · rw [history, List.filter_cons_of_pos hreturned]
        exact .cons hrecords hall
      · intro step hstep hnot
        rcases List.mem_cons.mp hstep with rfl | hrest
        · rw [hreturned] at hnot
          cases hnot
        · exact hfails step hrest hnot
    · refine ⟨⟨events, ?_, ?_⟩, ?_⟩
      · rw [replay, hevents, hfail.log_eq]
      · rw [history, List.filter_cons_of_neg (by simp [hfailed])]
        exact hall
      · intro step hstep hnot
        rcases List.mem_cons.mp hstep with rfl | hrest
        · exact hfail
        · exact hfails step hrest hnot

end RecordMapper.Output
