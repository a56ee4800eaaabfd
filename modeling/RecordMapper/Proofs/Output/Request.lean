import RecordMapper.Output.TableOutput
import RecordMapper.Proofs.Disk.Replacement

/-!
# Requests

Every operation of a writer and of the output of a table is a request. A request first decides, from
the disk alone, whether to note an outcome or to store a text, and only then acts; all that can
happen in acting is said once for all of them.
-/
namespace RecordMapper.Output

open RecordMapper.Config RecordMapper.Disk RecordMapper.Text

/-- A text on its way to a target. -/
def SourceUnit.ofTarget (target : Target) (content : String) : SourceUnit :=
  ⟨target.path, content, target.qualifiedName⟩

/-- What a request comes to before anything is changed. -/
inductive Verdict where
  | note (target : String) (path : Path) (outcome : Outcome)
  | store (encoding : String) (unit : SourceUnit)

namespace Verdict

def act : Verdict → Session Event
  | note target path outcome => Session.record ⟨target, path, outcome, 0⟩
  | store encoding unit => Session.write encoding unit

/-- What comes of it when nothing fails. -/
def outcome : Verdict → Outcome
  | note _ _ outcome => outcome
  | store _ _ => .created

/-- A unit is stored over what is there, or only where nothing is. -/
def ofUnit (overwrite : Bool) (d : Disk) (encoding : String) (unit : SourceUnit) : Verdict :=
  if overwrite || !d.has unit.path then store encoding unit
  else note unit.target unit.path .alreadyExists

/-- A text that may be missing on its way to a target. -/
def ofOptional (overwrite : Bool) (d : Disk) (encoding : String) (target : Target) :
    Option String → Verdict
  | none => note target.qualifiedName target.path .noOutput
  | some content => ofUnit overwrite d encoding (.ofTarget target content)

theorem outcome_ofUnit (overwrite : Bool) (d : Disk) (encoding : String) (unit : SourceUnit) :
    (ofUnit overwrite d encoding unit).outcome =
      if overwrite || !d.has unit.path then .created else .alreadyExists := by
  unfold ofUnit
  split <;> rfl

end Verdict

inductive Request where
  | write (encoding : String) (unit : SourceUnit)
  | writeIfAbsent (encoding : String) (unit : SourceUnit)
  | alreadyExists (target : String) (path : Path)
  | skipped (target : String) (path : Path)
  | noOutput (target : String) (path : Path)
  | model (t : TableOutput)
  | modelIfWanted (t : TableOutput)
  | spec (t : TableOutput) (overwrite : Bool) (given : Option String)
  | arbitrary (t : TableOutput) (overwrite : Bool) (given : Option String)

namespace Request

/-- The operation that is requested. -/
def session : Request → Session Unit
  | write encoding unit => do let _ ← Session.write encoding unit
  | writeIfAbsent encoding unit => do let _ ← Session.writeIfAbsent encoding unit
  | alreadyExists target path => do let _ ← Session.alreadyExists target path
  | skipped target path => do let _ ← Session.skipped target path
  | noOutput target path => do let _ ← Session.noOutput target path
  | model t => do let _ ← t.writeModel
  | modelIfWanted t => do let _ ← t.writeModelIfWanted
  | spec t overwrite given => do let _ ← t.writeSpec overwrite given
  | arbitrary t overwrite given => do let _ ← t.writeArbitrary overwrite given

/-- The model goes where nothing is. -/
def absentModel (d : Disk) (t : TableOutput) : Except Failure Verdict := do
  let content ← t.model
  let target := Target.model t.config (← t.resolvedName)
  return .ofUnit false d t.config.encoding (.ofTarget target content)

/-- What a request decides on a disk. -/
def verdict (d : Disk) : Request → Except Failure Verdict
  | write encoding unit => .ok (.store encoding unit)
  | writeIfAbsent encoding unit => .ok (.ofUnit false d encoding unit)
  | alreadyExists target path => .ok (.note target path .alreadyExists)
  | skipped target path => .ok (.note target path .skippedBySettings)
  | noOutput target path => .ok (.note target path .noOutput)
  | model t => do
    let content ← t.model
    let target := Target.model t.config (← t.resolvedName)
    return .store t.config.encoding (.ofTarget target content)
  | modelIfWanted t =>
    if t.isSkipped then do
      let target := Target.model t.config (← t.resolvedName)
      if d.has target.path then absentModel d t
      else return .note target.qualifiedName target.path .skippedBySettings
    else absentModel d t
  | spec t overwrite given => do
    let content ← t.specOr given
    let target := Target.spec t.config (← t.resolvedName)
    return .ofOptional overwrite d t.config.encoding target content
  | arbitrary t overwrite given => do
    let content ← t.arbitraryOr given
    let target := Target.arbitrary t.config (← t.resolvedName)
    return .ofUnit overwrite d t.config.encoding (.ofTarget target content)

section Decided

variable {t : TableOutput} {d : Disk} {verdict : Verdict}

theorem verdict_modelIfWanted (d : Disk) {name : String} (hname : t.resolvedName = .ok name) :
    (modelIfWanted t).verdict d =
      if t.isSkipped && !d.has (Target.model t.config name).path then
        .ok (.note (Target.model t.config name).qualifiedName (Target.model t.config name).path
          .skippedBySettings)
      else absentModel d t := by
  rw [Request.verdict, hname]
  cases t.isSkipped with
  | false => rfl
  | true =>
    rw [if_pos rfl, ok_bind]
    cases hhas : d.has (Target.model t.config name).path <;> simp only [hhas] <;> rfl

/-- Without a class name nothing is decided. -/
theorem verdict_modelIfWanted_of_error (d : Disk) {failure : Failure}
    (hname : t.resolvedName = .error failure) :
    ∃ failure, (modelIfWanted t).verdict d = .error failure := by
  have habsent : ∃ failure, absentModel d t = .error failure := by
    unfold absentModel
    rw [hname]
    cases t.model with
    | error failure => exact ⟨_, rfl⟩
    | ok content => exact ⟨_, rfl⟩
  rw [Request.verdict, hname]
  cases t.isSkipped with
  | false => exact habsent
  | true => exact ⟨_, rfl⟩

theorem model_decided (h : (model t).verdict d = .ok verdict) :
    ∃ text name, t.model = .ok text ∧ t.resolvedName = .ok name ∧
      verdict = .ofUnit true d t.config.encoding (.ofTarget (Target.model t.config name) text) := by
  obtain ⟨text, htext, h⟩ := bind_eq_ok_iff.mp h
  obtain ⟨name, hname, h⟩ := bind_eq_ok_iff.mp h
  cases h
  exact ⟨text, name, htext, hname, rfl⟩

/-- A wanted model is skipped when the table is and nothing is there; otherwise it goes where
nothing is. -/
theorem modelIfWanted_decided (h : (modelIfWanted t).verdict d = .ok verdict) :
    ∃ name, t.resolvedName = .ok name ∧
      ((t.isSkipped = true ∧ d.has (Target.model t.config name).path = false ∧
        verdict = .note (Target.model t.config name).qualifiedName
          (Target.model t.config name).path .skippedBySettings) ∨
      ((t.isSkipped = false ∨ d.has (Target.model t.config name).path = true) ∧
        ∃ text, t.model = .ok text ∧ verdict =
          .ofUnit false d t.config.encoding (.ofTarget (Target.model t.config name) text))) := by
  cases hname : t.resolvedName with
  | error failure =>
    obtain ⟨_, herror⟩ := verdict_modelIfWanted_of_error d hname
    rw [herror] at h
    cases h
  | ok name =>
    refine ⟨name, rfl, ?_⟩
    rw [verdict_modelIfWanted d hname] at h
    split at h
    · rename_i hskip
      rw [Bool.and_eq_true, Bool.not_eq_true'] at hskip
      cases h
      exact .inl ⟨hskip.1, hskip.2, rfl⟩
    · rename_i hwanted
      rw [Bool.not_eq_true, Bool.and_eq_false_iff, Bool.not_eq_false'] at hwanted
      obtain ⟨text, htext, h⟩ := bind_eq_ok_iff.mp h
      rw [hname, ok_bind] at h
      cases h
      exact .inr ⟨hwanted, text, htext, rfl⟩

theorem spec_decided {overwrite : Bool} {given : Option String}
    (h : (spec t overwrite given).verdict d = .ok verdict) :
    ∃ content name, t.specOr given = .ok content ∧ t.resolvedName = .ok name ∧
      verdict = .ofOptional overwrite d t.config.encoding (Target.spec t.config name) content := by
  obtain ⟨content, hcontent, h⟩ := bind_eq_ok_iff.mp h
  obtain ⟨name, hname, h⟩ := bind_eq_ok_iff.mp h
  cases h
  exact ⟨content, name, hcontent, hname, rfl⟩

theorem arbitrary_decided {overwrite : Bool} {given : Option String}
    (h : (arbitrary t overwrite given).verdict d = .ok verdict) :
    ∃ text name, t.arbitraryOr given = .ok text ∧ t.resolvedName = .ok name ∧
      verdict = .ofUnit overwrite d t.config.encoding
        (.ofTarget (Target.arbitrary t.config name) text) := by
  obtain ⟨text, htext, h⟩ := bind_eq_ok_iff.mp h
  obtain ⟨name, hname, h⟩ := bind_eq_ok_iff.mp h
  cases h
  exact ⟨text, name, htext, hname, rfl⟩

end Decided

/-- The request as a decision and an act. -/
def perform (r : Request) : Session Event := do
  let w ← get
  let verdict ← liftM (r.verdict w.disk)
  verdict.act

end Request

section Decisions

variable (w : Workspace)

theorem on_perform (r : Request) :
    Action.on w r.perform = match r.verdict w.disk with
      | .ok verdict => Action.on w verdict.act
      | .error failure => (.error failure, w) := by
  simp only [Request.perform, Action.on_bind, Action.on_get, Action.on_liftM]
  cases r.verdict w.disk <;> rfl

theorem on_has (path : Path) : Action.on w (Session.has path) = (.ok (w.disk.has path), w) := rfl

theorem on_write (encoding : String) (unit : SourceUnit) :
    Action.on w (Session.write encoding unit) =
      match Action.on w.disk (writeText encoding unit.path unit.content) with
      | (.ok size, disk) => (.ok ⟨unit.target, unit.path, .created, size⟩,
          ⟨disk, w.log.add ⟨unit.target, unit.path, .created, size⟩⟩)
      | (.error failure, disk) => (.error failure, ⟨disk, w.log⟩) := by
  have hchange : Action.on w (Session.ofChange (writeText encoding unit.path unit.content)) =
      ((Action.on w.disk (writeText encoding unit.path unit.content)).1,
        { w with disk := (Action.on w.disk (writeText encoding unit.path unit.content)).2 }) := rfl
  simp only [Session.write, Action.on_bind, hchange]
  rcases Action.on w.disk (writeText encoding unit.path unit.content) with ⟨_ | _, _⟩ <;> rfl

theorem on_writeIfAbsent (encoding : String) (unit : SourceUnit) :
    Action.on w (Session.writeIfAbsent encoding unit) =
      Action.on w (Verdict.ofUnit false w.disk encoding unit).act := by
  simp only [Session.writeIfAbsent, Session.has, Action.on_bind, Action.on_get, Action.on_pure,
    Verdict.ofUnit, Bool.false_or]
  cases w.disk.has unit.path <;> rfl

theorem on_put (t : TableOutput) (overwrite : Bool) (target : Target) (content : String) :
    Action.on w (t.put overwrite target content) =
      Action.on w
        (Verdict.ofUnit overwrite w.disk t.config.encoding (.ofTarget target content)).act := by
  cases overwrite with
  | true => rfl
  | false => exact on_writeIfAbsent w _ _

theorem on_target (t : TableOutput) (of : Settings → String → Target) :
    Action.on w (t.target of) = (t.resolvedName.map (of t.config), w) := by
  simp only [TableOutput.target, Action.on_bind, Action.on_liftM]
  cases t.resolvedName <;> rfl

theorem on_writeModel (t : TableOutput) :
    Action.on w t.writeModel = Action.on w (Request.model t).perform := by
  simp only [TableOutput.writeModel, on_perform, Request.verdict, Action.on_bind, Action.on_liftM,
    on_target]
  cases t.model with
  | error failure => rfl
  | ok content =>
    cases t.resolvedName with
    | error failure => rfl
    | ok name => rfl

theorem on_perform_of_ok {r : Request} {verdict : Verdict} (h : r.verdict w.disk = .ok verdict) :
    Action.on w r.perform = Action.on w verdict.act := by
  rw [on_perform, h]

theorem on_perform_of_error {r : Request} {failure : Failure}
    (h : r.verdict w.disk = .error failure) : Action.on w r.perform = (.error failure, w) := by
  rw [on_perform, h]

/-- Putting the model where nothing is, told as a decision and an act. -/
theorem on_putModel (t : TableOutput) (next : Event → Session Bool) :
    Action.on w (do
        let content ← liftM t.model
        next (← t.put false (← t.target Target.model) content)) =
      match Request.absentModel w.disk t with
      | .ok verdict => Action.on w (verdict.act >>= next)
      | .error failure => (.error failure, w) := by
  unfold Request.absentModel
  cases t.model with
  | error failure => rfl
  | ok content =>
    have htarget := on_target w t Target.model
    cases hname : t.resolvedName with
    | error failure =>
      rw [hname] at htarget
      exact Action.on_bind_of_error htarget _
    | ok name =>
      rw [hname] at htarget
      refine (Action.on_bind_of_ok htarget _).trans ?_
      exact Action.on_bind_congr (on_put w t false _ content) fun _ _ => rfl

/-- The answer tells whether the model was written. -/
theorem on_writeModelIfWanted (t : TableOutput) :
    Action.on w t.writeModelIfWanted =
      Action.on w
        ((Request.modelIfWanted t).perform >>= fun event => pure event.outcome.wrote) := by
  have hput := on_putModel w t fun event => pure event.outcome.wrote
  have hwanted : (Request.modelIfWanted t).verdict w.disk = Request.absentModel w.disk t →
      Action.on w ((Request.modelIfWanted t).perform >>= fun event => pure event.outcome.wrote) =
        match Request.absentModel w.disk t with
        | .ok verdict => Action.on w (verdict.act >>= fun event => pure event.outcome.wrote)
        | .error failure => (.error failure, w) := by
    intro h
    cases habsent : Request.absentModel w.disk t with
    | error failure => exact Action.on_bind_of_error (on_perform_of_error w (h.trans habsent)) _
    | ok verdict =>
      exact Action.on_bind_congr (on_perform_of_ok w (h.trans habsent)) fun _ _ => rfl
  unfold TableOutput.writeModelIfWanted
  cases hskip : t.isSkipped with
  | false =>
    rw [hwanted (by rw [Request.verdict, hskip]; rfl)]
    exact hput
  | true =>
    have htarget := on_target w t Target.model
    cases hname : t.resolvedName with
    | error failure =>
      rw [hname] at htarget
      have hverdict : (Request.modelIfWanted t).verdict w.disk = .error failure := by
        rw [Request.verdict, hskip, hname]
        rfl
      rw [Action.on_bind_of_error (on_perform_of_error w hverdict)]
      exact Action.on_bind_of_error htarget _
    | ok name =>
      rw [hname] at htarget
      refine (Action.on_bind_of_ok htarget _).trans ?_
      have hasked := on_has w (Target.model t.config name).path
      have hverdict := Request.verdict_modelIfWanted w.disk hname
      rw [hskip] at hverdict
      cases hhas : w.disk.has (Target.model t.config name).path with
      | false =>
        rw [hhas] at hasked hverdict
        rw [Action.on_bind_congr (on_perform_of_ok w hverdict) fun _ _ => rfl]
        exact Action.on_bind_of_ok hasked _
      | true =>
        rw [hhas] at hasked hverdict
        rw [hwanted hverdict]
        exact (Action.on_bind_of_ok hasked _).trans hput

theorem on_writeSpec (t : TableOutput) (overwrite : Bool) (given : Option String) :
    Action.on w (t.writeSpec overwrite given) =
      Action.on w (Request.spec t overwrite given).perform := by
  simp only [TableOutput.writeSpec, on_perform, Request.verdict, Action.on_bind,
    Action.on_liftM, on_target]
  cases t.specOr given with
  | error failure => rfl
  | ok content =>
    cases t.resolvedName with
    | error failure => rfl
    | ok name =>
      cases content with
      | none => rfl
      | some content => exact on_put w t overwrite _ content

theorem on_writeArbitrary (t : TableOutput) (overwrite : Bool) (given : Option String) :
    Action.on w (t.writeArbitrary overwrite given) =
      Action.on w (Request.arbitrary t overwrite given).perform := by
  simp only [TableOutput.writeArbitrary, on_perform, Request.verdict, Action.on_bind,
    Action.on_liftM, on_target]
  cases t.arbitraryOr given with
  | error failure => rfl
  | ok content =>
    cases t.resolvedName with
    | error failure => rfl
    | ok name => exact on_put w t overwrite _ content

/-- An operation is its decision and its act. -/
theorem on_session (r : Request) :
    Action.on w r.session =
      ((Action.on w r.perform).1.map fun _ => (), (Action.on w r.perform).2) := by
  have hdrop {α : Type} (action : Session α) :
      Action.on w (do let _ ← action) =
        ((Action.on w action).1.map fun _ => (), (Action.on w action).2) := by
    rw [Action.on_bind]
    rcases Action.on w action with ⟨_ | _, _⟩ <;> rfl
  cases r with
  | write encoding unit => exact hdrop _
  | writeIfAbsent encoding unit => exact (hdrop _).trans (by rw [on_writeIfAbsent]; rfl)
  | alreadyExists target path => exact hdrop _
  | skipped target path => exact hdrop _
  | noOutput target path => exact hdrop _
  | model t => exact (hdrop _).trans (by rw [on_writeModel])
  | modelIfWanted t =>
    refine (hdrop _).trans ?_
    rw [on_writeModelIfWanted, Action.on_bind]
    rcases Action.on w (Request.modelIfWanted t).perform with ⟨_ | _, _⟩ <;> rfl
  | spec t overwrite given => exact (hdrop _).trans (by rw [on_writeSpec])
  | arbitrary t overwrite given => exact (hdrop _).trans (by rw [on_writeArbitrary])

end Decisions

/-- All that can become of a request: it fails before it acts, it notes an outcome, it stores its
text, or it fails to store it and has at most made directories. -/
inductive Settled (r : Request) (w : Workspace) : Except Failure Event × Workspace → Prop
  | undecided {failure : Failure} (decided : r.verdict w.disk = .error failure) :
      Settled r w (.error failure, w)
  | noted {target : String} {path : Path} {outcome : Outcome}
      (decided : r.verdict w.disk = .ok (.note target path outcome)) :
      Settled r w (.ok ⟨target, path, outcome, 0⟩,
        ⟨w.disk, w.log.add ⟨target, path, outcome, 0⟩⟩)
  | failed {encoding : String} {unit : SourceUnit} {failure : Failure} {disk : Disk}
      (decided : r.verdict w.disk = .ok (.store encoding unit))
      (grown : Grown (w.disk.OnWay unit.path.parent) w.disk disk) :
      Settled r w (.error failure, ⟨disk, w.log⟩)
  | stored {encoding : String} {unit : SourceUnit} {content : List UInt8} {disk : Disk}
      (decided : r.verdict w.disk = .ok (.store encoding unit))
      (encoded : Encoding.encodeNamed w.disk.codePages encoding unit.content = .ok content)
      (stored : Stored unit.path content w.disk disk) :
      Settled r w (.ok ⟨unit.target, unit.path, .created, content.length⟩,
        ⟨disk, w.log.add ⟨unit.target, unit.path, .created, content.length⟩⟩)

theorem settled_perform (r : Request) (w : Workspace) : Settled r w (Action.on w r.perform) := by
  cases hv : r.verdict w.disk with
  | error failure =>
    rw [on_perform_of_error w hv]
    exact .undecided hv
  | ok verdict =>
    rw [on_perform_of_ok w hv]
    cases verdict with
    | note target path outcome => exact .noted hv
    | store encoding unit =>
      have hwritten := written_writeText encoding unit.path unit.content w.disk
      rw [Verdict.act, on_write]
      generalize Action.on w.disk (writeText encoding unit.path unit.content) = out at hwritten ⊢
      cases hwritten with
      | failed grown => exact .failed hv grown
      | stored encoded stored => exact .stored hv encoded stored

/-- A request that returns has come to what it decided. -/
theorem decided_of_perform {r : Request} {w after : Workspace} {event : Event}
    (h : Action.on w r.perform = (.ok event, after)) :
    ∃ verdict, r.verdict w.disk = .ok verdict ∧ event.outcome = verdict.outcome := by
  have hsettled := settled_perform r w
  rw [h] at hsettled
  cases hsettled with
  | noted decided => exact ⟨_, decided, rfl⟩
  | stored decided _ _ => exact ⟨_, decided, rfl⟩

end RecordMapper.Output
