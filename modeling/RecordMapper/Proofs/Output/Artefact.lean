import RecordMapper.Proofs.Output.History

/-!
# Artefacts of a table

The model, the spec and the arbitrary trait, each with its source, its target and the request that
puts the one to the other.
-/
namespace RecordMapper.Output

open RecordMapper.Config RecordMapper.Source RecordMapper.Text

inductive Artefact where
  | model
  | spec
  | arbitrary
  deriving DecidableEq, Repr

namespace Artefact

def target : Artefact → Settings → String → Target
  | model => Target.model
  | spec => Target.spec
  | arbitrary => Target.arbitrary

/-- The text that is generated, if there is one. -/
def source (t : TableOutput) : Artefact → Except Failure (Option String)
  | model => t.model.map some
  | spec => t.spec
  | arbitrary => t.arbitrary.map some

/-- The request to put the source to the target, over what is there or only where nothing is. -/
def request (overwrite : Bool) (t : TableOutput) : Artefact → Request
  | model => if overwrite then .model t else .modelIfWanted t
  | spec => .spec t overwrite none
  | arbitrary => .arbitrary t overwrite none

theorem destination_request {t : TableOutput} {name : String} (hname : t.resolvedName = .ok name)
    (overwrite : Bool) (a : Artefact) :
    (a.request overwrite t).destination =
      .ok (Request.destination.place (a.target t.config name)) := by
  have hdestination : (a.request overwrite t).destination =
      t.resolvedName.map fun name => Request.destination.place (a.target t.config name) := by
    cases a with
    | model => cases overwrite <;> rfl
    | spec => rfl
    | arbitrary => rfl
  rw [hdestination, hname]
  rfl

theorem encoded_eq_ok_iff {pages : CodePages} {encoding text : String} {content : List UInt8} :
    Request.bytes.encoded pages encoding text = .ok (some content) ↔
      Encoding.encodeNamed pages encoding text = .ok content := by
  unfold Request.bytes.encoded
  cases Encoding.encodeNamed pages encoding text <;> simp [Except.map]

/-- What a request stores is the source in the encoding of the configuration. -/
theorem source_of_bytes {pages : CodePages} {overwrite : Bool} {t : TableOutput} {a : Artefact}
    {content : List UInt8} (h : (a.request overwrite t).bytes pages = .ok (some content)) :
    ∃ text, a.source t = .ok (some text) ∧
      Encoding.encodeNamed pages t.config.encoding text = .ok content := by
  cases a with
  | model =>
    have hmodel : (t.model >>= Request.bytes.encoded pages t.config.encoding) =
        .ok (some content) := by
      cases overwrite <;> exact h
    obtain ⟨text, htext, hcode⟩ := bind_eq_ok_iff.mp hmodel
    exact ⟨text, by rw [source, htext]; rfl, encoded_eq_ok_iff.mp hcode⟩
  | spec =>
    obtain ⟨found, hfound, h⟩ := bind_eq_ok_iff.mp h
    cases found with
    | none => cases h
    | some text => exact ⟨text, hfound, encoded_eq_ok_iff.mp h⟩
  | arbitrary =>
    obtain ⟨text, htext, hcode⟩ := bind_eq_ok_iff.mp h
    have hsource : t.arbitrary = .ok text := htext
    exact ⟨text, by rw [source, hsource]; rfl, encoded_eq_ok_iff.mp hcode⟩

/-- The outcomes of putting a text. Only without overwriting it may be that nothing is new. -/
def puttingOutcomes (overwrite : Bool) : List Outcome :=
  if overwrite then [.created] else [.created, .alreadyExists]

/-- The outcomes of a request that is made where no model was. A framework that is not known has no
spec. -/
def outcomes (overwrite : Bool) (config : Settings) : Artefact → List Outcome
  | model => [.created]
  | spec => if (framework? config).isNone then [.noOutput] else puttingOutcomes overwrite
  | arbitrary => puttingOutcomes overwrite

theorem outcome_mem_puttingOutcomes (overwrite : Bool) (d : Disk) (encoding : String)
    (unit : SourceUnit) :
    (Verdict.ofUnit overwrite d encoding unit).outcome ∈ puttingOutcomes overwrite := by
  rw [Verdict.outcome_ofUnit, puttingOutcomes]
  cases overwrite with
  | true => exact List.mem_singleton_self _
  | false => cases d.has unit.path <;> decide

/-- A spec is missing exactly when the framework is unknown. -/
theorem spec_eq_none_iff (t : TableOutput) : t.spec = .ok none ↔ framework? t.config = none := by
  unfold TableOutput.spec specSource
  cases framework? t.config with
  | none => exact iff_of_true rfl rfl
  | some framework =>
    refine iff_of_false (fun h => ?_) (Option.some_ne_none _)
    obtain ⟨_, _, h⟩ := bind_eq_ok_iff.mp h
    cases h

theorem isNone_framework?_of_spec {t : TableOutput} {content : Option String}
    (h : t.spec = .ok content) : (framework? t.config).isNone = content.isNone := by
  have hiff := spec_eq_none_iff t
  rw [h] at hiff
  cases content with
  | none =>
    rw [hiff.mp rfl]
    rfl
  | some text =>
    cases hframework : framework? t.config with
    | none => cases hiff.mpr hframework
    | some framework => rfl

variable {t : TableOutput} {name : String} {w after : Workspace} {event : Event}

/-- A model that is not asked to replace another one is stored where nothing is, unless the table is
to be skipped. -/
theorem outcome_modelIfWanted (hname : t.resolvedName = .ok name)
    (h : Action.on w (Request.modelIfWanted t).perform = (.ok event, after)) :
    event.outcome =
      if w.disk.has (Target.model t.config name).path then .alreadyExists
      else if t.isSkipped then .skippedBySettings else .created := by
  obtain ⟨verdict, hverdict, houtcome⟩ := decided_of_perform h
  obtain ⟨found, hfound, hcases⟩ := Request.modelIfWanted_decided hverdict
  rw [hname] at hfound
  cases hfound
  rw [houtcome]
  rcases hcases with ⟨hskip, habsent, rfl⟩ | ⟨hwanted, text, -, rfl⟩
  · rw [hskip, habsent]
    rfl
  · rw [Verdict.outcome_ofUnit]
    show (if !w.disk.has (Target.model t.config name).path then _ else _) = _
    cases hhas : w.disk.has (Target.model t.config name).path with
    | true => rfl
    | false =>
      rw [hhas] at hwanted
      rw [hwanted.resolve_right Bool.false_ne_true]
      rfl

/-- Every request but that for a wanted model comes to one of its outcomes on any disk. -/
theorem outcome_mem_outcomes {overwrite : Bool} {a : Artefact}
    (ha : a = .model → overwrite = true)
    (h : Action.on w (a.request overwrite t).perform = (.ok event, after)) :
    event.outcome ∈ a.outcomes overwrite t.config := by
  obtain ⟨verdict, hverdict, houtcome⟩ := decided_of_perform h
  rw [houtcome]
  cases a with
  | model =>
    rw [ha rfl] at hverdict
    obtain ⟨text, name, -, -, rfl⟩ := Request.model_decided hverdict
    exact List.mem_singleton_self _
  | spec =>
    obtain ⟨content, name, hcontent, -, rfl⟩ := Request.spec_decided hverdict
    rw [outcomes, isNone_framework?_of_spec hcontent]
    cases content with
    | none => exact List.mem_singleton_self _
    | some text => exact outcome_mem_puttingOutcomes overwrite _ _ _
  | arbitrary =>
    obtain ⟨text, name, -, -, rfl⟩ := Request.arbitrary_decided hverdict
    exact outcome_mem_puttingOutcomes overwrite _ _ _

end Artefact

end RecordMapper.Output
