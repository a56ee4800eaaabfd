import Mathlib.Algebra.GroupWithZero.Nat
import RecordMapper.Output.Event
import RecordMapper.Proofs.Json.RoundTrip

/-!
# Manifests read back

The manifest of a run is JSON, and reading it gives what was recorded: an entry for every event, in
order, with nothing of its target, path, outcome and size lost, and totals that are those of the
entries. This holds of every sequence of events and every indentation.
-/
namespace RecordMapper.Output

open RecordMapper.Json

namespace Log

theorem events_foldl_add (log : Log) (events : List Event) :
    (events.foldl add log).events = log.events ++ events := by
  induction events generalizing log with
  | nil => exact (List.append_nil _).symm
  | cons event rest ih =>
    rw [List.foldl_cons, ih, add, List.append_assoc, List.singleton_append]

/-- A log is what was recorded from the beginning. -/
theorem foldl_add_empty (events : List Event) : events.foldl add empty = ⟨events⟩ := by
  rw [← List.nil_append events]
  exact congrArg Log.mk (events_foldl_add empty events)

end Log

theorem Outcome.ofLabel?_label (o : Outcome) : ofLabel? o.label = some o := by
  cases o <;> rfl

theorem Event.exact_toValue (e : Event) : Exact e.toValue := by
  refine .mapping (show ["target", "path", "outcome", "size_bytes"].Nodup by decide) ?_
  simp only [List.forall_mem_cons]
  exact ⟨.text _, .text _, .text _, .int _, List.forall_mem_nil _⟩

theorem Log.exact_toValue (log : Log) : Exact log.toValue := by
  refine .mapping
    (show ["total_events", "total_created", "total_bytes", "events"].Nodup by decide) ?_
  simp only [List.forall_mem_cons]
  refine ⟨.int _, .int _, .int _, .list fun item hitem => ?_, List.forall_mem_nil _⟩
  obtain ⟨e, -, rfl⟩ := List.mem_map.mp hitem
  exact e.exact_toValue

/-- What is read from the manifest of recorded events. Labels tell outcomes apart, and what is said
about the run is said about the same events, but for those without output. -/
theorem manifest_read_back (events : List Event) (indent : Option Int) :
    let log := events.foldl Log.add Log.empty
    read? (log.manifest indent) = some (.mapping [
      ("total_events", .int events.length),
      ("total_created", .int (events.countP fun e => e.outcome = .created)),
      ("total_bytes", .int (events.map Event.size).sum),
      ("events", .list (events.map fun e => .mapping [
        ("target", .text e.target), ("path", .text e.path.toString),
        ("outcome", .text e.outcome.label), ("size_bytes", .int e.size)]))]) ∧
    (∀ o : Outcome, Outcome.ofLabel? o.label = some o) ∧
    log.messages = (events.filter fun e => e.outcome ≠ .noOutput).map fun e =>
      "\"" ++ e.target ++ "\" " ++ e.outcome.phrase := by
  intro log
  have hlog : log = ⟨events⟩ := Log.foldl_add_empty events
  refine ⟨?_, Outcome.ofLabel?_label, by rw [hlog]; rfl⟩
  rw [Log.manifest, read?_render log.exact_toValue, hlog, List.countP_eq_length_filter, List.sum]
  rfl

end RecordMapper.Output
