import RecordMapper.Proofs.Output.History

/-!
# Rows of requests

Requests that belong together are performed in their order until one fails. What a row did is told
by its events: files are different only where one of them says that a file was created, and what was
stored stays as long as no later one is about the same place.
-/
namespace RecordMapper.Output

open RecordMapper.Disk

theorem keeps_perform {r : Request} {w after : Workspace} {result : Except Failure Event}
    (h : Action.on w r.perform = (result, after)) : Keeps w.disk after.disk := by
  have hsettled := settled_perform r w
  rw [h] at hsettled
  cases hsettled with
  | undecided => exact .refl _
  | noted => exact .refl _
  | failed _ grown => exact grown.keeps
  | stored _ _ stored => exact stored.keeps

/-- Requests one after another, up to the first that fails. -/
def performAll : List Request → Session Unit
  | [] => pure ()
  | r :: rest => do
    let _ ← r.perform
    performAll rest

/-- What a row of requests comes to: the events of those that returned, and whether one failed. -/
inductive Row : List Request → Workspace → List Event → Except Failure Unit → Workspace → Prop
  | done (w : Workspace) : Row [] w [] (.ok ()) w
  | stopped {r : Request} {rest : List Request} {w after : Workspace} {failure : Failure}
      (perform : Action.on w r.perform = (.error failure, after)) :
      Row (r :: rest) w [] (.error failure) after
  | next {r : Request} {rest : List Request} {w between after : Workspace} {event : Event}
      {events : List Event} {result : Except Failure Unit}
      (perform : Action.on w r.perform = (.ok event, between))
      (row : Row rest between events result after) :
      Row (r :: rest) w (event :: events) result after

theorem row_performAll (requests : List Request) (w : Workspace) :
    ∃ events, Row requests w events (Action.on w (performAll requests)).1
      (Action.on w (performAll requests)).2 := by
  induction requests generalizing w with
  | nil => exact ⟨[], .done w⟩
  | cons r rest ih =>
    rcases hperform : Action.on w r.perform with ⟨failure | event, between⟩
    · rw [performAll, Action.on_bind_of_error hperform]
      exact ⟨[], .stopped hperform⟩
    · rw [performAll, Action.on_bind_of_ok hperform]
      obtain ⟨events, hrow⟩ := ih between
      exact ⟨event :: events, .next hperform hrow⟩

/-- Two requests are about different places. -/
def Apart (d : Disk) (r s : Request) : Prop :=
  ∀ p q, r.destination = .ok p → s.destination = .ok q → d.placeOf p.2 ≠ d.placeOf q.2

theorem Apart.congr {d e : Disk} {r s : Request} (h : Apart d r s) (hkeeps : Keeps d e) :
    Apart e r s := by
  intro p q hp hq
  rw [hkeeps.placeOf_eq, hkeeps.placeOf_eq]
  exact h p q hp hq

namespace Row

variable {requests more : List Request} {w between after : Workspace} {events later : List Event}
  {result : Except Failure Unit}

theorem append (h : Row requests w events (.ok ()) between)
    (hmore : Row more between later result after) :
    Row (requests ++ more) w (events ++ later) result after := by
  generalize hok : (Except.ok () : Except Failure Unit) = first at h
  induction h with
  | done => exact hmore
  | stopped => cases hok
  | next perform row ih => exact .next perform (ih hmore hok)

theorem log_eq (h : Row requests w events result after) :
    after.log.events = w.log.events ++ events := by
  induction h with
  | done => exact (List.append_nil _).symm
  | stopped perform => rw [(fails_perform perform).log_eq, List.append_nil]
  | next perform row ih =>
    rw [ih, (records_perform perform).log_eq, Log.add, List.append_assoc, List.singleton_append]

/-- The requests that returned come first. -/
theorem length_le (h : Row requests w events result after) : events.length ≤ requests.length := by
  induction h with
  | done => exact Nat.le_refl _
  | stopped => exact Nat.zero_le _
  | next _ _ ih => exact Nat.succ_le_succ ih

/-- Every request returned exactly when none failed. -/
theorem length_eq_iff (h : Row requests w events result after) :
    events.length = requests.length ↔ result = .ok () := by
  induction h with
  | done => exact iff_of_true rfl rfl
  | stopped => exact iff_of_false (by simp) (by simp)
  | next _ _ ih => simpa only [List.length_cons, Nat.add_right_cancel_iff] using ih

/-- What each request of a row preserves is preserved by the row. -/
theorem preserves {P : Workspace → Prop} (h : Row requests w events result after)
    (hP : ∀ r ∈ requests, ∀ w, P w → P (Action.on w r.perform).2) (hw : P w) : P after := by
  induction h with
  | done => exact hw
  | stopped perform =>
    have hstep := hP _ (List.mem_cons_self ..) _ hw
    rwa [perform] at hstep
  | next perform row ih =>
    have hstep := hP _ (List.mem_cons_self ..) _ hw
    rw [perform] at hstep
    exact ih (fun r hr => hP r (List.mem_cons_of_mem _ hr)) hstep

theorem keeps (h : Row requests w events result after) : Keeps w.disk after.disk := by
  induction h with
  | done => exact .refl _
  | stopped perform => exact keeps_perform perform
  | next perform row ih => exact (keeps_perform perform).trans ih

/-- Where no event tells of a new file, there is none. -/
theorem fileAt_eq (h : Row requests w events result after) {location : Location}
    (hout : ∀ event ∈ events, event.outcome = .created → location ≠ w.disk.placeOf event.path) :
    after.disk.fileAt location = w.disk.fileAt location := by
  induction h with
  | done => rfl
  | stopped perform => exact (fails_perform perform).fileAt_eq location
  | @next r rest w between after event events result perform row ih =>
    have hkeeps := keeps_perform perform
    have hrecords := records_perform perform
    have hrest : after.disk.fileAt location = between.disk.fileAt location := by
      refine ih fun other hother hcreated => ?_
      rw [hkeeps.placeOf_eq]
      exact hout other (List.mem_cons_of_mem _ hother) hcreated
    rw [hrest]
    by_cases hcreated : event.outcome = .created
    · exact (hrecords.created hcreated).2 location
        (hout event (List.mem_cons_self ..) hcreated)
    · rw [(hrecords.unchanged hcreated).1]

/-- Every event was recorded by one of the requests. -/
theorem perform_of_mem_events (h : Row requests w events result after) {event : Event}
    (hevent : event ∈ events) :
    ∃ r ∈ requests, ∃ before between, Action.on before r.perform = (.ok event, between) := by
  induction h with
  | done => cases hevent
  | stopped => cases hevent
  | next perform row ih =>
    rcases List.mem_cons.mp hevent with rfl | hevent
    · exact ⟨_, List.mem_cons_self .., _, _, perform⟩
    · obtain ⟨r, hr, hperform⟩ := ih hevent
      exact ⟨r, List.mem_cons_of_mem _ hr, hperform⟩

/-- In a row without failures and with places of their own for all requests, every new file holds
the bytes of its request in the end. -/
theorem content?_eq (h : Row requests w events (.ok ()) after)
    (hapart : requests.Pairwise (Apart w.disk)) {r : Request} (hr : r ∈ requests) :
    ∃ before between event, Action.on before r.perform = (.ok event, between) ∧
      (event.outcome = .created → ∃ content, r.bytes w.disk.codePages = .ok (some content) ∧
        after.disk.content? event.path = some content) := by
  generalize hok : (Except.ok () : Except Failure Unit) = result at h
  induction h with
  | done => cases hr
  | stopped => cases hok
  | @next first rest w between after event events result perform row ih =>
    have hkeeps := keeps_perform perform
    obtain ⟨hfirst, hrest⟩ := List.pairwise_cons.mp hapart
    rcases List.mem_cons.mp hr with rfl | hr
    · refine ⟨w, between, event, perform, fun hcreated => ?_⟩
      have hrecords := records_perform perform
      obtain ⟨⟨content, hbytes, hcontent, -⟩, -⟩ := hrecords.created hcreated
      -- The rest of the row is about other places, so what was stored here stays.
      refine ⟨content, hbytes, content?_of_keeps row.keeps hcontent (row.fileAt_eq ?_)⟩
      intro other hother _
      obtain ⟨s, hs, _, _, hperform⟩ := row.perform_of_mem_events hother
      rw [hkeeps.placeOf_eq, hkeeps.placeOf_eq]
      exact hfirst s hs _ _ hrecords.destination_eq (records_perform hperform).destination_eq
    · rw [← hkeeps.codePages_eq]
      exact ih (hrest.imp fun hst => hst.congr hkeeps) hr hok

end Row

end RecordMapper.Output
