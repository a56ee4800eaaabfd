import RecordMapper.Failure

/-!
# Actions

What changes a state and may fail on the way. What an action did to the state holds whether it
succeeds or fails, so an action answers a result beside the state it leaves.
-/
namespace RecordMapper

/-- A chain succeeds when each of its steps does. -/
theorem bind_eq_ok_iff {ε α β : Type} {x : Except ε α} {next : α → Except ε β} {b : β} :
    (x >>= next) = .ok b ↔ ∃ a, x = .ok a ∧ next a = .ok b := by
  constructor
  · intro h
    cases x with
    | error e => cases h
    | ok a => exact ⟨a, rfl, h⟩
  · rintro ⟨a, rfl, h⟩
    exact h

/-- A chain fails with what its first step fails with, or else with what the rest does. -/
theorem bind_eq_error_iff {ε α β : Type} {x : Except ε α} {next : α → Except ε β} {e : ε} :
    (x >>= next) = .error e ↔ x = .error e ∨ ∃ a, x = .ok a ∧ next a = .error e := by
  cases x with
  | error other =>
    constructor
    · exact fun h => .inl (congrArg Except.error (Except.error.inj h))
    · rintro (h | ⟨_, ⟨⟩, _⟩)
      exact congrArg Except.error (Except.error.inj h)
  | ok a =>
    constructor
    · exact fun h => .inr ⟨a, rfl, h⟩
    · rintro (⟨⟨⟩⟩ | ⟨_, ⟨rfl⟩, h⟩)
      exact h

theorem ok_bind {ε α β : Type} (a : α) (next : α → Except ε β) :
    (Except.ok a >>= next) = next a := rfl

theorem map_eq_ok_iff {ε α β : Type} {f : α → β} {x : Except ε α} {b : β} :
    x.map f = .ok b ↔ ∃ a, x = .ok a ∧ f a = b := by
  cases x <;> simp [Except.map]

theorem map_eq_error_iff {ε α β : Type} {f : α → β} {x : Except ε α} {e : ε} :
    x.map f = .error e ↔ x = .error e := by
  cases x <;> simp [Except.map]

theorem mapError_eq_ok_iff {ε δ α : Type} {f : ε → δ} {x : Except ε α} {c : α} :
    x.mapError f = .ok c ↔ x = .ok c := by
  cases x with
  | error e => constructor <;> rintro ⟨⟩
  | ok a => constructor <;> rintro ⟨rfl⟩ <;> rfl

section Lists

variable {ε α β : Type} {f : α → Except ε β} {items : List α} {results : List β}

/-- Work on a list succeeds when it does for every item, and the results are in the order of the
items. -/
theorem mapM_eq_ok_iff : items.mapM f = .ok results ↔ items.map f = results.map .ok := by
  induction items generalizing results with
  | nil => cases results <;> simp [pure, Except.pure]
  | cons first rest ih =>
    rw [List.mapM_cons, List.map_cons]
    constructor
    · intro h
      obtain ⟨head, hhead, h⟩ := bind_eq_ok_iff.mp h
      obtain ⟨tail, htail, h⟩ := bind_eq_ok_iff.mp h
      cases h
      rw [hhead, ih.mp htail, List.map_cons]
    · intro h
      cases results with
      | nil => cases h
      | cons head tail =>
        obtain ⟨hhead, htail⟩ := List.cons.inj h
        rw [hhead, ok_bind, ih.mpr htail]
        rfl

/-- What is found for one of the items is among what is found for all of them. -/
theorem mem_of_mapM_eq_ok (h : items.mapM f = .ok results) {item : α} {result : β}
    (hitem : item ∈ items) (hresult : f item = .ok result) : result ∈ results := by
  have hmem := List.mem_map_of_mem (f := f) hitem
  rw [mapM_eq_ok_iff.mp h, hresult] at hmem
  obtain ⟨_, hmem, ⟨⟩⟩ := List.mem_map.mp hmem
  exact hmem

/-- What is found for all of the items is found for one of them. -/
theorem exists_mem_of_mapM_eq_ok (h : items.mapM f = .ok results) {result : β}
    (hresult : result ∈ results) : ∃ item ∈ items, f item = .ok result := by
  have hmem : (.ok result : Except ε β) ∈ results.map .ok := List.mem_map_of_mem hresult
  rw [← mapM_eq_ok_iff.mp h] at hmem
  exact List.mem_map.mp hmem

/-- Every item of a list that was checked was checked by itself. -/
theorem exists_of_mapM_eq_ok (h : items.mapM f = .ok results) :
    ∀ a ∈ items, ∃ b, f a = .ok b := by
  intro a ha
  have hmem := List.mem_map_of_mem (f := f) ha
  rw [mapM_eq_ok_iff.mp h] at hmem
  obtain ⟨b, -, hb⟩ := List.mem_map.mp hmem
  exact ⟨b, hb.symm⟩

theorem mapM_eq_ok {g : α → β} (h : ∀ a ∈ items, f a = .ok (g a)) :
    items.mapM f = .ok (items.map g) := by
  rw [mapM_eq_ok_iff, List.map_map]
  exact List.map_congr_left h

/-- The first item that fails ends the work on a list. -/
theorem mapM_eq_error_iff {e : ε} :
    items.mapM f = .error e ↔ ∃ before item after, items = before ++ item :: after ∧
      (∀ a ∈ before, ∃ b, f a = .ok b) ∧ f item = .error e := by
  induction items with
  | nil =>
    refine iff_of_false (fun h => nomatch h) ?_
    rintro ⟨before, item, after, h, -⟩
    simp at h
  | cons first rest ih =>
    rw [List.mapM_cons, bind_eq_error_iff]
    constructor
    · rintro (h | ⟨b, hb, h⟩)
      · exact ⟨[], first, rest, rfl, fun a ha => absurd ha List.not_mem_nil, h⟩
      · rcases bind_eq_error_iff.mp h with h | ⟨bs, -, h⟩
        · obtain ⟨before, item, after, rfl, hbefore, hitem⟩ := ih.mp h
          refine ⟨first :: before, item, after, rfl, fun a ha => ?_, hitem⟩
          rcases List.mem_cons.mp ha with rfl | ha
          · exact ⟨b, hb⟩
          · exact hbefore a ha
        · cases h
    · rintro ⟨before, item, after, heq, hbefore, hitem⟩
      cases before with
      | nil =>
        cases heq
        exact .inl hitem
      | cons a before =>
        cases heq
        obtain ⟨b, hb⟩ := hbefore first (List.mem_cons_self ..)
        refine .inr ⟨b, hb, bind_eq_error_iff.mpr (.inl (ih.mpr ?_))⟩
        exact ⟨before, item, after, rfl, fun a ha => hbefore a (List.mem_cons_of_mem _ ha), hitem⟩

theorem exists_mapM_eq_ok (h : ∀ a ∈ items, ∃ b, f a = .ok b) :
    ∃ bs, items.mapM f = .ok bs := by
  cases hmap : items.mapM f with
  | ok bs => exact ⟨bs, rfl⟩
  | error e =>
    obtain ⟨before, item, after, rfl, -, hitem⟩ := mapM_eq_error_iff.mp hmap
    obtain ⟨b, hb⟩ := h item (by simp)
    rw [hb] at hitem
    cases hitem

end Lists

abbrev Action (σ α : Type) := ExceptT Failure (StateM σ) α

namespace Action

variable {σ α β : Type}

/-- Runs an action on a state. -/
def on (s : σ) (action : Action σ α) : Except Failure α × σ := action.run.run s

@[simp]
theorem on_pure (a : α) (s : σ) : on s (pure a) = (.ok a, s) := rfl

@[simp]
theorem on_throw (failure : Failure) (s : σ) :
    on s (throw failure : Action σ α) = (.error failure, s) := rfl

@[simp]
theorem on_get (s : σ) : on s (get : Action σ σ) = (.ok s, s) := rfl

@[simp]
theorem on_set (s next : σ) : on s (set next : Action σ PUnit) = (.ok ⟨⟩, next) := rfl

@[simp]
theorem on_modify (f : σ → σ) (s : σ) : on s (modify f : Action σ PUnit) = (.ok ⟨⟩, f s) := rfl

/-- A result without any effect. -/
@[simp]
theorem on_liftM (result : Except Failure α) (s : σ) :
    on s (liftM result : Action σ α) = (result, s) := by
  cases result <;> rfl

/-- The second action starts where the first one succeeds; a failure ends both. -/
theorem on_bind (action : Action σ α) (next : α → Action σ β) (s : σ) :
    on s (action >>= next) = match on s action with
      | (.ok a, s) => on s (next a)
      | (.error failure, s) => (.error failure, s) := by
  simp only [on, ExceptT.run_bind, StateT.run_bind]
  rcases action.run.run s with ⟨_ | a, s⟩ <;> rfl

theorem on_bind_of_ok {action : Action σ α} {s later : σ} {a : α}
    (h : on s action = (.ok a, later)) (next : α → Action σ β) :
    on s (action >>= next) = on later (next a) := by
  rw [on_bind, h]

theorem on_bind_of_error {action : Action σ α} {s later : σ} {failure : Failure}
    (h : on s action = (.error failure, later)) (next : α → Action σ β) :
    on s (action >>= next) = (.error failure, later) := by
  rw [on_bind, h]

/-- Two chains do the same when their steps do. -/
theorem on_bind_congr {action other : Action σ α} {next later : α → Action σ β} {s : σ}
    (h : on s action = on s other) (hnext : ∀ a s, on s (next a) = on s (later a)) :
    on s (action >>= next) = on s (other >>= later) := by
  rw [on_bind, on_bind, h]
  rcases on s other with ⟨_ | a, after⟩
  · rfl
  · exact hnext a after

/-- What a failed action did to the state is there for the handler. -/
theorem on_tryCatch (action : Action σ α) (handle : Failure → Action σ α) (s : σ) :
    on s (tryCatch action handle) = match on s action with
      | (.ok a, s) => (.ok a, s)
      | (.error failure, s) => on s (handle failure) := by
  simp only [on, ExceptT.run_tryCatch, StateT.run_bind]
  rcases action.run.run s with ⟨_ | a, s⟩ <;> rfl

end Action

end RecordMapper
