import RecordMapper.Proofs.Naming.Identifier
import RecordMapper.Proofs.Text.Lines
import RecordMapper.Proofs.Validation.Names

/-!
# What the checks decide

A check reports an error, or a warning, exactly under a condition on what it checked. The conditions
of checks that are made one after another are put together in the same way as the checks.
-/
namespace RecordMapper.Validation

open RecordMapper.Config RecordMapper.Naming RecordMapper.Schema RecordMapper.Text RecordMapper.View

/-- One of the issues is of the level. -/
def Raises (level : Level) (issues : List Issue) : Prop := ∃ issue ∈ issues, issue.level = level

section Raises

variable {level : Level}

theorem not_raises_nil : ¬Raises level [] := fun ⟨_, h, _⟩ => absurd h List.not_mem_nil

theorem raises_singleton {issue : Issue} : Raises level [issue] ↔ issue.level = level := by
  simp [Raises]

theorem raises_append {issues more : List Issue} :
    Raises level (issues ++ more) ↔ Raises level issues ∨ Raises level more := by
  simp only [Raises, List.mem_append, or_and_right, exists_or]

theorem raises_map {α : Type} {issue : α → Issue} (own : Level) (hown : ∀ a, (issue a).level = own)
    {items : List α} : Raises level (items.map issue) ↔ own = level ∧ items ≠ [] := by
  simp only [Raises, List.mem_map]
  constructor
  · rintro ⟨_, ⟨a, ha, rfl⟩, hlevel⟩
    exact ⟨(hown a).symm.trans hlevel, List.ne_nil_of_mem ha⟩
  · rintro ⟨rfl, hne⟩
    obtain ⟨a, ha⟩ := List.exists_mem_of_ne_nil items hne
    exact ⟨issue a, ⟨a, ha, rfl⟩, hown a⟩

theorem raises_ite {condition : Prop} [Decidable condition] {issue : Issue} :
    Raises level (if condition then [issue] else []) ↔ condition ∧ issue.level = level := by
  split
  · rename_i h
    rw [raises_singleton, iff_true_intro h, true_and]
  · rename_i h
    exact ⟨fun hraises => absurd hraises not_raises_nil, fun hboth => absurd hboth.1 h⟩

theorem raises_iff_ofLevel {issues : List Issue} :
    (!((Report.ofIssues issues).ofLevel level).isEmpty) = true ↔ Raises level issues := by
  rw [Bool.not_eq_true', ← Bool.not_eq_true, List.isEmpty_iff, ofLevel_eq_nil_iff]
  simp only [Raises, ne_eq, not_forall, not_not, exists_prop]

theorem hasErrors_iff {issues : List Issue} :
    (Report.ofIssues issues).hasErrors = true ↔ Raises .error issues :=
  raises_iff_ofLevel

theorem hasWarnings_iff {issues : List Issue} :
    (Report.ofIssues issues).hasWarnings = true ↔ Raises .warning issues :=
  raises_iff_ofLevel

end Raises

/-- The check is possible, and reports an error and a warning just under these conditions. -/
def Decides (checked : Except Failure (List Issue)) (error warning : Prop) : Prop :=
  ∃ issues, checked = .ok issues ∧ (Raises .error issues ↔ error) ∧
    (Raises .warning issues ↔ warning)

section Loops

variable {α : Type}

/-- The same check of every item. -/
theorem decides_each {f : α → Except Failure (List Issue)} {error warning : α → Prop}
    {items : List α} (h : ∀ a ∈ items, Decides (f a) (error a) (warning a)) :
    Decides (do return (← items.mapM f).flatten) (∃ a ∈ items, error a)
      (∃ a ∈ items, warning a) := by
  induction items with
  | nil => exact ⟨[], rfl, by simp [not_raises_nil], by simp [not_raises_nil]⟩
  | cons a rest ih =>
    obtain ⟨own, hown, herror, hwarning⟩ := h a (List.mem_cons_self ..)
    obtain ⟨later, hlater, hlaterError, hlaterWarning⟩ :=
      ih fun b hb => h b (List.mem_cons_of_mem _ hb)
    obtain ⟨lists, hlists, hflatten⟩ := bind_eq_ok_iff.mp hlater
    cases hflatten
    refine ⟨own ++ lists.flatten, ?_, ?_, ?_⟩
    · rw [List.mapM_cons, hown, hlists]
      rfl
    · rw [raises_append, herror, hlaterError, List.exists_mem_cons_iff]
    · rw [raises_append, hwarning, hlaterWarning, List.exists_mem_cons_iff]

/-- Two of the items have one name, or one has a name seen before. -/
def Clashes (name : α → String) (seen : List String) (items : List α) : Prop :=
  ¬(items.map name).Nodup ∨ ∃ a ∈ items, name a ∈ seen

theorem clashes_cons {name : α → String} {seen : List String} {a : α} {rest : List α} :
    Clashes name seen (a :: rest) ↔ name a ∈ seen ∨ Clashes name (name a :: seen) rest := by
  have hseen : (∃ b ∈ rest, name b ∈ name a :: seen) ↔
      (∃ b ∈ rest, name b = name a) ∨ ∃ b ∈ rest, name b ∈ seen := by
    simp only [List.mem_cons, and_or_left, exists_or]
  rw [Clashes, Clashes, List.map_cons, List.nodup_cons, List.mem_map, not_and_or, not_not,
    List.exists_mem_cons_iff, hseen, or_comm (b := ¬(rest.map name).Nodup), or_assoc,
    or_left_comm (b := name a ∈ seen), or_left_comm (b := name a ∈ seen)]

/-- A check of the items in their order, each by itself and against the names before it. -/
theorem decides_seen {name : α → String} (duplicate : α → Issue)
    (own : α → Except Failure (List Issue))
    {check : List String → List α → Except Failure (List Issue)}
    (hnil : ∀ seen, check seen [] = .ok [])
    (hcons : ∀ seen a rest, check seen (a :: rest) = do
      let issues ← own a
      let later ← check (name a :: seen) rest
      return (if name a ∈ seen then [duplicate a] else []) ++ issues ++ later)
    (hduplicate : ∀ a, (duplicate a).level = .error) {bad : α → Prop} {items : List α}
    (hown : ∀ a ∈ items, Decides (own a) (bad a) False) (seen : List String) :
    Decides (check seen items) (Clashes name seen items ∨ ∃ a ∈ items, bad a) False := by
  -- An item adds its name to the ones before the rest, so the induction is for all of them.
  induction items generalizing seen with
  | nil => exact ⟨[], hnil seen, by simp [not_raises_nil, Clashes], by simp [not_raises_nil]⟩
  | cons a rest ih =>
    obtain ⟨issues, hissues, herror, hwarning⟩ := hown a (List.mem_cons_self ..)
    obtain ⟨later, hlater, hlaterError, hlaterWarning⟩ :=
      ih (fun b hb => hown b (List.mem_cons_of_mem _ hb)) (name a :: seen)
    refine ⟨_, by rw [hcons, hissues, ok_bind, hlater]; rfl, ?_, ?_⟩
    · rw [raises_append, raises_append, raises_ite, herror, hlaterError, hduplicate,
        and_iff_left rfl, or_or_or_comm, clashes_cons, List.exists_mem_cons_iff]
    · rw [raises_append, raises_append, raises_ite, hwarning, hlaterWarning, hduplicate]
      simp

end Loops

section Collisions

theorem nodup_distinctSorted (names : List String) : (distinctSorted names).Nodup :=
  (List.mergeSort_perm ..).nodup_iff.mpr (nodup_eraseDups names)

/-- An image is a collision exactly when two names have it. -/
theorem exists_collision_iff {pairs : List (String × String)} {image : String} :
    (∃ names, (image, names) ∈ collisions pairs) ↔ ∃ first second, (first, image) ∈ pairs ∧
      (second, image) ∈ pairs ∧ first ≠ second := by
  constructor
  · rintro ⟨names, hcollision⟩
    obtain ⟨himage, hlength⟩ := List.mem_filter.mp hcollision
    obtain ⟨_, -, hsame⟩ := List.mem_map.mp himage
    obtain ⟨rfl, rfl⟩ := Prod.mk.inj hsame
    rename_i image
    have hnodup : (mappedTo image pairs).Nodup := nodup_distinctSorted _
    rw [decide_eq_true_eq] at hlength
    -- The names are listed once each, so the first two differ.
    match hnames : mappedTo image pairs, hlength with
    | first :: second :: rest, _ =>
      rw [hnames] at hnodup
      have hmem {name : String} (hname : name ∈ first :: second :: rest) : (name, image) ∈ pairs :=
        mem_mappedTo.mp (hnames ▸ hname)
      refine ⟨first, second, hmem (List.mem_cons_self ..),
        hmem (List.mem_cons_of_mem _ (List.mem_cons_self ..)), ?_⟩
      rintro rfl
      exact (List.nodup_cons.mp hnodup).1 (List.mem_cons_self ..)
  · rintro ⟨first, second, hfirst, hsecond, hne⟩
    exact ⟨_, mem_collisions_of_ne hfirst hsecond hne⟩

/-- There is a collision exactly when two names have one image. -/
theorem collisions_ne_nil_iff {pairs : List (String × String)} :
    collisions pairs ≠ [] ↔ ∃ first second image, (first, image) ∈ pairs ∧
      (second, image) ∈ pairs ∧ first ≠ second := by
  constructor
  · intro h
    obtain ⟨⟨image, names⟩, hcollision⟩ := List.exists_mem_of_ne_nil _ h
    obtain ⟨first, second, htwo⟩ := exists_collision_iff.mp ⟨names, hcollision⟩
    exact ⟨first, second, image, htwo⟩
  · rintro ⟨first, second, image, htwo⟩
    obtain ⟨names, hcollision⟩ := exists_collision_iff.mpr ⟨first, second, htwo⟩
    exact List.ne_nil_of_mem hcollision

end Collisions

end RecordMapper.Validation
