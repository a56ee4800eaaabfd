import RecordMapper.Proofs.Disk.Growth

/-!
# Hidden files

A path with double dots can mean the place of a file and still lead nowhere, because a directory on
its way is missing. Making that directory uncovers the file. Paths without double dots hide nothing.
-/
namespace RecordMapper.Disk

/-- Everything on the disk is in a directory. -/
def IsTree (d : Disk) : Prop := ∀ e ∈ d.entries, d.nodeAt e.1.tail = some .directory

instance (d : Disk) : Decidable d.IsTree :=
  inferInstanceAs (Decidable (∀ e ∈ d.entries, d.nodeAt e.1.tail = some .directory))

/-- The path leads nowhere, and yet there is a file at the place that it means. -/
def Hides (d : Disk) (path : Path) : Prop :=
  d.has path = false ∧ ∃ content, d.fileAt (d.placeOf path) = some content

/-- Parts without double dots are stacked on the place where they start. -/
theorem foldl_step_of_noDots {location : Location} {parts : List String} (hdots : ".." ∉ parts) :
    parts.foldl step location = parts.reverse ++ location := by
  induction parts generalizing location with
  | nil => rfl
  | cons part rest ih =>
    have hpart : part ≠ ".." := Ne.symm (List.ne_of_not_mem_cons hdots)
    rw [List.foldl_cons, ih (List.not_mem_of_not_mem_cons hdots), step, if_neg hpart,
      List.reverse_cons, List.append_assoc, List.singleton_append]

theorem nodeAt_above_of_isTree {d : Disk} (htree : d.IsTree) {name : String} {above : Location}
    (h : d.nodeAt (name :: above) ≠ none) : d.nodeAt above = some .directory := by
  obtain ⟨entry, hentry⟩ := Option.ne_none_iff_exists'.mp h
  obtain ⟨before, after, hmem, _⟩ := List.lookup_eq_some_iff.mp hentry
  exact htree (name :: above, entry) (by rw [hmem]; simp)

/-- Above anything on a tree there are directories only. -/
theorem nodeAt_of_isTree {d : Disk} (htree : d.IsTree) {names location : Location}
    (hne : names ≠ []) (h : d.nodeAt (names ++ location) ≠ none) :
    d.nodeAt location = some .directory := by
  induction names with
  | nil => exact absurd rfl hne
  | cons name rest ih =>
    have habove : d.nodeAt (rest ++ location) = some .directory := nodeAt_above_of_isTree htree h
    cases rest with
    | nil => exact habove
    | cons next rest =>
      exact ih (List.cons_ne_nil _ _) (by rw [habove]; exact Option.some_ne_none _)

theorem follow_of_isTree {d : Disk} (htree : d.IsTree) {location : Location} {parts : List String}
    (hdots : ".." ∉ parts) (h : d.nodeAt (parts.foldl step location) ≠ none) :
    d.follow location parts = .ok (parts.foldl step location) := by
  induction parts generalizing location with
  | nil => rfl
  | cons part rest ih =>
    have hdirectory : d.nodeAt location = some .directory := by
      rw [foldl_step_of_noDots hdots] at h
      exact nodeAt_of_isTree htree (by simp) h
    rw [follow, hdirectory]
    exact ih (List.not_mem_of_not_mem_cons hdots) h

/-- On a tree a path hides a file only by double dots. -/
theorem dots_of_hides {d : Disk} (htree : d.IsTree) {path : Path} (h : d.Hides path) :
    ".." ∈ path.parts := by
  refine Decidable.byContradiction fun hdots => ?_
  obtain ⟨hhas, content, hfile⟩ := h
  have hnode := fileAt_eq_some_iff.mp hfile
  have hlocate : d.locate path = .ok (d.placeOf path) :=
    follow_of_isTree htree hdots (by
      show d.nodeAt (d.placeOf path) ≠ none
      rw [hnode]
      exact Option.some_ne_none _)
  rw [has, find?_eq_some_iff.mpr ⟨hlocate, hnode⟩] at hhas
  cases hhas

end RecordMapper.Disk
