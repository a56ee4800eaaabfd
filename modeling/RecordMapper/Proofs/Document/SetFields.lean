import RecordMapper.Checked

/-!
# Fields set anew

What fields and their keys are once several of them are set. A change takes the place of the field
of its key or stands at the end.
-/
namespace RecordMapper.Value

variable {α : Type} {key : String} {value : α} {changes fields : List (String × α)}

theorem lookup_of_not_mem (h : key ∉ fields.map Prod.fst) : fields.lookup key = none := by
  refine List.lookup_eq_none_iff.mpr fun field hfield => bne_iff_ne.mpr fun hkey => h ?_
  exact hkey ▸ List.mem_map_of_mem hfield

theorem lookup_of_mem (hdistinct : (fields.map Prod.fst).Nodup) (h : (key, value) ∈ fields) :
    fields.lookup key = some value := by
  obtain ⟨before, after, rfl⟩ := List.append_of_mem h
  rw [List.map_append, List.nodup_append] at hdistinct
  have hbefore : before.lookup key = none :=
    lookup_of_not_mem fun hkey => hdistinct.2.2 _ hkey _ List.mem_cons_self rfl
  rw [List.lookup_append, hbefore, List.lookup_cons_self]
  rfl

theorem setField_of_lookup (h : fields.lookup key = some value) :
    setField key value fields = fields := by
  fun_induction setField key value fields with
  | case1 => cases h
  | case2 v rest =>
    rw [List.lookup_cons_self] at h
    rw [Option.some.inj h]
  | case3 k v rest hk ih =>
    rw [List.lookup_cons, beq_false_of_ne (Ne.symm hk)] at h
    rw [ih h]

theorem map_fst_setField_of_mem (value : α) (h : key ∈ fields.map Prod.fst) :
    (setField key value fields).map Prod.fst = fields.map Prod.fst := by
  fun_induction setField key value fields with
  | case1 => cases h
  | case2 v rest => rfl
  | case3 k v rest hk ih =>
    exact congrArg (k :: ·) (ih ((List.mem_cons.mp h).resolve_left (Ne.symm hk)))

/-- A new field stands at the end. -/
theorem setField_of_not_mem (value : α) (h : key ∉ fields.map Prod.fst) :
    setField key value fields = fields ++ [(key, value)] := by
  fun_induction setField key value fields with
  | case1 => rfl
  | case2 v rest => exact absurd List.mem_cons_self h
  | case3 k v rest hk ih =>
    exact congrArg ((k, v) :: ·) (ih fun hkey => h (List.mem_cons_of_mem _ hkey))

theorem map_fst_setField_of_not_mem (value : α) (h : key ∉ fields.map Prod.fst) :
    (setField key value fields).map Prod.fst = fields.map Prod.fst ++ [key] := by
  rw [setField_of_not_mem value h, List.map_append, List.map_singleton]

theorem setFields_cons (change : String × α) :
    setFields (change :: changes) fields = setFields changes (setField change.1 change.2 fields) :=
  rfl

theorem lookup_setFields (h : (changes.map Prod.fst).Nodup) (key : String) :
    (setFields changes fields).lookup key = (changes.lookup key).or (fields.lookup key) := by
  induction changes generalizing fields with
  | nil => rfl
  | cons change rest ih =>
    obtain ⟨hfresh, hrest⟩ := List.nodup_cons.mp h
    rw [setFields_cons, ih hrest]
    by_cases hkey : key = change.1
    · subst hkey
      rw [lookup_of_not_mem hfresh, lookup_setField_self, List.lookup_cons_self]
      rfl
    · rw [lookup_setField_of_ne hkey, List.lookup_cons, beq_false_of_ne hkey]

/-- Fields with changes have the unknown keys of both. -/
theorem unknown_setFields {known : List String} (hdistinct : (changes.map Prod.fst).Nodup)
    (hnew : ∀ key ∈ changes.map Prod.fst, key ∈ fields.map Prod.fst → key ∈ known) :
    ((setFields changes fields).map Prod.fst).filter (· ∉ known) =
      (fields.map Prod.fst).filter (· ∉ known) ++ (changes.map Prod.fst).filter (· ∉ known) := by
  induction changes generalizing fields with
  | nil => simp [setFields]
  | cons change rest ih =>
    obtain ⟨hfresh, hrest⟩ := List.nodup_cons.mp hdistinct
    have hnewRest := fun key hkey => hnew key (List.mem_cons_of_mem change.1 hkey)
    rw [setFields_cons]
    by_cases hmem : change.1 ∈ fields.map Prod.fst
    · have hkeys := map_fst_setField_of_mem change.2 hmem
      have hknown := hnew change.1 List.mem_cons_self hmem
      rw [ih hrest (by rwa [hkeys]), hkeys, List.map_cons, List.filter_cons_of_neg (by simpa)]
    · have hkeys := map_fst_setField_of_not_mem change.2 hmem
      rw [ih hrest, hkeys, List.filter_append, List.append_assoc, ← List.filter_append]
      · rfl
      · intro key hkey hset
        rw [hkeys, List.mem_append, List.mem_singleton] at hset
        exact hset.elim (hnewRest key hkey) fun h => absurd (h ▸ hkey) hfresh

theorem onlyFields_eq_ok_iff {known : List String} :
    onlyFields known fields = .ok () ↔ ∀ key ∈ fields.map Prod.fst, key ∈ known := by
  rw [onlyFields]
  split
  next hnone =>
    refine iff_of_true rfl fun key hkey => ?_
    simpa using List.filter_eq_nil_iff.mp hnone key hkey
  next hsome =>
    refine iff_of_false nofun fun hknown => hsome ?_
    exact List.filter_eq_nil_iff.mpr fun key hkey => by simpa using hknown key hkey

/-- Changes to fields that are all known are at fault for their own unknown fields. -/
theorem onlyFields_setFields {known : List String} (hdistinct : (changes.map Prod.fst).Nodup)
    (h : onlyFields known fields = .ok ()) :
    onlyFields known (setFields changes fields) = onlyFields known changes := by
  have hknown := onlyFields_eq_ok_iff.mp h
  have hnone : (fields.map Prod.fst).filter (· ∉ known) = [] := by simpa using hknown
  rw [onlyFields, onlyFields, unknown_setFields hdistinct fun key _ => hknown key, hnone,
    List.nil_append]

theorem setFields_cons_of_not_mem {field : String × α} (h : field.1 ∉ changes.map Prod.fst) :
    setFields changes (field :: fields) = field :: setFields changes fields := by
  induction changes generalizing fields with
  | nil => rfl
  | cons change rest ih =>
    obtain ⟨hne, hrest⟩ := not_or.mp fun hmem => h (List.mem_cons.mpr hmem)
    have hset : setField change.1 change.2 (field :: fields) =
        field :: setField change.1 change.2 fields := if_neg hne
    rw [setFields_cons, hset, ih hrest, setFields_cons]

/-- Changes to all fields in their order are what is left. -/
theorem setFields_of_map_fst_eq (hdistinct : (changes.map Prod.fst).Nodup)
    (h : changes.map Prod.fst = fields.map Prod.fst) : setFields changes fields = changes := by
  induction changes generalizing fields with
  | nil => exact List.map_eq_nil_iff.mp h.symm
  | cons change rest ih =>
    obtain ⟨hfresh, hrest⟩ := List.nodup_cons.mp hdistinct
    cases fields with
    | nil => cases h
    | cons field others =>
      obtain ⟨name, value⟩ := change
      obtain ⟨rfl, htail⟩ : name = field.1 ∧ _ := List.cons.inj h
      have hset : setField field.1 value (field :: others) = (field.1, value) :: others :=
        if_pos rfl
      rw [setFields_cons, hset, setFields_cons_of_not_mem hfresh, ih hrest htail]

end RecordMapper.Value
