import Mathlib.Algebra.Order.Floor.Div
import RecordMapper.Source.Arbitrary

/-!
# Groups of a size

A list that is cut into groups of a positive size. A group holds the items from the multiple of the
size where it begins, so the place of an item in the list and its group and place in the group
determine each other. Nothing but the order of the items and the sizes of the groups decides where
the list is cut: there is one way to do it for every positive size, and none for any other.
-/
namespace RecordMapper.Source

variable {α β γ : Type} {size : Nat}

theorem mapIdx_map (f : Nat → β → γ) (g : α → β) (items : List α) :
    (items.map g).mapIdx f = items.mapIdx fun i item => f i (g item) := by
  refine List.ext_getElem? fun i => ?_
  rw [List.getElem?_mapIdx, List.getElem?_mapIdx, List.getElem?_map, Option.map_map]
  rfl

theorem map_mapIdx (f : Nat → α → β) (g : β → γ) (items : List α) :
    (items.mapIdx f).map g = items.mapIdx fun i item => g (f i item) := by
  refine List.ext_getElem? fun i => ?_
  rw [List.getElem?_map, List.getElem?_mapIdx, List.getElem?_mapIdx, Option.map_map]
  rfl

/-- The group in progress takes what it has room for, and the groups begin anew behind it. -/
theorem groupsFrom_eq (size room : Nat) (items : List α) :
    groupsFrom size room items = (items.take room, groupsOf size (items.drop room)) := by
  fun_induction groupsFrom size room items with
  | case1 room =>
    rw [List.take_nil, List.drop_nil]
    rfl
  | case2 x rest group groups h =>
    rw [List.take_zero, List.drop_zero, groupsOf, groupsFrom, h]
  | case3 room x rest group groups h ih =>
    rw [h] at ih
    obtain ⟨rfl, rfl⟩ := Prod.mk.inj ih
    rfl

theorem flatten_groupsOf (size : Nat) (items : List α) :
    (groupsOf size items).flatten = items := by
  have hall := append_flatten_groupsFrom size 0 items
  have hnone : (groupsFrom size 0 items).1 = [] := by cases items <;> rfl
  rwa [hnone, List.nil_append] at hall

/-- A group holds nothing that was not in the list. -/
theorem mem_of_mem_groupsOf {items group : List α} {item : α} (hgroup : group ∈ groupsOf size items)
    (hitem : item ∈ group) : item ∈ items := by
  rw [← flatten_groupsOf size items]
  exact List.mem_flatten.mpr ⟨group, hgroup, hitem⟩

theorem groupsOf_nil (size : Nat) : groupsOf size ([] : List α) = [] := rfl

/-- The first group is the beginning of the list. -/
theorem groupsOf_of_ne_nil (hsize : 0 < size) {items : List α} (h : items ≠ []) :
    groupsOf size items = items.take size :: groupsOf size (items.drop size) := by
  obtain ⟨x, rest, rfl⟩ := List.exists_cons_of_ne_nil h
  obtain ⟨room, rfl⟩ := Nat.exists_eq_add_one.mpr hsize
  rw [groupsOf, groupsFrom, groupsFrom_eq]
  rfl

/-- A group begins at a multiple of the size, as long as there are items from there on. -/
theorem getElem?_groupsOf (hsize : 0 < size) (items : List α) (g : Nat) :
    (groupsOf size items)[g]? =
      if g * size < items.length then some ((items.drop (g * size)).take size) else none := by
  induction g generalizing items with
  | zero =>
    by_cases h : items = []
    · simp [h, groupsOf_nil]
    · rw [groupsOf_of_ne_nil hsize h]
      simp [List.length_pos_iff.mpr h]
  | succ g ih =>
    by_cases h : items = []
    · simp [h, groupsOf_nil]
    · have hplace : g * size < (items.drop size).length ↔ (g + 1) * size < items.length := by
        rw [List.length_drop, Nat.succ_mul]
        omega
      rw [groupsOf_of_ne_nil hsize h, List.getElem?_cons_succ, ih, List.drop_drop, Nat.succ_mul,
        Nat.add_comm size]
      rw [Nat.succ_mul] at hplace
      simp only [hplace]

theorem lt_length_groupsOf (hsize : 0 < size) (items : List α) (g : Nat) :
    g < (groupsOf size items).length ↔ g * size < items.length := by
  rw [← not_le, ← List.getElem?_eq_none_iff, getElem?_groupsOf hsize]
  simp

/-- There are as many groups as it takes to hold all items. -/
theorem length_groupsOf (hsize : 0 < size) (items : List α) :
    (groupsOf size items).length = items.length ⌈/⌉ size := by
  refine eq_of_forall_lt_iff fun g => ?_
  rw [lt_length_groupsOf hsize, ← not_le, ← not_le, ceilDiv_le_iff_le_mul hsize, Nat.mul_comm]

theorem getElem?_groupsOf_eq_some (hsize : 0 < size) {items group : List α} {g : Nat} :
    (groupsOf size items)[g]? = some group ↔
      g * size < items.length ∧ (items.drop (g * size)).take size = group := by
  rw [getElem?_groupsOf hsize, Option.ite_none_right_eq_some, Option.some_inj]

/-- No group is empty, and none is larger than the size. -/
theorem length_of_mem_groupsOf (hsize : 0 < size) {items group : List α}
    (h : group ∈ groupsOf size items) : 0 < group.length ∧ group.length ≤ size := by
  obtain ⟨g, hg⟩ := List.mem_iff_getElem?.mp h
  obtain ⟨hplace, rfl⟩ := (getElem?_groupsOf_eq_some hsize).mp hg
  rw [List.length_take, List.length_drop]
  omega

/-- A group with another one behind it has all the items that it has room for. -/
theorem length_of_mem_dropLast_groupsOf (hsize : 0 < size) {items group : List α}
    (h : group ∈ (groupsOf size items).dropLast) : group.length = size := by
  obtain ⟨g, hg⟩ := List.mem_iff_getElem?.mp h
  rw [List.getElem?_dropLast, Option.ite_none_right_eq_some] at hg
  obtain ⟨hlast, hg⟩ := hg
  have hnext : (g + 1) * size < items.length :=
    (lt_length_groupsOf hsize items (g + 1)).mp (by omega)
  obtain ⟨-, rfl⟩ := (getElem?_groupsOf_eq_some hsize).mp hg
  rw [Nat.succ_mul] at hnext
  rw [List.length_take, List.length_drop]
  omega

/-- A place in a group is that many places behind the multiple of the size where it begins. -/
theorem getElem?_of_groupsOf (hsize : 0 < size) {items group : List α} {g p : Nat}
    (hgroup : (groupsOf size items)[g]? = some group) (hp : p < group.length) :
    items[g * size + p]? = some group[p] := by
  obtain ⟨-, rfl⟩ := (getElem?_groupsOf_eq_some hsize).mp hgroup
  rw [List.length_take] at hp
  rw [← List.getElem?_eq_getElem, List.getElem?_take_of_lt (by omega), List.getElem?_drop]

/-- An item stands in the group that its place falls into. -/
theorem getElem?_groupsOf_div (hsize : 0 < size) {items : List α} {i : Nat}
    (hi : i < items.length) :
    ∃ group, (groupsOf size items)[i / size]? = some group ∧ group[i % size]? = items[i]? := by
  refine ⟨(items.drop (i / size * size)).take size, ?_, ?_⟩
  · rw [getElem?_groupsOf hsize, if_pos (Nat.lt_of_le_of_lt (Nat.div_mul_le_self i size) hi)]
  · rw [List.getElem?_take_of_lt (Nat.mod_lt i hsize), List.getElem?_drop, Nat.mul_comm,
      Nat.div_add_mod]

/-- What is made of every item by its group and its place there is made of it by its place in the
list. -/
theorem flatten_mapIdx_groupsOf (hsize : 0 < size) (items : List α) (f : Nat → Nat → α → β) :
    ((groupsOf size items).mapIdx fun g group => group.mapIdx (f g)).flatten =
      items.mapIdx fun i => f (i / size) (i % size) := by
  by_cases h : items = []
  · rw [h, groupsOf_nil, List.mapIdx_nil, List.mapIdx_nil, List.flatten_nil]
  · have hrest := flatten_mapIdx_groupsOf hsize (items.drop size) fun g => f (g + 1)
    rw [groupsOf_of_ne_nil hsize h, List.mapIdx_cons, List.flatten_cons, hrest]
    conv_rhs => rw [← List.take_append_drop size items, List.mapIdx_append]
    congr 1
    · refine List.ext_getElem? fun p => ?_
      rw [List.getElem?_mapIdx, List.getElem?_mapIdx, List.getElem?_take]
      split
      · rename_i hp
        rw [Nat.div_eq_of_lt hp, Nat.mod_eq_of_lt hp]
      · rfl
    · by_cases hdrop : items.length ≤ size
      · rw [List.drop_eq_nil_of_le hdrop, List.mapIdx_nil, List.mapIdx_nil]
      · rw [List.length_take_of_le (by omega)]
        simp only [Nat.add_div_right _ hsize, Nat.add_mod_right]
termination_by items.length
decreasing_by
  rw [List.length_drop]
  exact Nat.sub_lt (List.length_pos_iff.mpr h) hsize

section Cutting

/-- A list in consecutive groups of a size. None is empty, and only the last may be smaller. -/
structure GroupedBy (size : Nat) (items : List α) (groups : List (List α)) : Prop where
  flatten_eq : groups.flatten = items
  within : ∀ group ∈ groups, 0 < group.length ∧ group.length ≤ size
  full : ∀ group ∈ groups.dropLast, group.length = size

theorem groupedBy_groupsOf (hsize : 0 < size) (items : List α) :
    GroupedBy size items (groupsOf size items) where
  flatten_eq := flatten_groupsOf size items
  within _ := length_of_mem_groupsOf hsize
  full _ := length_of_mem_dropLast_groupsOf hsize

/-- The first group is the beginning of the list, and the others are groups of what is left. -/
theorem GroupedBy.uncons {items group : List α} {rest : List (List α)}
    (h : GroupedBy size items (group :: rest)) :
    items.take size = group ∧ GroupedBy size (items.drop size) rest := by
  obtain ⟨rfl, hwithin, hfull⟩ := h
  rw [List.flatten_cons]
  have hbehind : ∀ other ∈ rest, 0 < other.length ∧ other.length ≤ size :=
    fun other hother => hwithin other (List.mem_cons_of_mem _ hother)
  -- The first group is full only if another one follows; alone, it is all of the list.
  cases rest with
  | nil =>
    have hlength := (hwithin group (List.mem_cons_self ..)).2
    rw [List.flatten_nil, List.append_nil, List.take_of_length_le hlength,
      List.drop_eq_nil_of_le hlength]
    exact ⟨rfl, rfl, hbehind, fun _ hother => absurd hother List.not_mem_nil⟩
  | cons next more =>
    rw [List.dropLast_cons_of_ne_nil (List.cons_ne_nil next more)] at hfull
    have hlength := hfull group (List.mem_cons_self ..)
    rw [List.take_left' hlength, List.drop_left' hlength]
    exact ⟨rfl, rfl, hbehind, fun other hother => hfull other (List.mem_cons_of_mem _ hother)⟩

/-- There is no other way to group a list. -/
theorem GroupedBy.eq_groupsOf (hsize : 0 < size) {items : List α} {groups : List (List α)}
    (h : GroupedBy size items groups) : groups = groupsOf size items := by
  induction groups generalizing items with
  | nil =>
    obtain rfl : items = [] := h.flatten_eq.symm
    rfl
  | cons group rest ih =>
    obtain ⟨hfirst, hrest⟩ := h.uncons
    have hgroup : 0 < group.length := (h.within group (List.mem_cons_self ..)).1
    have hitems : items ≠ [] := by
      rintro rfl
      rw [← hfirst, List.take_nil] at hgroup
      exact Nat.lt_irrefl 0 hgroup
    rw [groupsOf_of_ne_nil hsize hitems, hfirst, ← ih hrest]

theorem group?_of_lt_one {size : Int} (h : size < 1) (items : List α) :
    group? items size = .error (.groupSize size) := if_pos h

theorem group?_of_one_le {size : Int} (h : 1 ≤ size) (items : List α) :
    group? items size = .ok (groupsOf size.toNat items) := if_neg (by omega)

/-- How a list is cut into groups of a size. It fails over the size exactly if that is not positive,
whatever the list is. Otherwise it answers with the list in groups of the size, as no other groups
have it. There are as many as it takes to hold all items, and place `p` of group `g` is place
`g * size + p` of the list. -/
theorem list_grouped (items : List α) (size : Int) :
    ((∃ failure, group? items size = .error failure ∧ failure.kind = .value) ↔ size < 1) ∧
    (1 ≤ size → ∃ groups, group? items size = .ok groups ∧
      GroupedBy size.toNat items groups ∧
      (∀ others, GroupedBy size.toNat items others → others = groups) ∧
      groups.length = items.length ⌈/⌉ size.toNat ∧
      ∀ g (hg : g < groups.length) p (hp : p < groups[g].length),
        items[g * size.toNat + p]? = some groups[g][p]) := by
  refine ⟨⟨?fails, fun h => ⟨_, group?_of_lt_one h items, rfl⟩⟩, fun h => ?answers⟩
  case fails =>
    rintro ⟨failure, hfailure, -⟩
    by_contra h
    rw [group?_of_one_le (by omega)] at hfailure
    cases hfailure
  case answers =>
    have hsize : 0 < size.toNat := by omega
    exact ⟨groupsOf size.toNat items, group?_of_one_le h items, groupedBy_groupsOf hsize items,
      fun _ hothers => hothers.eq_groupsOf hsize, length_groupsOf hsize items,
      fun g hg p hp => getElem?_of_groupsOf hsize (List.getElem?_eq_getElem hg) hp⟩

/-- Five items in twos leave one alone. -/
theorem list_grouped_of_five :
    (1 : Int) ≤ 2 ∧ group? ["a", "b", "c", "d", "e"] 2 =
      .ok [["a", "b"], ["c", "d"], ["e"]] := by
  obtain ⟨groups, hgroups, -, hunique, -⟩ :=
    (list_grouped ["a", "b", "c", "d", "e"] 2).2 (by decide)
  have hcut : GroupedBy 2 ["a", "b", "c", "d", "e"] [["a", "b"], ["c", "d"], ["e"]] :=
    ⟨by decide, by decide, by decide⟩
  rw [hgroups, hunique _ hcut]
  exact ⟨by decide, rfl⟩

end Cutting

end RecordMapper.Source
