import Mathlib.Data.List.Nodup
import RecordMapper.Proofs.Naming.Identifier
import RecordMapper.Source.Arbitrary

/-!
# Bindings of columns

The names that an arbitrary binds drawn values to. A column is bound to its field, unless that is a
reserved word without its back-quotes; for such a column a name is sought among numbered candidates.
The candidates differ and the names to avoid are finitely many, so the search ends, at the first
candidate that is neither a field of any column nor bound before. Columns with different fields
therefore have different bindings, whatever comes behind a reserved word.
-/
namespace RecordMapper.Source

open RecordMapper.Config RecordMapper.Naming RecordMapper.Schema RecordMapper.View

section Search

variable {taken : List String} {base name : String}

/-- The search for a name that is not taken, with the next number to try and a candidate at hand. A
candidate that is taken gives way to the base with that number; the search has no other bound. -/
inductive Seeks (taken : List String) (base : String) : Nat → String → String → Prop
  | free {next : Nat} {candidate : String} (h : candidate ∉ taken) :
      Seeks taken base next candidate candidate
  | taken {next : Nat} {candidate found : String} (h : candidate ∈ taken)
      (hrest : Seeks taken base (next + 1) (base ++ toString next) found) :
      Seeks taken base next candidate found

/-- The base if it is not taken, and otherwise the base with the least number from two on that makes
it a name which is not taken. -/
inductive FirstFree (taken : List String) (base : String) : String → Prop
  | plain (h : base ∉ taken) : FirstFree taken base base
  | numbered {number : Nat} (hbase : base ∈ taken) (hnumber : 2 ≤ number)
      (hfree : base ++ toString number ∉ taken)
      (hleast : ∀ other, 2 ≤ other → other < number → base ++ toString other ∈ taken) :
      FirstFree taken base (base ++ toString number)

theorem FirstFree.not_mem (h : FirstFree taken base name) : name ∉ taken := by
  cases h with
  | plain h => exact h
  | numbered _ _ hfree _ => exact hfree

/-- The search tries the numbers before the first free one and stops there. -/
theorem seeks_of_least {next left : Nat} {candidate : String} (hcandidate : candidate ∈ taken)
    (hfree : base ++ toString (next + left) ∉ taken)
    (hleast : ∀ other, next ≤ other → other < next + left → base ++ toString other ∈ taken) :
    Seeks taken base next candidate (base ++ toString (next + left)) := by
  induction left generalizing next candidate with
  | zero => exact .taken hcandidate (.free hfree)
  | succ left ih =>
    have hshift : next + (left + 1) = next + 1 + left := by omega
    rw [hshift] at hfree hleast ⊢
    refine .taken hcandidate (ih (hleast next (Nat.le_refl _) (by omega)) hfree ?_)
    exact fun other hother => hleast other (Nat.le_of_succ_le hother)

theorem FirstFree.seeks (h : FirstFree taken base name) : Seeks taken base 2 base name := by
  cases h with
  | plain h => exact .free h
  | @numbered number hbase hnumber hfree hleast =>
    obtain ⟨left, rfl⟩ := Nat.exists_eq_add_of_le hnumber
    exact seeks_of_least hbase hfree hleast

/-- The digits of a number are read back. -/
theorem toString_injective : Function.Injective fun number : Nat => toString number := by
  refine Function.LeftInverse.injective (g := fun digits : String =>
    Nat.ofDigitChars 10 digits.toList 0) fun number => ?_
  simp

/-- There are more candidates than names to avoid. -/
theorem exists_number_free (taken : List String) (base : String) :
    ∃ number ∈ List.range' 2 (taken.length + 1), base ++ toString number ∉ taken := by
  by_contra hnone
  push Not at hnone
  let candidates := (List.range' 2 (taken.length + 1)).map fun number => base ++ toString number
  have hnodup : candidates.Nodup :=
    (List.nodup_range' ..).map fun _ _ h => toString_injective ((String.append_right_inj base).mp h)
  have hsubset : candidates ⊆ taken := by
    intro candidate hcandidate
    obtain ⟨number, hnumber, rfl⟩ := List.mem_map.mp hcandidate
    exact hnone number hnumber
  have hlength := hnodup.length_le_of_subset hsubset
  rw [List.length_map, List.length_range'] at hlength
  omega

/-- The bounded search finds the first free name, so its default is never used. -/
theorem firstFree_freeName (taken : List String) (base : String) :
    FirstFree taken base (freeName taken base) := by
  unfold freeName
  dsimp only
  by_cases hbase : base ∈ taken
  · obtain ⟨number, hfound⟩ : ∃ number, (List.range' 2 (taken.length + 1)).find?
        (fun number => decide (base ++ toString number ∉ taken)) = some number := by
      obtain ⟨number, hmem, hfree⟩ := exists_number_free taken base
      exact Option.isSome_iff_exists.mp
        (List.find?_isSome.mpr ⟨number, hmem, decide_eq_true hfree⟩)
    obtain ⟨hfree, hmem, hleast⟩ := List.find?_range'_eq_some.mp hfound
    rw [List.find?_cons_of_neg (by simpa using hbase), List.find?_map]
    simp only [Function.comp_def, hfound, Option.map_some, Option.getD_some]
    refine .numbered hbase (List.mem_range'_1.mp hmem).1 (of_decide_eq_true hfree) ?_
    exact fun other hother hless => by simpa using hleast other hother hless
  · rw [List.find?_cons_of_pos (by simpa using hbase)]
    exact .plain hbase

end Search

/-- How a column is bound, given all fields and the bindings before it. -/
structure BoundTo (fields done : List String) (c : ColumnView) (name : String) : Prop where
  plain : c.bareName ∉ reservedWords → name = c.fieldName
  reserved : c.bareName ∈ reservedWords → FirstFree (fields ++ done) (c.bareName ++ "Value") name

section Words

variable {c : ColumnView}

/-- A reserved word with the suffix is not the field that the word is without its back-quotes. -/
theorem value_ne_fieldName (h : c.bareName ∈ reservedWords) :
    c.bareName ++ "Value" ≠ c.fieldName := by
  have hwords : ∀ word ∈ reservedWords, unquote (word ++ "Value") ≠ word := by decide +kernel
  intro hsame
  refine hwords _ h ?_
  rw [hsame]
  rfl

/-- A field that is not reserved without back-quotes is not reserved with them. -/
theorem fieldName_not_mem_reservedWords (h : c.bareName ∉ reservedWords) :
    c.fieldName ∉ reservedWords := by
  have hwords : ∀ word ∈ reservedWords, unquote word = word := by decide +kernel
  intro hfield
  rw [ColumnView.bareName, hwords _ hfield] at h
  exact h hfield

/-- No reserved word goes on like a candidate. -/
theorem FirstFree.not_mem_reservedWords {taken : List String} {word name : String}
    (h : FirstFree taken (word ++ "Value") name) : name ∉ reservedWords := by
  have hwords : ∀ other ∈ reservedWords, 'V' ∉ other.toList := by decide +kernel
  intro hname
  refine hwords _ hname ?_
  cases h <;> simp

end Words

section Columns

variable {fields done : List String} {columns : List ColumnView}

theorem boundTo_next (fields done : List String) (c : ColumnView) :
    BoundTo fields done c (if bindingName c = c.fieldName then bindingName c
      else freeName (fields ++ done) (bindingName c)) := by
  unfold bindingName
  by_cases hreserved : c.bareName ∈ reservedWords
  · rw [if_pos hreserved, if_neg (value_ne_fieldName hreserved)]
    exact ⟨fun h => absurd hreserved h, fun _ => firstFree_freeName _ _⟩
  · rw [if_neg hreserved, if_pos rfl]
    exact ⟨fun _ => rfl, fun h => absurd h hreserved⟩

/-- Every column is bound after those before it. -/
theorem getElem?_bindingsAfter {i : Nat} (hi : i < columns.length) :
    ∃ name, (bindingsAfter fields done columns)[i]? = some name ∧
      BoundTo fields (done ++ (bindingsAfter fields done columns).take i) columns[i] name := by
  induction columns generalizing done i with
  | nil => exact absurd hi (Nat.not_lt_zero i)
  | cons c rest ih =>
    rw [bindingsAfter]
    cases i with
    | zero =>
      refine ⟨_, rfl, ?_⟩
      rw [List.take_zero, List.append_nil]
      exact boundTo_next fields done c
    | succ i =>
      obtain ⟨name, hname, hbound⟩ := ih (Nat.lt_of_succ_lt_succ hi)
      refine ⟨name, hname, ?_⟩
      rw [List.append_assoc] at hbound
      exact hbound

theorem getElem?_bindingNames {i : Nat} (hi : i < columns.length) :
    ∃ name, (bindingNames columns)[i]? = some name ∧
      BoundTo (columns.map ColumnView.fieldName) ((bindingNames columns).take i) columns[i] name :=
  getElem?_bindingsAfter hi

theorem length_bindingNames (columns : List ColumnView) :
    (bindingNames columns).length = columns.length :=
  length_bindingsAfter _ _ _

/-- A new name is not a field, so it does not meet a column that keeps its field either. -/
theorem nodup_bindingNames (h : (columns.map ColumnView.fieldName).Nodup) :
    (bindingNames columns).Nodup := by
  rw [List.nodup_iff_getElem?_ne_getElem?]
  intro i j hij hj
  rw [length_bindingNames] at hj
  obtain ⟨first, hfirst, hfirstBound⟩ := getElem?_bindingNames (Nat.lt_trans hij hj)
  obtain ⟨second, hsecond, hsecondBound⟩ := getElem?_bindingNames hj
  rw [hfirst, hsecond]
  intro hsame
  obtain rfl := Option.some.inj hsame
  by_cases hreserved : columns[j].bareName ∈ reservedWords
  · have hbefore : first ∈ (bindingNames columns).take j :=
      List.mem_of_getElem? ((List.getElem?_take_of_lt hij).trans hfirst)
    exact (hsecondBound.reserved hreserved).not_mem (List.mem_append_right _ hbefore)
  · have hkept := hsecondBound.plain hreserved
    by_cases hrenamed : columns[i].bareName ∈ reservedWords
    · refine (hfirstBound.reserved hrenamed).not_mem (List.mem_append_left _ ?_)
      rw [hkept]
      exact List.mem_map_of_mem (List.getElem_mem hj)
    · have hfields : columns[i].fieldName = columns[j].fieldName := by
        rw [← hfirstBound.plain hrenamed, hkept]
      refine List.nodup_iff_getElem?_ne_getElem?.mp h i j hij (by simpa using hj) ?_
      rw [List.getElem?_map, List.getElem?_map, List.getElem?_eq_getElem (Nat.lt_trans hij hj),
        List.getElem?_eq_getElem hj, Option.map_some, Option.map_some, hfields]

theorem BoundTo.not_mem_reservedWords {c : ColumnView} {name : String}
    (h : BoundTo fields done c name) : name ∉ reservedWords := by
  by_cases hreserved : c.bareName ∈ reservedWords
  · exact (h.reserved hreserved).not_mem_reservedWords
  · rw [h.plain hreserved]
    exact fieldName_not_mem_reservedWords hreserved

end Columns

/-- Columns with different fields are bound, one by one and in order, to different names of which
none is a reserved word. A column whose field is not reserved without back-quotes is bound to its
field. For another one the search for a name, which stops only at a name that is not taken, comes to
an end: at a name that is not among the fields, namely the word with the suffix if it is not taken
by a field or an earlier binding, and otherwise with the least number that makes it such a name. -/
theorem bindings_fresh {columns : List ColumnView}
    (h : (columns.map ColumnView.fieldName).Nodup) :
    let fields := columns.map ColumnView.fieldName
    let names := bindingNames columns
    names.length = columns.length ∧ names.Nodup ∧ (∀ name ∈ names, name ∉ reservedWords) ∧
    ∀ i (hi : i < columns.length), ∃ name, names[i]? = some name ∧
      (columns[i].bareName ∉ reservedWords → name = columns[i].fieldName) ∧
      (columns[i].bareName ∈ reservedWords →
        let base := columns[i].bareName ++ "Value"
        name ∉ fields ∧ Seeks (fields ++ names.take i) base 2 base name ∧
          FirstFree (fields ++ names.take i) base name) := by
  intro fields names
  refine ⟨length_bindingNames columns, nodup_bindingNames h, fun name hname => ?_, fun i hi => ?_⟩
  · obtain ⟨i, hi, rfl⟩ := List.getElem_of_mem hname
    have hcolumn : i < columns.length := by rwa [← length_bindingNames]
    obtain ⟨other, hother, hbound⟩ := getElem?_bindingNames hcolumn
    rw [List.getElem?_eq_getElem hi, Option.some_inj] at hother
    rw [hother]
    exact hbound.not_mem_reservedWords
  · obtain ⟨name, hname, hbound⟩ := getElem?_bindingNames hi
    refine ⟨name, hname, hbound.plain, fun hreserved => ?_⟩
    have hfree := hbound.reserved hreserved
    exact ⟨fun hfield => hfree.not_mem (List.mem_append_left _ hfield), hfree.seeks, hfree⟩

namespace Sample

/-- A table with a reserved word as a field beside the first two names that would stand for it. -/
def tagged : Table where
  name := "tagged"
  columns := [⟨"type", 12, "VARCHAR", 10, true, false, false⟩,
    ⟨"type_value", 12, "VARCHAR", 10, true, false, false⟩,
    ⟨"type_value2", 4, "INTEGER", 0, true, false, false⟩]
  autoIncrement := []
  primaryKey := []
  generated := []
  schema := none
  autoIncrement_declared := by decide
  primaryKey_declared := by decide
  generated_declared := by decide

end Sample

/-- The two taken names make way for the third one. -/
theorem bindings_fresh_of_tagged :
    let columns := (TableView.of Settings.default Sample.tagged none).columns
    let fields := columns.map ColumnView.fieldName
    fields = ["`type`", "typeValue", "typeValue2"] ∧ fields.Nodup ∧
    bindingNames columns = ["typeValue3", "typeValue", "typeValue2"] ∧
    (bindingNames columns).Nodup ∧
    Seeks fields "typeValue" 2 "typeValue" "typeValue3" ∧
    FirstFree fields "typeValue" "typeValue3" := by
  intro columns fields
  have hfields : fields = ["`type`", "typeValue", "typeValue2"] := by decide +kernel
  have hnodup : fields.Nodup := by
    rw [hfields]
    decide
  have hnames : bindingNames columns = ["typeValue3", "typeValue", "typeValue2"] := by
    decide +kernel
  obtain ⟨-, hdistinct, -, hbound⟩ := bindings_fresh hnodup
  obtain ⟨name, hname, -, hreserved⟩ := hbound 0 (by decide +kernel)
  obtain ⟨-, hseeks, hfirst⟩ := hreserved (by decide +kernel)
  have hbare : columns[0].bareName ++ "Value" = "typeValue" := by decide +kernel
  rw [hnames, List.getElem?_cons_zero, Option.some_inj] at hname
  rw [List.take_zero, List.append_nil, ← hname, hbare] at hseeks hfirst
  exact ⟨hfields, hnodup, hnames, hdistinct, hseeks, hfirst⟩

end RecordMapper.Source
