import RecordMapper.Proofs.Text.Brackets
import RecordMapper.Source.Arbitrary

/-!
# Nested parts of sources

Where the names, types and literals of a table are nested, so is what is written for a single column
and every statement made of such entries. A list of entries may be opened in the line before it and
closed by what is put after its last line, so lines count as nested as a whole.
-/
namespace RecordMapper.Source

open RecordMapper.Config RecordMapper.Text RecordMapper.View

section Layout

variable {awaited : Awaited}

theorem readTexts_withCommas (items : List String) :
    readTexts awaited (withCommas items) = readTexts awaited items := by
  have hcomma : Nested "," := by decide
  fun_induction withCommas items generalizing awaited with
  | case1 => rfl
  | case2 item => rfl
  | case3 item rest hrest ih =>
    rw [readTexts_cons, readText_append, hcomma.readText_eq, ih, readTexts_cons]

theorem readTexts_listed (level : Nat) (items : List String) :
    readTexts awaited (listed level items) = readTexts awaited items := by
  rw [listed, readTexts_withCommas]
  induction items generalizing awaited with
  | nil => rfl
  | cons item rest ih =>
    rw [List.map_cons, readTexts_cons, readText_append, (nested_margin level).readText_eq, ih,
      readTexts_cons]

theorem readTexts_assignments (lines : List String) :
    readTexts awaited (assignments lines) = readTexts awaited lines := by
  unfold assignments
  split
  · rename_i hempty
    rw [List.isEmpty_iff.mp hempty]
    rfl
  · exact readTexts_withCommas lines

/-- What is put after the last line is read after all lines. -/
theorem readTexts_onLast {lines : List String} (h : lines ≠ []) (ending : String) :
    readTexts awaited (onLast (· ++ ending) lines) = readText (readTexts awaited lines) ending := by
  fun_induction onLast (· ++ ending) lines generalizing awaited with
  | case1 => exact absurd rfl h
  | case2 line => exact readText_append line ending
  | case3 line rest hrest ih =>
    rw [readTexts_cons, ih (by simpa using hrest), readTexts_cons]

theorem readTexts_onFirst {lines : List String} (h : lines ≠ []) (beginning : String) :
    readTexts awaited (onFirst (beginning ++ ·) lines) =
      readTexts (readText awaited beginning) lines := by
  cases lines with
  | nil => exact absurd rfl h
  | cons line rest => rw [onFirst, readTexts_cons, readText_append, readTexts_cons]

theorem readTexts_cutLines (lines : List String) :
    readTexts awaited (cutLines lines) = readTexts awaited lines := by
  induction lines generalizing awaited with
  | nil => rfl
  | cons line rest ih =>
    have hcut : cutLines (line :: rest) = split '\n' line ++ cutLines rest := List.flatMap_cons
    rw [hcut, readTexts_append, readTexts_split (by decide), ih, readTexts_cons]

theorem nested_render {eol : String} (h : Nested eol) {lines : List String}
    (hlines : NestedLines lines) : Nested (render eol lines) := by
  have hbreak : Nested "\n" := by decide
  rw [nested_iff, render, readText_withLineBreak h, readText_join hbreak, hlines.readTexts_eq]

theorem nested_interpolate {expr : String} (h : Nested expr) : Nested (interpolate expr) := by
  rw [nested_iff]
  unfold interpolate
  rw [readText_append, readText_append, h.readText_eq]
  decide

end Layout

/-- What is written of a column is nested. -/
structure NestedColumn (c : ColumnView) : Prop where
  name : Nested c.name
  field : Nested c.fieldName
  type : Nested c.rawType
  sample : Nested c.sample

namespace NestedColumn

variable {c : ColumnView} (h : NestedColumn c)

include h

theorem bareName : Nested c.bareName := by
  rw [nested_iff, ColumnView.bareName, readText_unquote, h.field.readText_eq]

theorem generatorName : Nested c.generatorName := by
  rw [nested_iff, ColumnView.generatorName, readText_append, readText_capitalize,
    h.bareName.readText_eq]
  decide

theorem fieldType : Nested c.fieldType := by
  unfold ColumnView.fieldType ScalaType.nullable
  split
  · exact h.type
  · rw [nested_iff, readText_append, readText_append, h.type.readText_eq]
    decide

theorem typed : Nested c.typed := by
  have hcolon : Nested ": " := by decide
  exact nested_append (nested_append h.field hcolon) h.fieldType

theorem parameter : Nested c.parameter := by
  unfold ColumnView.parameter
  split <;> exact nested_append h.typed (by decide)

theorem literal_name : Nested (literal c.name) := by
  rw [nested_iff, readText_literal, h.name.readText_eq]

/-- The access to the field through a path. -/
theorem access {path : String} (hpath : Nested path) : Nested (path ++ c.fieldName) :=
  nested_append hpath h.field

end NestedColumn

section Entries

theorem nested_anyBinder {value : String} (h : Nested value) : Nested (anyBinder value) := by
  rw [nested_iff]
  unfold anyBinder
  simp only [readText_append, h.readText_eq]
  decide

theorem nested_bound (c : ColumnView) {value : String} (h : Nested value) :
    Nested (bound c value) := by
  unfold bound
  split
  · exact nested_anyBinder h
  · exact h

variable {c : ColumnView}

theorem nested_interpolatedColumn (h : NestedColumn c) : Nested (interpolatedColumn c) :=
  nested_interpolate (h.access (by decide))

theorem nested_interpolatedValue {path : String} (hpath : Nested path) (h : NestedColumn c) :
    Nested (interpolatedValue path c) :=
  nested_interpolate (nested_bound c (h.access hpath))

theorem nested_namedValue {path : String} (hpath : Nested path) (h : NestedColumn c) :
    Nested (namedValue path c) := by
  have haccess := h.access hpath
  unfold namedValue
  rw [nested_iff]
  split
  · simp only [readText_append, h.field.readText_eq, (nested_anyBinder haccess).readText_eq]
    decide
  · simp only [readText_append, h.field.readText_eq, hpath.readText_eq]
    decide

theorem nested_batchParameter (h : NestedColumn c) : Nested (batchParameter c) := by
  have hvalue : Nested ("entity." ++ c.fieldName) := h.access (by decide)
  have hbinder : Nested (if c.isAny then anyBinder ("entity." ++ c.fieldName)
      else "toParameterBinder(" ++ ("entity." ++ c.fieldName) ++ ")") := by
    split
    · exact nested_anyBinder hvalue
    · rw [nested_iff]
      simp only [readText_append (_ ++ _), readText_append "toParameterBinder(", hvalue.readText_eq]
      decide
  unfold batchParameter
  rw [nested_iff]
  simp only [readText_append, h.bareName.readText_eq, hbinder.readText_eq]
  decide

theorem nested_batchPlaceholder (h : NestedColumn c) : Nested (batchPlaceholder c) := by
  unfold batchPlaceholder
  rw [nested_iff]
  simp only [readText_append, h.bareName.readText_eq]
  decide

theorem nested_generatedKeyExpression (c : ColumnView) : Nested (generatedKeyExpression c) := by
  have hall : ∀ expr ∈ "generatedKey" :: keyConversions.map Prod.snd, Nested expr := by
    decide +kernel
  obtain ⟨expr, hmem, hexpr⟩ := exists_generatedKeyExpression_eq c
  rw [hexpr]
  split
  · exact hall expr hmem
  · rw [nested_iff]
    simp only [readText_append, (hall expr hmem).readText_eq]
    decide

variable {columns : List ColumnView} (hcolumns : ∀ c ∈ columns, NestedColumn c)

include hcolumns

theorem nested_interpolatedPredicate {owner path : String} (howner : Nested owner)
    (hpath : Nested path) : Nested (interpolatedPredicate columns owner path) := by
  refine nested_join (by decide) (nestedLines_map fun c hc => ?_)
  have hcolumn : Nested (interpolate (owner ++ "." ++ c.fieldName)) :=
    nested_interpolate ((hcolumns c hc).access (nested_append howner (by decide)))
  have hvalue : Nested (interpolate (path ++ c.fieldName)) :=
    nested_interpolate ((hcolumns c hc).access hpath)
  exact nested_append (nested_append hcolumn (by decide)) hvalue

theorem nested_dslPredicate {owner path : String} (howner : Nested owner) (hpath : Nested path) :
    Nested (dslPredicate columns owner path) := by
  refine nested_join (by decide) (nestedLines_map fun c hc => ?_)
  rw [nested_iff]
  simp only [readText_append, howner.readText_eq, hpath.readText_eq,
    (hcolumns c hc).field.readText_eq]
  decide

end Entries

end RecordMapper.Source
