import RecordMapper.Action
import RecordMapper.Proofs.Text.Lines
import RecordMapper.Source.Arbitrary
import RecordMapper.Source.Spec

/-!
# Parts of sources

A source that could be made is the rendering of its parts. For a model and an arbitrary these are
the parts of the view. The parts of a spec are the lines of the body of its framework. No
placeholder reaches past a line break, a point or a parenthesis, so every line is filled in by
itself and a call in a line part by part. A value without percent signs arrives in the spec as it
is, whatever the other values are.
-/
namespace RecordMapper.Source

open RecordMapper.Config RecordMapper.Schema RecordMapper.Text RecordMapper.View

/-- The lines of the body for a framework, with their placeholders open. -/
def bodyLines : TestFramework → List String
  | .scalatestFlatSpec => scalatestBody
  | .specs2Unit => specs2UnitBody
  | .specs2Acceptance => specs2AcceptanceBody

theorem specBody_eq_join (framework : TestFramework) :
    specBody framework = join "\n" (bodyLines framework ++ [""]) := by
  cases framework <;> rfl

/-- The lines of a spec; its last line ends in a break. -/
def specLines (framework : TestFramework) (values : List (Placeholder × String)) : List String :=
  (bodyLines framework ++ [""]).map (substitute values)

section Tokens

/-- All placeholders. -/
def placeholders : List Placeholder := [
  .package, .timeImport, .additionalImport, .modifier, .specClassName, .className, .baseTypes,
  .primaryKeys, .syntaxObject, .whereExample, .createFields]

theorem mem_placeholders (p : Placeholder) : p ∈ placeholders := by cases p <;> decide

theorem token_ne_empty (p : Placeholder) : p.token ≠ "" := by
  have hall : ∀ p ∈ placeholders, p.token ≠ "" := by decide
  exact hall p (mem_placeholders p)

theorem percent_mem_token (p : Placeholder) : '%' ∈ p.token.toList := by
  have hall : ∀ p ∈ placeholders, '%' ∈ p.token.toList := by decide
  exact hall p (mem_placeholders p)

/-- Apart from the percent signs a placeholder consists of letters. -/
theorem percent_or_letter {p : Placeholder} {c : Char} (h : c ∈ p.token.toList) :
    c = '%' ∨ c.isAlpha = true := by
  have hall : ∀ p ∈ placeholders, p.token.toList.all (fun c => c = '%' || c.isAlpha) = true := by
    decide
  simpa using List.all_eq_true.mp (hall p (mem_placeholders p)) c h

theorem not_occurs_token {p q : Placeholder} (h : p ≠ q) :
    ¬p.token.toList <:+: q.token.toList := by
  have hall : ∀ p ∈ placeholders, ∀ q ∈ placeholders, p ≠ q →
      ¬p.token.toList <:+: q.token.toList := by decide +kernel
  exact hall p (mem_placeholders p) q (mem_placeholders q) h

end Tokens

/-- The text can be no part of a placeholder, and no character of it can. -/
def IsBoundary (separator : String) : Prop :=
  separator ≠ "" ∧ ∀ c ∈ separator.toList, c ≠ '%' ∧ c.isAlpha = false

-- The instance goes through the text and not through all characters there are.
instance (separator : String) : Decidable (IsBoundary separator) :=
  @instDecidableAnd _ _ _ (List.decidableBAll _ _)

theorem IsBoundary.not_mem_token {separator : String} (h : IsBoundary separator) {c : Char}
    (hc : c ∈ separator.toList) (p : Placeholder) : c ∉ p.token.toList := by
  intro hmem
  obtain ⟨hpercent, hletter⟩ := h.2 c hc
  rcases percent_or_letter hmem with rfl | halpha
  · exact hpercent rfl
  · rw [hletter] at halpha
    cases halpha

section Substitute

variable {values : List (Placeholder × String)}

theorem substitute_cons (p : Placeholder) (value text : String) :
    substitute ((p, value) :: values) text = substitute values (replaceAll p.token value text) :=
  rfl

theorem substitute_append {separator : String} (h : IsBoundary separator) (before after : String) :
    substitute values (before ++ separator ++ after) =
      substitute values before ++ separator ++ substitute values after := by
  induction values generalizing before after with
  | nil => rfl
  | cons entry rest ih =>
    rw [substitute_cons, substitute_cons, substitute_cons,
      replaceAll_append (token_ne_empty _) h.1 fun _ hc => h.not_mem_token hc _, ih]

theorem substitute_join (lines : List String) :
    substitute values (join "\n" lines) = join "\n" (lines.map (substitute values)) := by
  induction values generalizing lines with
  | nil => exact congrArg (join "\n") (List.map_id lines).symm
  | cons entry rest ih =>
    have hline : substitute (entry :: rest) =
        substitute rest ∘ replaceAll entry.1.token entry.2 := rfl
    have hbreak : IsBoundary "\n" := by decide
    rw [substitute_cons, replaceAll_join (token_ne_empty _) hbreak.1
      fun _ hc => hbreak.not_mem_token hc _, ih, List.map_map, hline]

theorem substitute_of_free {text : String} (h : '%' ∉ text.toList) :
    substitute values text = text := by
  induction values with
  | nil => rfl
  | cons entry rest ih => rw [substitute_cons, replaceAll_of_not_mem (percent_mem_token _) h, ih]

/-- A placeholder on its own becomes its value. -/
theorem substitute_token {p : Placeholder} {value : String} (h : values.lookup p = some value)
    (hfree : '%' ∉ value.toList) : substitute values p.token = value := by
  induction values with
  | nil => cases h
  | cons entry rest ih =>
    obtain ⟨q, other⟩ := entry
    rw [substitute_cons]
    by_cases hp : p = q
    · subst hp
      obtain rfl : other = value := by simpa using h
      rw [replaceAll_self (token_ne_empty _), substitute_of_free hfree]
    · rw [replaceAll_of_absent (not_occurs_token (Ne.symm hp))]
      exact ih (by rwa [List.lookup_cons, beq_false_of_ne hp] at h)

end Substitute

section Sources

variable {config : Settings} {table : Table} {explicit : Option Value} {text : String}

theorem modelOf_eq_ok {v : TableView} {model : ModelSource} (h : modelOf config v = .ok model) :
    ∃ classClause companionClause,
      policyClause config.baseTypes v "extends" = .ok classClause ∧
      policyClause config.companionBaseTypes v "with" = .ok companionClause ∧
      model = {
        header := modelHeader config v
        caseClass := caseClass config v classClause
        companion := companion config v companionClause
        methods := methods config (Style.of config.template) v } := by
  unfold modelOf at h
  obtain ⟨-, -, h⟩ := bind_eq_ok_iff.mp h
  obtain ⟨classClause, hclass, h⟩ := bind_eq_ok_iff.mp h
  obtain ⟨companionClause, hcompanion, h⟩ := bind_eq_ok_iff.mp h
  obtain ⟨-, -, h⟩ := bind_eq_ok_iff.mp h
  obtain ⟨-, -, h⟩ := bind_eq_ok_iff.mp h
  cases h
  exact ⟨classClause, companionClause, hclass, hcompanion, rfl⟩

theorem modelSource_eq_ok (h : modelSource config table explicit = .ok text) :
    ∃ model, modelOf config (TableView.of config table explicit) = .ok model ∧
      text = render config.eol model.lines := by
  obtain ⟨model, hmodel, h⟩ := bind_eq_ok_iff.mp h
  cases h
  exact ⟨model, hmodel, rfl⟩

theorem arbitrarySource_eq_ok (h : arbitrarySource config table explicit = .ok text) :
    text = render config.eol (arbitraryHeader config (TableView.of config table explicit) ++ [""] ++
      arbitraryTrait (TableView.of config table explicit) ++ [""]) := by
  obtain ⟨-, -, h⟩ := bind_eq_ok_iff.mp h
  obtain ⟨-, -, h⟩ := bind_eq_ok_iff.mp h
  cases h
  rfl

theorem lookup_of_placeholderValues {v : TableView} {values : List (Placeholder × String)}
    (h : placeholderValues config v = .ok values) :
    values.lookup .timeImport = some (join "\n" (timeImports config v)) ∧
    values.lookup .className = some v.className ∧
    values.lookup .primaryKeys = some (join ", " (v.key.map ColumnView.sample)) ∧
    values.lookup .createFields = some
      (join ", " (v.createFields.map fun c => c.fieldName ++ " = " ++ c.sample)) := by
  unfold placeholderValues at h
  obtain ⟨-, -, h⟩ := bind_eq_ok_iff.mp h
  obtain ⟨-, -, h⟩ := bind_eq_ok_iff.mp h
  obtain ⟨baseTypes, -, h⟩ := bind_eq_ok_iff.mp h
  obtain ⟨samples, -, h⟩ := bind_eq_ok_iff.mp h
  obtain ⟨-, -, h⟩ := bind_eq_ok_iff.mp h
  obtain ⟨-, -, h⟩ := bind_eq_ok_iff.mp h
  cases h
  exact ⟨rfl, rfl, rfl, rfl⟩

theorem exists_eq_ok_some {made : Except Failure (Option String)}
    (h : made.toOption.join.isSome = true) : ∃ text, made = .ok (some text) := by
  match made with
  | .ok (some text) => exact ⟨text, rfl⟩
  | .ok none => cases h
  | .error failure => cases h

/-- A spec is the body of its framework, filled in line by line. -/
theorem specSource_eq_some (h : specSource config table explicit = .ok (some text)) :
    ∃ framework values, framework? config = some framework ∧
      placeholderValues config (TableView.of config table explicit) = .ok values ∧
      text = render config.eol (specLines framework values) := by
  unfold specSource at h
  split at h
  · cases h
  · rename_i framework hframework
    obtain ⟨values, hvalues, h⟩ := bind_eq_ok_iff.mp h
    cases h
    refine ⟨framework, values, hframework, hvalues, ?_⟩
    rw [specBody_eq_join, substitute_join, specLines, render]

end Sources

end RecordMapper.Source
