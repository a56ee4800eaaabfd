import RecordMapper.Proofs.Document.DefaultNames
import RecordMapper.Proofs.Document.Readers

/-!
# Senseless configurations

A configuration makes no sense where the base types that it lists by table are not lists. Every
other setting that cannot be read is a fault.
-/
namespace RecordMapper.Config

open RecordMapper.Checked

theorem Choice.onlyFaults_read {α : Type} [Choice α] :
    Value.OnlyFaults (Choice.read (α := α)) := by
  intro v
  cases v with
  | text s =>
    simp only [Choice.read]
    split <;> simp
  | null | bool | int | real | list | mapping => simp [Choice.read]

namespace Settings

/-- The settings that list types by table. -/
def typeListKeys : List String :=
  ["table_name_to_base_types", "table_name_to_companion_base_types",
    "table_name_to_spec_base_types"]

/-- Types by table, where those of one table cannot be gone through. -/
def IsUnlisted (v : Value) : Prop :=
  ∃ entries, v = .mapping entries ∧ ∃ entry ∈ entries, entry.2.items? = none

/-- Some types by table cannot be gone through. -/
def Senseless (fields : List (String × Value)) : Prop :=
  ∃ key ∈ typeListKeys, ∃ v, fields.lookup key = some v ∧ IsUnlisted v

section Rules

/-- A rule that is given data fails to make sense only of types by table. -/
def Rule.Sensible (rule : Rule) : Prop := ∀ v c,
  Nonsense (rule.apply (.data v) c) ↔ rule.key ∈ typeListKeys ∧ IsUnlisted v

theorem sensible_of_never {rule : Rule} (hkey : rule.key ∉ typeListKeys)
    (h : ∀ v c, ¬Nonsense (rule.apply (.data v) c)) : rule.Sensible :=
  fun v c => iff_of_false (h v c) fun hsenseless => hkey hsenseless.1

theorem sensible_ofData {α : Type} {key : String} {read : Value → Checked α}
    {set : Settings → α → Settings} (hkey : key ∉ typeListKeys) (h : Value.OnlyFaults read) :
    (Rule.ofData key read set).Sensible :=
  sensible_of_never hkey fun v _ hv => h v (nonsense_map_iff.mp hv)

theorem sensible_functionOnly {key : String} {set : Settings → Policy → Settings}
    (hkey : key ∉ typeListKeys) : (Rule.ofPolicy key .functionOnly set).Sensible :=
  sensible_of_never hkey fun _ _ => not_nonsense_fault

theorem sensible_overrides {key : String} {set : Settings → Policy → Settings}
    (hkey : key ∉ typeListKeys) : (Rule.ofPolicy key .overrides set).Sensible := by
  refine sensible_of_never hkey fun v c hv => ?_
  have hv := nonsense_map_iff.mp hv
  cases v with
  | mapping fields => exact not_nonsense_ok hv
  | null | bool | int | real | text | list => exact not_nonsense_fault hv

theorem itemsOfTable_eq_error_iff {entry : String × Value} {cause : Rejection} :
    itemsOfTable entry = .error cause ↔ entry.2.items? = none ∧ cause = .wrongType := by
  unfold itemsOfTable
  cases entry.2.items? <;> simp [eq_comm]

theorem nonsense_typesPolicy_iff {v : Value} : Nonsense (typesPolicy v) ↔ IsUnlisted v := by
  cases v with
  | mapping fields =>
    rw [typesPolicy, nonsense_bind_iff]
    constructor
    · rintro (⟨cause, h, -⟩ | ⟨entries, -, h⟩)
      · obtain ⟨before, entry, after, hfields, -, h⟩ := mapM_eq_error_iff.mp h
        exact ⟨fields, rfl, entry, by simp [hfields], (itemsOfTable_eq_error_iff.mp h).1⟩
      · exact absurd h not_nonsense_ok
    · rintro ⟨_, ⟨rfl⟩, entry, hmem, hitems⟩
      left
      cases hall : fields.mapM itemsOfTable with
      | ok entries =>
        obtain ⟨items, hok⟩ := exists_of_mapM_eq_ok hall entry hmem
        rw [itemsOfTable_eq_error_iff.mpr ⟨hitems, rfl⟩] at hok
        cases hok
      | error cause =>
        obtain ⟨before, other, after, -, -, h⟩ := mapM_eq_error_iff.mp hall
        rw [(itemsOfTable_eq_error_iff.mp h).2]
        exact ⟨_, rfl, rfl⟩
  | null | bool | int | real | text | list =>
    refine iff_of_false ?_ ?_
    · simp [typesPolicy]
    · rintro ⟨entries, ⟨⟩, -⟩

theorem sensible_typeLists {key : String} {set : Settings → Policy → Settings}
    (hkey : key ∈ typeListKeys) : (Rule.ofPolicy key .typeLists set).Sensible := by
  intro v c
  have happly : Nonsense ((Rule.ofPolicy key .typeLists set).apply (.data v) c) ↔
      Nonsense (typesPolicy v) := nonsense_map_iff
  rw [happly, nonsense_typesPolicy_iff]
  exact (and_iff_right hkey).symm

theorem sensible_fieldTypeRule : fieldTypeRule.Sensible := by
  refine sensible_of_never (by decide) fun v c => ?_
  cases v with
  | mapping fields => exact not_nonsense_ok
  | null | bool | int | real | text | list => exact not_nonsense_fault

theorem sensible_sampleRule : sampleRule.Sensible := by
  refine sensible_of_never (by decide) fun v c => ?_
  cases v with
  | mapping fields => exact not_nonsense_ok
  | null | bool | int | real | text | list => exact not_nonsense_fault

theorem sensible_of_mem_rules : ∀ rule ∈ rules, rule.Sensible := by
  simp only [rules, List.forall_mem_cons]
  refine ⟨?_, ?_, ?_, ?_, ?_, ?_, ?_, ?_, ?_, ?_, ?_, ?_, sensible_functionOnly (by decide),
    sensible_functionOnly (by decide), sensible_functionOnly (by decide),
    sensible_functionOnly (by decide), sensible_fieldTypeRule, sensible_overrides (by decide),
    sensible_sampleRule, ?_, sensible_typeLists (by decide), sensible_typeLists (by decide),
    sensible_typeLists (by decide), ?_, ?_, ?_, List.forall_mem_nil _⟩
  all_goals
    refine sensible_ofData (by decide) ?_
    first
    | exact Value.onlyFaults_readText
    | exact Value.onlyFaults_readFilledText
    | exact Value.onlyFaults_readBool
    | exact Choice.onlyFaults_read
    | exact Value.onlyFaults_readList Value.onlyFaults_readText

end Rules

section Reading

variable {fields : List (String × Value)}

theorem nonsense_applyRules_iff {chosen : List Rule} (hrules : ∀ rule ∈ chosen, rule.Sensible)
    (c : Settings) : Nonsense (applyRules (dataSettings fields) chosen c) ↔
      ∃ rule ∈ chosen, rule.key ∈ typeListKeys ∧
        ∃ v, fields.lookup rule.key = some v ∧ IsUnlisted v := by
  induction chosen generalizing c with
  | nil => exact iff_of_false not_nonsense_ok (by simp)
  | cons rule rest ih =>
    have hrest := fun other hother => hrules other (List.mem_cons_of_mem rule hother)
    rw [applyRules, lookup_dataSettings]
    simp only [List.mem_cons, exists_eq_or_imp]
    cases hv : fields.lookup rule.key with
    | none =>
      simp only [Option.map_none, ih hrest, reduceCtorEq, false_and, exists_const, and_false,
        false_or]
    | some v =>
      have hrule := hrules rule (List.mem_cons_self ..) v c
      simp only [Option.map_some, Option.some.injEq, exists_eq_left', ← hrule]
      cases happly : rule.apply (.data v) c with
      | ok next => simp only [within, ih hrest, not_nonsense_ok, false_or]
      | error r =>
        rw [← ih hrest c]
        cases applyRules (dataSettings fields) rest c with
        | ok last => simp [within, Rejection.isNonsense_within]
        | error s => simp [within, Rejection.isNonsense_within, Rejection.isNonsense_and]

/-- Changes of a configuration make no sense exactly where they list types so. -/
theorem nonsense_update_iff {c : Settings} :
    Nonsense (update c (dataSettings fields)) ↔ Senseless fields := by
  have hrules : Nonsense (applyRules (dataSettings fields) rules
      (c.withSkipNames c.skipNames)) ↔ Senseless fields := by
    rw [nonsense_applyRules_iff sensible_of_mem_rules]
    constructor
    · rintro ⟨rule, -, hkey, h⟩
      exact ⟨rule.key, hkey, h⟩
    · rintro ⟨key, hkey, h⟩
      have hknown : ∀ key ∈ typeListKeys, key ∈ keys := by decide
      obtain ⟨rule, hrule, rfl⟩ := List.mem_map.mp (hknown key hkey)
      exact ⟨rule, hrule, hkey, h⟩
  unfold update
  generalize hparts : Checked.both (applyRules _ _ _) _ = parts
  refine Iff.trans (b := Nonsense parts) ?_ ?_
  · cases parts with
    | ok parts => simp
    | error r => exact nonsense_error_congr
  · rw [← hparts, nonsense_both_iff, hrules, or_iff_left Value.not_nonsense_onlyFields]

theorem nonsense_read_iff {document : Value} : Nonsense (read document) ↔
    ∃ fields, document = .mapping fields ∧ Senseless fields := by
  cases document with
  | mapping fields =>
    have hread : Nonsense (read (.mapping fields)) ↔ Senseless fields :=
      nonsense_result_iff.trans nonsense_update_iff
    simp only [hread, Value.mapping.injEq, exists_eq_left']
  | null | bool | int | real | text | list => simp [read, nonsense_result_iff]

theorem failsAsInput_read {document : Value} : FailsAsInput (read document) := by
  unfold read
  split
  · exact .result
  · exact .result

end Reading

end Settings

end RecordMapper.Config
