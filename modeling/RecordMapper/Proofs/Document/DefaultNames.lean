import RecordMapper.Action
import RecordMapper.Config.Settings

/-!
# Configurations of documents

A document can set the naming of classes and fields to nothing but a function, and holds none. So a
configuration that is read from documents names both by default, and its overrides by class and
field answer whatever these names are.
-/
namespace RecordMapper.Config

namespace Settings

/-- Classes and fields are named by default, and a field so named may have an override. -/
structure NamesByDefault (c : Settings) : Prop where
  className : c.className = default.className
  fieldName : c.fieldName = default.fieldName
  fieldType : ∀ className fieldName, ∃ type,
    c.fieldType (.text className) (.text fieldName) = .ok type

theorem namesByDefault_default : NamesByDefault default := ⟨rfl, rfl, fun _ _ => ⟨_, rfl⟩⟩

/-- A rule that is given data leaves such a configuration. -/
def Rule.KeepsNames (rule : Rule) : Prop :=
  ∀ (value : Value) (c next : Settings), NamesByDefault c →
    rule.apply (.data value) c = .ok next → NamesByDefault next

section Rules

theorem keepsNames_ofData {α : Type} (key : String) (read : Value → Checked α)
    {set : Settings → α → Settings} (h : ∀ c a, NamesByDefault c → NamesByDefault (set c a)) :
    (Rule.ofData key read set).KeepsNames := by
  intro value c next hc happly
  obtain ⟨a, -, rfl⟩ := map_eq_ok_iff.mp happly
  exact h c a hc

theorem keepsNames_ofPolicy (key : String) (form : PolicyForm)
    {set : Settings → Policy → Settings} (h : ∀ c p, NamesByDefault c → NamesByDefault (set c p)) :
    (Rule.ofPolicy key form set).KeepsNames := by
  intro value c next hc happly
  obtain ⟨p, -, rfl⟩ := map_eq_ok_iff.mp happly
  exact h c p hc

/-- No data stands for a function. -/
theorem keepsNames_functionOnly (key : String) (set : Settings → Policy → Settings) :
    (Rule.ofPolicy key .functionOnly set).KeepsNames := by
  intro value c next hc happly
  cases happly

theorem typesOfFields_text (entries : List FieldEntry) (className fieldName : String) :
    ∃ type, typesOfFields entries (.text className) (.text fieldName) = .ok type := by
  unfold typesOfFields
  simp only [Demand.isKey, ok_bind]
  split <;> exact ⟨_, rfl⟩

theorem keepsNames_fieldTypeRule : fieldTypeRule.KeepsNames := by
  intro value c next hc happly
  cases value with
  | mapping fields =>
    cases happly
    exact ⟨hc.className, hc.fieldName, typesOfFields_text _⟩
  | null | bool | int | real | text | list => cases happly

theorem keepsNames_sampleRule : sampleRule.KeepsNames := by
  intro value c next hc happly
  cases value with
  | mapping fields =>
    cases happly
    exact ⟨hc.className, hc.fieldName, hc.fieldType⟩
  | null | bool | int | real | text | list => cases happly

/-- Every rule keeps the names: those that could set one take nothing but functions. -/
theorem keepsNames_of_mem_rules : ∀ rule ∈ rules, rule.KeepsNames := by
  simp only [rules, List.forall_mem_cons]
  refine ⟨?_, ?_, ?_, ?_, ?_, ?_, ?_, ?_, ?_, ?_, ?_, ?_, keepsNames_functionOnly _ _,
    keepsNames_functionOnly _ _, keepsNames_functionOnly _ _, keepsNames_functionOnly _ _,
    keepsNames_fieldTypeRule, ?_, keepsNames_sampleRule, ?_, ?_, ?_, ?_, ?_, ?_, ?_,
    fun _ h => nomatch h⟩
  all_goals first
    | exact keepsNames_ofData _ _ fun _ _ h => ⟨h.className, h.fieldName, h.fieldType⟩
    | exact keepsNames_ofPolicy _ _ fun _ _ h => ⟨h.className, h.fieldName, h.fieldType⟩

end Rules

section Reading

variable {fields : List (String × Value)} {c next : Settings}

theorem lookup_dataSettings (key : String) :
    (dataSettings fields).lookup key = (fields.lookup key).map .data := by
  induction fields with
  | nil => rfl
  | cons field rest ih =>
    obtain ⟨name, value⟩ := field
    have hcons : dataSettings ((name, value) :: rest) = (name, .data value) :: dataSettings rest :=
      rfl
    rw [hcons, List.lookup_cons, List.lookup_cons, ih]
    split <;> rfl

theorem namesByDefault_of_applyRules {chosen : List Rule}
    (hrules : ∀ rule ∈ chosen, rule.KeepsNames) (hc : NamesByDefault c)
    (h : applyRules (dataSettings fields) chosen c = .ok next) : NamesByDefault next := by
  induction chosen generalizing c with
  | nil =>
    cases h
    exact hc
  | cons rule rest ih =>
    have hrest := fun other hother => hrules other (List.mem_cons_of_mem rule hother)
    rw [applyRules, lookup_dataSettings] at h
    cases hv : fields.lookup rule.key with
    | none =>
      rw [hv] at h
      exact ih hrest hc h
    | some v =>
      rw [hv] at h
      dsimp only [Option.map_some] at h
      split at h
      next c' happly =>
        have happly := Checked.within_eq_ok_iff.mp happly
        exact ih hrest (hrules rule List.mem_cons_self _ _ _ hc happly) h
      next r happly => split at h <;> cases h

theorem namesByDefault_of_update (hc : NamesByDefault c)
    (h : update c (dataSettings fields) = .ok next) : NamesByDefault next := by
  unfold update at h
  split at h
  next c' u hboth =>
    cases h
    have hrules := (Checked.both_eq_ok_iff.mp hboth).1
    have hbase : NamesByDefault (c.withSkipNames c.skipNames) :=
      ⟨hc.className, hc.fieldName, hc.fieldType⟩
    exact namesByDefault_of_applyRules keepsNames_of_mem_rules hbase hrules
  next => cases h

/-- A configuration that is read from a document names classes and fields by default. -/
theorem namesByDefault_of_read {document : Value} (h : read document = .ok c) :
    NamesByDefault c := by
  cases document with
  | mapping fields =>
    exact namesByDefault_of_update namesByDefault_default (Checked.result_eq_ok_iff.mp h)
  | null | bool | int | real | text | list => cases h

theorem NamesByDefault.withOverrides (hc : NamesByDefault c)
    (h : c.withOverrides fields = .ok next) : NamesByDefault next :=
  namesByDefault_of_update hc (Checked.result_eq_ok_iff.mp h)

end Reading

end Settings

end RecordMapper.Config
