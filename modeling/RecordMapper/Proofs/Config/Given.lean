import RecordMapper.Config.Settings
import RecordMapper.Proofs.Document.NormalForm
import RecordMapper.Proofs.Text.LowerCase

/-!
# Settings handed back

A configuration hands its settings back in the forms they could have come in: a choice by its value,
a decision as a function. A rule reads any setting as one that it would hand back, and reads this
one as itself. So every rule comes to putting a setting into the place of its key.
-/
namespace RecordMapper.Config

open RecordMapper.Text

/-- The value of a member chooses this member and no other. -/
class ChosenByValue (α : Type) [Choice α] : Prop where
  ofValue?_value : ∀ a : α, Choice.ofValue? (Choice.value a) = some a

namespace ChosenByValue

instance : ChosenByValue LineBreak := ⟨fun b => by cases b <;> decide⟩

instance : ChosenByValue SqlTemplate := ⟨fun t => by cases t <;> decide⟩

instance : ChosenByValue ReturnCollection := ⟨fun r => by cases r <;> decide⟩

instance : ChosenByValue DateTimeClass := ⟨fun d => by cases d <;> decide⟩

variable {α : Type} [Choice α] [ChosenByValue α]

theorem read_value (a : α) : Choice.read (.text (Choice.value a)) = .ok a := by
  simp [Choice.read, Choice.parse?, ofValue?_value]

theorem value_inj {a b : α} : Choice.value a = Choice.value b ↔ a = b := by
  refine ⟨fun h => ?_, congrArg _⟩
  have hread := read_value a
  rw [h, read_value b] at hread
  exact (Except.ok.inj hread).symm

end ChosenByValue

namespace Setting

def ofText (s : String) : Setting := .data (.text s)

def ofBool (b : Bool) : Setting := .data (.bool b)

def ofTexts (texts : List String) : Setting := .data (Value.texts texts)

def ofChoice {α : Type} [Choice α] (a : α) : Setting := .data (.text (Choice.value a))

/-- A decision about names as a function; it is asked about nothing else. -/
def ofPolicy (p : Policy) : Setting := .function p fun _ => .error .wrongType

/-- A decision about pairs as a function; it is asked about nothing else. -/
def ofPairs (f : Value → Value → Answer) : Setting :=
  .function declining (fun _ => .error .wrongType) f

/-- A decision about any values as a function. About a name it does not fail. -/
def ofAnswer (f : Value → Answer) : Setting :=
  .function (fun name => match f (.text name) with
    | .ok answer => answer
    | .error _ => .null) f

theorem ofText_inj {s t : String} : ofText s = ofText t ↔ s = t := by simp [ofText]

theorem ofBool_inj {a b : Bool} : ofBool a = ofBool b ↔ a = b := by simp [ofBool]

theorem ofTexts_inj {l m : List String} : ofTexts l = ofTexts m ↔ l = m := by
  simpa [ofTexts, Value.texts] using List.map_inj_right fun _ _ => Value.text.inj

theorem ofChoice_inj {α : Type} [Choice α] [ChosenByValue α] {a b : α} :
    ofChoice a = ofChoice b ↔ a = b := by
  simp [ofChoice, ChosenByValue.value_inj]

theorem ofPolicy_inj {p q : Policy} : ofPolicy p = ofPolicy q ↔ p = q := by simp [ofPolicy]

theorem ofPairs_inj {f g : Value → Value → Answer} : ofPairs f = ofPairs g ↔ f = g := by
  simp [ofPairs]

theorem ofAnswer_inj {f g : Value → Answer} : ofAnswer f = ofAnswer g ↔ f = g := by
  refine ⟨fun h => ?_, congrArg _⟩
  simp only [ofAnswer, function.injEq] at h
  exact h.2.1

end Setting

namespace Settings

/-- The settings of a configuration by their keys. -/
def given (c : Settings) : List (String × Setting) := [
  ("src_dir", .ofText c.sourceDir),
  ("test_dir", .ofText c.testDir),
  ("package_name", .ofText c.package),
  ("line_break", .ofChoice c.lineBreak),
  ("encoding", .ofText c.encoding),
  ("template", .ofChoice c.template),
  ("test_template", .ofText c.testTemplate),
  ("return_collection_type", .ofChoice c.returnCollection),
  ("date_time_class", .ofChoice c.dateTimeClass),
  ("auto_construct", .ofBool c.autoConstruct),
  ("default_auto_session", .ofBool c.defaultAutoSession),
  ("abstract_spec", .ofBool c.abstractSpec),
  ("table_name_to_class_name", .ofPolicy c.className),
  ("column_name_to_field_name", .ofPolicy c.fieldName),
  ("table_name_to_syntax_name", .ofPolicy c.syntaxName),
  ("table_name_to_syntax_variable_name", .ofPolicy c.syntaxVariable),
  ("column_name_to_field_type", .ofPairs c.fieldType),
  ("column_type_to_field_type", .ofPolicy c.typeOfTypeName),
  ("field_type_to_default_value", .ofAnswer c.sampleOfType),
  ("table_names_to_skip", .ofTexts c.skipNames),
  ("table_name_to_base_types", .ofPolicy c.baseTypes),
  ("table_name_to_companion_base_types", .ofPolicy c.companionBaseTypes),
  ("table_name_to_spec_base_types", .ofPolicy c.specBaseTypes),
  ("additional_imports", .ofTexts c.imports),
  ("spec_additional_imports", .ofTexts c.specImports),
  ("arbitrary_additional_imports", .ofTexts c.arbitraryImports)]

theorem map_fst_given (c : Settings) : c.given.map Prod.fst = keys := rfl

theorem nodup_keys : keys.Nodup := by decide +kernel

/-- Nothing of a configuration is lost in its settings. -/
theorem given_inj {c d : Settings} : c.given = d.given ↔ c = d := by
  refine ⟨fun h => ?_, congrArg _⟩
  simp only [given, List.cons.injEq, Prod.mk.injEq, true_and, and_true, Setting.ofText_inj,
    Setting.ofBool_inj, Setting.ofTexts_inj, Setting.ofChoice_inj, Setting.ofPolicy_inj,
    Setting.ofPairs_inj, Setting.ofAnswer_inj] at h
  cases c
  cases d
  simpa only [mk.injEq] using h

/-- What a setting is read as by a rule, as a setting again. -/
def Rule.normal (rule : Rule) (s : Setting) : Checked Setting :=
  (rule.apply s default).map fun c => (c.given.lookup rule.key).getD s

/-- A rule puts the setting that it reads into the place of its key, whatever the configuration is,
and what it reads is read as itself. -/
structure Rule.Settles (rule : Rule) : Prop where
  given_apply : ∀ s c, (rule.apply s c).map given =
    (rule.normal s).map fun t => Value.setField rule.key t c.given
  normal_normal : ∀ s t, rule.normal s = .ok t → rule.normal t = .ok t

section Reading

variable {rule : Rule} (read : Setting → Checked Setting)

theorem normal_of_read
    (happly : ∀ s c, (rule.apply s c).map given =
      (read s).map fun t => Value.setField rule.key t c.given) (s : Setting) :
    rule.normal s = read s := by
  have hmap : rule.normal s =
      ((rule.apply s default).map given).map fun entries => (entries.lookup rule.key).getD s := by
    rw [Rule.normal]
    cases rule.apply s default <;> rfl
  rw [hmap, happly]
  cases read s with
  | error r => rfl
  | ok t => simp [Except.map, Value.lookup_setField_self]

theorem settles_of_read
    (happly : ∀ s c, (rule.apply s c).map given =
      (read s).map fun t => Value.setField rule.key t c.given)
    (hread : ∀ s t, read s = .ok t → read t = .ok t) : rule.Settles := by
  have hnormal : rule.normal = read := funext (normal_of_read read happly)
  exact ⟨hnormal ▸ happly, hnormal ▸ hread⟩

end Reading

section Data

variable {α : Type} {key : String} {read : Value → Checked α} {set : Settings → α → Settings}

/-- What a reader of data is given. -/
def dataOf : Setting → Value
  | .data v => v
  | _ => .mapping []

/-- A rule for data settles when what it reads is handed back as a setting that it reads as one
handed back in the same way. -/
theorem settles_ofData (back : α → Setting)
    (hset : ∀ c a, (set c a).given = Value.setField key (back a) c.given)
    (hback : ∀ v a, read v = .ok a → ∃ b, read (dataOf (back a)) = .ok b ∧ back b = back a) :
    (Rule.ofData key read set).Settles := by
  refine settles_of_read (fun s => (read (dataOf s)).map back) ?_ ?_
  · intro s c
    have happly : (Rule.ofData key read set).apply s c = (read (dataOf s)).map (set c) := by
      cases s <;> rfl
    rw [happly]
    cases read (dataOf s) with
    | error r => rfl
    | ok a => exact congrArg Except.ok (hset c a)
  · intro s t h
    obtain ⟨a, ha, rfl⟩ := map_eq_ok_iff.mp h
    obtain ⟨b, hb, hsame⟩ := hback _ a ha
    exact map_eq_ok_iff.mpr ⟨b, hb, hsame⟩

theorem settles_text {set : Settings → String → Settings}
    (hset : ∀ c s, (set c s).given = Value.setField key (.ofText s) c.given) :
    (Rule.ofData key Value.readText set).Settles :=
  settles_ofData _ hset fun _ s _ => ⟨s, rfl, rfl⟩

theorem settles_filledText {set : Settings → String → Settings}
    (hset : ∀ c s, (set c s).given = Value.setField key (.ofText s) c.given) :
    (Rule.ofData key Value.readFilledText set).Settles := by
  refine settles_ofData _ hset fun v s hread => ⟨s, ?_, rfl⟩
  have hfilled := Value.ne_empty_of_readFilledText hread
  simp [dataOf, Setting.ofText, Value.readFilledText, Value.readText, hfilled]

theorem settles_bool {set : Settings → Bool → Settings}
    (hset : ∀ c b, (set c b).given = Value.setField key (.ofBool b) c.given) :
    (Rule.ofData key Value.readBool set).Settles :=
  settles_ofData _ hset fun _ b _ => ⟨b, rfl, rfl⟩

theorem settles_choice [Choice α] [ChosenByValue α]
    (hset : ∀ c a, (set c a).given = Value.setField key (.ofChoice a) c.given) :
    (Rule.ofData key Choice.read set).Settles :=
  settles_ofData _ hset fun _ a _ => ⟨a, ChosenByValue.read_value a, rfl⟩

theorem readTexts_texts (texts : List String) :
    Value.readTexts (Value.texts texts) = .ok texts :=
  Value.readList_map fun _ _ => rfl

theorem settles_texts {set : Settings → List String → Settings}
    (hset : ∀ c l, (set c l).given = Value.setField key (.ofTexts l) c.given) :
    (Rule.ofData key Value.readTexts set).Settles :=
  settles_ofData _ hset fun _ l _ => ⟨l, readTexts_texts l, rfl⟩

/-- The names to skip are read in lower case, which stays when they are read again. -/
theorem settles_skipNames :
    (Rule.ofData "table_names_to_skip" Value.readTexts withSkipNames).Settles := by
  refine settles_ofData (fun l => .ofTexts (l.map lower))
    (fun c l => by simp [given, withSkipNames, Value.setField]) fun _ l _ => ?_
  exact ⟨l.map lower, readTexts_texts _, by simp [Function.comp_def, lower_lower]⟩

theorem normal_skipNames (names : List String) :
    (Rule.ofData "table_names_to_skip" Value.readTexts withSkipNames).normal (.ofTexts names) =
      .ok (.ofTexts (names.map lower)) := by
  have happly : (Rule.ofData "table_names_to_skip" Value.readTexts withSkipNames).apply
      (.ofTexts names) default = .ok (withSkipNames default names) := by
    simp [Rule.ofData, Setting.ofTexts, readTexts_texts, Except.map]
  rw [Rule.normal, happly]
  rfl

end Data

section Policies

variable {key : String} {form : PolicyForm} {set : Settings → Policy → Settings}

/-- What a policy is read as, in whatever form it is given. -/
def policyOf (form : PolicyForm) : Setting → Checked Policy
  | .data v => form.ofData v
  | .function onName _ _ => .ok onName
  | .fieldTypes entries => form.ofFieldTypes (entries.map FieldEntry.type)

theorem settles_ofPolicy
    (hset : ∀ c p, (set c p).given = Value.setField key (.ofPolicy p) c.given) :
    (Rule.ofPolicy key form set).Settles := by
  refine settles_of_read (fun s => (policyOf form s).map .ofPolicy) ?_ ?_
  · intro s c
    have happly : (Rule.ofPolicy key form set).apply s c = (policyOf form s).map (set c) := by
      cases s <;> rfl
    rw [happly]
    cases policyOf form s with
    | error r => rfl
    | ok p => exact congrArg Except.ok (hset c p)
  · intro s t h
    obtain ⟨p, -, rfl⟩ := map_eq_ok_iff.mp h
    rfl

/-- What the types of fields are read as. -/
def fieldTypesOf : Setting → Checked (Value → Value → Answer)
  | .data (.mapping fields) => .ok (typesOfFields (fieldEntries fields))
  | .fieldTypes entries => .ok (typesOfFields entries)
  | .function _ _ onPair => .ok onPair
  | .data _ => Checked.fault .notFunction

theorem settles_fieldTypeRule : fieldTypeRule.Settles := by
  refine settles_of_read (fun s => (fieldTypesOf s).map .ofPairs) ?_ ?_
  · intro s c
    have happly : fieldTypeRule.apply s c =
        (fieldTypesOf s).map fun f => { c with fieldType := f } := by
      rcases s with (_ | _) | _ | _ <;> rfl
    rw [happly]
    cases fieldTypesOf s with
    | error r => rfl
    | ok f => simp [Except.map, given, fieldTypeRule, Value.setField]
  · intro s t h
    obtain ⟨f, -, rfl⟩ := map_eq_ok_iff.mp h
    rfl

/-- What the values of types are read as. -/
def samplesOf : Setting → Checked (Value → Answer)
  | .data (.mapping fields) => .ok (lookupAnswer fields)
  | .fieldTypes _ => .ok (lookupAnswer [])
  | .function onName onOther _ => .ok fun type => match type with
    | .text name => .ok (onName name)
    | other => onOther other
  | .data _ => Checked.fault .notFunction

theorem exists_answer_of_samplesOf {s : Setting} {f : Value → Answer} (h : samplesOf s = .ok f)
    (name : String) : ∃ answer, f (.text name) = .ok answer := by
  rcases s with (_ | _ | _ | _ | _ | _ | fields) | ⟨onName, onOther, onPair⟩ | entries <;> cases h
  · exact ⟨_, rfl⟩
  · exact ⟨onName name, rfl⟩
  · exact ⟨_, rfl⟩

theorem samplesOf_ofAnswer {f : Value → Answer}
    (h : ∀ name, ∃ answer, f (.text name) = .ok answer) : samplesOf (.ofAnswer f) = .ok f := by
  refine congrArg Except.ok (funext fun type => ?_)
  cases type with
  | text name =>
    obtain ⟨answer, hanswer⟩ := h name
    simp [hanswer]
  | null | bool | int | real | list | mapping => rfl

theorem map_given_sampleRule (s : Setting) (c : Settings) : (sampleRule.apply s c).map given =
    ((samplesOf s).map .ofAnswer).map fun t => Value.setField sampleRule.key t c.given := by
  have happly : sampleRule.apply s c = (samplesOf s).map fun f => { c with sampleOfType := f } := by
    rcases s with (_ | _) | _ | _ <;> rfl
  rw [happly]
  cases samplesOf s with
  | error r => rfl
  | ok f => simp [Except.map, given, sampleRule, Value.setField]

theorem settles_sampleRule : sampleRule.Settles := by
  refine settles_of_read _ map_given_sampleRule fun s t h => ?_
  obtain ⟨f, hf, rfl⟩ := map_eq_ok_iff.mp h
  rw [samplesOf_ofAnswer (exists_answer_of_samplesOf hf)]
  rfl

/-- Answers that names all have are read as themselves. -/
theorem normal_sampleRule {f : Value → Answer}
    (h : ∀ name, ∃ answer, f (.text name) = .ok answer) :
    sampleRule.normal (.ofAnswer f) = .ok (.ofAnswer f) := by
  rw [normal_of_read _ map_given_sampleRule, samplesOf_ofAnswer h]
  rfl

end Policies

theorem settles_of_mem_rules : ∀ rule ∈ rules, rule.Settles := by
  simp only [rules, List.forall_mem_cons]
  refine ⟨?_, ?_, ?_, settles_choice ?_, settles_filledText ?_,
    settles_choice ?_, ?_,
    settles_choice ?_,
    settles_choice ?_, ?_, ?_, ?_, ?_, ?_, ?_, ?_,
    settles_fieldTypeRule, ?_, settles_sampleRule, settles_skipNames, ?_, ?_, ?_, ?_, ?_, ?_,
    fun _ h => absurd h List.not_mem_nil⟩
  all_goals first
    | refine settles_text ?_
    | refine settles_bool ?_
    | refine settles_texts ?_
    | refine settles_ofPolicy ?_
    | skip
  all_goals exact fun c x => by simp [given, Value.setField]

end Settings

end RecordMapper.Config
