import RecordMapper.Proofs.Config.Given
import RecordMapper.Proofs.Document.SetFields

/-!
# Overrides

A configuration with changes is the one that is read from the settings it came from with the changes
among them. Its settings are what all rules read, each from the setting of its key or, where there
is none, from the configuration that is changed; and what was read once is read as itself.
-/
namespace RecordMapper.Config.Settings

variable {entries others : List (String × Setting)} {c d : Settings}

/-- The setting of a key. -/
def setting (c : Settings) (key : String) : Setting := (c.given.lookup key).getD (.data .null)

/-- What a rule reads for a configuration: the setting of its key, or what the configuration has. -/
def Rule.reading (entries : List (String × Setting)) (c : Settings) (rule : Rule) :
    Checked Setting :=
  match entries.lookup rule.key with
  | some s => rule.normal s
  | none => .ok (c.setting rule.key)

/-- The field that a rule reads. -/
def Rule.field (entries : List (String × Setting)) (c : Settings) (rule : Rule) :
    Checked (String × Setting) :=
  (Checked.within (.key rule.key) (rule.reading entries c)).map (Prod.mk rule.key)

theorem lookup_given {key : String} (h : key ∈ keys) :
    c.given.lookup key = some (c.setting key) := by
  obtain ⟨⟨name, s⟩, hmem, rfl⟩ := List.mem_map.mp (c.map_fst_given ▸ h)
  have hlookup := Value.lookup_of_mem (c.map_fst_given ▸ nodup_keys) hmem
  rw [setting, hlookup]
  rfl

theorem key_mem_keys {rule : Rule} (h : rule ∈ rules) : rule.key ∈ keys :=
  List.mem_map_of_mem h

section Applying

variable {rule : Rule} {rest : List Rule} {s : Setting}

theorem field_of_lookup_none (h : entries.lookup rule.key = none) :
    rule.field entries c = .ok (rule.key, c.setting rule.key) := by
  rw [Rule.field, Rule.reading, h]
  rfl

theorem field_of_lookup_some (h : entries.lookup rule.key = some s) :
    rule.field entries c =
      (Checked.within (.key rule.key) (rule.normal s)).map (Prod.mk rule.key) := by
  rw [Rule.field, Rule.reading, h]

theorem field_congr (h : c.given.lookup rule.key = d.given.lookup rule.key) :
    rule.field entries c = rule.field entries d := by
  rw [Rule.field, Rule.reading, setting, h]
  rfl

theorem applyRules_of_lookup_none (h : entries.lookup rule.key = none) :
    applyRules entries (rule :: rest) c = applyRules entries rest c := by
  rw [applyRules, h]

theorem applyRules_of_apply_ok (h : entries.lookup rule.key = some s)
    (happly : rule.apply s c = .ok d) :
    applyRules entries (rule :: rest) c = applyRules entries rest d := by
  rw [applyRules, h]
  dsimp only
  rw [happly]
  rfl

/-- A rule that turns its setting down leaves the later rules to list their faults. -/
theorem applyRules_of_apply_error (h : entries.lookup rule.key = some s) {r : Rejection}
    (happly : rule.apply s c = .error r) : applyRules entries (rule :: rest) c =
      (Checked.both (.error (r.within (.key rule.key))) (applyRules entries rest c)).map
        fun (c : Settings × Settings) => c.2 := by
  rw [applyRules, h]
  dsimp only
  rw [happly]
  cases applyRules entries rest c <;> rfl

/-- Rules of different keys put what they read into the places of their keys, and all that they
turn down is turned down at once. -/
theorem given_applyRules_of_nodup {chosen : List Rule} (hsettles : ∀ rule ∈ chosen, rule.Settles)
    (hkeys : ∀ rule ∈ chosen, rule.key ∈ keys) (hdistinct : (chosen.map Rule.key).Nodup) :
    (applyRules entries chosen c).map given =
      (Checked.all (chosen.map (Rule.field entries c))).map fun fields =>
        Value.setFields fields c.given := by
  induction chosen generalizing c with
  | nil => rfl
  | cons rule rest ih =>
    obtain ⟨hrule, hsettles⟩ := List.forall_mem_cons.mp hsettles
    obtain ⟨hkey, hkeys⟩ := List.forall_mem_cons.mp hkeys
    obtain ⟨hfresh, hdistinct⟩ := List.nodup_cons.mp hdistinct
    have hrest := fun {c} => ih (c := c) hsettles hkeys hdistinct
    rw [List.map_cons, Checked.all]
    cases hlookup : entries.lookup rule.key with
    | none =>
      rw [applyRules_of_lookup_none hlookup, field_of_lookup_none hlookup, hrest]
      cases Checked.all (rest.map (Rule.field entries c)) with
      | error r => rfl
      | ok fields =>
        simp [Checked.both, Except.map, Value.setFields_cons,
          Value.setField_of_lookup (lookup_given hkey)]
    | some s =>
      have happly := hrule.given_apply s c
      rw [field_of_lookup_some hlookup]
      cases hread : rule.normal s with
      | error r =>
        rw [hread] at happly
        rw [applyRules_of_apply_error hlookup (map_eq_error_iff.mp happly)]
        -- what the later rules turn down is the same with and without this one
        have hlater := hrest (c := c)
        cases happlied : applyRules entries rest c <;>
          cases hfields : Checked.all (rest.map (Rule.field entries c)) <;>
          simp_all [Checked.within, Checked.both, Except.map]
      | ok t =>
        rw [hread] at happly
        obtain ⟨next, hnext, hgiven⟩ := map_eq_ok_iff.mp happly
        have hsame : rest.map (Rule.field entries next) = rest.map (Rule.field entries c) := by
          refine List.map_congr_left fun other hother => field_congr ?_
          rw [hgiven, Value.lookup_setField_of_ne]
          exact fun h => hfresh (h ▸ List.mem_map_of_mem hother)
        rw [applyRules_of_apply_ok hlookup hnext, hrest, hsame, hgiven]
        cases Checked.all (rest.map (Rule.field entries c)) with
        | error r => rfl
        | ok fields => rfl

theorem map_fst_of_fields {chosen : List Rule} {fields : List (String × Setting)}
    (h : chosen.map (Rule.field entries c) = fields.map .ok) :
    fields.map Prod.fst = chosen.map Rule.key := by
  induction chosen generalizing fields with
  | nil => rw [List.map_eq_nil_iff.mp h.symm, List.map_nil, List.map_nil]
  | cons rule rest ih =>
    cases fields with
    | nil => cases h
    | cons field others =>
      obtain ⟨hfield, hothers⟩ := List.cons.inj h
      obtain ⟨t, -, rfl⟩ := map_eq_ok_iff.mp hfield
      exact congrArg (rule.key :: ·) (ih hothers)

/-- The settings of a configuration are what all rules read. -/
theorem given_applyRules (entries : List (String × Setting)) (c : Settings) :
    (applyRules entries rules c).map given = Checked.all (rules.map (Rule.field entries c)) := by
  rw [given_applyRules_of_nodup settles_of_mem_rules (fun _ => key_mem_keys) nodup_keys]
  cases hall : Checked.all (rules.map (Rule.field entries c)) with
  | error r => rfl
  | ok fields =>
    have hkeys : fields.map Prod.fst = keys :=
      map_fst_of_fields (Checked.eq_map_ok_of_all_eq_ok hall)
    refine congrArg Except.ok (Value.setFields_of_map_fst_eq (hkeys ▸ nodup_keys) ?_)
    rw [hkeys, map_fst_given]

theorem reading_of_applyRules (h : applyRules entries rules c = .ok d) (hrule : rule ∈ rules) :
    rule.reading entries c = .ok (d.setting rule.key) := by
  have hfields : Checked.all (rules.map (Rule.field entries c)) = .ok d.given := by
    rw [← given_applyRules, h]
    rfl
  have hmem := List.mem_map_of_mem (f := Rule.field entries c) hrule
  rw [Checked.eq_map_ok_of_all_eq_ok hfields] at hmem
  obtain ⟨field, hfield, hread⟩ := List.mem_map.mp hmem
  obtain ⟨t, ht, rfl⟩ := map_eq_ok_iff.mp hread.symm
  have hlookup := Value.lookup_of_mem (d.map_fst_given ▸ nodup_keys) hfield
  rw [Checked.within_eq_ok_iff.mp ht, setting, hlookup]
  rfl

theorem applyRules_congr
    (h : ∀ rule ∈ rules, rule.reading entries c = rule.reading others d) :
    applyRules entries rules c = applyRules others rules d := by
  have hfields : rules.map (Rule.field entries c) = rules.map (Rule.field others d) :=
    List.map_congr_left fun rule hrule => by rw [Rule.field, Rule.field, h rule hrule]
  have hgiven := given_applyRules entries c
  rw [hfields, ← given_applyRules] at hgiven
  cases hfirst : applyRules entries rules c <;> cases hsecond : applyRules others rules d <;>
    simp_all [Except.map, given_inj]

end Applying

/-- Every setting of the configuration is read as itself. -/
def Settled (c : Settings) : Prop :=
  ∀ rule ∈ rules, rule.normal (c.setting rule.key) = .ok (c.setting rule.key)

section Settled

theorem settled_default : Settled default := by
  simp only [Settled, rules, List.forall_mem_cons]
  refine ⟨rfl, rfl, rfl, rfl, rfl, rfl, rfl, rfl, rfl, rfl, rfl, rfl, rfl, rfl, rfl, rfl, rfl, rfl,
    normal_sampleRule (f := default.sampleOfType) fun _ => ⟨_, rfl⟩,
    rfl, rfl, rfl, rfl, rfl, rfl, rfl, fun _ h => absurd h List.not_mem_nil⟩

/-- The names to skip are in lower case already. -/
theorem Settled.withSkipNames_eq (hc : Settled c) : c.withSkipNames c.skipNames = c := by
  have hread : Rule.normal _ (.ofTexts c.skipNames) = .ok (.ofTexts c.skipNames) :=
    hc (.ofData "table_names_to_skip" Value.readTexts withSkipNames) (by simp [rules])
  rw [normal_skipNames, Except.ok.injEq, Setting.ofTexts_inj] at hread
  rw [withSkipNames, hread]

theorem Settled.update_eq_ok_iff (hc : Settled c) : c.update entries = .ok d ↔
    applyRules entries rules c = .ok d ∧ Value.onlyFields keys entries = .ok () := by
  rw [update, hc.withSkipNames_eq, ← Checked.both_eq_ok_iff]
  cases Checked.both (applyRules entries rules c) (Value.onlyFields keys entries) <;>
    simp [Prod.ext_iff]

theorem Settled.update_congr (hc : Settled c) (hd : Settled d)
    (hreads : ∀ rule ∈ rules, rule.reading entries c = rule.reading others d)
    (hunknown : Value.onlyFields keys entries = Value.onlyFields keys others) :
    c.update entries = d.update others := by
  rw [update, update, hc.withSkipNames_eq, hd.withSkipNames_eq, applyRules_congr hreads, hunknown]

theorem Settled.reading_eq (hc : Settled c) {rule : Rule} (hrule : rule ∈ rules) :
    rule.reading entries c =
      rule.normal ((entries.lookup rule.key).getD (c.setting rule.key)) := by
  rw [Rule.reading]
  cases entries.lookup rule.key with
  | none => exact (hc rule hrule).symm
  | some s => rfl

/-- What is read is settled. -/
theorem Settled.update (hc : Settled c) (h : c.update entries = .ok d) : Settled d := by
  intro rule hrule
  have hread := reading_of_applyRules (hc.update_eq_ok_iff.mp h).1 hrule
  rw [hc.reading_eq hrule] at hread
  exact (settles_of_mem_rules rule hrule).normal_normal _ _ hread

/-- A configuration with changes, changed again, is the first one with the changes merged. -/
theorem Settled.update_setFields (hc : Settled c) (h : c.update entries = .ok d)
    (hdistinct : (others.map Prod.fst).Nodup) :
    c.update (Value.setFields others entries) = d.update others := by
  obtain ⟨happly, hknown⟩ := hc.update_eq_ok_iff.mp h
  have hd := hc.update h
  refine hc.update_congr hd (fun rule hrule => ?_) (Value.onlyFields_setFields hdistinct hknown)
  rw [hc.reading_eq hrule, hd.reading_eq hrule, Value.lookup_setFields hdistinct]
  cases others.lookup rule.key with
  | some s => rfl
  | none =>
    -- what was read for the key is a setting that is read as itself
    have hread := reading_of_applyRules happly hrule
    rw [hc.reading_eq hrule] at hread
    rw [Option.none_or, hread, Option.getD_none, hd rule hrule]

theorem applyRules_nil (chosen : List Rule) : applyRules [] chosen c = .ok c := by
  induction chosen with
  | nil => rfl
  | cons rule rest ih => exact ih

theorem Settled.update_nil (hc : Settled c) : c.update [] = .ok c :=
  hc.update_eq_ok_iff.mpr ⟨applyRules_nil rules, rfl⟩

/-- A configuration is read from its own settings. -/
theorem Settled.update_given (hc : Settled c) (hd : Settled d) : c.update d.given = .ok d := by
  rw [← hd.update_nil]
  refine hc.update_congr hd (fun rule hrule => ?_) ?_
  · rw [hc.reading_eq hrule, hd.reading_eq hrule, lookup_given (key_mem_keys hrule)]
    rfl
  · exact Value.onlyFields_eq_ok_iff.mpr fun key hkey => d.map_fst_given ▸ hkey

/-- Settings that are not given anew stay. -/
theorem Settled.lookup_given_update (hc : Settled c) (h : c.update entries = .ok d) {key : String}
    (hkey : key ∉ entries.map Prod.fst) : d.given.lookup key = c.given.lookup key := by
  by_cases hknown : key ∈ keys
  · obtain ⟨rule, hrule, rfl⟩ := List.mem_map.mp hknown
    have hread := reading_of_applyRules (hc.update_eq_ok_iff.mp h).1 hrule
    rw [Rule.reading, Value.lookup_of_not_mem hkey] at hread
    rw [lookup_given hknown, lookup_given hknown, Except.ok.inj hread]
  · rw [Value.lookup_of_not_mem (d.map_fst_given ▸ hknown),
      Value.lookup_of_not_mem (c.map_fst_given ▸ hknown)]

end Settled

/-- Changing what was read is reading what is changed: with the changes put among the raw settings
or among those of the configuration, or given to the configuration, the outcome is the same, faults
and their places included. So no changes change nothing, settings that are not given anew stay, and
changes one after another are the merged changes. -/
theorem overriding_is_merging {raw : List (String × Setting)} (h : ofSettings raw = .ok c) :
    (∀ changes, (changes.map Prod.fst).Nodup →
      Checked.result .config (c.update changes) = ofSettings (Value.setFields changes raw) ∧
        ofSettings (Value.setFields changes c.given) =
          ofSettings (Value.setFields changes raw)) ∧
      c.update [] = .ok c ∧
      ∀ changes d, c.update changes = .ok d →
        (∀ key ∉ changes.map Prod.fst, d.given.lookup key = c.given.lookup key) ∧
          ∀ more, (more.map Prod.fst).Nodup →
            d.update more = c.update (Value.setFields more changes) := by
  have hread := Checked.result_eq_ok_iff.mp h
  have hc := settled_default.update hread
  refine ⟨fun changes hdistinct => ⟨?_, ?_⟩, hc.update_nil, fun changes d hd => ⟨?_, ?_⟩⟩
  · rw [ofSettings, settled_default.update_setFields hread hdistinct]
  · have hgiven := settled_default.update_given hc
    rw [ofSettings, ofSettings, settled_default.update_setFields hgiven hdistinct,
      settled_default.update_setFields hread hdistinct]
  · exact fun key hkey => hc.lookup_given_update hd hkey
  · exact fun more hmore => (hc.update_setFields hd hmore).symm

namespace Sample

/-- Spellings that are not handed back as they came, and policies in two forms. -/
def raw : List (String × Setting) := [
  ("template", .data (.text "QUERY-DSL")),
  ("table_names_to_skip", .data (Value.texts ["EMP"])),
  ("table_name_to_base_types", .data (.mapping [("emp", Value.texts ["Entity"])])),
  ("column_name_to_field_name", .function (fun name => .text name) fun _ => .error .wrongType)]

def strict : Settings := { default with
  template := .queryDsl
  skipNames := ["emp"]
  baseTypes := typesOfTables [("emp", [.text "Entity"])]
  fieldName := fun name => .text name }

def changes : List (String × Setting) := [
  ("template", .data (.text "interpolation")),
  ("line_break", .data (.text "crlf"))]

def changed : Settings := { strict with template := .interpolation, lineBreak := .crlf }

/-- A text that is too short, a choice that is none and an unknown setting. -/
def faulty : List (String × Setting) := [
  ("colour", .data (.text "red")),
  ("template", .data (.text "plain")),
  ("encoding", .data (.text ""))]

end Sample

theorem overriding_is_merging_of_sample : ofSettings Sample.raw = .ok Sample.strict ∧
    Sample.strict.update Sample.changes = .ok Sample.changed ∧
    (∀ key ∉ ["template", "line_break"],
      Sample.changed.given.lookup key = Sample.strict.given.lookup key) ∧
    Checked.result .config (Sample.strict.update Sample.faulty) = .error (.invalid .config
      [⟨.tooShort, [.key "encoding"]⟩, ⟨.notMember, [.key "template"]⟩,
        ⟨.unknownField, [.key "colour"]⟩]) := by
  have hread : ofSettings Sample.raw = .ok Sample.strict := rfl
  obtain ⟨hmerge, -, hkeep⟩ := overriding_is_merging hread
  have hchanged : Sample.strict.update Sample.changes = .ok Sample.changed :=
    Checked.result_eq_ok_iff.mp ((hmerge Sample.changes (by decide)).1.trans rfl)
  exact ⟨hread, hchanged, (hkeep _ _ hchanged).1, (hmerge Sample.faulty (by decide)).1.trans rfl⟩

section Documents

variable {fields changes : List (String × Value)}

theorem dataSettings_setField (key : String) (value : Value) :
    dataSettings (Value.setField key value fields) =
      Value.setField key (.data value) (dataSettings fields) := by
  fun_induction Value.setField key value fields with
  | case1 => rfl
  | case2 v rest => simp [dataSettings, Value.setField]
  | case3 k v rest hk ih => exact (congrArg ((k, .data v) :: ·) ih).trans (if_neg hk).symm

theorem dataSettings_setFields : dataSettings (Value.setFields changes fields) =
    Value.setFields (dataSettings changes) (dataSettings fields) := by
  induction changes generalizing fields with
  | nil => rfl
  | cons change rest ih => exact ih.trans (congrArg _ (dataSettings_setField _ _))

/-- Changes that are put into the document a configuration is read from, as for a run from a file,
and changes of the configuration are the same. -/
theorem withOverrides_eq_read (h : read (.mapping fields) = .ok c)
    (hdistinct : (changes.map Prod.fst).Nodup) :
    c.withOverrides changes = read (.mapping (Value.setFields changes fields)) := by
  have hread := Checked.result_eq_ok_iff.mp h
  have hkeys : (dataSettings changes).map Prod.fst = changes.map Prod.fst := by
    simp [dataSettings, Function.comp_def]
  rw [withOverrides, read, ofSettings, dataSettings_setFields,
    settled_default.update_setFields hread (hkeys ▸ hdistinct)]

end Documents

end RecordMapper.Config.Settings
