import RecordMapper.Proofs.Command.Generation
import RecordMapper.Proofs.Document.Configs
import RecordMapper.Proofs.Document.Tables

/-!
# Malformed documents

What becomes of a document that is no input. Nearly all of them are told as bad input; the others
make no sense to a reader, and their failure is of another kind that nothing catches.
-/
namespace RecordMapper

open RecordMapper.Config RecordMapper.Schema

namespace FailsAsInput

variable {α : Type}

/-- Failures in a context are unusable values if they are so without it. -/
theorem inContext {context : Failure → Failure} {x : Except Failure α}
    (hcontext : ∀ failure, (context failure).kind.isUnusable = true) (hx : FailsAsInput x) :
    FailsAsInput (Input.inContext context x) := by
  intro failure h
  cases x with
  | ok a => cases h
  | error cause =>
    cases h
    dsimp only
    split
    · exact .inl (hcontext cause)
    · exact hx cause rfl

end FailsAsInput

namespace Input

theorem inContext_eq_ok_iff {α : Type} {context : Failure → Failure} {x : Except Failure α}
    {a : α} : inContext context x = .ok a ↔ x = .ok a := mapError_eq_ok_iff

/-- A context is put only to what is unusable, so it does not matter for what makes no sense. -/
theorem nonsense_inContext_iff {α : Type} {context : Failure → Failure}
    (hcontext : ∀ failure, (context failure).kind.isUnusable = true) {x : Except Failure α} :
    Nonsense (inContext context x) ↔ Nonsense x := by
  cases x with
  | ok a => exact iff_of_false not_nonsense_ok not_nonsense_ok
  | error cause =>
    simp only [inContext, Except.mapError, nonsense_error_iff]
    split
    next hunusable =>
      rw [Failure.isNonsense_of_isUnusable hunusable,
        Failure.isNonsense_of_isUnusable (hcontext cause)]
    · rfl

/-- The entries are all tables. -/
def ReadsEntries (entries : List Value) : Prop :=
  ∀ entry ∈ entries, ∃ fields table, entry = .mapping fields ∧ Table.parse entry = .ok table

/-- A document that makes no sense: the first of its tables that cannot be read makes none, or its
tables can be read and its configuration makes none. -/
inductive Senseless (fields : List (String × Value)) : Prop
  | entry {before after : List Value} {table : List (String × Value)}
      (hentries : fields.lookup "tables" = some (.list (before ++ .mapping table :: after)))
      (hbefore : ReadsEntries before) (senseless : Table.Senseless table)
  | config {entries : List Value} {config : List (String × Value)}
      (hentries : fields.lookup "tables" = some (.list entries)) (hread : ReadsEntries entries)
      (hconfig : fields.lookup "config" = some (.mapping config))
      (senseless : Settings.Senseless config)

section Entries

variable {index : Nat} {entry : Value} {entries : List Value}

theorem readEntry_eq_ok_iff {table : Table} : readEntry index entry = .ok table ↔
    ∃ fields, entry = .mapping fields ∧ Table.parse entry = .ok table := by
  cases entry with
  | mapping fields => simp [readEntry, inContext_eq_ok_iff]
  | null | bool | int | real | text | list => simp [readEntry]

theorem nonsense_readEntry_iff : Nonsense (readEntry index entry) ↔
    ∃ fields, entry = .mapping fields ∧ Table.Senseless fields := by
  cases entry with
  | mapping fields =>
    have hcontext : ∀ failure, (Failure.entryInvalid index failure).kind.isUnusable = true :=
      fun _ => rfl
    simp [readEntry, nonsense_inContext_iff hcontext, Table.nonsense_parse_iff]
  | null | bool | int | real | text | list =>
    simp [readEntry, Reason.isNonsense]

/-- The place of an entry does not matter for whether it is read. -/
theorem mapIdx_readEntry_ok_iff :
    (∀ reading ∈ entries.mapIdx readEntry, ∃ table, id reading = .ok table) ↔
      ReadsEntries entries := by
  constructor
  · intro h entry hentry
    obtain ⟨i, hi, rfl⟩ := List.mem_iff_getElem.mp hentry
    obtain ⟨table, htable⟩ := h _ (List.mem_mapIdx.mpr ⟨i, hi, rfl⟩)
    obtain ⟨fields, hmapping, hparse⟩ := readEntry_eq_ok_iff.mp htable
    exact ⟨fields, table, hmapping, hparse⟩
  · intro h reading hreading
    obtain ⟨i, hi, rfl⟩ := List.mem_mapIdx.mp hreading
    obtain ⟨fields, table, hmapping, hparse⟩ := h _ (List.getElem_mem hi)
    exact ⟨table, readEntry_eq_ok_iff.mpr ⟨fields, hmapping, hparse⟩⟩

theorem nonsense_readEntries_iff : Nonsense (readEntries entries) ↔
    ∃ before table after, entries = before ++ .mapping table :: after ∧ ReadsEntries before ∧
      Table.Senseless table := by
  rw [readEntries, nonsense_mapM_iff]
  constructor
  · rintro ⟨readings, reading, others, heq, hbefore, hreading⟩
    obtain ⟨before, rest, rfl, rfl, hrest⟩ := List.mapIdx_eq_append_iff.mp heq
    obtain ⟨entry, after, rfl, rfl, -⟩ := List.mapIdx_eq_cons_iff.mp hrest
    obtain ⟨table, rfl, hsenseless⟩ := nonsense_readEntry_iff.mp hreading
    exact ⟨before, table, after, rfl, mapIdx_readEntry_ok_iff.mp hbefore, hsenseless⟩
  · rintro ⟨before, table, after, rfl, hbefore, hsenseless⟩
    have hentry : Nonsense (readEntry before.length (.mapping table)) :=
      nonsense_readEntry_iff.mpr ⟨table, rfl, hsenseless⟩
    refine ⟨before.mapIdx readEntry, readEntry before.length (.mapping table),
      after.mapIdx fun i => readEntry (i + 1 + before.length), ?_,
      mapIdx_readEntry_ok_iff.mpr hbefore, hentry⟩
    rw [List.mapIdx_append, List.mapIdx_cons, Nat.zero_add]

theorem exists_readEntries_eq_ok_iff :
    (∃ tables, readEntries entries = .ok tables) ↔ ReadsEntries entries := by
  rw [← mapIdx_readEntry_ok_iff]
  constructor
  · rintro ⟨tables, h⟩
    exact exists_of_mapM_eq_ok h
  · exact exists_mapM_eq_ok

theorem failsAsInput_readEntries : FailsAsInput (readEntries entries) := by
  refine .mapM fun reading hreading => ?_
  obtain ⟨i, hi, rfl⟩ := List.mem_mapIdx.mp hreading
  cases entries[i] with
  | mapping fields => exact .inContext (fun _ => rfl) Table.failsAsInput_parse
  | null | bool | int | real | text | list => exact .error (.inl rfl)

end Entries

section Documents

variable {fields : List (String × Value)} {entries : List Value}

theorem holds_mapping (key : String) :
    Table.holds key (.mapping fields) = .ok (fields.lookup key).isSome := by
  refine congrArg Except.ok ?_
  induction fields with
  | nil => rfl
  | cons field rest ih =>
    rw [List.any_cons, List.lookup_cons, ih]
    by_cases hkey : field.1 = key
    · simp [hkey]
    · simp [hkey, beq_false_of_ne (Ne.symm hkey)]

theorem entriesOf_mapping : entriesOf (.mapping fields) = match fields.lookup "tables" with
    | some (.list entries) => .ok entries
    | some other => .error (.tablesNotList other.typeName)
    | none => .error .noTables := by
  rw [entriesOf, holds_mapping]
  cases fields.lookup "tables" with
  | none => rfl
  | some v => cases v <;> rfl

theorem entriesOf_eq_ok_iff :
    entriesOf (.mapping fields) = .ok entries ↔ fields.lookup "tables" = some (.list entries) := by
  rw [entriesOf_mapping]
  cases fields.lookup "tables" with
  | none => simp
  | some v => cases v <;> simp

/-- A document without a list of tables is told so. -/
theorem isUnusable_of_entriesOf {failure : Failure}
    (h : entriesOf (.mapping fields) = .error failure) : failure.kind.isUnusable = true := by
  rw [entriesOf_mapping] at h
  split at h <;> cases h <;> rfl

theorem nonsense_readConfig_iff :
    Nonsense (inContext .configInvalid
      (Settings.read ((configValue? (.mapping fields)).getD (.mapping [])))) ↔
      ∃ config, fields.lookup "config" = some (.mapping config) ∧ Settings.Senseless config := by
  have hempty : ¬Settings.Senseless [] := by
    rintro ⟨key, -, v, hv, -⟩
    cases hv
  rw [nonsense_inContext_iff (fun _ => rfl), Settings.nonsense_read_iff]
  cases hconfig : fields.lookup "config" with
  | none => simpa [configValue?, hconfig] using hempty
  | some v =>
    cases v with
    | null => simpa [configValue?, hconfig] using hempty
    | bool | int | real | text | list | mapping => simp [configValue?, hconfig]

/-- A document fails with another kind of failure exactly when it makes no sense. -/
theorem nonsense_ofDocument_iff : Nonsense (ofDocument (.mapping fields)) ↔ Senseless fields := by
  have hentries : ¬Nonsense (entriesOf (.mapping fields)) :=
    not_nonsense_of_unusable fun _ h => isUnusable_of_entriesOf h
  rw [ofDocument, nonsense_bind_iff, or_iff_right hentries]
  constructor
  · rintro ⟨entries, hentries, h⟩
    have hlist := entriesOf_eq_ok_iff.mp hentries
    rcases nonsense_bind_iff.mp h with h | ⟨tables, htables, h⟩
    · obtain ⟨before, table, after, rfl, hbefore, hsenseless⟩ := nonsense_readEntries_iff.mp h
      exact .entry hlist hbefore hsenseless
    · have hread := exists_readEntries_eq_ok_iff.mp ⟨tables, htables⟩
      rcases nonsense_bind_iff.mp h with h | ⟨config, -, h⟩
      · obtain ⟨config, hconfig, hsenseless⟩ := nonsense_readConfig_iff.mp h
        exact .config hlist hread hconfig hsenseless
      · exact absurd h not_nonsense_ok
  · rintro (⟨hlist, hbefore, hsenseless⟩ | ⟨hlist, hread, hconfig, hsenseless⟩)
    · refine ⟨_, entriesOf_eq_ok_iff.mpr hlist, nonsense_bind_iff.mpr (.inl ?_)⟩
      exact nonsense_readEntries_iff.mpr ⟨_, _, _, rfl, hbefore, hsenseless⟩
    · obtain ⟨tables, htables⟩ := exists_readEntries_eq_ok_iff.mpr hread
      refine ⟨_, entriesOf_eq_ok_iff.mpr hlist, nonsense_bind_iff.mpr (.inr ⟨tables, htables, ?_⟩)⟩
      exact nonsense_bind_iff.mpr (.inl (nonsense_readConfig_iff.mpr ⟨_, hconfig, hsenseless⟩))

theorem failsAsInput_ofDocument : FailsAsInput (ofDocument (.mapping fields)) := by
  refine .bind (fun failure h => .inl (isUnusable_of_entriesOf h)) fun entries => ?_
  refine .bind failsAsInput_readEntries fun tables => ?_
  refine .bind (.inContext (fun _ => rfl) Settings.failsAsInput_read) fun config => ?_
  exact .ok _

end Documents

end Input

namespace Command

open RecordMapper.Input

variable {a : Arguments} {fields : List (String × Value)}

/-- Options replace settings with texts only. -/
theorem text_of_mem_overrides {entry : String × Value} (h : entry ∈ a.overrides) :
    ∃ s, entry.2 = .text s := by
  have hgiven {key : String} {value : Option String}
      (h : entry ∈ (value.map fun s => (key, Value.text s)).toList) : ∃ s, entry.2 = .text s := by
    obtain ⟨s, -, rfl⟩ := Option.map_eq_some_iff.mp (Option.mem_toList.mp h)
    exact ⟨s, rfl⟩
  simp only [Arguments.overrides, List.mem_append] at h
  rcases h with (((h | h) | h) | h) | h <;> exact hgiven h

theorem not_nonsense_withOverrides (config : Settings) :
    ¬Nonsense (config.withOverrides a.overrides) := by
  intro h
  have h := Settings.nonsense_update_iff.mp (Checked.nonsense_result_iff.mp h)
  obtain ⟨key, -, v, hv, entries, rfl, -⟩ := h
  obtain ⟨before, after, heq, -⟩ := List.lookup_eq_some_iff.mp hv
  have hmem : (key, Value.mapping entries) ∈ a.overrides := by simp [heq]
  obtain ⟨s, hs⟩ := text_of_mem_overrides hmem
  cases hs

theorem selectTables_fails {requested : List String} {tables : List Table} {failure : Failure}
    (h : selectTables requested tables = .error failure) : failure.kind.isUnusable = true := by
  unfold selectTables at h
  split at h
  · cases h
  · dsimp only at h
    split at h
    · cases h
    · cases h
      rfl

/-- What options leave of a document makes no sense only where the document makes none. -/
theorem nonsense_inputOf_iff : Nonsense (inputOf a (.mapping fields)) ↔ Senseless fields := by
  rw [inputOf, nonsense_bind_iff, nonsense_ofDocument_iff]
  refine or_iff_left ?_
  rintro ⟨input, -, h⟩
  have hselect {config : Settings} : ¬Nonsense (do
      return ({ tables := ← selectTables a.tables input.tables, config } : Input)) := by
    intro h
    rcases nonsense_bind_iff.mp h with h | ⟨tables, -, h⟩
    · exact not_nonsense_of_unusable (fun _ => selectTables_fails) h
    · exact not_nonsense_ok h
  dsimp only at h
  split at h
  · exact hselect h
  · rcases nonsense_bind_iff.mp h with h | ⟨config, -, h⟩
    · exact not_nonsense_withOverrides _ h
    · exact hselect h

theorem failsAsInput_inputOf : FailsAsInput (inputOf a (.mapping fields)) := by
  refine .bind failsAsInput_ofDocument fun input => ?_
  have hselect (config : Settings) : FailsAsInput (do
      return ({ tables := ← selectTables a.tables input.tables, config } : Input)) :=
    .bind (fun _ h => .inl (selectTables_fails h)) fun tables => .ok _
  dsimp only
  split
  · exact hselect _
  · exact .bind .result hselect

/-- A document gives an input or is turned down as one exactly when it makes sense. A command that
cannot take it has the exit code of bad input exactly then. -/
theorem malformed_told_iff (fields : List (String × Value)) :
    (Told (ofDocument (.mapping fields)) ↔ ¬Senseless fields) ∧
      ∀ words a disk, Arguments.parse words = .ok a → a.isConsistent = true →
        loadDocument a disk = .ok (.mapping fields) → (∀ input, load a disk ≠ .ok input) →
          (ExitsWith Exit.input words disk ↔ ¬Senseless fields) := by
  constructor
  · rw [failsAsInput_ofDocument.told_iff, nonsense_ofDocument_iff]
  · intro words a disk hparse hconsistent hdocument hfails
    have hload : load a disk = inputOf a (.mapping fields) := by
      rw [load, hdocument, ok_bind]
    rw [exitsWith_input_iff hparse, hconsistent, ← nonsense_inputOf_iff (a := a), ← hload]
    rw [hload] at hfails ⊢
    cases hread : inputOf a (.mapping fields) with
    | ok input => exact absurd hread (hfails input)
    | error failure =>
      rw [nonsense_error_iff]
      rcases failsAsInput_inputOf failure hread with hunusable | hnonsense
      · refine iff_of_true (.inr ⟨failure, rfl, ?_⟩) ?_
        · rw [Failure.isBadInput, hunusable]
          rfl
        · rw [Failure.isNonsense_of_isUnusable hunusable]
          exact Bool.false_ne_true
      · refine iff_of_false ?_ (not_not_intro hnonsense)
        rintro (h | ⟨_, ⟨rfl⟩, h⟩)
        · cases h
        · rw [Failure.isBadInput_of_isNonsense hnonsense] at h
          cases h

namespace Sample

/-- A document whose tables are a number. -/
def untabled : Disk := diskOf "tables: 5\n"

/-- What is read of it. -/
def isUntabled : Except Failure Value → Bool
  | .ok (.mapping [(key, .int n)]) => key == "tables" && n == 5
  | _ => false

theorem loadDocument_untabled :
    loadDocument quietArguments untabled = .ok (.mapping [("tables", .int 5)]) := by
  have hread : isUntabled (loadDocument quietArguments untabled) = true := by decide +kernel
  unfold isUntabled at hread
  split at hread
  next key n hdocument =>
    rw [Bool.and_eq_true, beq_iff_eq, beq_iff_eq] at hread
    rw [hdocument, hread.1, hread.2]
  · cases hread

end Sample

theorem malformed_told_of_untabled : ExitsWith Exit.input Sample.quiet Sample.untabled := by
  have htold := (malformed_told_iff [("tables", .int 5)]).2 Sample.quiet Sample.quietArguments
    Sample.untabled (by decide +kernel) rfl Sample.loadDocument_untabled
  have hload : load Sample.quietArguments Sample.untabled = .error (.tablesNotList "int") := by
    rw [load, Sample.loadDocument_untabled]
    rfl
  refine (htold fun input h => ?_).mpr ?_
  · rw [hload] at h
    cases h
  · rintro (⟨hlist⟩ | ⟨hlist⟩)
    · cases hlist
    · cases hlist

/-- Columns that are a number make no sense. -/
theorem ofDocument_numbered_columns :
    let document := [("tables", .list [.mapping [("name", .text "emp"), ("columns", .int 5)]])]
    ofDocument (.mapping document) = .error .wrongType ∧
      ¬Told (ofDocument (.mapping document)) := by
  have hfails : ofDocument (.mapping [("tables",
      .list [.mapping [("name", .text "emp"), ("columns", .int 5)]])]) = .error .wrongType := rfl
  refine ⟨hfails, ?_⟩
  rw [failsAsInput_ofDocument.told_iff, hfails, nonsense_error_iff]
  exact not_not_intro rfl

end Command

end RecordMapper
