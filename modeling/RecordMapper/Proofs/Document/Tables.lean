import RecordMapper.Action
import RecordMapper.Proofs.Document.Readers
import RecordMapper.Schema.Table

/-!
# Senseless tables

The raw columns and tables that make no sense to their readers, beside those that are turned down
with faults. Items that are read one after another hide what comes behind the first failure.
-/
namespace RecordMapper.Schema

open RecordMapper.Checked

namespace Column

variable {fields : List (String × Value)}

/-- A value that cannot be turned into the code of a type: a collection or an infinity. -/
def IsCodeless (v : Value) : Prop :=
  Table.isKey v = false ∨ ∃ negative, v = .real (.infinite negative)

/-- The fields of a column whose type cannot be a code and has no name. -/
structure Senseless (fields : List (String × Value)) : Prop where
  dataType : ∃ code, fields.lookup "data_type" = some code ∧ IsCodeless code
  typeName : ∀ name, fields.lookup "data_type_name" = some name → name.isGiven = false

theorem not_isCodeless_text (s : String) : ¬IsCodeless (.text s) := by
  rintro (h | ⟨_, ⟨⟩⟩)
  cases h

theorem not_isCodeless_int (n : Int) : ¬IsCodeless (.int n) := by
  rintro (h | ⟨_, ⟨⟩⟩)
  cases h

/-- What is no collection and no infinity has the name of a type, if only the one of all others. -/
theorem exists_typeNameOf {v : Value} (h : ¬IsCodeless v) : ∃ name, typeNameOf v = .ok name := by
  unfold typeNameOf
  split
  · exact absurd (.inl rfl) h
  · exact absurd (.inl rfl) h
  · exact absurd (.inr ⟨_, rfl⟩) h
  · split
    · exact ⟨_, rfl⟩
    · exact ⟨_, rfl⟩

theorem nonsense_typeNameOf_iff {v : Value} : Nonsense (typeNameOf v) ↔ IsCodeless v := by
  constructor
  · intro h
    refine Classical.byContradiction fun hcode => ?_
    obtain ⟨name, hname⟩ := exists_typeNameOf hcode
    rw [hname] at h
    exact not_nonsense_ok h
  · rintro (h | ⟨negative, rfl⟩)
    · cases v with
      | list | mapping => exact ⟨_, rfl, rfl⟩
      | null | bool | int | real | text => cases h
    · exact ⟨_, rfl, rfl⟩

theorem fillTypeName_of_given {name : Value} (hname : fields.lookup "data_type_name" = some name)
    (hgiven : name.isGiven = true) : fillTypeName fields = .ok fields := by
  unfold fillTypeName
  rw [hname]
  dsimp only
  rw [hgiven]

/-- Without a name the type is looked up by its code, unless that is missing or null as well. -/
theorem fillTypeName_of_not_given
    (h : ∀ name, fields.lookup "data_type_name" = some name → name.isGiven = false) :
    Nonsense (fillTypeName fields) ↔
      Nonsense (typeNameOf ((fields.lookup "data_type").getD .null)) := by
  unfold fillTypeName
  cases hname : fields.lookup "data_type_name" with
  | none =>
    cases (fields.lookup "data_type").getD .null with
    | null => simp [typeNameOf, Value.readWhole, fault]
    | bool | int | real | text | list | mapping => exact nonsense_map_iff
  | some name =>
    dsimp only
    rw [h name hname]
    cases (fields.lookup "data_type").getD .null with
    | null => simp [typeNameOf, Value.readWhole, fault]
    | bool | int | real | text | list | mapping => exact nonsense_map_iff

theorem nonsense_fillTypeName_iff : Nonsense (fillTypeName fields) ↔ Senseless fields := by
  by_cases hname : ∀ name, fields.lookup "data_type_name" = some name → name.isGiven = false
  · rw [fillTypeName_of_not_given hname, nonsense_typeNameOf_iff]
    constructor
    · intro hkey
      refine ⟨?_, hname⟩
      cases hcode : fields.lookup "data_type" with
      | none =>
        rw [hcode] at hkey
        rcases hkey with hkey | ⟨_, ⟨⟩⟩
        cases hkey
      | some code =>
        rw [hcode] at hkey
        exact ⟨code, rfl, hkey⟩
    · rintro ⟨⟨code, hcode, hkey⟩, -⟩
      rw [hcode]
      exact hkey
  · refine iff_of_false ?_ fun h => hname h.typeName
    simp only [Classical.not_forall, Bool.not_eq_false] at hname
    obtain ⟨name, hname, hgiven⟩ := hname
    rw [fillTypeName_of_given hname hgiven]
    simp

/-- Resolving leaves the name of the type alone, and a type that cannot be a code as well. -/
theorem senseless_resolveTypeCode {resolved : List (String × Value)}
    (h : resolveTypeCode fields = .ok resolved) : Senseless resolved ↔ Senseless fields := by
  unfold resolveTypeCode at h
  split at h
  next s hs =>
    split at h
    · cases h
      rfl
    · split at h
      next t _ =>
        cases h
        refine iff_of_false ?_ ?_
        · rintro ⟨⟨code, hcode, hkey⟩, -⟩
          rw [Value.lookup_setField_self] at hcode
          cases hcode
          exact not_isCodeless_int _ hkey
        · rintro ⟨⟨code, hcode, hkey⟩, -⟩
          rw [hs] at hcode
          cases hcode
          exact not_isCodeless_text _ hkey
      · cases h
  next =>
    cases h
    rfl

theorem not_nonsense_resolveTypeCode : ¬Nonsense (resolveTypeCode fields) := by
  unfold resolveTypeCode
  split
  · split
    · simp
    · split <;> simp
  · simp

theorem exists_resolved (h : Senseless fields) :
    ∃ resolved, resolveTypeCode fields = .ok resolved := by
  obtain ⟨⟨code, hcode, hkey⟩, -⟩ := h
  unfold resolveTypeCode
  rw [hcode]
  cases code with
  | text s => exact absurd hkey (not_isCodeless_text s)
  | null | bool | int | real | list | mapping => exact ⟨_, rfl⟩

theorem not_nonsense_readFields : ¬Nonsense (readFields fields) := by
  unfold readFields
  split
  · simp
  next r h =>
    rw [nonsense_error_congr, ← h]
    simp only [nonsense_both_iff, Value.not_nonsense_required Value.onlyFaults_readFilledText,
      Value.not_nonsense_required Value.onlyFaults_readWhole,
      Value.not_nonsense_optional Value.onlyFaults_readText,
      Value.not_nonsense_optional Value.onlyFaults_readCount,
      Value.not_nonsense_optional Value.onlyFaults_readBool, Value.not_nonsense_onlyFields,
      or_self, not_false_eq_true]

/-- A column makes no sense exactly when it is a mapping of this kind. -/
theorem nonsense_read_iff {v : Value} :
    Nonsense (Column.read v) ↔ ∃ fields, v = .mapping fields ∧ Senseless fields := by
  cases v with
  | mapping fields =>
    have hread : Nonsense (Column.read (.mapping fields)) ↔ Senseless fields := by
      rw [Column.read, nonsense_bind_iff, or_iff_right not_nonsense_resolveTypeCode]
      constructor
      · rintro ⟨resolved, hresolved, h⟩
        rw [nonsense_bind_iff, nonsense_fillTypeName_iff] at h
        rcases h with h | ⟨filled, -, h⟩
        · exact (senseless_resolveTypeCode hresolved).mp h
        · exact absurd h not_nonsense_readFields
      · intro h
        obtain ⟨resolved, hresolved⟩ := exists_resolved h
        refine ⟨resolved, hresolved, nonsense_bind_iff.mpr (.inl ?_)⟩
        exact nonsense_fillTypeName_iff.mpr ((senseless_resolveTypeCode hresolved).mpr h)
    simp only [Value.mapping.injEq, exists_eq_left', hread]
  | null | bool | int | real | text | list => simp [Column.read]

end Column

namespace Table

/-- The fields of the full shape that list columns. -/
def columnLists : List String :=
  ["all_columns", "auto_increment_columns", "primary_key_columns", "generated_columns"]

/-- Something is given that cannot be gone through. -/
def Uniterable (value : Option Value) : Prop :=
  ∃ v, value = some v ∧ v.isGiven = true ∧ v.items? = none

/-- What is gone through when a value is given. -/
def itemsOf (value : Option Value) : List Value :=
  ((value.filter Value.isGiven).bind Value.items?).getD []

/-- The fields of the flat shape, and no others. -/
structure IsFlat (fields : List (String × Value)) : Prop where
  columns : "columns" ∈ fields.map Prod.fst
  known : ∀ key ∈ fields.map Prod.fst, key ∈ flatFieldNames

/-- The items of the flat shape are all columns. -/
def ReadsColumns (items : List Value) : Prop :=
  ∀ item ∈ items, ∃ column, Column.read item = .ok column

/-- The fields of a table that makes no sense: one of its columns makes none, something else stands
in the place of its columns or keys, or a key is no scalar. In the flat shape the columns come
before the keys, and the first failure counts. -/
inductive Senseless (fields : List (String × Value)) : Prop
  | listed {key : String} {items : List Value} {column : List (String × Value)}
      (full : "columns" ∉ fields.map Prod.fst) (hkey : key ∈ columnLists)
      (hitems : fields.lookup key = some (.list items)) (hcolumn : .mapping column ∈ items)
      (senseless : Column.Senseless column)
  | columns (flat : IsFlat fields) (uniterable : Uniterable (fields.lookup "columns"))
  | column {before after : List Value} {column : List (String × Value)} (flat : IsFlat fields)
      (hitems : itemsOf (fields.lookup "columns") = before ++ .mapping column :: after)
      (hbefore : ReadsColumns before) (senseless : Column.Senseless column)
  | keys (flat : IsFlat fields) (hcolumns : ReadsColumns (itemsOf (fields.lookup "columns")))
      (uniterable : Uniterable (fields.lookup "primary_keys"))
  | key {key : Value} (flat : IsFlat fields)
      (hcolumns : ReadsColumns (itemsOf (fields.lookup "columns")))
      (hkey : key ∈ itemsOf (fields.lookup "primary_keys")) (scalar : isKey key = false)

section Full

variable {fields : List (String × Value)}

theorem not_nonsense_build {name : String}
    {columns autoIncrement primaryKey generated : List Column} {schema : Option String} :
    ¬Nonsense (build name columns autoIncrement primaryKey generated schema) := by
  unfold build undeclaredFault
  repeat' split
  all_goals simp

theorem nonsense_readList_columns_iff {v : Value} :
    Nonsense (Value.readList Column.read v) ↔ ∃ items, v = .list items ∧
      ∃ column, .mapping column ∈ items ∧ Column.Senseless column := by
  simp only [Value.nonsense_readList_iff, Column.nonsense_read_iff]
  constructor
  · rintro ⟨items, rfl, _, hitem, column, rfl, h⟩
    exact ⟨items, rfl, column, hitem, h⟩
  · rintro ⟨items, rfl, column, hitem, h⟩
    exact ⟨items, rfl, _, hitem, column, rfl, h⟩

/-- A table in full shape makes no sense when one of its columns makes none. -/
theorem nonsense_read_iff : Nonsense (Table.read (.mapping fields)) ↔
    ∃ key ∈ columnLists, ∃ items, fields.lookup key = some (.list items) ∧
      ∃ column, .mapping column ∈ items ∧ Column.Senseless column := by
  have hfield {key : String} : (∃ v, fields.lookup key = some v ∧
      Nonsense (Value.readList Column.read v)) ↔
      ∃ items, fields.lookup key = some (.list items) ∧
        ∃ column, .mapping column ∈ items ∧ Column.Senseless column := by
    simp only [nonsense_readList_columns_iff]
    constructor
    · rintro ⟨v, hv, items, rfl, h⟩
      exact ⟨items, hv, h⟩
    · rintro ⟨items, hv, h⟩
      exact ⟨_, hv, items, rfl, h⟩
  simp only [columnLists, List.mem_cons, List.not_mem_nil, or_false, exists_eq_or_imp,
    exists_eq_left, ← hfield]
  unfold Table.read
  dsimp only
  generalize hparts : Checked.both (Value.required "name" _ _) _ = parts
  refine Iff.trans (b := Nonsense parts) ?_ ?_
  · cases parts with
    | ok parts => exact iff_of_false not_nonsense_build (by simp)
    | error r => exact nonsense_error_congr
  · rw [← hparts]
    simp only [nonsense_both_iff, Value.nonsense_required_iff (Value.readList Column.read),
      Value.nonsense_optional_iff (Value.readList Column.read),
      Value.not_nonsense_required Value.onlyFaults_readFilledText,
      Value.not_nonsense_optional Value.onlyFaults_readOptionalText, Value.not_nonsense_onlyFields,
      or_false, false_or]

end Full

section Flat

variable {fields : List (String × Value)} {value : Option Value}

theorem givenItems_of_uniterable (h : Uniterable value) : givenItems value = .error .wrongType := by
  obtain ⟨v, rfl, hgiven, hitems⟩ := h
  unfold givenItems
  simp only [hgiven, if_true, hitems]

theorem givenItems_of_not_uniterable (h : ¬Uniterable value) :
    givenItems value = .ok (itemsOf value) := by
  unfold givenItems
  split
  next v =>
    split
    next hgiven =>
      cases hitems : v.items? with
      | none => exact absurd ⟨v, rfl, hgiven, hitems⟩ h
      | some items => simp [itemsOf, Option.filter_some, hgiven, hitems]
    next hgiven => simp [itemsOf, Option.filter_some, hgiven]
  · rfl

theorem nonsense_givenItems_iff : Nonsense (givenItems value) ↔ Uniterable value := by
  by_cases h : Uniterable value
  · rw [givenItems_of_uniterable h]
    exact iff_of_true ⟨_, rfl, rfl⟩ h
  · rw [givenItems_of_not_uniterable h]
    exact iff_of_false not_nonsense_ok h

theorem itemsOf_of_uniterable (h : Uniterable value) : itemsOf value = [] := by
  obtain ⟨v, rfl, hgiven, hitems⟩ := h
  simp [itemsOf, Option.filter_some, hgiven, hitems]

theorem nonsense_ofColumns_iff {name schema : Value} {columns : List Column}
    {keys : List Value} : Nonsense (ofColumns name schema columns keys) ↔
      ∃ key ∈ keys, isKey key = false := by
  have hscalar : keys.all isKey = false ↔ ∃ key ∈ keys, isKey key = false := by simp
  rw [← hscalar]
  unfold ofColumns
  cases keys.all isKey with
  | false => exact iff_of_true ⟨_, rfl, rfl⟩ rfl
  | true =>
    refine iff_of_false ?_ (by simp)
    simp only [Bool.not_true, Bool.false_eq_true, if_false]
    split
    · exact fun ⟨_, h, hnonsense⟩ => by cases h; cases hnonsense
    · simp only [nonsense_bind_iff, nonsense_result_iff, nonsense_both_iff, nonsense_within_iff,
        Value.onlyFaults_readFilledText _, Value.onlyFaults_readOptionalText _,
        not_nonsense_build, and_false, exists_const, or_self, not_false_eq_true]

/-- Other names of fields are told before anything is read. -/
theorem readFlat_of_unknown {key : String} (hkey : key ∈ fields.map Prod.fst)
    (hunknown : key ∉ flatFieldNames) : ∃ failure, readFlat fields = .error failure ∧
      failure.kind.isUnusable = true := by
  have hextra : ((fields.map Prod.fst).filter (· ∉ flatFieldNames)).isEmpty = false := by
    rw [Bool.eq_false_iff, Ne, List.isEmpty_iff, List.filter_eq_nil_iff]
    exact fun h => h key hkey (by simpa using hunknown)
  unfold readFlat
  simp only [hextra]
  exact ⟨_, rfl, rfl⟩

/-- A table in flat shape is read from its columns first and then from its keys. -/
theorem readFlat_of_known (hknown : ∀ key ∈ fields.map Prod.fst, key ∈ flatFieldNames) :
    readFlat fields = (do
      let columns ← (← givenItems (fields.lookup "columns")).mapM fun item =>
        Checked.result .column (Column.read item)
      let keys ← givenItems (fields.lookup "primary_keys")
      ofColumns ((fields.lookup "name").getD (.text ""))
        ((fields.lookup "schema_name").getD .null) columns keys) := by
  have hextra : ((fields.map Prod.fst).filter (· ∉ flatFieldNames)).isEmpty = true := by
    rw [List.isEmpty_iff, List.filter_eq_nil_iff]
    exact fun key hkey => by simpa using hknown key hkey
  unfold readFlat
  simp only [hextra]
  rfl

theorem result_read_eq_ok_iff {items : List Value} :
    (∀ item ∈ items, ∃ column, Checked.result .column (Column.read item) = .ok column) ↔
      ReadsColumns items := by
  simp only [Checked.result_eq_ok_iff, ReadsColumns]

theorem nonsense_mapM_columns_iff {items : List Value} :
    Nonsense (items.mapM fun item => Checked.result .column (Column.read item)) ↔
      ∃ before column after, items = before ++ .mapping column :: after ∧ ReadsColumns before ∧
        Column.Senseless column := by
  simp only [nonsense_mapM_iff, result_read_eq_ok_iff, nonsense_result_iff,
    Column.nonsense_read_iff]
  constructor
  · rintro ⟨before, _, after, rfl, hbefore, column, rfl, h⟩
    exact ⟨before, column, after, rfl, hbefore, h⟩
  · rintro ⟨before, column, after, rfl, hbefore, h⟩
    exact ⟨before, _, after, rfl, hbefore, column, rfl, h⟩

theorem nonsense_readFlat_iff (hflat : IsFlat fields) :
    Nonsense (readFlat fields) ↔ Senseless fields := by
  rw [readFlat_of_known hflat.known, nonsense_bind_iff]
  constructor
  · rintro (h | ⟨items, hitems, h⟩)
    · exact .columns hflat (nonsense_givenItems_iff.mp h)
    · by_cases huniterable : Uniterable (fields.lookup "columns")
      · exact .columns hflat huniterable
      · rw [givenItems_of_not_uniterable huniterable] at hitems
        cases hitems
        rcases nonsense_bind_iff.mp h with h | ⟨columns, hcolumns, h⟩
        · obtain ⟨before, column, after, hitems, hbefore, hsenseless⟩ :=
            nonsense_mapM_columns_iff.mp h
          exact .column hflat hitems hbefore hsenseless
        · have hread := result_read_eq_ok_iff.mp (exists_of_mapM_eq_ok hcolumns)
          by_cases hkeys : Uniterable (fields.lookup "primary_keys")
          · exact .keys hflat hread hkeys
          · rw [givenItems_of_not_uniterable hkeys, ok_bind, nonsense_ofColumns_iff] at h
            obtain ⟨key, hkey, hscalar⟩ := h
            exact .key hflat hread hkey hscalar
  · intro h
    by_cases huniterable : Uniterable (fields.lookup "columns")
    · exact .inl (nonsense_givenItems_iff.mpr huniterable)
    · refine .inr ⟨_, givenItems_of_not_uniterable huniterable, nonsense_bind_iff.mpr ?_⟩
      cases h with
      | listed full => exact absurd hflat.columns full
      | columns _ h => exact absurd h huniterable
      | column _ hitems hbefore hsenseless =>
        exact .inl (nonsense_mapM_columns_iff.mpr ⟨_, _, _, hitems, hbefore, hsenseless⟩)
      | keys _ hread hkeys =>
        obtain ⟨columns, hcolumns⟩ := exists_mapM_eq_ok (result_read_eq_ok_iff.mpr hread)
        exact .inr ⟨columns, hcolumns,
          nonsense_bind_iff.mpr (.inl (nonsense_givenItems_iff.mpr hkeys))⟩
      | key _ hread hkey hscalar =>
        obtain ⟨columns, hcolumns⟩ := exists_mapM_eq_ok (result_read_eq_ok_iff.mpr hread)
        refine .inr ⟨columns, hcolumns, ?_⟩
        have hkeys : ¬Uniterable (fields.lookup "primary_keys") := by
          intro h
          rw [itemsOf_of_uniterable h] at hkey
          cases hkey
        rw [givenItems_of_not_uniterable hkeys, ok_bind, nonsense_ofColumns_iff]
        exact ⟨_, hkey, hscalar⟩

end Flat

section Entries

variable {fields : List (String × Value)}

theorem parse_of_flat (h : "columns" ∈ fields.map Prod.fst) :
    parse (.mapping fields) = readFlat fields := by
  have hholds : holds "columns" (.mapping fields) = .ok true := by
    simpa [holds] using h
  rw [parse, hholds]
  rfl

theorem parse_of_full (h : "columns" ∉ fields.map Prod.fst) :
    parse (.mapping fields) = Checked.result .table (Table.read (.mapping fields)) := by
  have hholds : holds "columns" (.mapping fields) = .ok false := by
    refine congrArg Except.ok (List.any_eq_false.mpr fun field hfield hsame => h ?_)
    exact List.mem_map.mpr ⟨field, hfield, of_decide_eq_true hsame⟩
  rw [parse, hholds]
  rfl

/-- A table of any shape makes no sense exactly where its fields make none. -/
theorem nonsense_parse_iff : Nonsense (parse (.mapping fields)) ↔ Senseless fields := by
  by_cases hcolumns : "columns" ∈ fields.map Prod.fst
  · rw [parse_of_flat hcolumns]
    by_cases hknown : ∀ key ∈ fields.map Prod.fst, key ∈ flatFieldNames
    · exact nonsense_readFlat_iff ⟨hcolumns, hknown⟩
    · have hnot : ¬IsFlat fields := fun h => hknown h.known
      simp only [Classical.not_forall] at hknown
      obtain ⟨key, hkey, hunknown⟩ := hknown
      obtain ⟨failure, hfailure, hunusable⟩ := readFlat_of_unknown hkey hunknown
      refine iff_of_false ?_ ?_
      · simp [hfailure, Failure.isNonsense_of_isUnusable hunusable]
      · rintro (⟨full⟩ | ⟨flat⟩ | ⟨flat⟩ | ⟨flat⟩ | ⟨flat⟩)
        · exact full hcolumns
        all_goals exact hnot flat
  · rw [parse_of_full hcolumns, nonsense_result_iff, nonsense_read_iff]
    constructor
    · rintro ⟨key, hkey, items, hitems, column, hcolumn, hsenseless⟩
      exact .listed hcolumns hkey hitems hcolumn hsenseless
    · rintro (⟨_, hkey, hitems, hcolumn, hsenseless⟩ | ⟨flat⟩ | ⟨flat⟩ | ⟨flat⟩ | ⟨flat⟩)
      · exact ⟨_, hkey, _, hitems, _, hcolumn, hsenseless⟩
      all_goals exact absurd flat.columns hcolumns

theorem failsAsInput_givenItems (value : Option Value) : FailsAsInput (givenItems value) := by
  by_cases h : Uniterable value
  · rw [givenItems_of_uniterable h]
    exact .error (.inr rfl)
  · rw [givenItems_of_not_uniterable h]
    exact .ok _

theorem failsAsInput_ofColumns {name schema : Value} {columns : List Column}
    {keys : List Value} : FailsAsInput (ofColumns name schema columns keys) := by
  unfold ofColumns
  dsimp only
  split
  · exact .error (.inr rfl)
  · split
    · exact .error (.inl rfl)
    · exact .bind .result fun _ => .result

/-- A table that cannot be read is told so, unless it makes no sense. -/
theorem failsAsInput_parse : FailsAsInput (parse (.mapping fields)) := by
  by_cases hcolumns : "columns" ∈ fields.map Prod.fst
  · rw [parse_of_flat hcolumns]
    by_cases hknown : ∀ key ∈ fields.map Prod.fst, key ∈ flatFieldNames
    · rw [readFlat_of_known hknown]
      refine .bind (failsAsInput_givenItems _) fun items => ?_
      refine .bind (.mapM fun _ _ => .result) fun columns => ?_
      exact .bind (failsAsInput_givenItems _) fun keys => failsAsInput_ofColumns
    · simp only [Classical.not_forall] at hknown
      obtain ⟨key, hkey, hunknown⟩ := hknown
      obtain ⟨failure, hfailure, hunusable⟩ := readFlat_of_unknown hkey hunknown
      rw [hfailure]
      exact .error (.inl hunusable)
  · rw [parse_of_full hcolumns]
    exact .result

end Entries

end Table

end RecordMapper.Schema
