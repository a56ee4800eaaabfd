import Mathlib.Data.List.Forall2
import RecordMapper.Proofs.Document.Tables

/-!
# Normal forms of tables

A table that was read, written out field by field, is read back as the same table, whatever shape
and whatever spellings it came in. What makes this work is that every column that was read has a
name for its type: the one it came with, or the one that belongs to its code.
-/
namespace RecordMapper

namespace Value

open Checked

variable {α : Type} {key : String} {fields : List (String × Value)} {read : Value → Checked α}
  {a : α}

theorem required_eq_ok_iff :
    required key read fields = .ok a ↔ ∃ v, fields.lookup key = some v ∧ read v = .ok a := by
  rw [required, within_eq_ok_iff]
  cases fields.lookup key <;> simp [fault]

theorem optional_of_lookup {default : α} {v : Value} (hv : fields.lookup key = some v)
    (h : read v = .ok a) : optional key default read fields = .ok a := by
  rw [optional, hv]
  exact within_eq_ok_iff.mpr h

theorem ne_empty_of_readFilledText {v : Value} {s : String} (h : v.readFilledText = .ok s) :
    s ≠ "" := by
  unfold readFilledText at h
  split at h
  · split at h
    · cases h
    next hfilled =>
      cases h
      simpa using hfilled
  · cases h

/-- A list is read item by item. -/
theorem readList_eq_ok_iff {v : Value} {as : List α} : readList read v = .ok as ↔
    ∃ items, v = .list items ∧ List.Forall₂ (fun item a => read item = .ok a) items as := by
  cases v with
  | list items =>
    simp only [list.injEq, exists_eq_left', List.forall₂_iff_get, List.get_eq_getElem]
    constructor
    · intro h
      have hreadings := eq_map_ok_of_all_eq_ok h
      refine ⟨by simpa using congrArg List.length hreadings, fun i hi hi' => ?_⟩
      have hi := List.getElem_of_eq hreadings (by simpa using hi)
      rw [List.getElem_mapIdx, List.getElem_map] at hi
      exact within_eq_ok_iff.mp hi
    · rintro ⟨hlength, h⟩
      rw [← all_map_ok as]
      refine congrArg all (List.ext_getElem (by simpa using hlength) fun i hi hi' => ?_)
      rw [List.length_mapIdx] at hi
      rw [List.getElem_mapIdx, List.getElem_map]
      exact within_eq_ok_iff.mpr (h i hi (by simpa using hi'))
  | null | bool | int | real | text | mapping => simp [readList, fault]

/-- A list of values that were written one by one is read back. -/
theorem readList_map {write : α → Value} {as : List α}
    (h : ∀ a ∈ as, read (write a) = .ok a) : readList read (.list (as.map write)) = .ok as :=
  readList_eq_ok_iff.mpr ⟨_, rfl, List.forall₂_map_left_iff.mpr (List.forall₂_same.mpr h)⟩

end Value

/-- Items that are all read give their results in order. -/
theorem forall₂_of_mapM_eq_ok {ε α β : Type} {f : α → Except ε β} {items : List α}
    {results : List β} (h : items.mapM f = .ok results) :
    List.Forall₂ (fun item result => f item = .ok result) items results := by
  have hsame : List.Forall₂ Eq (items.map f) (results.map .ok) :=
    List.forall₂_eq_eq_eq ▸ mapM_eq_ok_iff.mp h
  rwa [List.forall₂_map_left_iff, List.forall₂_map_right_iff] at hsame

end RecordMapper

namespace RecordMapper.Schema

open RecordMapper.Checked

namespace JdbcType

theorem ofCode?_code (t : JdbcType) : ofCode? t.code = some t := by
  cases t <;> rfl

theorem name_ne_empty (t : JdbcType) : t.name ≠ "" := by
  cases t <;> decide

theorem nameOfCode_ne_empty (code : Int) : nameOfCode code ≠ "" := by
  unfold nameOfCode
  split
  · exact name_ne_empty _
  · decide

end JdbcType

namespace Column

/-- The name that belongs to the code of a type: that of the type with the code, if there is one. -/
structure NamedByCode (c : Column) : Prop where
  known : ∀ t : JdbcType, t.code = c.typeCode → c.typeName = t.name
  unknown : (∀ t : JdbcType, t.code ≠ c.typeCode) → c.typeName = "OTHER"

theorem namedByCode_of_typeName_eq {c : Column} (h : c.typeName = JdbcType.nameOfCode c.typeCode) :
    c.NamedByCode where
  known t ht := by rw [h, ← ht, JdbcType.nameOfCode, JdbcType.ofCode?_code]
  unknown hnone := by
    have hmissing : JdbcType.ofCode? c.typeCode = none :=
      List.find?_eq_none.mpr fun t _ => by simpa using hnone t
    rw [h, JdbcType.nameOfCode, hmissing]
    rfl

/-- The fields of a column leave its type without a name, or with an empty one. -/
def LacksTypeName (fields : List (String × Value)) : Prop :=
  ∀ name, fields.lookup "data_type_name" = some name → name.isGiven = false

/-- A column that was read from a raw one. -/
structure ReadFrom (raw : Value) (c : Column) : Prop where
  read_eq : read raw = .ok c
  name_ne : c.name ≠ ""
  typeName_ne : c.typeName ≠ ""
  named : ∀ fields, raw = .mapping fields → LacksTypeName fields → c.NamedByCode

section Reading

variable {fields : List (String × Value)} {c : Column}

theorem lookup_of_resolveTypeCode {resolved : List (String × Value)}
    (h : resolveTypeCode fields = .ok resolved) :
    resolved.lookup "data_type_name" = fields.lookup "data_type_name" := by
  unfold resolveTypeCode at h
  split at h
  · split at h
    · cases h
      rfl
    · split at h
      · cases h
        exact Value.lookup_setField_of_ne (by decide) _ _
      · cases h
  · cases h
    rfl

/-- The fields that a column is read from, each by its reader. -/
theorem readFields_eq_ok (h : readFields fields = .ok c) :
    Value.required "name" Value.readFilledText fields = .ok c.name ∧
      Value.required "data_type" Value.readWhole fields = .ok c.typeCode ∧
      Value.optional "data_type_name" "" Value.readText fields = .ok c.typeName := by
  unfold readFields at h
  split at h
  next hparts =>
    simp only [both_eq_ok_iff] at hparts
    cases h
    exact ⟨hparts.1, hparts.2.1, hparts.2.2.1⟩
  · cases h

theorem typeNameOf_of_readWhole {v : Value} {code : Int} (h : v.readWhole = .ok code) :
    typeNameOf v = .ok (JdbcType.nameOfCode code) := by
  cases v with
  | list | mapping => cases h
  | real x =>
    cases x with
    | infinite => cases h
    | finite | notNumber => simp only [typeNameOf, h]
  | null | bool | int | text => simp only [typeNameOf, h]

/-- Filling in the name of the type leaves the type alone. -/
theorem lookup_of_fillTypeName {filled : List (String × Value)}
    (h : fillTypeName fields = .ok filled) :
    filled.lookup "data_type" = fields.lookup "data_type" := by
  unfold fillTypeName at h
  dsimp only at h
  split at h
  · cases h
    rfl
  · cases h
    rfl
  · obtain ⟨name, -, rfl⟩ := map_eq_ok_iff.mp h
    exact Value.lookup_setField_of_ne (by decide) _ _

/-- Without a name of its own a type gets the one of its code. -/
theorem fillTypeName_of_lacks (hname : LacksTypeName fields) {v : Value} {code : Int}
    (hv : fields.lookup "data_type" = some v) (hcode : v.readWhole = .ok code) :
    fillTypeName fields =
      .ok (Value.setField "data_type_name" (.text (JdbcType.nameOfCode code)) fields) := by
  have hfill : (typeNameOf v).map
      (fun name => Value.setField "data_type_name" (.text name) fields) =
      .ok (Value.setField "data_type_name" (.text (JdbcType.nameOfCode code)) fields) := by
    rw [typeNameOf_of_readWhole hcode]
    rfl
  unfold fillTypeName
  rw [hv]
  cases hlookup : fields.lookup "data_type_name" with
  | none =>
    cases v with
    | null => cases hcode
    | bool | int | real | text | list | mapping => exact hfill
  | some name =>
    dsimp only
    rw [hname name hlookup]
    cases v with
    | null => cases hcode
    | bool | int | real | text | list | mapping => exact hfill

/-- The name of the type of a column that is read is given with it or goes by its code. -/
theorem typeName_of_read {filled : List (String × Value)}
    (hfilled : fillTypeName fields = .ok filled)
    (hcode : Value.required "data_type" Value.readWhole filled = .ok c.typeCode)
    (hname : Value.optional "data_type_name" "" Value.readText filled = .ok c.typeName) :
    c.typeName ≠ "" ∧ (LacksTypeName fields → c.typeName = JdbcType.nameOfCode c.typeCode) := by
  by_cases hlacks : LacksTypeName fields
  · obtain ⟨v, hv, hwhole⟩ := Value.required_eq_ok_iff.mp hcode
    rw [lookup_of_fillTypeName hfilled] at hv
    rw [fillTypeName_of_lacks hlacks hv hwhole] at hfilled
    cases hfilled
    rw [Value.optional, Value.lookup_setField_self] at hname
    have hsame : JdbcType.nameOfCode c.typeCode = c.typeName := Except.ok.inj hname
    exact ⟨hsame ▸ JdbcType.nameOfCode_ne_empty _, fun _ => hsame.symm⟩
  · simp only [LacksTypeName, Classical.not_forall, Bool.not_eq_false] at hlacks
    obtain ⟨name, hlookup, hgiven⟩ := hlacks
    rw [fillTypeName_of_given hlookup hgiven] at hfilled
    cases hfilled
    refine ⟨?_, fun h => absurd (h name hlookup) (by simp [hgiven])⟩
    rw [Value.optional, hlookup, within_eq_ok_iff] at hname
    cases name with
    | text s =>
      cases hname
      simpa [Value.isGiven] using hgiven
    | null | bool | int | real | list | mapping => cases hname

/-- Every column that is read has a name and a name for its type. -/
theorem readFrom_of_read {raw : Value} (h : read raw = .ok c) : ReadFrom raw c := by
  cases raw with
  | mapping fields =>
    obtain ⟨resolved, hresolved, hrest⟩ := bind_eq_ok_iff.mp h
    obtain ⟨filled, hfilled, hread⟩ := bind_eq_ok_iff.mp hrest
    obtain ⟨hname, hcode, htypeName⟩ := readFields_eq_ok hread
    obtain ⟨htyped, hlacks⟩ := typeName_of_read hfilled hcode htypeName
    refine ⟨h, ?_, htyped, ?_⟩
    · obtain ⟨v, -, hv⟩ := Value.required_eq_ok_iff.mp hname
      exact Value.ne_empty_of_readFilledText hv
    · rintro _ ⟨rfl⟩ hmissing
      refine namedByCode_of_typeName_eq (hlacks fun name hlookup => hmissing name ?_)
      rwa [← lookup_of_resolveTypeCode hresolved]
  | null | bool | int | real | text | list => cases h

end Reading

/-- A column with both names is read back from its fields. -/
theorem read_toValue {c : Column} (hname : c.name ≠ "") (htypeName : c.typeName ≠ "") :
    read c.toValue = .ok c := by
  have hcount : ¬(c.size : Int) < 0 := by omega
  have hgiven : (Value.text c.typeName).isGiven = true := by simpa [Value.isGiven] using htypeName
  have hfill : fillTypeName [("name", .text c.name), ("data_type", .int c.typeCode),
      ("data_type_name", .text c.typeName), ("size", .int c.size),
      ("is_not_null", .bool c.isNotNull), ("is_auto_increment", .bool c.isAutoIncrement),
      ("is_generated", .bool c.isGenerated)] = .ok _ :=
    fillTypeName_of_given rfl hgiven
  rw [toValue, read]
  refine bind_eq_ok_iff.mpr ⟨_, rfl, bind_eq_ok_iff.mpr ⟨_, hfill, ?_⟩⟩
  simp [readFields, Value.required, Value.optional, List.lookup_cons, Value.readFilledText,
    Value.readText, Value.readWhole, Value.readCount, Value.readBool, Value.onlyFields, fieldNames,
    Checked.both, Checked.within, hname, hcount]

theorem ReadFrom.read_toValue_eq {raw : Value} {c : Column} (h : ReadFrom raw c) :
    read c.toValue = .ok c :=
  read_toValue h.name_ne h.typeName_ne

end Column

namespace Table

variable {fields : List (String × Value)} {t : Table}

/-- A table that keeps to what reading checks: it has a name, and its columns are read back. -/
structure ReadsBack (t : Table) : Prop where
  name_ne : t.name ≠ ""
  columns : ∀ c ∈ t.columns, Column.read c.toValue = .ok c
  autoIncrement : ∀ c ∈ t.autoIncrement, Column.read c.toValue = .ok c
  primaryKey : ∀ c ∈ t.primaryKey, Column.read c.toValue = .ok c
  generated : ∀ c ∈ t.generated, Column.read c.toValue = .ok c

/-- What a table in full shape is read from. -/
structure FullReading (fields : List (String × Value)) (t : Table) : Prop where
  name_ne : t.name ≠ ""
  columns : List.Forall₂ Column.ReadFrom (itemsOf (fields.lookup "all_columns")) t.columns
  autoIncrement : List.Forall₂ Column.ReadFrom (itemsOf (fields.lookup "auto_increment_columns"))
    t.autoIncrement
  primaryKey : List.Forall₂ Column.ReadFrom (itemsOf (fields.lookup "primary_key_columns"))
    t.primaryKey
  generated : List.Forall₂ Column.ReadFrom (itemsOf (fields.lookup "generated_columns"))
    t.generated

/-- What a table in flat shape is read from: the subsets go by the flags of the columns, and the
primary key by the names in their order. -/
structure FlatReading (fields : List (String × Value)) (t : Table) : Prop where
  name_ne : t.name ≠ ""
  columns : List.Forall₂ Column.ReadFrom (itemsOf (fields.lookup "columns")) t.columns
  autoIncrement : t.autoIncrement = t.columns.filter Column.isAutoIncrement
  primaryKey : itemsOf (fields.lookup "primary_keys") = t.primaryKey.map fun c => .text c.name
  primaryKey_subset : t.primaryKey ⊆ t.columns
  generated : t.generated = t.columns.filter Column.isGenerated

section Building

variable {name : String} {columns autoIncrement primaryKey generated : List Column}
  {schema : Option String}

theorem build_eq_ok (h : build name columns autoIncrement primaryKey generated schema = .ok t) :
    t.name = name ∧ t.columns = columns ∧ t.autoIncrement = autoIncrement ∧
      t.primaryKey = primaryKey ∧ t.generated = generated ∧ t.schema = schema := by
  unfold build at h
  split at h
  · split at h
    · split at h
      · cases h
        exact ⟨rfl, rfl, rfl, rfl, rfl, rfl⟩
      · cases h
    · cases h
  · cases h

theorem build_self (t : Table) :
    build t.name t.columns t.autoIncrement t.primaryKey t.generated t.schema = .ok t := by
  simp only [build, t.autoIncrement_declared, t.primaryKey_declared, t.generated_declared,
    dite_true]

end Building

section Full

theorem readFrom_of_readList {v : Value} {columns : List Column}
    (h : Value.readList Column.read v = .ok columns) :
    List.Forall₂ Column.ReadFrom (itemsOf (some v)) columns := by
  obtain ⟨items, rfl, hitems⟩ := Value.readList_eq_ok_iff.mp h
  have hlisted : itemsOf (some (.list items)) = items := by
    cases items <;> rfl
  rw [hlisted]
  exact hitems.imp fun _ _ => Column.readFrom_of_read

theorem readFrom_of_optional {key : String} {columns : List Column}
    (h : Value.optional key [] (Value.readList Column.read) fields = .ok columns) :
    List.Forall₂ Column.ReadFrom (itemsOf (fields.lookup key)) columns := by
  unfold Value.optional at h
  split at h
  next v hv =>
    rw [hv]
    exact readFrom_of_readList (within_eq_ok_iff.mp h)
  next hnone =>
    cases h
    rw [hnone]
    exact .nil

/-- A table is read in full shape field by field. -/
theorem read_eq_ok_iff : Table.read (.mapping fields) = .ok t ↔
    Value.required "name" Value.readFilledText fields = .ok t.name ∧
      Value.required "all_columns" (Value.readList Column.read) fields = .ok t.columns ∧
      Value.optional "auto_increment_columns" [] (Value.readList Column.read) fields =
        .ok t.autoIncrement ∧
      Value.optional "primary_key_columns" [] (Value.readList Column.read) fields =
        .ok t.primaryKey ∧
      Value.optional "generated_columns" [] (Value.readList Column.read) fields =
        .ok t.generated ∧
      Value.optional "schema_name" none Value.readOptionalText fields = .ok t.schema ∧
      Value.onlyFields fieldNames fields = .ok () := by
  unfold Table.read
  dsimp only
  constructor
  · intro h
    split at h
    next hparts =>
      simp only [both_eq_ok_iff] at hparts
      obtain ⟨rfl, rfl, rfl, rfl, rfl, rfl⟩ := build_eq_ok h
      exact hparts
    · cases h
  · intro h
    simp only [← both_eq_ok_iff] at h
    rw [h]
    exact build_self t

theorem fullReading_of_read (h : Table.read (.mapping fields) = .ok t) : FullReading fields t := by
  obtain ⟨hname, hcolumns, hautoIncrement, hprimaryKey, hgenerated, -⟩ := read_eq_ok_iff.mp h
  obtain ⟨rawName, -, hname⟩ := Value.required_eq_ok_iff.mp hname
  obtain ⟨rawColumns, hlookup, hcolumns⟩ := Value.required_eq_ok_iff.mp hcolumns
  exact {
    name_ne := Value.ne_empty_of_readFilledText hname
    columns := hlookup ▸ readFrom_of_readList hcolumns
    autoIncrement := readFrom_of_optional hautoIncrement
    primaryKey := readFrom_of_optional hprimaryKey
    generated := readFrom_of_optional hgenerated }

theorem read_toValue_of_forall₂ {raws : List Value} {columns : List Column}
    (h : List.Forall₂ Column.ReadFrom raws columns) :
    ∀ c ∈ columns, Column.read c.toValue = .ok c := by
  induction h with
  | nil => exact fun c hc => absurd hc List.not_mem_nil
  | cons hraw _ ih => exact List.forall_mem_cons.mpr ⟨hraw.read_toValue_eq, ih⟩

theorem FullReading.readsBack (h : FullReading fields t) : ReadsBack t where
  name_ne := h.name_ne
  columns := read_toValue_of_forall₂ h.columns
  autoIncrement := read_toValue_of_forall₂ h.autoIncrement
  primaryKey := read_toValue_of_forall₂ h.primaryKey
  generated := read_toValue_of_forall₂ h.generated

end Full

section Flat

theorem keyed?_eq_some {columns : List Column} {key : Value} {c : Column}
    (h : keyed? columns key = some c) : key = .text c.name ∧ c ∈ columns := by
  cases key with
  | text name =>
    rw [keyed?, lastNamed?] at h
    have hname := List.find?_some h
    have hmem := List.mem_of_find?_eq_some h
    exact ⟨congrArg _ (of_decide_eq_true hname).symm, List.mem_reverse.mp hmem⟩
  | null | bool | int | real | list | mapping => cases h

/-- Keys that all name a column give the columns of their names in their order. -/
theorem eq_map_of_keyed {columns : List Column} {keys : List Value}
    (h : ∀ key ∈ keys, (keyed? columns key).isSome) :
    keys = (keys.filterMap (keyed? columns)).map fun c => .text c.name := by
  induction keys with
  | nil => rfl
  | cons key rest ih =>
    obtain ⟨c, hc⟩ := Option.isSome_iff_exists.mp (h key List.mem_cons_self)
    rw [List.filterMap_cons_some hc, List.map_cons, ← (keyed?_eq_some hc).1,
      ← ih fun other hother => h other (List.mem_cons_of_mem _ hother)]

theorem ofColumns_eq_ok {name schema : Value} {columns : List Column} {keys : List Value}
    (h : ofColumns name schema columns keys = .ok t) :
    t.name ≠ "" ∧ t.columns = columns ∧
      t.autoIncrement = columns.filter Column.isAutoIncrement ∧
      keys = t.primaryKey.map (fun c => .text c.name) ∧ t.primaryKey ⊆ columns ∧
      t.generated = columns.filter Column.isGenerated := by
  unfold ofColumns at h
  dsimp only at h
  split at h
  · cases h
  · split at h
    · cases h
    next hmissing =>
      obtain ⟨⟨text, schemaName⟩, htexts, h⟩ := bind_eq_ok_iff.mp h
      obtain ⟨htext, -⟩ := both_eq_ok_iff.mp (result_eq_ok_iff.mp htexts)
      obtain ⟨rfl, rfl, hautoIncrement, hprimaryKey, hgenerated, -⟩ :=
        build_eq_ok (result_eq_ok_iff.mp h)
      have hkeyed : ∀ key ∈ keys, (keyed? t.columns key).isSome := by
        simpa [← Option.isSome_iff_ne_none] using hmissing
      refine ⟨Value.ne_empty_of_readFilledText (within_eq_ok_iff.mp htext), rfl, hautoIncrement,
        ?_, ?_, hgenerated⟩
      · rw [hprimaryKey]
        exact eq_map_of_keyed hkeyed
      · rw [hprimaryKey]
        intro c hc
        obtain ⟨key, -, hkey⟩ := List.mem_filterMap.mp hc
        exact (keyed?_eq_some hkey).2

theorem eq_itemsOf_of_givenItems {value : Option Value} {items : List Value}
    (h : givenItems value = .ok items) : items = itemsOf value := by
  by_cases hvalue : Uniterable value
  · rw [givenItems_of_uniterable hvalue] at h
    cases h
  · rw [givenItems_of_not_uniterable hvalue] at h
    exact (Except.ok.inj h).symm

theorem flatReading_of_readFlat (h : readFlat fields = .ok t) : FlatReading fields t := by
  have hknown : ∀ key ∈ fields.map Prod.fst, key ∈ flatFieldNames := by
    intro key hkey
    by_contra hunknown
    obtain ⟨failure, hfailure, -⟩ := readFlat_of_unknown hkey hunknown
    rw [hfailure] at h
    cases h
  rw [readFlat_of_known hknown] at h
  obtain ⟨items, hitems, h⟩ := bind_eq_ok_iff.mp h
  obtain ⟨columns, hcolumns, h⟩ := bind_eq_ok_iff.mp h
  obtain ⟨keys, hkeys, h⟩ := bind_eq_ok_iff.mp h
  obtain rfl := eq_itemsOf_of_givenItems hitems
  obtain rfl := eq_itemsOf_of_givenItems hkeys
  obtain ⟨hname, rfl, hautoIncrement, hprimaryKey, hsubset, hgenerated⟩ := ofColumns_eq_ok h
  refine ⟨hname, ?_, hautoIncrement, hprimaryKey, hsubset, hgenerated⟩
  exact (forall₂_of_mapM_eq_ok hcolumns).imp fun _ _ hread =>
    Column.readFrom_of_read (result_eq_ok_iff.mp hread)

theorem FlatReading.readsBack (h : FlatReading fields t) : ReadsBack t := by
  have hcolumns := read_toValue_of_forall₂ h.columns
  refine ⟨h.name_ne, hcolumns, ?_, fun c hc => hcolumns c (h.primaryKey_subset hc), ?_⟩
  · rw [h.autoIncrement]
    exact fun c hc => hcolumns c (List.mem_filter.mp hc).1
  · rw [h.generated]
    exact fun c hc => hcolumns c (List.mem_filter.mp hc).1

end Flat

/-- A table whose columns are read back is so itself, in full shape. -/
theorem parse_toValue (h : ReadsBack t) : parse t.toValue = .ok t := by
  have hfull : parse t.toValue = Checked.result .table (Table.read t.toValue) :=
    parse_of_full (by simp)
  have hname : (Value.text t.name).readFilledText = .ok t.name := by
    simp [Value.readFilledText, Value.readText, h.name_ne]
  rw [hfull, result_eq_ok_iff, toValue, read_eq_ok_iff]
  exact ⟨Value.required_eq_ok_iff.mpr ⟨_, rfl, hname⟩,
    Value.required_eq_ok_iff.mpr ⟨_, rfl, Value.readList_map h.columns⟩,
    Value.optional_of_lookup rfl (Value.readList_map h.autoIncrement),
    Value.optional_of_lookup rfl (Value.readList_map h.primaryKey),
    Value.optional_of_lookup rfl (Value.readList_map h.generated),
    Value.optional_of_lookup rfl (by cases t.schema <;> rfl), rfl⟩

/-- Every table that is read, in either shape, is read back from all its fields, and it has what
its entry lists: in the full shape the subsets that are written out, in the flat one those that
follow from the flags and the names of the keys. -/
theorem read_table_normal (h : parse (.mapping fields) = .ok t) :
    parse t.toValue = .ok t ∧
      ("columns" ∈ fields.map Prod.fst → FlatReading fields t) ∧
      ("columns" ∉ fields.map Prod.fst → FullReading fields t) := by
  by_cases hcolumns : "columns" ∈ fields.map Prod.fst
  · have hflat : FlatReading fields t :=
      flatReading_of_readFlat ((parse_of_flat hcolumns).symm.trans h)
    exact ⟨parse_toValue hflat.readsBack, fun _ => hflat, fun hfull => absurd hcolumns hfull⟩
  · have hfull : FullReading fields t :=
      fullReading_of_read (result_eq_ok_iff.mp ((parse_of_full hcolumns).symm.trans h))
    exact ⟨parse_toValue hfull.readsBack, fun hflat => absurd hflat hcolumns, fun _ => hfull⟩

namespace Sample

/-- A type by name with a flag in words, a type by a code that none has, and keys against the order
of the columns. -/
def lax : List (String × Value) := [
  ("name", .text "emp"),
  ("columns", .list [
    .mapping [("name", .text "id"), ("data_type", .text "bigint"),
      ("is_auto_increment", .text "yes")],
    .mapping [("name", .text "age"), ("data_type", .text "-77"), ("data_type_name", .text ""),
      ("is_generated", .int 1)]]),
  ("primary_keys", .list [.text "age", .text "id"])]

def number : Column := ⟨"id", -5, "BIGINT", 0, false, true, false⟩

def age : Column := ⟨"age", -77, "OTHER", 0, false, false, true⟩

def strict : Table :=
  ⟨"emp", [number, age], [number], [age, number], [age], none, by decide, by decide, by decide⟩

theorem parse_lax : parse (.mapping lax) = .ok strict := by
  have hread : (parse (.mapping lax)).toOption = some strict := by decide +kernel
  cases hparse : parse (.mapping lax) with
  | ok t =>
    rw [hparse] at hread
    exact congrArg Except.ok (Option.some.inj hread)
  | error failure =>
    rw [hparse] at hread
    cases hread

end Sample

theorem read_table_normal_of_lax : parse (.mapping Sample.lax) = .ok Sample.strict ∧
    parse Sample.strict.toValue = .ok Sample.strict ∧ FlatReading Sample.lax Sample.strict := by
  obtain ⟨hback, hflat, -⟩ := read_table_normal Sample.parse_lax
  exact ⟨Sample.parse_lax, hback, hflat (by decide)⟩

end Table

end RecordMapper.Schema
