import RecordMapper.Proofs.Source.Operations
import RecordMapper.Proofs.Source.WriteLists
import RecordMapper.Proofs.View.Partitions

/-!
# The record that `create` returns

After the insert, `create` constructs the record from named arguments. A column gets the key that
the database generated, the parameter of its own name, or a sample literal, and the statement keeps
the generated key only when there is a column to take it. Every required column has its argument, so
the construction is complete. An argument that assigns a field to itself passes a parameter of
`create` on, unless the key or the sample of its column happens to read like the field.
-/
namespace RecordMapper.Source

open RecordMapper.Config RecordMapper.Schema RecordMapper.Text RecordMapper.View

/-- An argument of the record: the column that it assigns, and the value that it is given. -/
structure RecordArgument where
  column : ColumnView
  value : String

namespace RecordArgument

def text (a : RecordArgument) : String := a.column.fieldName ++ " = " ++ a.value

/-- The value is the parameter of the column, or its sample for want of a parameter. -/
def IsOwn (v : TableView) (a : RecordArgument) : Prop :=
  a.column ∈ v.insert ∧ a.value = a.column.fieldName ∨
    a.column ∉ v.insert ∧ a.column.isNotNull = true ∧ a.value = a.column.sample

/-- The argument reads as if it passed a parameter on. -/
def AssignsItself (a : RecordArgument) : Prop :=
  a.text = a.column.fieldName ++ " = " ++ a.column.fieldName

theorem assignsItself_iff {a : RecordArgument} :
    a.AssignsItself ↔ a.value = a.column.fieldName :=
  String.append_right_inj _

end RecordArgument

/-- The construction of a record: an opening line, then one argument a line. -/
structure Constructs (className : String) (arguments : List RecordArgument)
    (lines : List String) : Prop where
  length_eq : lines.length = arguments.length + 1
  opening : lines[0]? = some (className ++ "(" ++ if arguments.isEmpty then ")" else "")
  argument : ∀ i (h : i < arguments.length), lines[i + 1]? =
    some (margin 1 ++ arguments[i].text ++ if i + 1 < arguments.length then "," else ")")

/-- Which columns of a view the arguments assign, and with what. -/
structure Assigns (v : TableView) (arguments : List RecordArgument) : Prop where
  /-- The arguments follow the declaration. -/
  ordered : (arguments.map RecordArgument.column).Sublist v.columns
  required : ∀ c ∈ v.columns, c.isNotNull = true →
    (arguments.map fun a => a.column.name).count c.name = 1
  optional : ∀ c ∈ v.columns, c.isNotNull = false →
    (arguments.map fun a => a.column.name).count c.name ≤ 1
  /-- Only what may be null and is neither written nor generated as the key is left out. -/
  omitted : ∀ c ∈ v.columns, (c.name ∉ arguments.map fun a => a.column.name) ↔
    c.isNotNull = false ∧ c ∉ v.insert ∧ v.generatedKey? ≠ some c
  /-- Whatever has to be there and is neither written nor generated as the key gets its sample. -/
  sample : ∀ c ∈ v.columns, c.isNotNull = true → c ∉ v.insert → v.generatedKey? ≠ some c →
    ⟨c, c.sample⟩ ∈ arguments
  /-- What is assigned itself is a parameter of `create`, or its key or sample reads like it. -/
  itself : ∀ a ∈ arguments, a.AssignsItself ↔ a.column ∈ v.insert ∨
    (v.generatedKey? = some a.column ∧ generatedKeyExpression a.column = a.column.fieldName) ∨
    (a.column ∉ v.insert ∧ v.generatedKey? ≠ some a.column ∧ a.column.sample = a.column.fieldName)

/-- The first line begins with a text. -/
def BeginsWith (lines : List String) (opening : String) : Prop :=
  ∃ line, lines.head? = some line ∧ opening.toList <+: line.toList

/-- The last line ends with a text. -/
def EndsWith (lines : List String) (closing : String) : Prop :=
  ∃ line, lines.getLast? = some line ∧ closing.toList <:+ line.toList

/-- The statement keeps the generated key for the first column that increments itself, whose one
argument takes it; or there is no such column and nothing mentions a generated key. All other
arguments have values of their own. -/
inductive UsesKey (v : TableView) (statement : List String) (arguments : List RecordArgument) : Prop
  | kept (key : ColumnView) (others : List ColumnView) (columns : v.autoIncrement = key :: others)
      (opens : BeginsWith statement "val generatedKey = ")
      (closes : EndsWith statement ".updateAndReturnGeneratedKey.apply()")
      (taken : (arguments.filter fun a => a.column.name = key.name) =
        [⟨key, generatedKeyExpression key⟩])
      (rest : ∀ a ∈ arguments, a.column.name ≠ key.name → a.IsOwn v)
      (wrapped : "Some(".toList <+: (generatedKeyExpression key).toList ↔ key.isNotNull = false)
  | dropped (columns : v.autoIncrement = [])
      (opens : ¬BeginsWith statement "val generatedKey = ")
      (closes : ¬EndsWith statement ".updateAndReturnGeneratedKey.apply()")
      (rest : ∀ a ∈ arguments, a.IsOwn v)

section Arguments

/-- The argument of a column with its value. -/
def recordArgument (v : TableView) (c : ColumnView) : Option RecordArgument :=
  if takesKey v c then some ⟨c, generatedKeyExpression c⟩
  else if v.isInserted c then some ⟨c, c.fieldName⟩
  else if c.isNotNull then some ⟨c, c.sample⟩
  else none

def recordArguments (v : TableView) : List RecordArgument :=
  v.columns.filterMap (recordArgument v)

theorem createArgument_eq (v : TableView) (c : ColumnView) :
    createArgument v c = (recordArgument v c).map RecordArgument.text := by
  unfold createArgument recordArgument
  split
  · rfl
  · split
    · rfl
    · split <;> rfl

theorem column_of_recordArgument {v : TableView} {c : ColumnView} {a : RecordArgument}
    (h : recordArgument v c = some a) : a.column = c := by
  unfold recordArgument at h
  split at h
  · exact Option.some.inj h ▸ rfl
  · split at h
    · exact Option.some.inj h ▸ rfl
    · split at h
      · exact Option.some.inj h ▸ rfl
      · cases h

theorem constructs_createRecord (v : TableView) :
    Constructs v.className (recordArguments v) (createRecord v) := by
  have htexts : v.columns.filterMap (createArgument v) =
      (recordArguments v).map RecordArgument.text := by
    rw [recordArguments, List.map_filterMap]
    exact List.filterMap_congr fun c _ => createArgument_eq v c
  have hlength : (listed 1 ((recordArguments v).map RecordArgument.text)).length =
      (recordArguments v).length := by
    rw [length_listed, List.length_map]
  have hempty : (listed 1 ((recordArguments v).map RecordArgument.text)).isEmpty =
      (recordArguments v).isEmpty := by
    rw [Bool.eq_iff_iff, List.isEmpty_iff_length_eq_zero, List.isEmpty_iff_length_eq_zero, hlength]
  rw [createRecord, htexts]
  refine ⟨?_, ?_, fun i hi => ?_⟩
  · rw [length_onLast, List.length_cons, hlength]
  · rw [onLast_cons, List.getElem?_cons_zero, Option.some_inj, hempty]
    split
    · rfl
    · exact String.append_empty.symm
  · rw [getElem?_onLast, List.getElem?_cons_succ, List.length_cons, hlength, getElem?_listed,
      List.length_map, List.getElem?_map, List.getElem?_eq_getElem hi]
    by_cases hlast : i + 1 < (recordArguments v).length
    · simp [hlast]
    · simp [hlast]

end Arguments

/-- What stands for a column in the record, case by case. -/
inductive Stands (v : TableView) (c : ColumnView) : Option RecordArgument → Prop
  | generatedKey (hkey : v.generatedKey? = some c) (hinsert : c ∉ v.insert) :
      Stands v c (some ⟨c, generatedKeyExpression c⟩)
  | parameter (hkey : v.generatedKey? ≠ some c) (hinsert : c ∈ v.insert) :
      Stands v c (some ⟨c, c.fieldName⟩)
  | sample (hkey : v.generatedKey? ≠ some c) (hinsert : c ∉ v.insert)
      (hrequired : c.isNotNull = true) : Stands v c (some ⟨c, c.sample⟩)
  | nothing (hkey : v.generatedKey? ≠ some c) (hinsert : c ∉ v.insert)
      (hoptional : c.isNotNull = false) : Stands v c none

section Columns

variable {v : TableView} {c : ColumnView}

theorem map_column_recordArguments (v : TableView) :
    (recordArguments v).map RecordArgument.column =
      v.columns.filter fun c => (recordArgument v c).isSome := by
  rw [recordArguments, List.map_filterMap, ← List.filterMap_eq_filter]
  refine List.filterMap_congr fun c _ => ?_
  cases h : recordArgument v c with
  | none => simp [Option.guard, h]
  | some a => simp [Option.guard, h, column_of_recordArgument h]

theorem mem_recordArguments_iff {value : String} :
    ⟨c, value⟩ ∈ recordArguments v ↔ c ∈ v.columns ∧ recordArgument v c = some ⟨c, value⟩ := by
  rw [recordArguments, List.mem_filterMap]
  constructor
  · rintro ⟨other, hother, hargument⟩
    obtain rfl : c = other := column_of_recordArgument hargument
    exact ⟨hother, hargument⟩
  · exact fun ⟨hc, hargument⟩ => ⟨c, hc, hargument⟩

theorem generatedKey?_of_nil (h : v.autoIncrement = []) : v.generatedKey? = none := by
  rw [TableView.generatedKey?, h, List.head?_nil]

theorem generatedKey?_of_cons {key : ColumnView} {others : List ColumnView}
    (h : v.autoIncrement = key :: others) : v.generatedKey? = some key := by
  rw [TableView.generatedKey?, h, List.head?_cons]

theorem mem_autoIncrement_of_generatedKey? (h : v.generatedKey? = some c) : c ∈ v.autoIncrement :=
  List.mem_of_head? h

variable {config : Settings} {table : Table} (h : Partitioned config table v)

include h

theorem takesKey_iff (hc : c ∈ v.columns) : takesKey v c = true ↔ v.generatedKey? = some c := by
  rw [takesKey, Option.any_eq_true]
  constructor
  · rintro ⟨key, hkey, hname⟩
    have hmem := h.autoIncrement_subset (mem_autoIncrement_of_generatedKey? hkey)
    rw [hkey, h.eq_of_name_eq hc hmem (of_decide_eq_true hname)]
  · exact fun hkey => ⟨c, hkey, decide_eq_true rfl⟩

theorem isInserted_iff (hc : c ∈ v.columns) : v.isInserted c = true ↔ c ∈ v.insert := by
  rw [TableView.isInserted, decide_eq_true_iff, List.mem_map]
  constructor
  · rintro ⟨other, hother, hname⟩
    rwa [← h.eq_of_name_eq (h.insert_subset hother) hc hname]
  · exact fun hinsert => ⟨c, hinsert, rfl⟩

theorem stands_recordArgument (hc : c ∈ v.columns) : Stands v c (recordArgument v c) := by
  unfold recordArgument
  -- The first question that is answered with yes decides, as in the definition.
  by_cases hkey : v.generatedKey? = some c
  · rw [if_pos ((takesKey_iff h hc).mpr hkey)]
    exact .generatedKey hkey (h.not_mem_insert (mem_autoIncrement_of_generatedKey? hkey))
  rw [if_neg (mt (takesKey_iff h hc).mp hkey)]
  by_cases hinsert : c ∈ v.insert
  · rw [if_pos ((isInserted_iff h hc).mpr hinsert)]
    exact .parameter hkey hinsert
  rw [if_neg (mt (isInserted_iff h hc).mp hinsert)]
  by_cases hrequired : c.isNotNull = true
  · rw [if_pos hrequired]
    exact .sample hkey hinsert hrequired
  · rw [if_neg hrequired]
    exact .nothing hkey hinsert (eq_false_of_ne_true hrequired)

theorem exists_stands (hc : c ∈ v.columns) :
    ∃ argument, recordArgument v c = argument ∧ Stands v c argument :=
  ⟨_, rfl, stands_recordArgument h hc⟩

theorem mem_recordArguments_of_generatedKey? (hkey : v.generatedKey? = some c) :
    ⟨c, generatedKeyExpression c⟩ ∈ recordArguments v := by
  have hc := h.autoIncrement_subset (mem_autoIncrement_of_generatedKey? hkey)
  refine mem_recordArguments_iff.mpr ⟨hc, ?_⟩
  rw [recordArgument, if_pos ((takesKey_iff h hc).mpr hkey)]

/-- The key is taken by its column, and all other columns have values of their own. -/
theorem value_of_mem {a : RecordArgument} (ha : a ∈ recordArguments v) :
    (v.generatedKey? = some a.column ∧ a.column ∉ v.insert ∧
      a.value = generatedKeyExpression a.column) ∨
    v.generatedKey? ≠ some a.column ∧ a.IsOwn v := by
  obtain ⟨c, value⟩ := a
  obtain ⟨hc, hargument⟩ := mem_recordArguments_iff.mp ha
  have hstands := stands_recordArgument h hc
  rw [hargument] at hstands
  cases hstands with
  | generatedKey hkey hinsert => exact .inl ⟨hkey, hinsert, rfl⟩
  | parameter hkey hinsert => exact .inr ⟨hkey, .inl ⟨hinsert, rfl⟩⟩
  | sample hkey hinsert hrequired => exact .inr ⟨hkey, .inr ⟨hinsert, hrequired, rfl⟩⟩

theorem itself_iff_of_mem {a : RecordArgument} (ha : a ∈ recordArguments v) :
    a.AssignsItself ↔ a.column ∈ v.insert ∨
      (v.generatedKey? = some a.column ∧ generatedKeyExpression a.column = a.column.fieldName) ∨
      (a.column ∉ v.insert ∧ v.generatedKey? ≠ some a.column ∧
        a.column.sample = a.column.fieldName) := by
  rw [RecordArgument.assignsItself_iff]
  rcases value_of_mem h ha with ⟨hkey, hinsert, hvalue⟩ |
    ⟨hkey, ⟨hinsert, hvalue⟩ | ⟨hinsert, -, hvalue⟩⟩
  · simp [hvalue, hkey, hinsert]
  · simp [hvalue, hinsert]
  · simp [hvalue, hkey, hinsert]

theorem mem_assigned_iff (hc : c ∈ v.columns) :
    (c.name ∈ (recordArguments v).map fun a => a.column.name) ↔
      (recordArgument v c).isSome = true := by
  constructor
  · intro hname
    obtain ⟨⟨other, value⟩, ha, hsame⟩ := List.mem_map.mp hname
    obtain ⟨hother, hargument⟩ := mem_recordArguments_iff.mp ha
    rw [← h.eq_of_name_eq hother hc hsame, hargument]
    rfl
  · intro hsome
    obtain ⟨a, ha⟩ := Option.isSome_iff_exists.mp hsome
    have hcolumn := column_of_recordArgument ha
    exact List.mem_map.mpr ⟨a, List.mem_filterMap.mpr ⟨c, hc, ha⟩, congrArg _ hcolumn⟩

theorem nodup_assigned (hnames : (namesOf table.columns).Nodup) :
    ((recordArguments v).map fun a => a.column.name).Nodup := by
  rw [← h.columns] at hnames
  have hsublist : ((recordArguments v).map RecordArgument.column).Sublist v.columns := by
    rw [map_column_recordArguments]
    exact List.filter_sublist
  have hassigned := hnames.sublist (hsublist.map ColumnView.name)
  rwa [List.map_map] at hassigned

theorem assigns_recordArguments (hnames : (namesOf table.columns).Nodup) :
    Assigns v (recordArguments v) where
  ordered := by
    rw [map_column_recordArguments]
    exact List.filter_sublist
  required c hc hrequired := by
    refine List.count_eq_one_of_mem (nodup_assigned h hnames) ((mem_assigned_iff h hc).mpr ?_)
    obtain ⟨argument, hargument, hstands⟩ := exists_stands h hc
    rw [hargument]
    cases hstands with
    | generatedKey | parameter | sample => rfl
    | nothing _ _ hoptional => rw [hoptional] at hrequired; cases hrequired
  optional c _ _ := List.nodup_iff_count_le_one.mp (nodup_assigned h hnames) c.name
  omitted c hc := by
    rw [mem_assigned_iff h hc]
    obtain ⟨argument, hargument, hstands⟩ := exists_stands h hc
    rw [hargument]
    cases hstands with
    | generatedKey hkey hinsert => simp [hkey]
    | parameter hkey hinsert => simp [hinsert]
    | sample hkey hinsert hrequired => simp [hrequired]
    | nothing hkey hinsert hoptional => simp [hkey, hinsert, hoptional]
  sample c hc hrequired hinsert hkey := by
    obtain ⟨argument, hargument, hstands⟩ := exists_stands h hc
    refine mem_recordArguments_iff.mpr ⟨hc, ?_⟩
    rw [hargument]
    cases hstands with
    | generatedKey htaken => exact absurd htaken hkey
    | parameter _ hwritten => exact absurd hwritten hinsert
    | sample => rfl
    | nothing _ _ hoptional => rw [hoptional] at hrequired; cases hrequired
  itself _ ha := itself_iff_of_mem h ha

end Columns

section Statements

theorem getLast?_onLast (f : String → String) (lines : List String) :
    (onLast f lines).getLast? = lines.getLast?.map f := by
  rw [List.getLast?_eq_getElem?, List.getLast?_eq_getElem?, length_onLast, getElem?_onLast]
  cases h : lines[lines.length - 1]? with
  | none => rfl
  | some line =>
    have hlength := (List.getElem?_eq_some_iff.mp h).1
    have hlast : ¬lines.length - 1 + 1 < lines.length := by omega
    rw [Option.map_some, if_neg hlast, Option.map_some]

/-- The first line of an insert opens its style. -/
theorem exists_insert_eq (template : SqlTemplate) (v : TableView) :
    ∃ first ∈ ["sql\"\"\"", "withSQL \x7b"], ∃ second rest,
      (Style.of template).insert v = first :: second :: rest := by
  cases template with
  | interpolation => exact ⟨_, .head _, _, _, rfl⟩
  | queryDsl => exact ⟨_, .tail _ (.head _), _, _, rfl⟩

/-- The statement is the insert with its execution at the end and, for a generated key, the name of
the key at the start. -/
theorem exists_ends_createStatement (template : SqlTemplate) (v : TableView) :
    ∃ first ∈ ["sql\"\"\"", "withSQL \x7b"], ∃ last,
      (createStatement (Style.of template) v).head? =
        some (if v.generatedKey?.isSome then "val generatedKey = " ++ first else first) ∧
      (createStatement (Style.of template) v).getLast? = some (last ++ executeInsert v) := by
  obtain ⟨first, hfirst, second, rest, hinsert⟩ := exists_insert_eq template v
  refine ⟨first, hfirst, (second :: rest).getLast (List.cons_ne_nil _ _), ?_⟩
  have hrest : onLast (· ++ executeInsert v) (second :: rest) ≠ [] := by
    rw [onLast_cons]
    exact List.cons_ne_nil _ _
  have hlast : (onLast (· ++ executeInsert v) (second :: rest)).getLast? =
      some ((second :: rest).getLast (List.cons_ne_nil _ _) ++ executeInsert v) := by
    rw [getLast?_onLast, List.getLast?_eq_some_getLast (List.cons_ne_nil _ _), Option.map_some]
  unfold createStatement
  rw [hinsert, onLast_cons, List.isEmpty_cons, if_neg Bool.false_ne_true]
  cases v.generatedKey? with
  | none => exact ⟨rfl, (List.getLast?_cons_of_ne_nil hrest).trans hlast⟩
  | some key => exact ⟨rfl, (List.getLast?_cons_of_ne_nil hrest).trans hlast⟩

/-- No conversion of the key begins like a wrapped one. -/
theorem wrapped_iff (c : ColumnView) :
    "Some(".toList <+: (generatedKeyExpression c).toList ↔ c.isNotNull = false := by
  have hall : ∀ expr ∈ "generatedKey" :: keyConversions.map Prod.snd,
      ¬"Some(".toList <+: expr.toList := by decide
  obtain ⟨expr, hmem, hexpr⟩ := exists_generatedKeyExpression_eq c
  rw [hexpr]
  cases c.isNotNull with
  | true => simpa using hall expr hmem
  | false =>
    rw [if_neg Bool.false_ne_true, String.toList_append, String.toList_append, List.append_assoc]
    simp only [List.prefix_append]

/-- The line that executes an insert does not ask for the key. -/
theorem not_asks_of_update (last : String) :
    ¬".updateAndReturnGeneratedKey.apply()".toList <:+ (last ++ ".update.apply()").toList := by
  intro hasks
  rw [String.toList_append] at hasks
  -- Of two endings of one line the shorter one ends the longer one.
  have hshort := List.suffix_of_suffix_length_le (List.suffix_append ..) hasks (by decide)
  revert hshort
  decide

theorem usesKey_of_none {template : SqlTemplate} {v : TableView} (h : v.autoIncrement = [])
    {arguments : List RecordArgument} (hrest : ∀ a ∈ arguments, a.IsOwn v) :
    UsesKey v (createStatement (Style.of template) v) arguments := by
  have hkey := generatedKey?_of_nil h
  obtain ⟨first, hfirst, last, hhead, hlast⟩ := exists_ends_createStatement template v
  rw [hkey] at hhead
  rw [executeInsert, hkey] at hlast
  refine .dropped h ?_ ?_ hrest
  · rintro ⟨line, hline, hopens⟩
    obtain rfl : first = line := Option.some_inj.mp (hhead.symm.trans hline)
    have hall : ∀ first ∈ ["sql\"\"\"", "withSQL \x7b"],
        ¬"val generatedKey = ".toList <+: first.toList := by decide
    exact hall first hfirst hopens
  · rintro ⟨line, hline, hcloses⟩
    obtain rfl : last ++ ".update.apply()" = line := Option.some_inj.mp (hlast.symm.trans hline)
    exact not_asks_of_update last hcloses

theorem usesKey_of_head {template : SqlTemplate} {v : TableView} {key : ColumnView}
    {others : List ColumnView} (h : v.autoIncrement = key :: others)
    {arguments : List RecordArgument}
    (htaken : (arguments.filter fun a => a.column.name = key.name) =
      [⟨key, generatedKeyExpression key⟩])
    (hrest : ∀ a ∈ arguments, a.column.name ≠ key.name → a.IsOwn v) :
    UsesKey v (createStatement (Style.of template) v) arguments := by
  have hkey := generatedKey?_of_cons h
  obtain ⟨first, -, last, hhead, hlast⟩ := exists_ends_createStatement template v
  rw [hkey] at hhead
  rw [executeInsert, hkey] at hlast
  refine .kept key others h ⟨_, hhead, ?_⟩ ⟨_, hlast, ?_⟩ htaken hrest (wrapped_iff key)
  · rw [if_pos Option.isSome_some, String.toList_append]
    exact List.prefix_append ..
  · rw [String.toList_append]
    exact List.suffix_append ..

theorem usesKey_createStatement {config : Settings} {table : Table} {v : TableView}
    (h : Partitioned config table v) (hnames : (namesOf table.columns).Nodup)
    (template : SqlTemplate) :
    UsesKey v (createStatement (Style.of template) v) (recordArguments v) := by
  cases hcolumns : v.autoIncrement with
  | nil =>
    refine usesKey_of_none hcolumns fun a ha => ?_
    rcases value_of_mem h ha with ⟨hkey, -⟩ | ⟨-, hown⟩
    · rw [generatedKey?_of_nil hcolumns] at hkey
      cases hkey
    · exact hown
  | cons key others =>
    have hkey := generatedKey?_of_cons hcolumns
    -- Both lists are free of repetitions, so it is enough that they have the same members.
    have hnodup := (nodup_assigned h hnames).of_map.filter fun a => a.column.name = key.name
    refine usesKey_of_head hcolumns (List.perm_singleton.mp
      ((List.perm_ext_iff_of_nodup hnodup (List.nodup_singleton _)).mpr fun a => ?_))
      fun a ha hne => ?_
    · rw [List.mem_filter, List.mem_singleton, decide_eq_true_iff]
      constructor
      · rintro ⟨ha, hname⟩
        obtain ⟨column, value⟩ := a
        have hmem := h.autoIncrement_subset (mem_autoIncrement_of_generatedKey? hkey)
        obtain rfl : column = key := h.eq_of_name_eq (mem_recordArguments_iff.mp ha).1 hmem hname
        rcases value_of_mem h ha with ⟨-, -, hvalue⟩ | ⟨hother, -⟩
        · exact congrArg _ hvalue
        · exact absurd hkey hother
      · rintro rfl
        exact ⟨mem_recordArguments_of_generatedKey? h hkey, rfl⟩
    · rcases value_of_mem h ha with ⟨hsame, -⟩ | ⟨-, hown⟩
      · rw [Option.some_inj.mp (hkey.symm.trans hsame)] at hne
        exact absurd rfl hne
      · exact hown

end Statements

/-- When the columns of a table have different names, the body of `create` is its statement and a
record with one argument for every required column, at most one for an optional one, and none for
a column that `create` neither writes nor generates as the key and that may be null. The arguments
are in declaration order. The generated key is kept and taken together, and the other values are
parameters of `create` and samples. A column is assigned itself exactly when it is a parameter or
its key or sample reads like its field. -/
theorem create_completes_record {table : Table} (h : (namesOf table.columns).Nodup)
    (config : Settings) (explicit : Option Value) (template : SqlTemplate) :
    let v := TableView.of config table explicit
    let style := Style.of template
    ∃ m ∈ methods config style v, m.operation = "create" ∧ m.Takes "create" (createParameters v) ∧
      m.body = createStatement style v ++ [""] ++ createRecord v ∧
      ∃ arguments, Constructs v.className arguments (createRecord v) ∧ Assigns v arguments ∧
        UsesKey v (createStatement style v) arguments := by
  intro v style
  obtain ⟨m, hm, htakes, hbody⟩ := exists_methods_create config style v
  have hpartitioned : Partitioned config table v := partitioned_of config table explicit
  refine ⟨m, List.mem_of_getElem? hm, ?_, htakes, hbody, recordArguments v,
    constructs_createRecord v, assigns_recordArguments hpartitioned h,
    usesKey_createStatement hpartitioned h template⟩
  have hname : operations[6]? = some m.operation := by
    rw [← map_operation_methods config style v, List.getElem?_map, hm, Option.map_some]
  exact (Option.some_inj.mp hname).symm

namespace Sample

/-- A table whose generated key may be null, beside a second number that increments itself, a
computed total, a computed remark and two columns that are written. -/
def ledger : Table where
  name := "ledger"
  columns := [⟨"id", 4, "INTEGER", 0, false, true, false⟩,
    ⟨"seq", 4, "INTEGER", 0, true, true, false⟩, ⟨"owner", 12, "VARCHAR", 30, true, false, false⟩,
    ⟨"total", -5, "BIGINT", 0, true, false, true⟩,
    ⟨"remark", 12, "VARCHAR", 30, false, false, true⟩,
    ⟨"closed", 91, "DATE", 0, false, false, false⟩]
  autoIncrement := [⟨"id", 4, "INTEGER", 0, false, true, false⟩,
    ⟨"seq", 4, "INTEGER", 0, true, true, false⟩]
  primaryKey := []
  generated := [⟨"total", -5, "BIGINT", 0, true, false, true⟩,
    ⟨"remark", 12, "VARCHAR", 30, false, false, true⟩]
  schema := none
  autoIncrement_declared := by decide
  primaryKey_declared := by decide
  generated_declared := by decide

/-- A table whose key has the name of the generated key. -/
def counter : Table where
  name := "counter"
  columns := [⟨"generated_key", -5, "BIGINT", 0, true, true, false⟩,
    ⟨"owner", 12, "VARCHAR", 30, true, false, false⟩]
  autoIncrement := [⟨"generated_key", -5, "BIGINT", 0, true, true, false⟩]
  primaryKey := []
  generated := []
  schema := none
  autoIncrement_declared := by decide
  primaryKey_declared := by decide
  generated_declared := by decide

/-- A table with a column of that name beside its key. -/
def audit : Table where
  name := "audit"
  columns := [⟨"id", -5, "BIGINT", 0, true, true, false⟩,
    ⟨"generated_key", -5, "BIGINT", 0, true, false, false⟩]
  autoIncrement := [⟨"id", -5, "BIGINT", 0, true, true, false⟩]
  primaryKey := []
  generated := []
  schema := none
  autoIncrement_declared := by decide
  primaryKey_declared := by decide
  generated_declared := by decide

end Sample

/-- Only the remark is left out of the record. -/
theorem create_completes_record_of_ledger :
    let v := TableView.of Settings.default Sample.ledger none
    let style := Style.of .queryDsl
    (namesOf Sample.ledger.columns).Nodup ∧
    createRecord v = ["Ledger(", "  id = Some(generatedKey.toInt),", "  seq = 123,",
      "  owner = owner,", "  total = 1L,", "  closed = closed)"] ∧
    ∃ m ∈ methods Settings.default style v, m.Takes "create" (createParameters v) ∧
      m.body = createStatement style v ++ [""] ++ createRecord v ∧
      ∃ arguments, Constructs v.className arguments (createRecord v) ∧ Assigns v arguments ∧
        UsesKey v (createStatement style v) arguments := by
  intro v style
  have hnodup : (namesOf Sample.ledger.columns).Nodup := by decide
  obtain ⟨m, hm, -, htakes, hbody, harguments⟩ :=
    create_completes_record hnodup Settings.default none .queryDsl
  exact ⟨hnodup, by decide +kernel, m, hm, htakes, hbody, harguments⟩

/-- The key is assigned itself where `create` has no such parameter, and where it has one, its
argument reads like the one that takes the key. -/
theorem create_takes_key_for_parameter :
    let counter := TableView.of Settings.default Sample.counter none
    let audit := TableView.of Settings.default Sample.audit none
    (namesOf Sample.counter.columns).Nodup ∧ (namesOf Sample.audit.columns).Nodup ∧
    createRecord counter = ["Counter(", "  generatedKey = generatedKey,", "  owner = owner)"] ∧
    (createParameters counter).map Parameter.name = ["owner"] ∧
    createRecord audit = ["Audit(", "  id = generatedKey,", "  generatedKey = generatedKey)"] := by
  decide +kernel

end RecordMapper.Source
