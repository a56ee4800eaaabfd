import RecordMapper.Proofs.View.Subsets
import RecordMapper.Source.Statement

/-!
# Lists of written columns

The inserts and updates of a model are put together from lists with one entry for every column that
is written. All of them follow the order of the view, and all bind a column in the same way.
-/
namespace RecordMapper.Source

open RecordMapper.Config RecordMapper.Schema RecordMapper.Text RecordMapper.View

section Lines

theorem getElem?_withCommas (items : List String) (i : Nat) :
    (withCommas items)[i]? = items[i]?.map fun item =>
      item ++ if i + 1 < items.length then "," else "" := by
  fun_induction withCommas items generalizing i with
  | case1 => rfl
  | case2 item => cases i <;> simp
  | case3 item rest hrest ih =>
    cases i with
    | zero =>
      have hlength : 0 < rest.length := List.length_pos_iff.mpr (by simpa using hrest)
      simp [hlength]
    | succ i => simp [ih]

theorem getElem?_onLast (f : String → String) (lines : List String) (i : Nat) :
    (onLast f lines)[i]? = lines[i]?.map fun line =>
      if i + 1 < lines.length then line else f line := by
  fun_induction onLast f lines generalizing i with
  | case1 => rfl
  | case2 line => cases i <;> simp
  | case3 line rest hrest ih =>
    cases i with
    | zero =>
      have hlength : 0 < rest.length := List.length_pos_iff.mpr (by simpa using hrest)
      simp [hlength]
    | succ i => simp [ih]

theorem length_onLast (f : String → String) (lines : List String) :
    (onLast f lines).length = lines.length := by
  fun_induction onLast f lines <;> simp_all

theorem onLast_cons (f : String → String) (line : String) (rest : List String) :
    onLast f (line :: rest) = (if rest.isEmpty then f line else line) :: onLast f rest := by
  cases rest <;> rfl

theorem dropLast_onLast (f : String → String) (lines : List String) :
    (onLast f lines).dropLast = lines.dropLast := by
  fun_induction onLast f lines with
  | case1 => rfl
  | case2 line => rfl
  | case3 line rest hrest ih =>
    have hne : onLast f rest ≠ [] := by
      rw [← List.length_pos_iff, length_onLast, List.length_pos_iff]
      simpa using hrest
    rw [List.dropLast_cons_of_ne_nil hne, ih, List.dropLast_cons_of_ne_nil (by simpa using hrest)]

theorem dropLast_tail_onFirst (f : String → String) (lines : List String) :
    (onFirst f lines).dropLast.tail = lines.dropLast.tail := by
  match lines with
  | [] => rfl
  | [line] => rfl
  | line :: second :: rest => rfl

theorem length_listed (level : Nat) (items : List String) :
    (listed level items).length = items.length := by
  rw [listed, length_withCommas, List.length_map]

theorem getElem?_listed (level : Nat) (items : List String) (i : Nat) :
    (listed level items)[i]? = items[i]?.map fun item =>
      margin level ++ item ++ if i + 1 < items.length then "," else "" := by
  rw [listed, getElem?_withCommas, List.length_map, List.getElem?_map, Option.map_map]
  rfl

end Lines

/-- One line for every column, in order: an entry at the level, a comma between two lines, and the
ending after the last. -/
structure Lists (level : Nat) (Entry : ColumnView → String → Prop) (ending : String)
    (columns : List ColumnView) (lines : List String) : Prop where
  length_eq : lines.length = columns.length
  getElem?_eq : ∀ i (h : i < columns.length), ∃ entry, Entry columns[i] entry ∧
    lines[i]? = some (margin level ++ entry ++ if i + 1 < columns.length then "," else ending)

section Lists

variable {level : Nat} {Entry : ColumnView → String → Prop} {columns : List ColumnView}

theorem lists_listed {entry : ColumnView → String} (h : ∀ c, Entry c (entry c)) :
    Lists level Entry "" columns (listed level (columns.map entry)) where
  length_eq := by rw [length_listed, List.length_map]
  getElem?_eq i hi := by
    refine ⟨entry columns[i], h _, ?_⟩
    rw [getElem?_listed, List.getElem?_map, List.length_map, List.getElem?_eq_getElem hi]
    rfl

theorem Lists.onLast {lines : List String} (h : Lists level Entry "" columns lines)
    (ending : String) : Lists level Entry ending columns (onLast (· ++ ending) lines) where
  length_eq := (length_onLast ..).trans h.length_eq
  getElem?_eq i hi := by
    obtain ⟨entry, hentry, hline⟩ := h.getElem?_eq i hi
    refine ⟨entry, hentry, ?_⟩
    rw [getElem?_onLast, hline, h.length_eq]
    by_cases hlast : i + 1 < columns.length
    · simp [hlast]
    · simp [hlast]

end Lists

/-- What is bound for a column: the access to its field, or an explicit binder around the access
when the type of the field is `Any`. -/
inductive Binds (c : ColumnView) (access : String) : String → Prop
  | typed (htype : c.rawType ≠ "Any") : Binds c access access
  | any (htype : c.rawType = "Any") : Binds c access
      ("ParameterBinder(" ++ access ++ ", (ps, i) => ps.setObject(i, " ++ access ++ "))")

/-- The column in an interpolated statement. -/
def ColumnEntry (c : ColumnView) (entry : String) : Prop :=
  entry = "$\x7bcolumn." ++ c.fieldName ++ "\x7d"

/-- The value in an interpolated statement. -/
def ValueEntry (path : String) (c : ColumnView) (entry : String) : Prop :=
  ∃ value, Binds c (path ++ c.fieldName) value ∧ entry = "$\x7b" ++ value ++ "\x7d"

/-- Column and value in an interpolated statement. -/
def AssignmentEntry (path : String) (c : ColumnView) (entry : String) : Prop :=
  ∃ column value, ColumnEntry c column ∧ ValueEntry path c value ∧ entry = column ++ " = " ++ value

/-- Column and value for the query builder. -/
def NamedEntry (path : String) (c : ColumnView) (entry : String) : Prop :=
  ∃ value, Binds c (path ++ c.fieldName) value ∧
    (entry = "column." ++ c.fieldName ++ " -> " ++ value ∨
      entry = "(column." ++ c.fieldName ++ ", " ++ value ++ ")")

/-- A parameter of a batch insert under its key. A binder is bound as it is. -/
def ParameterEntry (c : ColumnView) (entry : String) : Prop :=
  ∃ value, Binds c ("entity." ++ c.fieldName) value ∧
    entry = "\"" ++ c.bareName ++ "\" -> " ++
      (if c.rawType = "Any" then value else "toParameterBinder(" ++ value ++ ")")

/-- The place of a parameter in a batch insert, which names its key. -/
def PlaceEntry (c : ColumnView) (entry : String) : Prop := entry = "\x7b" ++ c.bareName ++ "\x7d"

/-- The column in a batch insert. -/
def NameEntry (c : ColumnView) (entry : String) : Prop := entry = c.name

section Entries

theorem isAny_iff {c : ColumnView} : c.isAny = true ↔ c.rawType = "Any" := decide_eq_true_iff

theorem binds_bound (c : ColumnView) (access : String) : Binds c access (bound c access) := by
  unfold bound
  split
  · exact .any (isAny_iff.mp ‹_›)
  · rename_i htyped
    exact .typed fun htype => htyped (isAny_iff.mpr htype)

theorem columnEntry (c : ColumnView) : ColumnEntry c (interpolatedColumn c) := by
  rw [ColumnEntry, interpolatedColumn, interpolate, ← String.append_assoc]
  rfl

theorem valueEntry (path : String) (c : ColumnView) :
    ValueEntry path c (interpolatedValue path c) :=
  ⟨_, binds_bound c _, rfl⟩

theorem assignmentEntry (path : String) (c : ColumnView) :
    AssignmentEntry path c (interpolatedColumn c ++ " = " ++ interpolatedValue path c) :=
  ⟨_, _, columnEntry c, valueEntry path c, rfl⟩

theorem namedEntry (path : String) (c : ColumnView) : NamedEntry path c (namedValue path c) := by
  refine ⟨_, binds_bound c _, ?_⟩
  unfold namedValue bound
  split
  · exact .inr rfl
  · exact .inl rfl

theorem parameterEntry (c : ColumnView) : ParameterEntry c (batchParameter c) := by
  refine ⟨_, binds_bound c _, ?_⟩
  unfold batchParameter bound
  simp only [isAny_iff]
  split <;> rfl

theorem placeEntry (c : ColumnView) : PlaceEntry c (batchPlaceholder c) := rfl

theorem nameEntry (c : ColumnView) : NameEntry c c.name := rfl

end Entries

/-- How a model writes its rows. Each statement is made of lists with one entry for every inserted
column, or for every updated one. -/
structure WritesInOrder (v : TableView) : Prop where
  interpolatedInsert : ∃ columns values, Lists 2 ColumnEntry "" v.insert columns ∧
    Lists 2 (ValueEntry "") "" v.insert values ∧
    interpolationStyle.insert v =
      ["sql\"\"\"", margin 1 ++ "insert into " ++ Interpolation.table v ++ " ("] ++ columns ++
        [margin 1 ++ ") values ("] ++ values ++ [margin 1 ++ ")", margin 1 ++ "\"\"\""]
  dslInsert : ∃ values, Lists 2 (NamedEntry "") "" v.insert values ∧
    queryDslStyle.insert v =
      ["withSQL \x7b", margin 1 ++ "insert.into(" ++ v.className ++ ").namedValues("] ++ values ++
        [margin 1 ++ ")", "\x7d"]
  batchInsert : ∀ collection, ∃ parameters names places,
    Lists 2 ParameterEntry "))" v.insert parameters ∧ Lists 1 NameEntry "" v.insert names ∧
    Lists 1 PlaceEntry "" v.insert places ∧
    batchInsertBody v collection =
      ["def toParameterBinder[A](value: A)(implicit ev: ParameterBinderFactory[A]): " ++
          "ParameterBinder = ev(value)",
        "val params: collection.Seq[Seq[(String, Any)]] = entities.map(entity =>",
        margin 1 ++ "Seq(" ++ if v.insert.isEmpty then "))" else ""] ++ parameters ++
        ["SQL(\"\"\"insert into " ++ v.qualifiedName ++ "("] ++ names ++ [") values ("] ++
        places ++ [")\"\"\").batchByName(params.toSeq: _*).apply[" ++ collection ++ "]()"]
  interpolatedSave : ∃ sets, Lists 2 (AssignmentEntry "entity.") "" v.update sets ∧
    interpolationStyle.save v =
      ["sql\"\"\"", margin 1 ++ "update", margin 2 ++ Interpolation.table v, margin 1 ++ "set"] ++
        sets ++
        [margin 1 ++ "where", margin 2 ++ Interpolation.entityPredicate v,
          margin 1 ++ "\"\"\".update.apply()", "entity"]
  dslSave : ∃ sets, Lists 2 (NamedEntry "entity.") "" v.update sets ∧
    queryDslStyle.save v =
      ["withSQL \x7b", margin 1 ++ "update(" ++ v.className ++ ").set("] ++ sets ++
        [margin 1 ++ ").where" ++ QueryDsl.entityPredicate v, "\x7d.update.apply()", "entity"]

theorem writesInOrder (v : TableView) : WritesInOrder v where
  interpolatedInsert := ⟨_, _, lists_listed columnEntry, lists_listed (valueEntry ""), rfl⟩
  dslInsert := ⟨_, lists_listed (namedEntry ""), rfl⟩
  batchInsert collection := by
    have hparameters :
        Lists 2 ParameterEntry "" v.insert (listed 2 (v.insert.map batchParameter)) :=
      lists_listed parameterEntry
    refine ⟨_, _, _, hparameters.onLast "))", lists_listed nameEntry, lists_listed placeEntry, ?_⟩
    -- The parentheses close on the opening line if no parameter follows it.
    have hempty : (listed 2 (v.insert.map batchParameter)).isEmpty = v.insert.isEmpty := by
      rw [Bool.eq_iff_iff, List.isEmpty_iff_length_eq_zero, List.isEmpty_iff_length_eq_zero,
        hparameters.length_eq]
    rw [batchInsertBody, onLast_cons, hempty]
    cases v.insert.isEmpty <;> simp
  interpolatedSave := ⟨_, lists_listed (assignmentEntry "entity."), rfl⟩
  dslSave := ⟨_, lists_listed (namedEntry "entity."), rfl⟩

/-- Between its first and its last line the statement of `create` is the insert. -/
theorem middle_createStatement (style : Style) (v : TableView) :
    (createStatement style v).dropLast.tail = (style.insert v).dropLast.tail := by
  simp only [createStatement]
  split
  · rw [dropLast_tail_onFirst, dropLast_onLast]
  · rw [dropLast_onLast]

/-- The inserted and the updated columns of a table are in declaration order without the ones that
the database fills in, and every write is made of lists with one entry for each of them. -/
theorem write_lists_in_order (config : Settings) (table : Table) (explicit : Option Value) :
    let v := TableView.of config table explicit
    v.insert.map ColumnView.name = namesOf table.insertColumns ∧
    (∀ c ∈ v.insert, c.name ∉ namesOf table.autoIncrement ∧ c.name ∉ namesOf table.generated) ∧
    v.update.map ColumnView.name = namesOf table.updateColumns ∧
    (∀ c ∈ v.update, c.name ∉ namesOf table.generated) ∧
    WritesInOrder v ∧
    ∀ style, (createStatement style v).dropLast.tail = (style.insert v).dropLast.tail :=
  ⟨map_name_insert config table explicit, fun _ hc => not_mem_of_mem_insert hc,
    map_name_update config table explicit, fun _ hc => not_mem_of_mem_update hc,
    writesInOrder _, fun style => middle_createStatement style _⟩

end RecordMapper.Source
