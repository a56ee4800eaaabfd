import RecordMapper.View.Table

/-!
# Views of the subsets of a table

The views of a subset are looked up by name. Every column of a subset is declared, so none is lost,
and the views are in the order of the subset under its names.
-/
namespace RecordMapper.View

open RecordMapper.Config RecordMapper.Schema

theorem mem_of_viewNamed? {views : List ColumnView} {name : String} {c : ColumnView}
    (h : viewNamed? views name = some c) : c ∈ views ∧ c.name = name := by
  unfold viewNamed? at h
  exact ⟨List.mem_reverse.mp (List.mem_of_find?_eq_some h), by simpa using List.find?_some h⟩

theorem mem_of_mem_pick {views : List ColumnView} {columns : List Column} {c : ColumnView}
    (h : c ∈ pick views columns) : c ∈ views := by
  obtain ⟨column, -, hfound⟩ := List.mem_filterMap.mp h
  exact (mem_of_viewNamed? hfound).1

theorem exists_viewNamed? {views : List ColumnView} {name : String}
    (h : name ∈ views.map ColumnView.name) : ∃ c, viewNamed? views name = some c := by
  obtain ⟨c, hc, hname⟩ := List.mem_map.mp h
  refine Option.isSome_iff_exists.mp (List.find?_isSome.mpr ⟨c, List.mem_reverse.mpr hc, ?_⟩)
  exact decide_eq_true hname

/-- What was picked is what the lookup of its own name gives. -/
theorem mem_pick_iff {views : List ColumnView} {columns : List Column} {c : ColumnView} :
    c ∈ pick views columns ↔ viewNamed? views c.name = some c ∧ c.name ∈ namesOf columns := by
  rw [pick, List.mem_filterMap]
  constructor
  · rintro ⟨column, hcolumn, hfound⟩
    have hname := (mem_of_viewNamed? hfound).2
    rw [hname]
    exact ⟨hfound, List.mem_map_of_mem hcolumn⟩
  · rintro ⟨hfound, hname⟩
    obtain ⟨column, hcolumn, hsame⟩ := List.mem_map.mp hname
    exact ⟨column, hcolumn, by rw [hsame, hfound]⟩

/-- Two picks of one name are the same view, whatever subsets they are from. -/
theorem eq_of_mem_pick {views : List ColumnView} {columns others : List Column} {c d : ColumnView}
    (hc : c ∈ pick views columns) (hd : d ∈ pick views others) (hname : c.name = d.name) :
    c = d := by
  have hfound := (mem_pick_iff.mp hc).1
  rw [hname, (mem_pick_iff.mp hd).1] at hfound
  exact (Option.some_inj.mp hfound).symm

theorem map_name_pick {views : List ColumnView} {columns : List Column}
    (h : ∀ column ∈ columns, column.name ∈ views.map ColumnView.name) :
    (pick views columns).map ColumnView.name = namesOf columns := by
  induction columns with
  | nil => rfl
  | cons column rest ih =>
    obtain ⟨c, hfound⟩ := exists_viewNamed? (h column (List.mem_cons_self ..))
    have hrest := ih fun other hother => h other (List.mem_cons_of_mem _ hother)
    rw [pick, List.filterMap_cons, hfound, List.map_cons, (mem_of_viewNamed? hfound).2]
    exact congrArg (column.name :: ·) hrest

/-- A condition on names picks the same views before and after the lookup. -/
theorem pick_filter (views : List ColumnView) (columns : List Column) (keeps : String → Bool) :
    pick views (columns.filter fun column => keeps column.name) =
      (pick views columns).filter fun c => keeps c.name := by
  induction columns with
  | nil => rfl
  | cons column rest ih =>
    unfold pick at ih ⊢
    rw [List.filterMap_cons]
    cases hfound : viewNamed? views column.name with
    | none =>
      rw [← ih, List.filter_cons]
      split
      · rw [List.filterMap_cons, hfound]
      · rfl
    | some c =>
      have hname := (mem_of_viewNamed? hfound).2
      rw [List.filter_cons, List.filter_cons, hname, ← ih]
      split
      · rw [List.filterMap_cons, hfound]
      · rfl

section Tables

variable (config : Settings) (table : Table) (explicit : Option Value)

/-- A subset of a table under the names of its columns. -/
theorem map_name_pick_of_declares {subset : List Column} (h : Declares table.columns subset) :
    (pick (table.columns.map (ColumnView.of config (classOf config table explicit))) subset).map
      ColumnView.name = namesOf subset := by
  refine map_name_pick fun column hcolumn => ?_
  rw [List.map_map]
  exact h column hcolumn

theorem declares_columns : Declares table.columns table.columns :=
  fun _ hc => List.mem_map_of_mem hc

theorem declares_keyColumns : Declares table.columns table.keyColumns := by
  unfold Table.keyColumns
  split
  · exact declares_columns table
  · exact table.primaryKey_declared

theorem declares_insertColumns : Declares table.columns table.insertColumns :=
  fun _ hc => List.mem_map_of_mem (Table.mem_insertColumns.mp hc).1

theorem declares_updateColumns : Declares table.columns table.updateColumns :=
  fun _ hc => List.mem_map_of_mem (Table.mem_updateColumns.mp hc).1

/-- The view of a declared column is among all of them. -/
theorem mem_columns_of_mem_pick {subset : List Column} (h : Declares table.columns subset)
    {c : ColumnView} (hc : c ∈ pick
      (table.columns.map (ColumnView.of config (classOf config table explicit))) subset) :
    c ∈ (TableView.of config table explicit).columns := by
  obtain ⟨hfound, hname⟩ := mem_pick_iff.mp hc
  obtain ⟨column, hcolumn, hsame⟩ := List.mem_map.mp hname
  exact mem_pick_iff.mpr ⟨hfound, hsame ▸ h column hcolumn⟩

theorem map_name_columns :
    (TableView.of config table explicit).columns.map ColumnView.name = namesOf table.columns :=
  map_name_pick_of_declares config table explicit (declares_columns table)

theorem map_name_key :
    (TableView.of config table explicit).key.map ColumnView.name = namesOf table.keyColumns :=
  map_name_pick_of_declares config table explicit (declares_keyColumns table)

theorem map_name_insert :
    (TableView.of config table explicit).insert.map ColumnView.name = namesOf table.insertColumns :=
  map_name_pick_of_declares config table explicit (declares_insertColumns table)

theorem map_name_update :
    (TableView.of config table explicit).update.map ColumnView.name = namesOf table.updateColumns :=
  map_name_pick_of_declares config table explicit (declares_updateColumns table)

theorem map_name_autoIncrement :
    (TableView.of config table explicit).autoIncrement.map ColumnView.name =
      namesOf table.autoIncrement :=
  map_name_pick_of_declares config table explicit table.autoIncrement_declared

/-- A column is inserted unless the database fills it in. -/
theorem insert_eq_filter_names :
    (TableView.of config table explicit).insert =
      (TableView.of config table explicit).columns.filter fun c =>
        c.name ∉ namesOf table.autoIncrement ∧ c.name ∉ namesOf table.generated := by
  refine (pick_filter _ _ fun name =>
    !(decide (name ∈ namesOf table.autoIncrement) || decide (name ∈ namesOf table.generated)))
    |>.trans (List.filter_congr fun c _ => ?_)
  rw [Bool.not_or, Bool.decide_and, decide_not, decide_not]

/-- A column is updated unless the database computes it. -/
theorem update_eq_filter_names :
    (TableView.of config table explicit).update =
      (TableView.of config table explicit).columns.filter fun c =>
        c.name ∉ namesOf table.generated := by
  refine (pick_filter _ _ fun name => !decide (name ∈ namesOf table.generated)).trans
    (List.filter_congr fun c _ => ?_)
  rw [decide_not]

/-- The inserted columns are those of all columns that an insert names, in their order. -/
theorem insert_eq_filter :
    (TableView.of config table explicit).insert =
      (TableView.of config table explicit).columns.filter
        (TableView.of config table explicit).isInserted := by
  refine (insert_eq_filter_names config table explicit).trans (List.filter_congr fun c hc => ?_)
  rw [TableView.isInserted, decide_eq_decide, insert_eq_filter_names, List.mem_map]
  constructor
  · exact fun hkeeps => ⟨c, List.mem_filter.mpr ⟨hc, decide_eq_true hkeeps⟩, rfl⟩
  · rintro ⟨other, hother, hsame⟩
    rw [← hsame]
    exact of_decide_eq_true (List.mem_filter.mp hother).2

/-- The required arguments of `create` are the inserted columns that are not null. -/
theorem createFields_eq_filter :
    (TableView.of config table explicit).createFields =
      (TableView.of config table explicit).insert.filter ColumnView.isNotNull := by
  rw [insert_eq_filter, List.filter_filter]
  rfl

variable {config table explicit}

theorem exists_view (config : Settings) (explicit : Option Value) {column : Column}
    (h : column ∈ table.columns) :
    ∃ c ∈ (TableView.of config table explicit).columns, c.name = column.name := by
  have hname : column.name ∈ (TableView.of config table explicit).columns.map ColumnView.name := by
    rw [map_name_columns]
    exact List.mem_map_of_mem h
  exact List.mem_map.mp hname

theorem exists_column {c : ColumnView} (h : c ∈ (TableView.of config table explicit).columns) :
    ∃ column ∈ table.columns, column.name = c.name := by
  have hname : c.name ∈ namesOf table.columns := by
    rw [← map_name_columns config table explicit]
    exact List.mem_map_of_mem h
  exact List.mem_map.mp hname

/-- A view shows the answer of the policy for its own name. -/
theorem fieldName_of_answer {c : ColumnView}
    (hc : c ∈ (TableView.of config table explicit).columns) {name : String}
    (h : config.fieldName c.name = .text name) : c.fieldName = name := by
  obtain ⟨column, -, rfl⟩ := List.mem_map.mp (mem_of_mem_pick hc)
  have hanswer : config.fieldName column.name = .text name := h
  simp only [ColumnView.fieldName, ColumnView.of, hanswer, Value.display]

/-- No inserted column is filled in by the database. -/
theorem not_mem_of_mem_insert {c : ColumnView}
    (h : c ∈ (TableView.of config table explicit).insert) :
    c.name ∉ namesOf table.autoIncrement ∧ c.name ∉ namesOf table.generated := by
  rw [insert_eq_filter_names, List.mem_filter, decide_eq_true_iff] at h
  exact h.2

/-- No updated column is computed by the database. -/
theorem not_mem_of_mem_update {c : ColumnView}
    (h : c ∈ (TableView.of config table explicit).update) : c.name ∉ namesOf table.generated := by
  rw [update_eq_filter_names, List.mem_filter, decide_eq_true_iff] at h
  exact h.2

end Tables

end RecordMapper.View
