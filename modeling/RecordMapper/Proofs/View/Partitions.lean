import RecordMapper.Proofs.View.Subsets

/-!
# Partitions of the columns

The subsets of a table name columns but may describe them differently, and names may be repeated.
The views of a subset are looked up among the views of all columns, so a column has the same view in
every subset, and no lookup misses because every name in a subset is declared.
-/
namespace RecordMapper.View

open RecordMapper.Config RecordMapper.Schema

section Lookups

/-- The views of columns by their names, if none is missing. -/
def pick? (views : List ColumnView) (columns : List Column) : Option (List ColumnView) :=
  columns.mapM fun column => viewNamed? views column.name

theorem pick?_eq_some {views : List ColumnView} {columns : List Column}
    (h : ∀ column ∈ columns, column.name ∈ views.map ColumnView.name) :
    pick? views columns = some (pick views columns) := by
  induction columns with
  | nil => rfl
  | cons column rest ih =>
    obtain ⟨c, hfound⟩ := exists_viewNamed? (h column (List.mem_cons_self ..))
    have hrest := ih fun other hother => h other (List.mem_cons_of_mem _ hother)
    unfold pick? pick at hrest ⊢
    rw [List.mapM_cons, hfound, hrest, List.filterMap_cons, hfound]
    rfl

/-- The view with a name is that of the last column with it. -/
theorem viewNamed?_map (config : Settings) (className : Value) (columns : List Column)
    (name : String) : viewNamed? (columns.map (ColumnView.of config className)) name =
      (Table.lastNamed? columns name).map (ColumnView.of config className) := by
  rw [viewNamed?, Table.lastNamed?, ← List.map_reverse, List.find?_map]
  rfl

end Lookups

/-- The view of a table, if no lookup of a column misses. -/
def TableView.build? (config : Settings) (table : Table) (explicit : Option Value) :
    Option TableView := do
  let classAnswer := classOf config table explicit
  let views := table.columns.map (ColumnView.of config classAnswer)
  let columns ← pick? views table.columns
  let key ← pick? views table.keyColumns
  let insert ← pick? views table.insertColumns
  let update ← pick? views table.updateColumns
  let autoIncrement ← pick? views table.autoIncrement
  return {
    table, classAnswer, columns, key, insert, update, autoIncrement
    syntaxAnswer := config.syntaxName table.name
    variableAnswer := config.syntaxVariable table.name }

/-- How the lists of a view divide the columns of its table. -/
structure Partitioned (config : Settings) (table : Table) (v : TableView) : Prop where
  columns : v.columns.map ColumnView.name = namesOf table.columns
  /-- Of several columns with one name the last one is viewed. -/
  viewed : ∀ c ∈ v.columns, ∃ column, Table.lastNamed? table.columns c.name = some column ∧
    c = ColumnView.of config v.classAnswer column
  shared : ∀ c ∈ v.key ++ v.insert ++ v.update ++ v.autoIncrement,
    c ∈ v.columns ∧ ∀ d ∈ v.columns, d.name = c.name → d = c
  insert : v.insert = v.columns.filter fun c =>
    c.name ∉ namesOf table.autoIncrement ∧ c.name ∉ namesOf table.generated
  update : v.update = v.columns.filter fun c => c.name ∉ namesOf table.generated
  key : v.key.map ColumnView.name =
    if table.primaryKey = [] then namesOf table.columns else namesOf table.primaryKey
  keyless : table.primaryKey = [] → v.key = v.columns
  autoIncrement : v.autoIncrement.map ColumnView.name = namesOf table.autoIncrement

section Tables

variable (config : Settings) (table : Table) (explicit : Option Value)

theorem build?_eq_some :
    TableView.build? config table explicit = some (TableView.of config table explicit) := by
  have hpick {subset : List Column} (h : Declares table.columns subset) :
      pick? (table.columns.map (ColumnView.of config (classOf config table explicit))) subset =
        some (pick (table.columns.map (ColumnView.of config (classOf config table explicit)))
          subset) := by
    refine pick?_eq_some fun column hcolumn => ?_
    rw [List.map_map]
    exact h column hcolumn
  simp only [TableView.build?, hpick (declares_columns table), hpick (declares_keyColumns table),
    hpick (declares_insertColumns table), hpick (declares_updateColumns table),
    hpick table.autoIncrement_declared, Option.bind_eq_bind, Option.bind_some]
  rfl

theorem partitioned_of : Partitioned config table (TableView.of config table explicit) where
  columns := map_name_columns config table explicit
  viewed c hc := by
    have hfound := (mem_pick_iff.mp hc).1
    rw [viewNamed?_map] at hfound
    obtain ⟨column, hcolumn, rfl⟩ := Option.map_eq_some_iff.mp hfound
    exact ⟨column, hcolumn, rfl⟩
  shared := by
    have hshared {subset : List Column} (h : Declares table.columns subset) {c : ColumnView}
        (hc : c ∈ pick
          (table.columns.map (ColumnView.of config (classOf config table explicit))) subset) :
        c ∈ (TableView.of config table explicit).columns ∧
          ∀ d ∈ (TableView.of config table explicit).columns, d.name = c.name → d = c :=
      ⟨mem_columns_of_mem_pick config table explicit h hc,
        fun d hd hname => eq_of_mem_pick hd hc hname⟩
    simp only [List.mem_append]
    rintro c (((hc | hc) | hc) | hc)
    · exact hshared (declares_keyColumns table) hc
    · exact hshared (declares_insertColumns table) hc
    · exact hshared (declares_updateColumns table) hc
    · exact hshared table.autoIncrement_declared hc
  insert := insert_eq_filter_names config table explicit
  update := update_eq_filter_names config table explicit
  key := by
    rw [map_name_key, Table.keyColumns]
    simp only [List.isEmpty_iff]
    split <;> rfl
  keyless hnone := by
    have hcolumns : table.keyColumns = table.columns := by rw [Table.keyColumns, hnone]; rfl
    exact congrArg (pick _) hcolumns
  autoIncrement := map_name_autoIncrement config table explicit

end Tables

section Partitions

variable {config : Settings} {table : Table} {v : TableView} {c d : ColumnView}

theorem Partitioned.eq_of_name_eq (h : Partitioned config table v) (hc : c ∈ v.columns)
    (hd : d ∈ v.columns) (hname : c.name = d.name) : c = d := by
  obtain ⟨column, hcolumn, hviewed⟩ := h.viewed c hc
  obtain ⟨other, hother, hviewedOther⟩ := h.viewed d hd
  rw [hname, hother, Option.some_inj] at hcolumn
  rw [hviewed, hviewedOther, hcolumn]

theorem Partitioned.autoIncrement_subset (h : Partitioned config table v) :
    v.autoIncrement ⊆ v.columns :=
  fun c hc => (h.shared c (List.mem_append_right _ hc)).1

theorem Partitioned.insert_subset (h : Partitioned config table v) : v.insert ⊆ v.columns := by
  rw [h.insert]
  exact List.filter_sublist.subset

/-- The database fills in what increments itself. -/
theorem Partitioned.not_mem_insert (h : Partitioned config table v) (hc : c ∈ v.autoIncrement) :
    c ∉ v.insert := by
  rw [h.insert, List.mem_filter, decide_eq_true_iff]
  rintro ⟨-, hname, -⟩
  rw [← h.autoIncrement] at hname
  exact hname (List.mem_map_of_mem hc)

end Partitions

end RecordMapper.View
