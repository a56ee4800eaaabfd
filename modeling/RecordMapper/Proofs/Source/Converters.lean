import RecordMapper.Proofs.Naming.SnakeCase
import RecordMapper.Proofs.Source.Parts
import RecordMapper.Proofs.Text.Literals
import RecordMapper.Proofs.View.Subsets

/-!
# Columns of fields

At run time a field belongs to the column that the map in the companion names for it, and to the
field in snake case when the map has no entry for it. The map has entries for the columns whose
fields are not what the column would be called by itself. Where fields differ without back-quotes,
the two ways never meet, and every canonical column is the column of its own field.
-/
namespace RecordMapper.Source

open RecordMapper.Config RecordMapper.Naming RecordMapper.Schema RecordMapper.Text
open RecordMapper.View

/-- The map up to its first entry. -/
def convertersHead : String := "  override val nameConverters: Map[String, String] = Map("

/-- The field and the column of the entry at the beginning, and what comes after the entry. -/
def readEntry (cs : List Char) : Option ((String × String) × List Char) := do
  let (field, rest) ← readLiteral cs
  let (column, after) ← readLiteral (← rest.dropPrefix? " -> ".toList)
  return ((field, column), after)

/-- The entries up to the parenthesis that ends the map, unless there are more than the limit. -/
def readEntries : Nat → List Char → Option (List (String × String))
  | 0, _ => none
  | limit + 1, cs => do
    let (entry, after) ← readEntry cs
    if after = [')'] then return [entry]
    else return entry :: (← readEntries limit (← after.dropPrefix? ", ".toList))

/-- The map that the lines of a companion make. Without a line for it the map is empty. -/
def readConverters : List String → Option (List (String × String))
  | [] => some []
  | [line, ""] => do
    let entries ← line.toList.dropPrefix? convertersHead.toList
    readEntries entries.length entries
  | _ => none

/-- The column of a field. Of several entries for the field the last one counts. -/
def columnOf (entries : List (String × String)) (field : String) : String :=
  (entries.reverse.lookup field).getD (snakeCase field)

/-- An entry as it is written. -/
def entryText (entry : String × String) : String := literal entry.1 ++ " -> " ++ literal entry.2

/-- The fields in the map of a table, with their columns. -/
def converterEntries (v : TableView) : List (String × String) :=
  (v.columns.filter fun c => plainFieldName c.name ≠ c.fieldName).map fun c => (c.bareName, c.name)

section Reading

theorem readEntry_entryText (entry : String × String) (after : List Char) :
    readEntry ((entryText entry).toList ++ after) = some (entry, after) := by
  have harrow (rest : List Char) : (" -> ".toList ++ rest).dropPrefix? " -> ".toList = some rest :=
    List.dropPrefix?_append_of_beq _ BEq.rfl
  simp only [readEntry, entryText, String.toList_append, List.append_assoc, readLiteral_literal,
    Option.bind_eq_bind, Option.bind_some, harrow]
  rfl

theorem readEntries_eq (limit : Nat) (cs : List Char) :
    readEntries limit cs = readListed readEntry limit cs := by
  induction limit generalizing cs with
  | zero => rfl
  | succ limit ih => simp only [readEntries, readListed, ih]

theorem nameConverters_eq (v : TableView) :
    nameConverters v = if converterEntries v = [] then [] else
      [convertersHead ++ (join ", " ((converterEntries v).map entryText) ++ ")"), ""] := by
  have hpairs : (v.columns.filter fun c => plainFieldName c.name ≠ c.fieldName).map
      (fun c => literal c.bareName ++ " -> " ++ literal c.name) =
        (converterEntries v).map entryText := by
    rw [converterEntries, List.map_map]
    rfl
  unfold nameConverters
  dsimp only
  rw [hpairs, convertersHead]
  by_cases hnone : converterEntries v = []
  · rw [if_pos hnone, hnone]
    rfl
  · rw [if_neg hnone, if_neg (by simpa using hnone), String.append_assoc]

/-- The lines for the map are read as the entries that they were made from. -/
theorem readConverters_nameConverters (v : TableView) :
    readConverters (nameConverters v) = some (converterEntries v) := by
  rw [nameConverters_eq]
  split
  · rename_i hnone
    rw [hnone]
    rfl
  · rename_i hsome
    have hclose : ")".toList = [')'] := rfl
    have hhead (rest : List Char) :
        (convertersHead.toList ++ rest).dropPrefix? convertersHead.toList = some rest :=
      List.dropPrefix?_append_of_beq _ BEq.rfl
    have hfilled (entry : String × String) : entryText entry ≠ "" := by
      simp [entryText]
    have hlimit := Nat.le_add_right_of_le (k := 1) (length_le_join hfilled (converterEntries v))
    simp only [readConverters, String.toList_append, hclose, hhead, Option.bind_eq_bind,
      Option.bind_some, List.length_append, List.length_singleton, readEntries_eq]
    exact readListed_join readEntry_entryText hsome hlimit

end Reading

section Lookup

variable {entries : List (String × String)} {field column : String}

theorem columnOf_of_mem (h : (field, column) ∈ entries)
    (hunique : ∀ other, (field, other) ∈ entries → other = column) :
    columnOf entries field = column := by
  unfold columnOf
  cases hfound : entries.reverse.lookup field with
  | none =>
    have hmiss := List.lookup_eq_none_iff.mp hfound _ (List.mem_reverse.mpr h)
    simp at hmiss
  | some other =>
    obtain ⟨before, after, hentries, -⟩ := List.lookup_eq_some_iff.mp hfound
    refine hunique other (List.mem_reverse.mp ?_)
    rw [hentries]
    exact List.mem_append_right _ (List.mem_cons_self ..)

theorem columnOf_of_not_mem (h : ∀ column, (field, column) ∉ entries) :
    columnOf entries field = snakeCase field := by
  have hnone : entries.reverse.lookup field = none := by
    rw [List.lookup_eq_none_iff]
    rintro ⟨other, column⟩ hmem
    rw [bne_iff_ne]
    rintro rfl
    exact h column (List.mem_reverse.mp hmem)
  rw [columnOf, hnone, Option.getD_none]

end Lookup

section Columns

variable {v : TableView}

theorem mem_converterEntries_iff {field column : String} :
    (field, column) ∈ converterEntries v ↔ ∃ c ∈ v.columns,
      plainFieldName c.name ≠ c.fieldName ∧ c.bareName = field ∧ c.name = column := by
  simp only [converterEntries, List.mem_map, List.mem_filter, decide_eq_true_eq, Prod.mk.injEq,
    and_assoc]

/-- Where fields differ without back-quotes, a canonical column is the column of its field: it has
an entry, or its field is its lower camel case and no other entry is for that field. -/
theorem columnOf_bareName {c : ColumnView} (hc : c ∈ v.columns) (hcanonical : Canonical c.name)
    (hbare : ∀ other ∈ v.columns, other.bareName = c.bareName → other = c) :
    columnOf (converterEntries v) c.bareName = c.name := by
  by_cases hplain : plainFieldName c.name = c.fieldName
  · have habsent : ∀ column, (c.bareName, column) ∉ converterEntries v := by
      intro column hentry
      obtain ⟨other, hother, hlisted, hsame, -⟩ := mem_converterEntries_iff.mp hentry
      obtain rfl := hbare other hother hsame
      exact hlisted hplain
    rw [columnOf_of_not_mem habsent, ColumnView.bareName, ← hplain,
      unquote_plainFieldName hcanonical, snakeCase_lowerCamelCase hcanonical]
  · refine columnOf_of_mem (mem_converterEntries_iff.mpr ⟨c, hc, hplain, rfl, rfl⟩) ?_
    intro column hentry
    obtain ⟨other, hother, -, hsame, hname⟩ := mem_converterEntries_iff.mp hentry
    rw [← hname, hbare other hother hsame]

theorem exists_companion_eq (config : Settings) (v : TableView) (clause : String) :
    ∃ before after, companion config v clause = before ++ nameConverters v ++
      ("  override val tableName = " ++ literal v.tableName) :: after := by
  unfold companion
  dsimp only
  rw [List.append_assoc, List.append_assoc, List.cons_append]
  exact ⟨_, _, rfl⟩

/-- The map stands before the name of the table in the source of a model. -/
theorem exists_modelSource_eq {config : Settings} {table : Table} {explicit : Option Value}
    {text : String} (h : modelSource config table explicit = .ok text) :
    let v := TableView.of config table explicit
    ∃ before after, text = render config.eol (before ++ nameConverters v ++
      ("  override val tableName = " ++ literal v.tableName) :: after) := by
  intro v
  obtain ⟨model, hmodel, rfl⟩ := modelSource_eq_ok h
  obtain ⟨_, clause, -, -, hparts⟩ := modelOf_eq_ok hmodel
  obtain ⟨before, after, hcompanion⟩ := exists_companion_eq config v clause
  have hlines : model.companion = before ++ nameConverters v ++
      ("  override val tableName = " ++ literal v.tableName) :: after := by
    rw [hparts]
    exact hcompanion
  refine ⟨model.header ++ [""] ++ model.caseClass ++ [""] ++ before,
    after ++ model.methods.flatMap (fun method => "" :: method.lines) ++ ["", "\x7d", ""], ?_⟩
  rw [ModelSource.lines, hlines]
  simp only [List.append_assoc, List.cons_append]

end Columns

/-- Fields lead back to their columns. In a table with canonical columns, under a policy whose
fields differ without back-quotes, the map that the emitted lines make and the turn into snake case
for what is not in it give every column for its own field. On all canonical names the turn into
snake case undoes lower camel case. -/
theorem columns_of_fields {config : Settings} {table : Table} {field : String → String}
    (hcanonical : ∀ column ∈ table.columns, Canonical column.name)
    (hfield : ∀ column ∈ table.columns, config.fieldName column.name = .text (field column.name))
    (hbare : (table.columns.map fun column => unquote (field column.name)).Nodup)
    (explicit : Option Value) :
    let v := TableView.of config table explicit
    (∀ text, modelSource config table explicit = .ok text → ∃ before after,
      text = render config.eol (before ++ nameConverters v ++
        ("  override val tableName = " ++ literal v.tableName) :: after)) ∧
    (∃ entries, readConverters (nameConverters v) = some entries ∧
      ∀ column ∈ table.columns,
        columnOf entries (unquote (field column.name)) = column.name) ∧
    ∀ name, Canonical name → snakeCase (lowerCamelCase name) = name := by
  intro v
  refine ⟨fun text => exists_modelSource_eq, ⟨_, readConverters_nameConverters v, ?_⟩,
    fun name => snakeCase_lowerCamelCase⟩
  have hshown {c : ColumnView} (hc : c ∈ v.columns) : c.bareName = unquote (field c.name) := by
    obtain ⟨column, hcolumn, hsame⟩ := exists_column hc
    have hanswer := hfield column hcolumn
    rw [hsame] at hanswer
    rw [ColumnView.bareName, fieldName_of_answer hc hanswer]
  intro column hcolumn
  obtain ⟨c, hc, hname⟩ := exists_view config explicit hcolumn
  have hbareName : unquote (field column.name) = c.bareName := by rw [hshown hc, hname]
  rw [hbareName, ← hname]
  refine columnOf_bareName hc (hname ▸ hcanonical column hcolumn) fun other hother hsame => ?_
  obtain ⟨second, hsecond, hsecondName⟩ := exists_column hother
  have hcolumns : second = column := by
    refine List.inj_on_of_nodup_map hbare hsecond hcolumn ?_
    rw [hsecondName, ← hshown hother, hsame, hbareName]
  exact eq_of_mem_pick hother hc (by rw [← hsecondName, hcolumns, hname])

namespace Sample

/-- A table with a canonical column of two words, a reserved word and a case class member. -/
def copied : Table where
  name := "emp"
  columns := [⟨"member_id", -5, "BIGINT", 0, true, false, false⟩,
    ⟨"type", 12, "VARCHAR", 10, true, false, false⟩, ⟨"copy", 4, "INTEGER", 0, true, false, false⟩]
  autoIncrement := []
  primaryKey := []
  generated := []
  schema := none
  autoIncrement_declared := by decide
  primaryKey_declared := by decide
  generated_declared := by decide

end Sample

/-- Only the member has an entry; the other columns are found by their capitals. -/
theorem columns_of_fields_of_copied :
    (∀ column ∈ Sample.copied.columns, Canonical column.name) ∧
    (Sample.copied.columns.map fun column => unquote (fieldName column.name)).Nodup ∧
    ∃ entries, readConverters (nameConverters (TableView.of Settings.default Sample.copied none)) =
        some entries ∧ entries = [("copyColumn", "copy")] ∧
      columnOf entries "memberId" = "member_id" ∧ columnOf entries "type" = "type" ∧
      columnOf entries "copyColumn" = "copy" := by
  have hcanonical : ∀ column ∈ Sample.copied.columns, Canonical column.name := by decide +kernel
  have hbare : (Sample.copied.columns.map fun column => unquote (fieldName column.name)).Nodup := by
    decide +kernel
  have hfield : ∀ column ∈ Sample.copied.columns,
      Settings.default.fieldName column.name = .text (fieldName column.name) := fun _ _ => rfl
  obtain ⟨-, ⟨entries, hread, hcolumns⟩, -⟩ := columns_of_fields hcanonical hfield hbare none
  have hentries : readConverters (nameConverters (TableView.of Settings.default Sample.copied
      none)) = some [("copyColumn", "copy")] := by decide +kernel
  have hfields : unquote (fieldName "member_id") = "memberId" ∧
      unquote (fieldName "type") = "type" ∧ unquote (fieldName "copy") = "copyColumn" := by
    decide +kernel
  have hmember := hcolumns _ (List.mem_cons_self ..)
  have htype := hcolumns _ (List.mem_cons_of_mem _ (List.mem_cons_self ..))
  have hcopy := hcolumns _ (List.mem_cons_of_mem _ (List.mem_cons_of_mem _ (List.mem_cons_self ..)))
  rw [hfields.1] at hmember
  rw [hfields.2.1] at htype
  rw [hfields.2.2] at hcopy
  exact ⟨hcanonical, hbare, entries, hread, Option.some.inj (hread.symm.trans hentries), hmember,
    htype, hcopy⟩

end RecordMapper.Source
