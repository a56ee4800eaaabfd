import RecordMapper.Proofs.Source.Converters
import RecordMapper.Proofs.Source.TypeImports

/-!
# Names of the database in literals

The companion holds the names of the table, of its columns and of its schema as literals. Each is
read back as the name that it was made from, so no name ends its literal early, whatever quotes,
backslashes or breaks it has.
-/
namespace RecordMapper.Source

open RecordMapper.Config RecordMapper.Schema RecordMapper.Text RecordMapper.View

/-- What comes after an opening in the first line that begins with it. -/
def restAfter? (opening : String) (lines : List String) : Option (List Char) :=
  lines.findSome? fun line => line.toList.dropPrefix? opening.toList

/-- The literals up to a parenthesis at the end, with commas between them. -/
def readNames (cs : List Char) : Option (List String) :=
  if cs = [')'] then some [] else readListed readLiteral cs.length cs

theorem readNames_join (names : List String) :
    readNames ((join ", " (names.map literal)).toList ++ [')']) = some names := by
  have hfilled (name : String) : literal name ≠ "" := by
    intro h
    have hnil := congrArg String.toList h
    rw [toList_literal] at hnil
    cases hnil
  cases names with
  | nil => rfl
  | cons name rest =>
    have hopen : (join ", " ((name :: rest).map literal)).toList ++ [')'] ≠ [')'] := by
      have hlength := length_le_join hfilled (name :: rest)
      intro h
      rw [List.append_left_eq_self.mp h] at hlength
      exact absurd hlength (Nat.not_succ_le_zero _)
    rw [readNames, if_neg hopen]
    refine readListed_join readLiteral_literal (List.cons_ne_nil _ _) ?_
    rw [List.length_append]
    exact Nat.le_add_right_of_le (length_le_join hfilled _)

section Companion

variable {opening : String}

theorem restAfter?_append {before : List String}
    (h : ∀ line ∈ before, ¬opening.toList <+: line.toList) (rest : String) (after : List String) :
    restAfter? opening (before ++ (opening ++ rest) :: after) = some rest.toList := by
  have hfound : (opening ++ rest).toList.dropPrefix? opening.toList = some rest.toList := by
    rw [String.toList_append]
    exact List.dropPrefix?_append_of_beq _ BEq.rfl
  have hbefore : ∀ line ∈ before, line.toList.dropPrefix? opening.toList = none := by
    intro line hline
    rw [Option.eq_none_iff_forall_ne_some]
    intro more hmore
    obtain ⟨start, htext, hsame⟩ := List.dropPrefix?_eq_some_iff.mp hmore
    rw [beq_iff_eq.mp hsame] at htext
    exact h line hline ⟨more, htext.symm⟩
  rw [restAfter?, List.findSome?_append, List.findSome?_eq_none_iff.mpr hbefore, Option.none_or,
    List.findSome?_cons, hfound]

theorem not_isPrefix_blank {start : String} (h : Diverge opening start) :
    ¬opening.toList <+: "".toList :=
  fun hblank => h.1 (hblank.trans (List.nil_prefix ..))

/-- The line for the schema of a table, if it has one, with a blank line after it. -/
def schemaLines (v : TableView) : List String :=
  v.schema?.elim [] fun schema =>
    ["  override val schemaName = Some(" ++ (literal schema ++ ")"), ""]

def tableLine (v : TableView) : String := "  override val tableName = " ++ literal v.tableName

def columnsLine (v : TableView) : String :=
  "  override val columns = Seq(" ++
    (join ", " ((v.columns.map ColumnView.name).map literal) ++ ")")

/-- The lines of a companion before the name of its table. -/
inductive IsBeforeTable : String → Prop
  | head (rest : String) : IsBeforeTable ("object " ++ rest)
  | blank : IsBeforeTable ""
  | schema (rest : String) : IsBeforeTable ("  override val schemaName = Some(" ++ rest)
  | converters (rest : String) : IsBeforeTable (convertersHead ++ rest)

theorem IsBeforeTable.not_isPrefix {line : String} (h : IsBeforeTable line)
    (hhead : Diverge opening "object ")
    (hschema : Diverge opening "  override val schemaName = Some(")
    (hconverters : Diverge opening convertersHead) : ¬opening.toList <+: line.toList := by
  cases h with
  | head rest => exact hhead.not_isPrefix rest
  | blank => exact not_isPrefix_blank hhead
  | schema rest => exact hschema.not_isPrefix rest
  | converters rest => exact hconverters.not_isPrefix rest

variable (config : Settings) (v : TableView) (clause : String)

theorem exists_companion_names : ∃ head after, companion config v clause =
    ("object " ++ head) :: "" :: (schemaLines v ++ nameConverters v ++
      tableLine v :: "" :: columnsLine v :: after) := by
  let head := v.className ++ (" extends SQLSyntaxSupport[" ++ (v.className ++
    ("] " ++ (clause ++ "\x7b"))))
  refine ⟨head, "" :: (rowMapper config v ++
    [ "",
      "  val " ++ v.syntaxVariable ++ " = " ++ v.className ++ ".syntax(\"" ++ v.syntaxName ++ "\")",
      "",
      "  override val autoSession = AutoSession"]), ?_⟩
  unfold companion schemaLines tableLine columnsLine
  cases v.schema? <;>
    simp only [head, List.map_map, Function.comp_def, Option.elim_none, Option.elim_some,
      String.append_assoc, List.append_assoc, List.cons_append, List.nil_append]

variable {v} in
theorem isBeforeTable_of_mem {head line : String}
    (h : line ∈ ("object " ++ head) :: "" :: (schemaLines v ++ nameConverters v)) :
    IsBeforeTable line := by
  rcases List.mem_cons.mp h with rfl | h
  · exact .head _
  rcases List.mem_cons.mp h with rfl | h
  · exact .blank
  rcases List.mem_append.mp h with h | h
  · rw [schemaLines] at h
    cases hschema : v.schema? with
    | none =>
      rw [hschema] at h
      cases h
    | some schema =>
      rw [hschema] at h
      rcases List.mem_cons.mp h with rfl | h
      · exact .schema _
      · rw [List.mem_singleton.mp h]
        exact .blank
  · rw [nameConverters_eq] at h
    split at h
    · cases h
    · rcases List.mem_cons.mp h with rfl | h
      · exact .converters _
      · rw [List.mem_singleton.mp h]
        exact .blank

theorem restAfter?_tableName :
    restAfter? "  override val tableName = " (companion config v clause) =
      some (literal v.tableName).toList := by
  obtain ⟨head, after, hcompanion⟩ := exists_companion_names config v clause
  have hlines : companion config v clause =
      (("object " ++ head) :: "" :: (schemaLines v ++ nameConverters v)) ++
        tableLine v :: "" :: columnsLine v :: after := hcompanion
  rw [hlines]
  refine restAfter?_append (fun line hline => ?_) _ _
  exact (isBeforeTable_of_mem hline).not_isPrefix (by decide +kernel) (by decide +kernel)
    (by decide +kernel)

theorem restAfter?_columns :
    restAfter? "  override val columns = Seq(" (companion config v clause) =
      some (join ", " ((v.columns.map ColumnView.name).map literal) ++ ")").toList := by
  obtain ⟨head, after, hcompanion⟩ := exists_companion_names config v clause
  have hlines : companion config v clause =
      (("object " ++ head) :: "" :: (schemaLines v ++ nameConverters v)) ++ [tableLine v, ""] ++
        columnsLine v :: after := by
    rw [hcompanion]
    simp
  rw [hlines]
  refine restAfter?_append (fun line hline => ?_) _ _
  rcases List.mem_append.mp hline with hline | hline
  · exact (isBeforeTable_of_mem hline).not_isPrefix (by decide +kernel) (by decide +kernel)
      (by decide +kernel)
  · have htable : Diverge "  override val columns = Seq(" "  override val tableName = " := by
      decide +kernel
    rcases List.mem_cons.mp hline with heq | hline
    · rw [heq]
      exact htable.not_isPrefix _
    · rw [List.mem_singleton.mp hline]
      exact not_isPrefix_blank htable

theorem restAfter?_schemaName {schema : String} (h : v.schema? = some schema) :
    restAfter? "  override val schemaName = Some(" (companion config v clause) =
      some ((literal schema).toList ++ [')']) := by
  obtain ⟨head, after, hcompanion⟩ := exists_companion_names config v clause
  have hlines : companion config v clause = ["object " ++ head, ""] ++
      ("  override val schemaName = Some(" ++ (literal schema ++ ")")) ::
        ("" :: (nameConverters v ++ tableLine v :: "" :: columnsLine v :: after)) := by
    rw [hcompanion, schemaLines, h]
    rfl
  rw [hlines, restAfter?_append, String.toList_append]
  · rfl
  · intro line hline
    have hhead : Diverge "  override val schemaName = Some(" "object " := by decide +kernel
    rcases List.mem_cons.mp hline with rfl | hline
    · exact hhead.not_isPrefix _
    · rw [List.mem_singleton.mp hline]
      exact not_isPrefix_blank hhead

end Companion

/-- Literals are read back. Reading one ends at its last character with the text that it was made
from, and nothing shorter is a literal, so different texts have different literals. Breaks inside a
literal that are written in another way are those of its text, and what comes after the literal does
not matter. So the names of a table, its columns and its schema are read from the lines of its
companion. -/
theorem literals_read_back :
    (∀ text, readLiteral (literal text).toList = some (text, []) ∧
      ∀ shorter, shorter <+: (literal text).toList → shorter ≠ (literal text).toList →
        readLiteral shorter = none) ∧
    Function.Injective literal ∧
    (∀ (b : LineBreak) (text : String) (after : List Char),
      readLiteral ((withLineBreak b.text (literal text)).toList ++ after) =
        some (withLineBreak b.text text, after)) ∧
    ∀ config table explicit model,
      modelOf config (TableView.of config table explicit) = .ok model →
      (restAfter? "  override val tableName = " model.companion).bind readLiteral =
        some (table.name, []) ∧
      (restAfter? "  override val columns = Seq(" model.companion).bind readNames =
        some (namesOf table.columns) ∧
      ∀ schema, table.schema = some schema → schema ≠ "" →
        (restAfter? "  override val schemaName = Some(" model.companion).bind readLiteral =
          some (schema, [')']) := by
  refine ⟨fun text => ⟨?_, fun shorter => readLiteral_of_prefix⟩, literal_injective,
    fun b text after => ?_, ?_⟩
  · rw [← List.append_nil (literal text).toList, readLiteral_literal]
  · have hbreak : ∀ c ∈ b.text.toList, ¬(c = '\\' ∨ c = '\x22') := by
      cases b <;> simp [LineBreak.text]
    rw [withLineBreak_literal hbreak, readLiteral_literal]
  · intro config table explicit model hmodel
    obtain ⟨_, clause, -, -, rfl⟩ := modelOf_eq_ok hmodel
    refine ⟨?_, ?_, fun schema hschema hfilled => ?_⟩
    · rw [restAfter?_tableName, Option.bind_some, ← List.append_nil (literal _).toList,
        readLiteral_literal]
      rfl
    · rw [restAfter?_columns, Option.bind_some, String.toList_append]
      exact (readNames_join _).trans (congrArg some (map_name_columns ..))
    · have hgiven : (TableView.of config table explicit).schema? = some schema := by
        have htable : (TableView.of config table explicit).table = table := rfl
        simp [TableView.schema?, htable, hschema, hfilled]
      rw [restAfter?_schemaName _ _ _ hgiven, Option.bind_some, readLiteral_literal]

namespace Sample

/-- A table whose names would end their literals or join two of them, were they not escaped. -/
def escaped : Table where
  name := "emp\" + \""
  columns := [⟨"id\\", -5, "BIGINT", 0, true, false, false⟩,
    ⟨"a\", \"b", 12, "VARCHAR", 10, false, false, false⟩]
  autoIncrement := []
  primaryKey := []
  generated := []
  schema := some "\\\"hr"
  autoIncrement_declared := by decide
  primaryKey_declared := by decide
  generated_declared := by decide

end Sample

theorem literals_read_back_of_escaped :
    readLiteral "\"a\\\"".toList = none ∧
    ∃ model, modelOf .default (TableView.of .default Sample.escaped none) = .ok model ∧
      (restAfter? "  override val tableName = " model.companion).bind readLiteral =
        some ("emp\" + \"", []) ∧
      (restAfter? "  override val columns = Seq(" model.companion).bind readNames =
        some ["id\\", "a\", \"b"] ∧
      (restAfter? "  override val schemaName = Some(" model.companion).bind readLiteral =
        some ("\\\"hr", [')']) := by
  obtain ⟨hliteral, -, -, hcompanion⟩ := literals_read_back
  obtain ⟨model, hmodel⟩ :
      ∃ model, modelOf .default (TableView.of .default Sample.escaped none) = .ok model := ⟨_, rfl⟩
  obtain ⟨htable, hcolumns, hschema⟩ := hcompanion _ _ _ _ hmodel
  have hshorter : "\"a\\\"".toList <+: (literal "a\"").toList := ⟨['\x22'], by decide +kernel⟩
  exact ⟨(hliteral _).2 _ hshorter (by decide +kernel), model, hmodel, htable, hcolumns,
    hschema _ rfl (by decide)⟩

end RecordMapper.Source
