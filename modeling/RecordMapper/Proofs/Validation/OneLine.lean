import RecordMapper.Proofs.Output.Places
import RecordMapper.Proofs.Source.Parts
import RecordMapper.Proofs.Source.WriteLists
import RecordMapper.Proofs.Text.Case
import RecordMapper.Proofs.Validation.Fields
import RecordMapper.Proofs.View.Subsets

/-!
# Names on one line

The recognisers of identifiers let one line break pass behind a name, and back-quotes may hold any
number of them. So the class names, the segments of the package and the fields of an input without
errors are identifiers on one line exactly when none of them holds a line break; a break in a class
name gets into the names of its files, one in the package into the package line.
-/
namespace RecordMapper.Validation

open RecordMapper.Config RecordMapper.Naming RecordMapper.Output RecordMapper.Schema
open RecordMapper.Source RecordMapper.Text RecordMapper.View

/-- No line break stands in the text. -/
def OneLine (text : String) : Prop := '\n' ∉ text.toList ∧ '\r' ∉ text.toList

/-- Letters, digits, underscores and dollar signs of ASCII, at least one and no digit first. -/
structure PlainName (name : String) : Prop where
  filled : name ≠ ""
  parts : ∀ c ∈ name.toList, isIdentifierPart c = true
  start : ∀ c ∈ name.toList.head?, c.isDigit = false

/-- Back-quotes around something that holds neither a back-quote nor a line break. -/
def QuotedName (name : String) : Prop :=
  ∃ inner, name = backQuoted inner ∧ inner ≠ "" ∧ '\x60' ∉ inner.toList ∧ OneLine inner

/-- The class names and the segments of the package have one property, the fields another. -/
structure NamesAre (config : Settings) (tables : List Table) (plain field : String → Prop) :
    Prop where
  classes : ∀ table ∈ tables, ∃ name, config.className table.name = .text name ∧ plain name
  segments : ∀ segment ∈ split '.' config.package, config.package ≠ "" → plain segment
  fields : ∀ table ∈ tables, ∀ column ∈ table.columns,
    ∃ name, config.fieldName column.name = .text name ∧ field name

/-- The beginnings of the declarations of a table: its class, the companion and the fields. -/
def declarationHeads (v : TableView) : List String :=
  ("case class " ++ v.className ++ "(") :: ("object " ++ v.className ++ " extends ") ::
    v.columns.map fun c => c.fieldName ++ ": "

section Breaks

instance (text : String) : Decidable (OneLine text) := inferInstanceAs (Decidable (_ ∧ _))

theorem plainName_iff {name : String} :
    PlainName name ↔ name ≠ "" ∧ name.toList.all isIdentifierPart = true ∧
      name.toList.head?.all (fun c => !c.isDigit) = true := by
  simp only [List.all_eq_true, Option.all_eq_true, Bool.not_eq_true']
  exact ⟨fun h => ⟨h.filled, h.parts, h.start⟩, fun h => ⟨h.1, h.2.1, h.2.2⟩⟩

instance (name : String) : Decidable (PlainName name) := decidable_of_iff' _ plainName_iff

theorem oneLine_append {text more : String} :
    OneLine (text ++ more) ↔ OneLine text ∧ OneLine more := by
  simp only [OneLine, String.toList_append, List.mem_append, not_or]
  exact and_and_and_comm

theorem oneLine_backQuoted {name : String} : OneLine (backQuoted name) ↔ OneLine name := by
  have hquote : OneLine "`" := by decide
  rw [backQuoted, oneLine_append, oneLine_append]
  exact ⟨fun h => h.1.2, fun h => ⟨⟨hquote, h⟩, hquote⟩⟩

theorem PlainName.not_mem {name : String} (h : PlainName name) {c : Char}
    (hc : isIdentifierPart c = false) : c ∉ name.toList := by
  intro hmem
  rw [h.parts c hmem] at hc
  cases hc

theorem PlainName.free {name : String} (h : PlainName name) : '\x60' ∉ name.toList :=
  h.not_mem (by decide)

theorem PlainName.oneLine {name : String} (h : PlainName name) : OneLine name :=
  ⟨h.not_mem (by decide), h.not_mem (by decide)⟩

theorem QuotedName.oneLine {name : String} (h : QuotedName name) : OneLine name := by
  obtain ⟨inner, rfl, -, -, hline⟩ := h
  exact oneLine_backQuoted.mpr hline

theorem isDigit_of_isIdentifierStart {c : Char} (h : isIdentifierStart c = true) :
    c.isDigit = false := by
  simp only [isIdentifierStart, Bool.or_eq_true, decide_eq_true_eq] at h
  rcases h with (hletter | rfl) | rfl
  · exact isDigit_of_isAlpha hletter
  · decide
  · decide

/-- Without the break behind it an identifier has nothing but its characters. -/
theorem plainName_of_oneLine {name : String} (h : PlainIdentifier name)
    (hline : OneLine name) : PlainName name := by
  obtain ⟨first, rest, ending, hname, hfirst, hrest, rfl | rfl⟩ := h
  · rw [List.append_nil] at hname
    refine ⟨fun hempty => ?_, fun c hc => ?_, fun c hc => ?_⟩
    · rw [hempty] at hname
      cases hname
    · rw [hname] at hc
      rcases List.mem_cons.mp hc with rfl | hc
      · exact isIdentifierPart_of_isIdentifierStart hfirst
      · exact hrest c hc
    · rw [hname, List.head?_cons, Option.mem_some_iff] at hc
      subst hc
      exact isDigit_of_isIdentifierStart hfirst
  · exact absurd (by rw [hname]; simp) hline.1

theorem quotedName_of_oneLine {name : String} (h : QuotedIdentifier name)
    (hline : OneLine name) : QuotedName name := by
  obtain ⟨inner, ending, hname, hne, hfree, rfl | rfl⟩ := h
  · have hquoted : name = backQuoted (String.ofList inner) := by
      apply String.toList_inj.mp
      rw [hname, toList_backQuoted, String.toList_ofList]
    rw [hquoted, oneLine_backQuoted] at hline
    exact ⟨String.ofList inner, hquoted, by simpa using hne, by simpa using hfree, hline⟩
  · exact absurd (by rw [hname]; simp) hline.1

end Breaks

section Lines

variable {config : Settings} {v : TableView}

theorem exists_mem_onLast {f : String → String} (hf : ∀ line, line.toList <:+: (f line).toList)
    {lines : List String} {line : String} (h : line ∈ lines) :
    ∃ other ∈ onLast f lines, line.toList <:+: other.toList := by
  obtain ⟨i, hi, rfl⟩ := List.getElem_of_mem h
  have hline := getElem?_onLast f lines i
  rw [List.getElem?_eq_getElem hi, Option.map_some] at hline
  refine ⟨_, List.mem_of_getElem? hline, ?_⟩
  split
  · exact List.infix_refl _
  · exact hf _

theorem exists_mem_listed (level : Nat) {items : List String} {item : String} (h : item ∈ items) :
    ∃ line ∈ listed level items, item.toList <:+: line.toList := by
  obtain ⟨i, hi, rfl⟩ := List.getElem_of_mem h
  have hline := getElem?_listed level items i
  rw [List.getElem?_eq_getElem hi, Option.map_some] at hline
  refine ⟨_, List.mem_of_getElem? hline, ?_⟩
  rw [String.toList_append, String.toList_append]
  exact List.infix_append _ _ _

theorem package_mem_lines {model : ModelSource} (h : modelOf config v = .ok model) :
    "package " ++ config.package ∈ model.lines := by
  obtain ⟨classClause, companionClause, -, -, rfl⟩ := modelOf_eq_ok h
  simp [ModelSource.lines, modelHeader]

/-- A declaration begins with its head in the model of the table. -/
theorem exists_line_of_head {model : ModelSource} (h : modelOf config v = .ok model)
    {head : String} (hhead : head ∈ declarationHeads v) :
    ∃ line ∈ model.lines, head.toList <:+: line.toList := by
  obtain ⟨classClause, companionClause, -, -, rfl⟩ := modelOf_eq_ok h
  have hending (line : String) :
      line.toList <:+: (line ++ ") " ++ classClause ++ "\x7b").toList := by
    simp only [String.toList_append, List.append_assoc]
    exact (List.prefix_append _ _).isInfix
  have hclass {line : String} (hline : line ∈ ("case class " ++ v.className ++ "(") ::
      listed 1 (v.columns.map ColumnView.parameter)) :
      ∃ other ∈ caseClass config v classClause, line.toList <:+: other.toList := by
    obtain ⟨other, hother, hinfix⟩ := exists_mem_onLast hending hline
    exact ⟨other, List.mem_append_left _ hother, hinfix⟩
  simp only [declarationHeads, List.mem_cons, List.mem_map] at hhead
  rcases hhead with rfl | rfl | ⟨c, hc, rfl⟩
  · obtain ⟨line, hline, hinfix⟩ := hclass (List.mem_cons_self ..)
    exact ⟨line, by simp [ModelSource.lines, hline], hinfix⟩
  · refine ⟨"object " ++ v.className ++ " extends SQLSyntaxSupport[" ++ v.className ++ "] " ++
      companionClause ++ "\x7b", by simp [ModelSource.lines, companion], ?_⟩
    have hword : " extends SQLSyntaxSupport[".toList =
        " extends ".toList ++ "SQLSyntaxSupport[".toList := rfl
    refine List.IsPrefix.isInfix ⟨("SQLSyntaxSupport[" ++ v.className ++ "] " ++ companionClause ++
      "\x7b").toList, ?_⟩
    simp only [String.toList_append, hword, List.append_assoc]
  · have hparameter : (c.fieldName ++ ": ").toList <:+: c.parameter.toList := by
      simp only [ColumnView.parameter, ColumnView.typed, String.toList_append]
      exact (List.prefix_append _ _).isInfix.trans (List.prefix_append _ _).isInfix
    obtain ⟨listing, hlisting, hlisted⟩ := exists_mem_listed 1 (List.mem_map_of_mem hc)
    obtain ⟨line, hline, hinfix⟩ := hclass (List.mem_cons_of_mem _ hlisting)
    exact ⟨line, by simp [ModelSource.lines, hline],
      hparameter.trans (hlisted.trans hinfix)⟩

end Lines

section Names

variable {config : Settings} {tables : List Table} {plain field : String → Prop}

theorem NamesAre.imp {other otherField : String → Prop} (h : NamesAre config tables plain field)
    (hplain : ∀ name, plain name → other name) (hfield : ∀ name, field name → otherField name) :
    NamesAre config tables other otherField := by
  refine ⟨fun table htable => ?_, fun segment hsegment hfilled => ?_,
    fun table htable column hcolumn => ?_⟩
  · obtain ⟨name, hname, hown⟩ := h.classes table htable
    exact ⟨name, hname, hplain name hown⟩
  · exact hplain segment (h.segments segment hsegment hfilled)
  · obtain ⟨name, hname, hown⟩ := h.fields table htable column hcolumn
    exact ⟨name, hname, hfield name hown⟩

/-- A policy has one answer for a name, so two properties hold of it together. -/
theorem NamesAre.and {other otherField : String → Prop} (h : NamesAre config tables plain field)
    (hother : NamesAre config tables other otherField) :
    NamesAre config tables (fun name => plain name ∧ other name)
      (fun name => field name ∧ otherField name) := by
  refine ⟨fun table htable => ?_, fun segment hsegment hfilled => ?_,
    fun table htable column hcolumn => ?_⟩
  · obtain ⟨name, hname, hown⟩ := h.classes table htable
    obtain ⟨again, hagain, hmore⟩ := hother.classes table htable
    obtain rfl : name = again := Value.text.inj (hname.symm.trans hagain)
    exact ⟨name, hname, hown, hmore⟩
  · exact ⟨h.segments segment hsegment hfilled, hother.segments segment hsegment hfilled⟩
  · obtain ⟨name, hname, hown⟩ := h.fields table htable column hcolumn
    obtain ⟨again, hagain, hmore⟩ := hother.fields table htable column hcolumn
    obtain rfl : name = again := Value.text.inj (hname.symm.trans hagain)
    exact ⟨name, hname, hown, hmore⟩

/-- The names of an input without errors are those that the recognisers accept. -/
theorem namesAre_of_check {checkup : Checkup} (h : check tables config = .ok checkup)
    (hvalid : checkup.report.hasErrors = false) :
    NamesAre config tables PlainIdentifier
      (fun name => PlainIdentifier name ∨ QuotedIdentifier name) := by
  obtain ⟨hnamed, hpackage⟩ := names_of_check h hvalid
  refine ⟨fun table htable => ?_, fun segment hsegment hfilled => ?_,
    fun table htable column hcolumn => ?_⟩
  · obtain ⟨name, hname, hplain⟩ := hnamed.named table htable
    exact ⟨name, hname, isPlainIdentifier_iff.mp hplain⟩
  · rcases segments_of_errorFree hpackage with hempty | hsegments
    · exact absurd (String.isEmpty_iff.mp hempty) hfilled
    · exact isPlainIdentifier_iff.mp (hsegments segment hsegment)
  · obtain ⟨name, hname, hidentifier⟩ :=
      (properColumns_of_check h hvalid htable).named column hcolumn
    exact ⟨name, hname, isIdentifier_iff.mp hidentifier⟩

/-- A class name without slashes is broken just where the names of its files are. -/
theorem oneLine_file_iff {name : String} (hslash : '/' ∉ name.toList) (a : Artefact) :
    OneLine (a.target config name).path.name ↔ OneLine name := by
  have hends : OneLine ".scala" ∧ OneLine "Abstract" ∧ OneLine "Spec" ∧ OneLine "Arbitrary" := by
    decide
  have hfile : (a.target config name).path.name = a.className config name ++ ".scala" := by
    rw [a.target_eq, path_below _ _ (a.noSlash_className hslash config)]
    exact congrArg (Option.getD · "") List.getLast?_concat
  have hclass : OneLine (a.className config name) ↔ OneLine name := by
    cases a with
    | model => rfl
    | spec =>
      rw [Artefact.className, Source.specClassName]
      split <;> simp [oneLine_append, hends]
    | arbitrary => simp [Artefact.className, oneLine_append, hends]
  rw [hfile, oneLine_append, hclass, and_iff_left hends.1]

/-- The package line is broken just where a segment is. -/
theorem oneLine_package_iff (package : String) :
    OneLine ("package " ++ package) ↔ ∀ segment ∈ split '.' package, OneLine segment := by
  have hword : OneLine "package " := by decide
  rw [oneLine_append, and_iff_right hword, OneLine,
    ← exists_mem_pieces_iff (show '\n' ≠ '.' by decide),
    ← exists_mem_pieces_iff (show '\r' ≠ '.' by decide)]
  simp only [split, List.forall_mem_map, OneLine, String.toList_ofList, not_exists, not_and]
  exact forall₂_and.symm

theorem oneLine_heads_iff (v : TableView) :
    (∀ head ∈ declarationHeads v, OneLine head) ↔
      OneLine v.className ∧ ∀ c ∈ v.columns, OneLine c.fieldName := by
  have hwords : OneLine "case class " ∧ OneLine "(" ∧ OneLine "object " ∧ OneLine " extends " ∧
      OneLine ": " := by decide
  simp [declarationHeads, oneLine_append, hwords]

/-- The answers of the policies are what the view of a table shows. -/
theorem className_of_policy {table : Table} {name : String}
    (h : config.className table.name = .text name) :
    (TableView.of config table none).className = name := by
  simp only [TableView.className, TableView.of, classOf, h, Value.display]

theorem forall_fieldName_iff (field : String → Prop) {table : Table} (explicit : Option Value)
    (h : ∀ column ∈ table.columns, ∃ name, config.fieldName column.name = .text name) :
    (∀ c ∈ (TableView.of config table explicit).columns, field c.fieldName) ↔
      ∀ column ∈ table.columns, ∃ name, config.fieldName column.name = .text name ∧ field name := by
  constructor
  · intro hfields column hcolumn
    obtain ⟨name, hname⟩ := h column hcolumn
    obtain ⟨c, hc, hsame⟩ := exists_view config explicit hcolumn
    rw [← hsame] at hname ⊢
    exact ⟨name, hname, fieldName_of_answer hc hname ▸ hfields c hc⟩
  · intro hfields c hc
    obtain ⟨column, hcolumn, hsame⟩ := exists_column hc
    obtain ⟨name, hname, hown⟩ := hfields column hcolumn
    rw [hsame] at hname
    rwa [fieldName_of_answer hc hname]

/-- Names hold a line break just where the lines that they get into do. -/
theorem namesAre_oneLine_iff {checkup : Checkup} (h : check tables config = .ok checkup)
    (hvalid : checkup.report.hasErrors = false) :
    NamesAre config tables OneLine OneLine ↔
      OneLine ("package " ++ config.package) ∧ ∀ table ∈ tables,
        let v := TableView.of config table none
        (∀ a : Artefact, OneLine (a.target config v.className).path.name) ∧
          ∀ head ∈ declarationHeads v, OneLine head := by
  have hnames := namesAre_of_check h hvalid
  have hslash {name : String} (hname : PlainIdentifier name) : '/' ∉ name.toList :=
    not_mem_of_isPlainIdentifier (isPlainIdentifier_iff.mpr hname) (by decide) (by decide)
  have hfields (table : Table) (htable : table ∈ tables) :=
    forall_fieldName_iff OneLine none fun column hcolumn =>
      (hnames.fields table htable column hcolumn).imp fun _ hname => hname.1
  rw [oneLine_package_iff]
  constructor
  · intro hlines
    refine ⟨fun segment hsegment => ?_, fun table htable => ?_⟩
    · by_cases hempty : config.package = ""
      · rw [hempty] at hsegment
        rw [List.mem_singleton.mp hsegment]
        decide
      · exact hlines.segments segment hsegment hempty
    · obtain ⟨name, hname, hplain, hline⟩ := (hnames.and hlines).classes table htable
      simp only [oneLine_heads_iff, className_of_policy hname]
      exact ⟨fun a => (oneLine_file_iff (hslash hplain) a).mpr hline, hline,
        (hfields table htable).mpr (hlines.fields table htable)⟩
  · rintro ⟨hpackage, htables⟩
    refine ⟨fun table htable => ?_, fun segment hsegment _ => hpackage segment hsegment,
      fun table htable => (hfields table htable).mp ?_⟩
    · obtain ⟨name, hname, -⟩ := hnames.classes table htable
      have hheads := ((oneLine_heads_iff _).mp (htables table htable).2).1
      rw [className_of_policy hname] at hheads
      exact ⟨name, hname, hheads⟩
    · exact ((oneLine_heads_iff _).mp (htables table htable).2).2

end Names

/-- The names of an input without errors: what its policies answer and its package is made of are
identifiers, but for a line break behind a name and for breaks in back-quotes. They are identifiers
on one line exactly when no name holds a line break, that is when the package line, the names of the
files and the beginnings of the declarations hold none. That line and these beginnings stand in the
model of every table. -/
theorem names_on_one_line_iff {tables : List Table} {config : Settings} {checkup : Checkup}
    (hcheck : check tables config = .ok checkup) (herrors : checkup.report.hasErrors = false) :
    NamesAre config tables PlainIdentifier
      (fun name => PlainIdentifier name ∨ QuotedIdentifier name) ∧
    (NamesAre config tables PlainName (fun name => PlainName name ∨ QuotedName name) ↔
      NamesAre config tables OneLine OneLine) ∧
    (NamesAre config tables OneLine OneLine ↔
      OneLine ("package " ++ config.package) ∧ ∀ table ∈ tables,
        let v := TableView.of config table none
        (∀ a : Artefact, OneLine (a.target config v.className).path.name) ∧
          ∀ head ∈ declarationHeads v, OneLine head) ∧
    ∀ table ∈ tables, ∀ model, modelOf config (TableView.of config table none) = .ok model →
      "package " ++ config.package ∈ model.lines ∧
        ∀ head ∈ declarationHeads (TableView.of config table none),
          ∃ line ∈ model.lines, head.toList <:+: line.toList := by
  have hnames := namesAre_of_check hcheck herrors
  refine ⟨hnames, ⟨fun hproper => ?_, fun hlines => ?_⟩, namesAre_oneLine_iff hcheck herrors,
    fun table _ model hmodel => ⟨package_mem_lines hmodel, fun head => exists_line_of_head hmodel⟩⟩
  · exact hproper.imp (fun _ => PlainName.oneLine) fun _ hname =>
      hname.elim PlainName.oneLine QuotedName.oneLine
  · refine (hnames.and hlines).imp (fun _ hname => plainName_of_oneLine hname.1 hname.2) ?_
    rintro name ⟨hname, hline⟩
    exact hname.imp (plainName_of_oneLine · hline) (quotedName_of_oneLine · hline)

namespace Sample

/-- A table that is nothing but a name and a key. -/
def keyedTable (name key : String) : Table where
  name
  columns := [⟨key, -5, "BIGINT", 19, true, false, false⟩]
  autoIncrement := []
  primaryKey := [⟨key, -5, "BIGINT", 19, true, false, false⟩]
  generated := []
  schema := none
  autoIncrement_declared := fun _ h => absurd h List.not_mem_nil
  primaryKey_declared := fun _ h => List.mem_map_of_mem h
  generated_declared := fun _ h => absurd h List.not_mem_nil

end Sample

/-- A name and a reserved word on one line. -/
theorem names_on_one_line_iff_of_type :
    ∃ checkup, check [Sample.keyedTable "emp" "type"] Settings.default = .ok checkup ∧
      checkup.report.hasErrors = false ∧
      NamesAre Settings.default [Sample.keyedTable "emp" "type"] PlainName
        (fun name => PlainName name ∨ QuotedName name) := by
  refine ⟨_, rfl, by decide +kernel, ?_⟩
  obtain ⟨-, honeLine, hlines, -⟩ := names_on_one_line_iff
    (show check [Sample.keyedTable "emp" "type"] Settings.default = .ok _ from rfl)
    (by decide +kernel)
  refine honeLine.mpr (hlines.mpr ⟨by decide +kernel, fun table htable => ?_⟩)
  rw [List.mem_singleton.mp htable]
  refine ⟨fun a => ?_, by decide +kernel⟩
  cases a <;> decide +kernel

/-- A table whose name ends with a line break passes the checks under the default policies. Its
class name is no identifier on one line, and the break is in the name of its file. -/
theorem class_name_on_two_lines :
    (∃ checkup, check [Sample.keyedTable "emp\n" "id"] Settings.default = .ok checkup ∧
      checkup.report.hasErrors = false ∧ checkup.report.hasWarnings = false) ∧
    Settings.default.className "emp\n" = .text "Emp\n" ∧ ¬PlainName "Emp\n" ∧
    (Target.model Settings.default "Emp\n").path.name = "Emp\n.scala" := by
  refine ⟨⟨_, rfl, by decide +kernel, by decide +kernel⟩, ?_, by decide, by decide +kernel⟩
  exact congrArg Value.text (by decide +kernel)

end RecordMapper.Validation
