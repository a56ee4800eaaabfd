import RecordMapper.Proofs.Text.Case
import RecordMapper.Proofs.Text.Lines
import RecordMapper.Source.Model

/-!
# Aliases of tables

Generated code declares a table under an alias and refers to it as such. The alias is made of the
initials of the words in the name of the table, so it always has letters and no others than small
ones, and it never is the alias that is set apart. Any other such word is the alias of some table: a
reserved word is one when the initials spell it, and nothing puts it into back-quotes.
-/
namespace RecordMapper.Naming

open RecordMapper.Config RecordMapper.Schema RecordMapper.Source RecordMapper.Text RecordMapper.View

/-- The small letters of what the first character of a word becomes in upper case. A character may
become several, and one beyond ASCII may become a letter. -/
def initialsOf : List Char → List Char
  | [] => []
  | c :: _ => ((upperChar c).filter Char.isUpper).map Char.toLower

/-- The initials of the words between underscores. -/
def initials (name : String) : String :=
  String.ofList ((pieces '_' name.toList).flatMap initialsOf)

/-- A name with the given initials: every letter is a word. -/
def spelled (letters : String) : String :=
  String.ofList (['_'].intercalate (letters.toList.map fun c => [c]))

section Initials

/-- White space has no upper case. -/
theorem initialsOf_blank {c : Char} (h : isBlank c = true) (rest : List Char) :
    initialsOf (c :: rest) = [] := by
  have hcodes : ∀ n ∈ List.range' 9 5 ++ List.range' 28 5 ++ List.range' 0x2000 11 ++
      [0x85, 0xA0, 0x1680, 0x2028, 0x2029, 0x202F, 0x205F, 0x3000],
      (upperChar (Char.ofNat n)).filter Char.isUpper = [] := by decide +kernel
  have hcode := hcodes c.toNat (by
    simp only [isBlank, Bool.or_eq_true, Bool.and_eq_true, decide_eq_true_eq, beq_iff_eq] at h
    simp only [List.mem_append, List.mem_range'_1, List.mem_cons, List.not_mem_nil, or_false]
    omega)
  rw [Char.ofNat_toNat] at hcode
  rw [initialsOf, hcode, List.map_nil]

/-- The first character of a word is all that capitals come from. -/
theorem capitals_properChars (word : List Char) :
    ((properChars word).filter Char.isUpper).map Char.toLower = initialsOf word := by
  unfold properChars
  cases word with
  | nil => rfl
  | cons c rest =>
    split
    · rename_i hblank
      exact (initialsOf_blank (List.all_eq_true.mp hblank c (List.mem_cons_self ..)) rest).symm
    · have hrest : (lowerAfter [] rest).filter Char.isUpper = [] :=
        List.filter_eq_nil_iff.mpr fun d hd => by simp [isUpper_of_mem_lowerAfter hd]
      rw [List.filter_append, hrest, List.append_nil, initialsOf]

theorem capitals_camelChars (name : List Char) :
    ((camelChars name).filter Char.isUpper).map Char.toLower =
      (pieces '_' name).flatMap initialsOf := by
  rw [camelChars, List.filter_flatMap, List.map_flatMap]
  exact List.flatMap_congr fun word _ => capitals_properChars word

/-- The alias is made of the initials, unless there are none or they spell an alias in use. -/
theorem tableAlias_eq (name : String) :
    tableAlias name =
      if initials name = "" ∨ initials name ∈ takenAliases then defaultAlias
      else initials name := by
  have hname : String.ofList (((camelCase name).toList.filter Char.isUpper).map Char.toLower) =
      initials name := by
    rw [camelCase, String.toList_ofList, capitals_camelChars, initials]
  simp only [tableAlias, hname, Bool.or_eq_true, String.isEmpty_iff, decide_eq_true_eq]

theorem isLower_of_mem_initials {name : String} {c : Char} (h : c ∈ (initials name).toList) :
    c.isLower = true := by
  rw [initials, String.toList_ofList, List.mem_flatMap] at h
  obtain ⟨word, -, hc⟩ := h
  cases word with
  | nil => cases hc
  | cons first rest =>
    obtain ⟨capital, hcapital, rfl⟩ := List.mem_map.mp hc
    rw [Char.isLower_toLower_eq_isAlpha, Char.isAlpha, (List.mem_filter.mp hcapital).2,
      Bool.true_or]

theorem initialsOf_letter {c : Char} (h : c.isLower = true) : initialsOf [c] = [c] := by
  have hupper : c.toUpper.isUpper = true := by
    rw [Char.isUpper_toUpper_eq_isAlpha, Char.isAlpha, h, Bool.or_true]
  have hlower : c.toUpper.toLower = c := by
    rw [Char.toLower_toUpper_eq_toLower,
      Char.toLower_eq_of_not_isUpper (Char.not_isUpper_of_isLower h)]
  rw [initialsOf, upperChar_of_ascii (lt_of_isLower h), List.filter_singleton, hupper, cond_true,
    List.map_singleton, hlower]

/-- Any letters are the initials of a name. -/
theorem initials_spelled {letters : String} (hne : letters ≠ "")
    (h : ∀ c ∈ letters.toList, c.isLower = true) : initials (spelled letters) = letters := by
  have hwords : pieces '_' (spelled letters).toList = letters.toList.map fun c => [c] := by
    rw [spelled, String.toList_ofList]
    refine pieces_intercalate (by simpa using hne) fun word hword => ?_
    obtain ⟨c, hc, rfl⟩ := List.mem_map.mp hword
    rw [List.mem_singleton]
    rintro rfl
    cases h '_' hc
  have hletters : (letters.toList.map fun c => [c]).flatMap initialsOf = letters.toList := by
    rw [List.flatMap_map, List.flatMap_congr fun c hc => initialsOf_letter (h c hc)]
    exact List.flatMap_singleton' _
  rw [initials, hwords, hletters, String.ofList_toList]

end Initials

section Aliases

variable {name : String}

theorem tableAlias_ne_empty (name : String) : tableAlias name ≠ "" := by
  rw [tableAlias_eq]
  split
  · decide
  · rename_i h
    exact fun hempty => h (.inl hempty)

theorem isLower_of_mem_tableAlias {c : Char} (h : c ∈ (tableAlias name).toList) :
    c.isLower = true := by
  rw [tableAlias_eq] at h
  split at h
  · rw [List.mem_singleton.mp h]
    decide
  · exact isLower_of_mem_initials h

theorem tableAlias_not_mem_takenAliases (name : String) : tableAlias name ∉ takenAliases := by
  rw [tableAlias_eq]
  split
  · decide
  · rename_i h
    exact fun htaken => h (.inr htaken)

/-- What stands in for the initials is not reserved, and it stands in for no reserved word. -/
theorem tableAlias_mem_reservedWords_iff :
    tableAlias name ∈ reservedWords ↔ initials name ∈ reservedWords := by
  rw [tableAlias_eq]
  split
  · rename_i h
    have hword : ∀ word ∈ reservedWords, ¬(word = "" ∨ word ∈ takenAliases) := by decide
    exact iff_of_false (by decide) fun hreserved => hword _ hreserved h
  · rfl

/-- The words that are aliases: those of small letters, but for the one that is set apart. -/
theorem exists_tableAlias_iff {word : String} :
    (∃ name, tableAlias name = word) ↔
      word ≠ "" ∧ (∀ c ∈ word.toList, c.isLower = true) ∧ word ∉ takenAliases := by
  constructor
  · rintro ⟨name, rfl⟩
    exact ⟨tableAlias_ne_empty name, fun _ => isLower_of_mem_tableAlias,
      tableAlias_not_mem_takenAliases name⟩
  · rintro ⟨hne, hletters, hfree⟩
    refine ⟨spelled word, ?_⟩
    rw [tableAlias_eq, initials_spelled hne hletters, if_neg (not_or.mpr ⟨hne, hfree⟩)]

end Aliases

section Sources

variable {config : Settings} {table : Table} {explicit : Option Value}

/-- The declaration of the alias in the companion. -/
theorem declaration_mem_companion (config : Settings) (v : TableView) (clause : String) :
    "  val " ++ v.syntaxVariable ++ " = " ++ v.className ++ ".syntax(\"" ++ v.syntaxName ++ "\")" ∈
      companion config v clause := by
  refine List.mem_append_right _ ?_
  simp

theorem syntaxName_of_default (h : config.syntaxName = Settings.default.syntaxName) :
    (TableView.of config table explicit).syntaxName = tableAlias table.name := by
  simp only [TableView.syntaxName, TableView.of, h]
  rfl

theorem syntaxVariable_of_default (h : config.syntaxVariable = Settings.default.syntaxVariable) :
    (TableView.of config table explicit).syntaxVariable = tableAlias table.name := by
  simp only [TableView.syntaxVariable, TableView.of, h]
  rfl

end Sources

/-- The alias of a table has small letters of ASCII, at least one and no others, and it is not the
one that is set apart. It is no reserved word exactly when the initials of the name spell none. As
it is, a companion declares the class under it and the statements refer to the class by it. -/
theorem alias_usable_iff (name : String) :
    (tableAlias name ≠ "" ∧ (∀ c ∈ (tableAlias name).toList, c.isLower = true) ∧
      tableAlias name ≠ "rs") ∧
    (tableAlias name ∉ reservedWords ↔ initials name ∉ reservedWords) ∧
    ∀ (config : Settings) (table : Table) (explicit : Option Value), table.name = name →
      config.syntaxName = Settings.default.syntaxName →
      config.syntaxVariable = Settings.default.syntaxVariable →
      let v := TableView.of config table explicit
      aliased v = v.className ++ " as " ++ tableAlias name ∧
      ∀ clause, "  val " ++ tableAlias name ++ " = " ++ v.className ++ ".syntax(\"" ++
        tableAlias name ++ "\")" ∈ companion config v clause := by
  refine ⟨⟨tableAlias_ne_empty name, fun _ => isLower_of_mem_tableAlias, fun htaken => ?_⟩,
    not_congr tableAlias_mem_reservedWords_iff, ?_⟩
  · exact tableAlias_not_mem_takenAliases name (htaken ▸ List.mem_singleton_self _)
  · rintro config table explicit rfl hname hvariable
    refine ⟨?_, fun clause => ?_⟩
    · rw [aliased, syntaxVariable_of_default hvariable]
    · have hline := declaration_mem_companion config (TableView.of config table explicit) clause
      rwa [syntaxName_of_default hname, syntaxVariable_of_default hvariable] at hline

namespace Sample

/-- A table that is nothing but a name and a key. -/
def named (name : String) : Table where
  name
  columns := [⟨"id", -5, "BIGINT", 0, true, false, false⟩]
  autoIncrement := []
  primaryKey := [⟨"id", -5, "BIGINT", 0, true, false, false⟩]
  generated := []
  schema := none
  autoIncrement_declared := by decide
  primaryKey_declared := by decide
  generated_declared := by decide

end Sample

/-- Two initials that spell no reserved word. -/
theorem alias_usable_iff_of_member_group :
    tableAlias "member_group" = "mg" ∧ tableAlias "member_group" ∉ reservedWords ∧
    let v := TableView.of Settings.default (Sample.named "member_group") none
    aliased v = "MemberGroup as mg" ∧
      "  val mg = MemberGroup.syntax(\"mg\")" ∈ companion Settings.default v "" := by
  have hname : tableAlias "member_group" = "mg" := by decide +kernel
  have hclass : (TableView.of Settings.default (Sample.named "member_group") none).className =
      "MemberGroup" := by decide +kernel
  obtain ⟨-, hreserved, hsources⟩ := alias_usable_iff "member_group"
  obtain ⟨haliased, hline⟩ :=
    hsources Settings.default (Sample.named "member_group") none rfl rfl rfl
  rw [hclass, hname] at haliased
  refine ⟨hname, hreserved.mpr (by decide +kernel), haliased, ?_⟩
  have hdeclared := hline ""
  rw [hclass, hname] at hdeclared
  exact hdeclared

/-- The initials of a data object spell a reserved word, under which its class is declared. -/
theorem alias_of_data_object_is_reserved :
    tableAlias "data_object" = "do" ∧ "do" ∈ reservedWords ∧
    let v := TableView.of Settings.default (Sample.named "data_object") none
    (∃ text, modelSource Settings.default (Sample.named "data_object") none = .ok text) ∧
      aliased v = "DataObject as do" ∧
      "  val do = DataObject.syntax(\"do\")" ∈ companion Settings.default v "" := by
  exact ⟨by decide +kernel, by decide, ⟨_, rfl⟩, by decide +kernel, by decide +kernel⟩

end RecordMapper.Naming
