import RecordMapper.Proofs.Source.Groups
import RecordMapper.Proofs.Source.Parts

/-!
# Generators of an arbitrary

An arbitrary calls a generator for every column, and generators of texts call helpers of the trait.
A call goes by the type of the column before nullability, a definition by the type of the field.
They part for one kind of column: a required one whose type is an optional text to begin with. Its
generator takes a size that no call passes, and the helper that it uses needs another one, which is
there only if the table has a column of plain texts as well.
-/
namespace RecordMapper.Source

open RecordMapper.Config RecordMapper.Schema RecordMapper.Text RecordMapper.View

/-- The helpers for generators of texts and of optional texts. -/
inductive Helper where
  | texts
  | optionalTexts
  deriving DecidableEq

def Helper.name : Helper → String
  | texts => "stringArbitrary"
  | optionalTexts => "stringOptArbitrary"

/-- What a generator draws from: letters up to a size, the generator in scope for a type, a helper,
or nothing at times and else a helper. -/
inductive Recipe where
  | letters
  | summoned (type : String)
  | delegated (helper : Helper) (size : String)
  | optional (helper : Helper) (size : String)

namespace Recipe

def text : Recipe → String
  | letters =>
    "Gen.choose[Int](1, max).flatMap(Gen.listOfN[Char](_, Gen.alphaChar)).map(_.mkString)"
  | summoned type => "Arbitrary.arbitrary[" ++ type ++ "]"
  | delegated helper size => helper.name ++ "(" ++ size ++ ")"
  | optional helper size => "Gen.option(" ++ helper.name ++ "(" ++ size ++ "))"

@[simp]
theorem text_summoned (type : String) :
    (summoned type).text = "Arbitrary.arbitrary[" ++ type ++ "]" := rfl

@[simp]
theorem text_delegated (helper : Helper) (size : String) :
    (delegated helper size).text = helper.name ++ "(" ++ size ++ ")" := rfl

/-- The helpers that occur in a recipe. -/
def helpers : Recipe → List Helper
  | letters | summoned _ => []
  | delegated helper _ | optional helper _ => [helper]

end Recipe

/-- A definition in the trait. -/
structure Definition where
  name : String
  parameters : List String
  type : String
  recipe : Recipe

namespace Definition

def head (d : Definition) : String :=
  "def " ++ d.name ++ "(" ++ join ", " d.parameters ++ "): Gen[" ++ d.type ++ "] ="

/-- The definition on one line. -/
def line (d : Definition) : String := d.head ++ " " ++ d.recipe.text

/-- The definition on two lines. -/
def lines (d : Definition) : List String := [margin 1 ++ d.head, margin 2 ++ d.recipe.text]

def ofHelper (helper : Helper) : Definition where
  name := helper.name
  parameters := ["max: Int"]
  type := match helper with
    | .texts => "String"
    | .optionalTexts => "Option[String]"
  recipe := match helper with
    | .texts => .letters
    | .optionalTexts => .optional .texts "max"

/-- The generator of a column: texts have a size. -/
def ofColumn (c : ColumnView) : Definition where
  name := c.generatorName
  parameters :=
    if c.fieldType = ScalaType.string ∨ c.fieldType = ScalaType.optionalString then ["size: Int"]
    else []
  type := c.fieldType
  recipe :=
    if c.fieldType = ScalaType.string then .delegated .texts "size"
    else if c.fieldType = ScalaType.optionalString then .delegated .optionalTexts "size"
    else .summoned c.fieldType

end Definition

/-- The call of a generator. -/
structure Call where
  name : String
  arguments : List String

namespace Call

def text (c : Call) : String := c.name ++ "(" ++ join ", " c.arguments ++ ")"

/-- The call for a column: texts pass their size. -/
def ofColumn (c : ColumnView) : Call :=
  ⟨c.generatorName, if c.rawType = ScalaType.string then [toString (max c.column.size 1)] else []⟩

end Call

/-- The helpers that a trait defines. -/
def helpersOf (v : TableView) : List Helper :=
  (if ScalaType.string ∈ v.columns.map ColumnView.rawType then [.texts] else []) ++
    if ScalaType.optionalString ∈ v.columns.map ColumnView.fieldType then [.optionalTexts] else []

/-- The definitions of a trait besides the generator of records. -/
def definitions (v : TableView) : List Definition :=
  (helpersOf v).map Definition.ofHelper ++ v.columns.map Definition.ofColumn

/-- The lines that draw a value for every column, under the names that the values are bound to. -/
def drawingLines (v : TableView) : List String :=
  (v.columns.zip (bindingNames v.columns)).map fun (c, name) =>
    margin 3 ++ name ++ " <- " ++ (Call.ofColumn c).text

/-- Every helper that occurs in a definition is defined once. -/
def Closed (definitions : List Definition) : Prop :=
  ∀ d ∈ definitions, ∀ helper ∈ d.recipe.helpers,
    definitions.countP (fun other => other.name = helper.name) = 1

/-- The column is required and its type is an optional text before nullability. -/
def IsWrappedText (c : ColumnView) : Prop :=
  c.isNotNull = true ∧ c.rawType = ScalaType.optionalString

instance (c : ColumnView) : Decidable (IsWrappedText c) := inferInstanceAs (Decidable (_ ∧ _))

section Texts

theorem text_callOfColumn (c : ColumnView) : (Call.ofColumn c).text = generatorCall c := by
  simp only [Call.text, Call.ofColumn, generatorCall]
  by_cases htext : c.rawType = ScalaType.string
  · rw [if_pos htext, if_pos htext, join, String.append_assoc, String.append_assoc,
      String.append_assoc]
  · have hparentheses : "()" = "(" ++ "" ++ ")" := by decide
    rw [if_neg htext, if_neg htext, hparentheses, join, String.append_assoc, String.append_assoc,
      String.append_assoc]

theorem line_definitionOfColumn (c : ColumnView) :
    (Definition.ofColumn c).line = generatorDefinition c := by
  apply String.toList_injective
  simp only [Definition.line, Definition.head, Definition.ofColumn, generatorDefinition]
  by_cases htext : c.fieldType = ScalaType.string
  · rw [if_pos (.inl htext), if_pos htext, if_pos htext]
    simp [Helper.name, join]
  · rw [if_neg htext, if_neg htext]
    by_cases hoptional : c.fieldType = ScalaType.optionalString
    · rw [if_pos (.inr hoptional), if_pos hoptional, if_pos hoptional]
      simp [Helper.name, join]
    · rw [if_neg (not_or.mpr ⟨htext, hoptional⟩), if_neg hoptional, if_neg hoptional]
      simp [join]

/-- The lines of the definitions, with a blank line between any two. -/
theorem generatorMethods_eq (v : TableView) :
    generatorMethods v =
      ((helpersOf v).flatMap (fun helper => (Definition.ofHelper helper).lines ++ [""]) ++
        v.columns.flatMap fun c => [margin 1 ++ (Definition.ofColumn c).line, ""]).dropLast := by
  have htexts : (Definition.ofHelper .texts).lines =
      ["  def stringArbitrary(max: Int): Gen[String] =", margin 2 ++ Recipe.letters.text] := by
    decide +kernel
  have hletters : margin 2 ++ Recipe.letters.text =
    "    Gen.choose[Int](1, max).flatMap(Gen.listOfN[Char](_, Gen.alphaChar)).map(_.mkString)" := by
    decide +kernel
  have hoptional : (Definition.ofHelper .optionalTexts).lines =
      ["  def stringOptArbitrary(max: Int): Gen[Option[String]] =",
        "    Gen.option(stringArbitrary(max))"] := by
    decide +kernel
  rw [hletters] at htexts
  simp only [generatorMethods, helpersOf, line_definitionOfColumn, List.flatMap_append]
  congr 3
  · split <;> simp [htexts]
  · split <;> simp [hoptional]

end Texts

section Groups

variable {α : Type}

theorem map_flatten_sublist_mapIdx {line : α → String} {lines : Nat → List α → List String}
    (h : ∀ (index : Nat) (members : List α), (members.map line).Sublist (lines index members))
    (groups : List (List α)) :
    (groups.flatten.map line).Sublist (groups.mapIdx lines).flatten := by
  induction groups generalizing lines with
  | nil => exact List.Sublist.refl _
  | cons members rest ih =>
    rw [List.flatten_cons, List.map_append, List.mapIdx_cons, List.flatten_cons]
    exact (h 0 members).append (ih fun index => h (index + 1))

/-- The generator of records draws a value for every column, in their order. -/
theorem drawingLines_sublist (v : TableView) :
    ∃ lines, arbitraryMethod v = cutLines lines ∧ (drawingLines v).Sublist lines := by
  refine ⟨_, rfl, ?_⟩
  let groups := groupsOf maxTupleSize (v.columns.zip (bindingNames v.columns))
  have hgroups : (drawingLines v).Sublist (groups.mapIdx groupLines).flatten := by
    conv_lhs => rw [drawingLines, ← flatten_groupsOf maxTupleSize (v.columns.zip _)]
    refine map_flatten_sublist_mapIdx (fun index members => ?_) _
    simp only [groupLines, text_callOfColumn]
    exact (List.sublist_append_right _ _).trans (List.sublist_append_left _ _)
  simp only [List.append_assoc]
  exact hgroups.trans ((List.sublist_append_left _ _).trans (List.sublist_append_right _ _))

theorem length_drawingLines (v : TableView) : (drawingLines v).length = v.columns.length := by
  rw [drawingLines, List.length_map, List.length_zip, bindingNames, length_bindingsAfter,
    Nat.min_self]

end Groups

section Types

variable {c : ColumnView}

theorem option_ne_string (type : String) : "Option[" ++ type ++ "]" ≠ ScalaType.string := by
  intro h
  have hhead := congrArg (fun text : String => text.toList.head?) h
  simp [ScalaType.string] at hhead

theorem option_eq_optionalString_iff {type : String} :
    "Option[" ++ type ++ "]" = ScalaType.optionalString ↔ type = ScalaType.string := by
  have hparts : ScalaType.optionalString = "Option[" ++ ScalaType.string ++ "]" := by decide
  rw [hparts, ← String.toList_inj, ← String.toList_inj]
  simp only [String.toList_append, List.append_cancel_right_eq, List.append_cancel_left_eq]

theorem fieldType_eq_string_iff :
    c.fieldType = ScalaType.string ↔ c.isNotNull = true ∧ c.rawType = ScalaType.string := by
  unfold ColumnView.fieldType ScalaType.nullable
  cases c.isNotNull with
  | false => simp [option_ne_string]
  | true => simp

theorem fieldType_eq_optionalString_iff :
    c.fieldType = ScalaType.optionalString ↔
      c.isNotNull = false ∧ c.rawType = ScalaType.string ∨ IsWrappedText c := by
  unfold ColumnView.fieldType ScalaType.nullable IsWrappedText
  cases c.isNotNull with
  | false => simp [option_eq_optionalString_iff]
  | true => simp

/-- A wrapped text is no plain text before nullability. -/
theorem IsWrappedText.rawType_ne (h : IsWrappedText c) : c.rawType ≠ ScalaType.string := by
  rw [h.2]
  decide

/-- The fields that hold texts are those of text columns and of wrapped texts. -/
theorem fieldType_text_iff :
    c.fieldType = ScalaType.string ∨ c.fieldType = ScalaType.optionalString ↔
      c.rawType = ScalaType.string ∨ IsWrappedText c := by
  rw [fieldType_eq_string_iff, fieldType_eq_optionalString_iff]
  cases c.isNotNull with
  | false => simp
  | true => simp

/-- A call fits the definition of the generator unless the column is a wrapped text. -/
theorem length_arguments_eq_iff (c : ColumnView) :
    (Call.ofColumn c).arguments.length = (Definition.ofColumn c).parameters.length ↔
      ¬IsWrappedText c := by
  simp only [Call.ofColumn, Definition.ofColumn]
  by_cases hraw : c.rawType = ScalaType.string
  · have hwrapped : ¬IsWrappedText c := fun h => h.rawType_ne hraw
    rw [if_pos hraw, if_pos (fieldType_text_iff.mpr (.inl hraw))]
    exact iff_of_true rfl hwrapped
  · rw [if_neg hraw]
    by_cases hwrapped : IsWrappedText c
    · rw [if_pos (fieldType_text_iff.mpr (.inr hwrapped))]
      exact iff_of_false (by decide) (not_not_intro hwrapped)
    · rw [if_neg (mt fieldType_text_iff.mp (not_or.mpr ⟨hraw, hwrapped⟩))]
      exact iff_of_true rfl hwrapped

end Types

section Closedness

variable {v : TableView}

/-- No generator of a column has the name of a helper. -/
theorem generatorName_ne (c : ColumnView) (helper : Helper) : c.generatorName ≠ helper.name := by
  intro h
  have hhead := congrArg (fun text : String => text.toList.head?) h
  cases helper <;> simp [ColumnView.generatorName, Helper.name] at hhead

theorem texts_mem_helpersOf :
    Helper.texts ∈ helpersOf v ↔ ∃ c ∈ v.columns, c.rawType = ScalaType.string := by
  rw [← List.mem_map]
  unfold helpersOf
  split <;> split <;> simp [*]

theorem optionalTexts_mem_helpersOf :
    Helper.optionalTexts ∈ helpersOf v ↔
      ∃ c ∈ v.columns, c.fieldType = ScalaType.optionalString := by
  rw [← List.mem_map]
  unfold helpersOf
  split <;> split <;> simp [*]

theorem nodup_helpersOf (v : TableView) : (helpersOf v).Nodup := by
  unfold helpersOf
  split <;> split <;> decide

theorem helperName_inj {helper other : Helper} : other.name = helper.name ↔ other = helper := by
  cases helper <;> cases other <;> decide

/-- A helper is defined at most once. -/
theorem countP_name_definitions (v : TableView) (helper : Helper) :
    (definitions v).countP (fun d => d.name = helper.name) =
      if helper ∈ helpersOf v then 1 else 0 := by
  have hcolumns :
      (v.columns.map Definition.ofColumn).countP (fun d => d.name = helper.name) = 0 := by
    rw [List.countP_eq_zero]
    intro d hd
    obtain ⟨c, -, rfl⟩ := List.mem_map.mp hd
    exact fun hname => generatorName_ne c helper (of_decide_eq_true hname)
  have hhelpers : ((helpersOf v).map Definition.ofHelper).countP (fun d => d.name = helper.name) =
      (helpersOf v).count helper := by
    rw [List.countP_map, List.count]
    refine List.countP_congr fun other _ => ?_
    exact decide_eq_true_iff.trans (helperName_inj.trans beq_iff_eq.symm)
  rw [definitions, List.countP_append, hcolumns, hhelpers, (nodup_helpersOf v).count, Nat.add_zero]

theorem of_mem_helpers_ofColumn {c : ColumnView} {helper : Helper}
    (h : helper ∈ (Definition.ofColumn c).recipe.helpers) :
    helper = .texts ∧ c.fieldType = ScalaType.string ∨
      helper = .optionalTexts ∧ c.fieldType = ScalaType.optionalString := by
  simp only [Definition.ofColumn] at h
  split at h
  · exact .inl ⟨List.mem_singleton.mp h, ‹_›⟩
  · split at h
    · exact .inr ⟨List.mem_singleton.mp h, ‹_›⟩
    · cases h

/-- The helper for optional texts is the one that may lack what it needs. -/
theorem closed_definitions_iff (v : TableView) :
    Closed (definitions v) ↔
      (∀ c ∈ v.columns, ¬IsWrappedText c) ∨ ∃ c ∈ v.columns, c.rawType = ScalaType.string := by
  have hdefined (helper : Helper) :
      (definitions v).countP (fun d => d.name = helper.name) = 1 ↔ helper ∈ helpersOf v := by
    rw [countP_name_definitions]
    split <;> simp [*]
  constructor
  · intro hclosed
    by_cases hall : ∀ c ∈ v.columns, ¬IsWrappedText c
    · exact .inl hall
    · simp only [not_forall, not_not] at hall
      obtain ⟨c, hc, hwrapped⟩ := hall
      have hoptional : .optionalTexts ∈ helpersOf v :=
        optionalTexts_mem_helpersOf.mpr ⟨c, hc, fieldType_eq_optionalString_iff.mpr (.inr hwrapped)⟩
      have hneeded := hclosed (.ofHelper .optionalTexts)
        (List.mem_append_left _ (List.mem_map_of_mem hoptional)) .texts (List.mem_singleton_self _)
      exact .inr (texts_mem_helpersOf.mp ((hdefined .texts).mp hneeded))
  · intro h d hd helper hhelper
    rw [hdefined]
    rcases List.mem_append.mp hd with hd | hd
    · obtain ⟨owner, howner, rfl⟩ := List.mem_map.mp hd
      cases owner with
      | texts => cases hhelper
      | optionalTexts =>
        obtain rfl := List.mem_singleton.mp hhelper
        obtain ⟨c, hc, hfield⟩ := optionalTexts_mem_helpersOf.mp howner
        rw [texts_mem_helpersOf]
        rcases fieldType_eq_optionalString_iff.mp hfield with ⟨-, hraw⟩ | hwrapped
        · exact ⟨c, hc, hraw⟩
        · exact h.resolve_left fun hall => hall c hc hwrapped
    · obtain ⟨c, hc, rfl⟩ := List.mem_map.mp hd
      rcases of_mem_helpers_ofColumn hhelper with ⟨rfl, hfield⟩ | ⟨rfl, hfield⟩
      · exact texts_mem_helpersOf.mpr ⟨c, hc, (fieldType_eq_string_iff.mp hfield).2⟩
      · exact optionalTexts_mem_helpersOf.mpr ⟨c, hc, hfield⟩

end Closedness

/-- What an arbitrary draws from. Its text is that of its definitions and of a method that draws a
value for every column, in order, by the call for it. The call for a column has as many arguments as
its definition has parameters unless the column is a wrapped text. Every helper that occurs in a
definition is defined exactly once unless there is a wrapped text and no column of plain texts. -/
theorem arbitrary_calls_fit (config : Settings) (table : Table) (explicit : Option Value) :
    let v := TableView.of config table explicit
    (∀ text, arbitrarySource config table explicit = .ok text → text = render config.eol
      (arbitraryHeader config v ++ [""] ++ ["trait " ++ v.className ++ "Arbitrary \x7b", ""] ++
        arbitraryMethod v ++ [""] ++
        ((helpersOf v).flatMap (fun helper => (Definition.ofHelper helper).lines ++ [""]) ++
          v.columns.flatMap fun c => [margin 1 ++ (Definition.ofColumn c).line, ""]).dropLast ++
        ["\x7d", ""])) ∧
    (∃ lines, arbitraryMethod v = cutLines lines ∧ (drawingLines v).Sublist lines) ∧
    (drawingLines v).length = v.columns.length ∧
    (∀ c ∈ v.columns, (Call.ofColumn c).name = (Definition.ofColumn c).name ∧
      ((Call.ofColumn c).arguments.length = (Definition.ofColumn c).parameters.length ↔
        ¬IsWrappedText c)) ∧
    (Closed (definitions v) ↔
      (∀ c ∈ v.columns, ¬IsWrappedText c) ∨ ∃ c ∈ v.columns, c.rawType = ScalaType.string) := by
  intro v
  refine ⟨fun text htext => ?_, drawingLines_sublist v, length_drawingLines v,
    fun c _ => ⟨rfl, length_arguments_eq_iff c⟩, closed_definitions_iff v⟩
  rw [arbitrarySource_eq_ok htext, arbitraryTrait, generatorMethods_eq]
  simp only [List.append_assoc, List.cons_append, List.nil_append, v]

namespace Sample

/-- Texts of the database are optional texts. -/
def wrapping : Settings :=
  { Settings.default with
    typeOfTypeName := fun name => if name = "VARCHAR" then .text "Option[String]" else .null }

/-- A table with a required text. -/
def named : Table where
  name := "emp"
  columns := [⟨"name", 12, "VARCHAR", 30, true, false, false⟩]
  autoIncrement := []
  primaryKey := [⟨"name", 12, "VARCHAR", 30, true, false, false⟩]
  generated := []
  schema := none
  autoIncrement_declared := by decide
  primaryKey_declared := by decide
  generated_declared := by decide

end Sample

/-- A plain text passes its size to its generator, and the helper is there. -/
theorem arbitrary_calls_fit_of_named :
    let v := TableView.of Settings.default Sample.named none
    (∃ text, arbitrarySource Settings.default Sample.named none = .ok text ∧
      ∃ before, text = render "\n" (before ++ ["\x7d", ""])) ∧
    Closed (definitions v) ∧
    ∀ c ∈ v.columns,
      (Call.ofColumn c).arguments.length = (Definition.ofColumn c).parameters.length := by
  have hplain : ∀ c ∈ (TableView.of Settings.default Sample.named none).columns,
      ¬IsWrappedText c := by decide +kernel
  obtain ⟨htext, -, -, hcalls, hclosed⟩ := arbitrary_calls_fit Settings.default Sample.named none
  refine ⟨⟨_, rfl, _, htext _ rfl⟩, hclosed.mpr (.inl hplain), fun c hc => ?_⟩
  exact (hcalls c hc).2.mpr (hplain c hc)

/-- The generator of a wrapped text takes a size, which its call does not pass, and needs a helper
that is not there. -/
theorem wrapped_text_misfits :
    let v := TableView.of Sample.wrapping Sample.named none
    (∃ text, arbitrarySource Sample.wrapping Sample.named none = .ok text) ∧
    (∃ c ∈ v.columns, generatorCall c = "genName()" ∧
      generatorDefinition c =
        "def genName(size: Int): Gen[Option[String]] = stringOptArbitrary(size)" ∧
      (Call.ofColumn c).arguments.length ≠ (Definition.ofColumn c).parameters.length) ∧
    (∃ d ∈ definitions v, .texts ∈ d.recipe.helpers) ∧
    (definitions v).countP (fun d => d.name = Helper.texts.name) = 0 ∧
    ¬Closed (definitions v) := by
  have hopen : (definitions (TableView.of Sample.wrapping Sample.named none)).countP
      (fun d => d.name = Helper.texts.name) = 0 := by decide +kernel
  have hneeds : ∃ d ∈ definitions (TableView.of Sample.wrapping Sample.named none),
      Helper.texts ∈ d.recipe.helpers := by decide +kernel
  refine ⟨⟨_, rfl⟩, by decide +kernel, hneeds, hopen, fun hclosed => ?_⟩
  obtain ⟨d, hd, htexts⟩ := hneeds
  have hone := hclosed d hd .texts htexts
  rw [hopen] at hone
  cases hone

end RecordMapper.Source
