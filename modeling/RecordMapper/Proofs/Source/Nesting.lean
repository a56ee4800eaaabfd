import RecordMapper.Proofs.Source.Groups
import RecordMapper.Proofs.Source.NestedSpec

/-!
# Nested sources

Every source of a table is nested where everything is that the table and the configuration bring
into it. The records of an arbitrary are put together from groups of columns, each of which opens
and closes its own brackets.
-/
namespace RecordMapper.Source

open RecordMapper.Config RecordMapper.Schema RecordMapper.Text RecordMapper.View

section Names

theorem nested_freeName (taken : List String) {base : String} (h : Nested base) :
    Nested (freeName taken base) := by
  unfold freeName
  dsimp only
  cases hfound : List.find? (· ∉ taken)
      (base :: (List.range' 2 (taken.length + 1)).map fun i => base ++ toString i) with
  | none => exact h
  | some name =>
    rcases List.mem_cons.mp (List.mem_of_find?_eq_some hfound) with rfl | hnumbered
    · exact h
    · obtain ⟨i, -, rfl⟩ := List.mem_map.mp hnumbered
      exact nested_append h (nested_toString i)

theorem nested_bindingName {c : ColumnView} (h : NestedColumn c) : Nested (bindingName c) := by
  unfold bindingName
  split
  · exact nested_append h.bareName (by decide)
  · exact h.field

theorem nested_bindingsAfter {fields done : List String} {columns : List ColumnView}
    (h : ∀ c ∈ columns, NestedColumn c) :
    ∀ name ∈ bindingsAfter fields done columns, Nested name := by
  induction columns generalizing done with
  | nil => exact fun name hname => absurd hname List.not_mem_nil
  | cons c rest ih =>
    have hname : Nested (if bindingName c = c.fieldName then bindingName c
        else freeName (fields ++ done) (bindingName c)) := by
      split
      · exact nested_bindingName (h c (List.mem_cons_self ..))
      · exact nested_freeName _ (nested_bindingName (h c (List.mem_cons_self ..)))
    rw [bindingsAfter]
    exact List.forall_mem_cons.mpr ⟨hname, ih fun d hd => h d (List.mem_cons_of_mem _ hd)⟩

end Names

section Groups

/-- A column and the name it is bound to are nested. -/
def NestedMember (member : ColumnView × String) : Prop :=
  NestedColumn member.1 ∧ Nested member.2

variable {members : List (ColumnView × String)}

theorem nested_generatorCall {c : ColumnView} (h : NestedColumn c) : Nested (generatorCall c) := by
  have hsize := nested_toString (max c.column.size 1)
  have harguments : Nested (if c.rawType = ScalaType.string
      then "(" ++ toString (max c.column.size 1) ++ ")" else "()") := by
    split
    · rw [nested_iff]
      simp only [readText_append, hsize.readText_eq]
      decide
    · decide
  exact nested_append h.generatorName harguments

theorem nested_generatorDefinition {c : ColumnView} (h : NestedColumn c) :
    Nested (generatorDefinition c) := by
  have hhead {parameters : String} (hparameters : Nested parameters) :
      Nested ("def " ++ c.generatorName ++ parameters ++ ": Gen[" ++ c.fieldType ++ "] = ") := by
    rw [nested_iff]
    simp only [readText_append, h.generatorName.readText_eq, hparameters.readText_eq,
      h.fieldType.readText_eq]
    decide
  have hparameters : Nested "(size: Int)" ∧ Nested "()" := by decide
  have hsized := hhead hparameters.1
  have hplain := hhead hparameters.2
  unfold generatorDefinition
  dsimp only
  split
  · exact nested_append hsized (by decide)
  · split
    · exact nested_append hsized (by decide)
    · have hopened : Nested ("Arbitrary.arbitrary[" ++ c.fieldType ++ "]") := by
        rw [nested_iff]
        simp only [readText_append, h.fieldType.readText_eq]
        decide
      simpa only [String.append_assoc] using nested_append hplain hopened

theorem nested_tupleOf {names : List String} (h : ∀ name ∈ names, Nested name) :
    Nested (tupleOf names) := by
  have hnames : Nested (join ", " names) := nested_join (by decide) (nestedLines_of_nested h)
  unfold tupleOf
  split
  · rename_i name
    rw [nested_iff]
    simp only [readText_append, (h name (List.mem_singleton_self name)).readText_eq]
    decide
  · rw [nested_iff]
    simp only [readText_append, hnames.readText_eq]
    decide

theorem nestedLines_groupLines (index : Nat) (h : ∀ member ∈ members, NestedMember member) :
    NestedLines (groupLines index members) := by
  have hgenerators : NestedLines (members.map fun member =>
      margin 3 ++ member.2 ++ " <- " ++ generatorCall member.1) := by
    refine nestedLines_map fun member hmember => ?_
    obtain ⟨hcolumn, hname⟩ := h member hmember
    exact nested_append (nested_append (nested_append (nested_margin 3) hname) (by decide))
      (nested_generatorCall hcolumn)
  have htuple : Nested (tupleOf (members.map Prod.snd)) := by
    refine nested_tupleOf fun name hname => ?_
    obtain ⟨member, hmember, rfl⟩ := List.mem_map.mp hname
    exact (h member hmember).2
  rw [nestedLines_iff]
  unfold groupLines
  simp only [readTexts_append, readTexts_cons, readTexts_nil, readText_append,
    hgenerators.readTexts_eq, htuple.readText_eq, (nested_toString _).readText_eq,
    (nested_margin _).readText_eq]
  decide

theorem nestedLines_groupArguments (index : Nat) (h : ∀ member ∈ members, NestedMember member) :
    NestedLines (groupArguments index members) := by
  refine nestedLines_of_nested fun line hline => ?_
  obtain ⟨position, hposition, rfl⟩ := List.mem_mapIdx.mp hline
  have hcolumn := (h _ (List.getElem_mem hposition)).1
  rw [nested_iff]
  simp only [readText_append, hcolumn.field.readText_eq, (nested_toString _).readText_eq,
    (nested_margin _).readText_eq]
  decide

/-- What is made of every group in turn. -/
theorem nestedLines_flatten_mapIdx {α : Type} {groups : List (List α)}
    {f : Nat → List α → List String}
    (h : ∀ group ∈ groups, ∀ index, NestedLines (f index group)) :
    NestedLines (groups.mapIdx f).flatten := by
  rw [← List.flatMap_id]
  refine nestedLines_flatMap fun lines hlines => ?_
  obtain ⟨index, hindex, rfl⟩ := List.mem_mapIdx.mp hlines
  exact h _ (List.getElem_mem hindex) index

end Groups

section Arbitraries

variable {config : Settings} {v : TableView} (h : NestedView v)

include h

theorem nestedLines_arbitraryMethod : NestedLines (arbitraryMethod v) := by
  have hmembers : ∀ group ∈ groupsOf maxTupleSize (v.columns.zip (bindingNames v.columns)),
      ∀ member ∈ group, NestedMember member := by
    intro group hgroup member hmember
    have hmem := List.of_mem_zip (mem_of_mem_groupsOf hgroup hmember)
    exact ⟨h.columns _ hmem.1, nested_bindingsAfter h.columns _ hmem.2⟩
  have hgroups := nestedLines_flatten_mapIdx (f := groupLines) fun group hgroup index =>
    nestedLines_groupLines index (hmembers group hgroup)
  have harguments := nestedLines_flatten_mapIdx (f := groupArguments) fun group hgroup index =>
    nestedLines_groupArguments index (hmembers group hgroup)
  have hvalues : NestedLines
      ((groupsOf maxTupleSize (v.columns.zip (bindingNames v.columns))).mapIdx fun i _ =>
        margin 3 ++ "value" ++ toString i ++ " <- gen" ++ toString i) := by
    refine nestedLines_of_nested fun line hline => ?_
    obtain ⟨i, -, rfl⟩ := List.mem_mapIdx.mp hline
    rw [nested_iff]
    simp only [readText_append, (nested_toString _).readText_eq, (nested_margin _).readText_eq]
    decide
  rw [nestedLines_iff]
  unfold arbitraryMethod
  simp only [readTexts_cutLines, readTexts_append, readTexts_cons, readTexts_nil,
    readTexts_assignments, readText_append, hgroups.readTexts_eq, harguments.readTexts_eq,
    hvalues.readTexts_eq, h.className.readText_eq]
  decide

theorem nestedLines_generatorMethods : NestedLines (generatorMethods v) := by
  have hhelpers : (∀ line ∈ [ "  def stringArbitrary(max: Int): Gen[String] =",
        "    Gen.choose[Int](1, max).flatMap(Gen.listOfN[Char](_, Gen.alphaChar)).map(_.mkString)",
        ""], Nested line) ∧
      ∀ line ∈ [ "  def stringOptArbitrary(max: Int): Gen[Option[String]] =",
        "    Gen.option(stringArbitrary(max))",
        ""], Nested line := by decide +kernel
  refine nestedLines_of_nested fun line hline => ?_
  rcases List.mem_append.mp (List.mem_of_mem_dropLast hline) with hhelper | hdefinition
  · rcases List.mem_append.mp hhelper with htext | hoptional
    · split at htext
      · exact hhelpers.1 line htext
      · cases htext
    · split at hoptional
      · exact hhelpers.2 line hoptional
      · cases hoptional
  · obtain ⟨c, hc, hmem⟩ := List.mem_flatMap.mp hdefinition
    rcases List.mem_cons.mp hmem with rfl | hblank
    · exact nested_append (nested_margin 1) (nested_generatorDefinition (h.columns c hc))
    · rw [List.mem_singleton.mp hblank]
      exact nested_empty

theorem nestedLines_arbitraryTrait : NestedLines (arbitraryTrait v) := by
  rw [nestedLines_iff]
  unfold arbitraryTrait
  simp only [readTexts_append, readTexts_cons, readTexts_nil, readText_append, readText_empty,
    (nestedLines_arbitraryMethod h).readTexts_eq, (nestedLines_generatorMethods h).readTexts_eq,
    h.className.readText_eq]
  decide

omit h in
theorem nestedLines_arbitraryHeader (hconfig : NestedSettings config v.tableName) :
    NestedLines (arbitraryHeader config v) := by
  have hlibraries : ∀ line ∈ ["import org.scalacheck.\x7bArbitrary, Gen\x7d",
      "import org.scalacheck.Arbitrary._"], Nested line := by decide +kernel
  have hopening := nestedLines_opening hconfig (config.returnCollection = .factory) hlibraries
  rw [arbitraryHeader_eq]
  exact nestedLines_append (nestedLines_append hopening (nestedLines_timeImports config v))
    (nestedLines_importLines hconfig.arbitraryImports)

end Arbitraries

/-- All three sources of a table are properly nested in parentheses, square brackets and braces,
whatever the switches of the configuration are, if every text is that the table and the
configuration bring into them. -/
theorem sources_nested (config : Settings) (table : Table) (explicit : Option Value)
    (hconfig : NestedSettings config table.name)
    (hview : NestedView (TableView.of config table explicit)) :
    (∀ text, modelSource config table explicit = .ok text → Nested text) ∧
    (∀ text, specSource config table explicit = .ok (some text) → Nested text) ∧
    (∀ text, arbitrarySource config table explicit = .ok text → Nested text) := by
  have hdraws := drawsColumns config table explicit
  refine ⟨fun text hmade => ?_, fun text hmade => ?_, fun text hmade => ?_⟩
  · obtain ⟨model, hmodel, rfl⟩ := modelSource_eq_ok hmade
    exact nested_render (nested_eol config) (nestedLines_modelOf hconfig hview hdraws hmodel)
  · exact nested_specSource hconfig hview hmade
  · rw [arbitrarySource_eq_ok hmade]
    refine nested_render (nested_eol config) ?_
    have hblank : NestedLines [""] := nestedLines_cons nested_empty nestedLines_nil
    exact nestedLines_append (nestedLines_append (nestedLines_append
      (nestedLines_arbitraryHeader hconfig) hblank) (nestedLines_arbitraryTrait hview)) hblank

namespace Sample

/-- Everything that a configuration can add to the sources of the events. -/
def decorated : Settings where
  __ := flatSpec
  baseTypes := sameTypes [.text "Stored[$className]", .text "Product"]
  specBaseTypes := sameTypes [.text "Tables(\x7b\x7d)"]
  imports := ["stored.\x7bStored, Tables\x7d"]
  arbitraryImports := ["stored.\x7bStored, Tables\x7d"]

theorem nestedTypes_sameTypes {types : List Value} (h : NestedLines (types.map Value.display)) :
    NestedTypes (sameTypes types "event") := by
  rintro items hitems
  cases hitems
  exact h

theorem nestedSettings_decorated : NestedSettings decorated events.name where
  package := by decide
  imports := by decide
  specImports := by decide
  arbitraryImports := by decide
  baseTypes := nestedTypes_sameTypes (by decide)
  companionBaseTypes := nestedTypes_sameTypes nestedLines_nil
  specBaseTypes := nestedTypes_sameTypes (by decide)

theorem nestedView_events : NestedView (TableView.of decorated events none) where
  className := by decide +kernel
  syntaxName := by decide +kernel
  syntaxVariable := by decide +kernel
  tableName := by decide
  schema := by decide
  columns c hc := by
    have hall : ∀ c ∈ (TableView.of decorated events none).columns,
        Nested c.name ∧ Nested c.fieldName ∧ Nested c.rawType ∧ Nested c.sample := by
      decide +kernel
    obtain ⟨hname, hfield, htype, hsample⟩ := hall c hc
    exact ⟨hname, hfield, htype, hsample⟩

end Sample

/-- All sources of the events are there and nested. -/
theorem sources_nested_of_events : ∃ model spec arbitrary,
    modelSource Sample.decorated Sample.events none = .ok model ∧
    specSource Sample.decorated Sample.events none = .ok (some spec) ∧
    arbitrarySource Sample.decorated Sample.events none = .ok arbitrary ∧
    Nested model ∧ Nested spec ∧ Nested arbitrary := by
  obtain ⟨hmodel, hspec, harbitrary⟩ := sources_nested Sample.decorated Sample.events none
    Sample.nestedSettings_decorated Sample.nestedView_events
  obtain ⟨model, hmodelMade⟩ : ∃ text, modelSource Sample.decorated Sample.events none = .ok text :=
    ⟨_, rfl⟩
  obtain ⟨spec, hspecMade⟩ := exists_eq_ok_some
    (show (specSource Sample.decorated Sample.events none).toOption.join.isSome = true from rfl)
  obtain ⟨arbitrary, harbitraryMade⟩ : ∃ text,
      arbitrarySource Sample.decorated Sample.events none = .ok text := ⟨_, rfl⟩
  exact ⟨model, spec, arbitrary, hmodelMade, hspecMade, harbitraryMade, hmodel _ hmodelMade,
    hspec _ hspecMade, harbitrary _ harbitraryMade⟩

end RecordMapper.Source
