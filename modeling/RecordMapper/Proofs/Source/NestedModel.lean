import RecordMapper.Proofs.Source.NestedBodies
import RecordMapper.Proofs.Source.TypeImports

/-!
# Nested models

A model is nested as a whole. Its companion opens a brace that the last line of the file closes, and
the operations in between are nested one by one.
-/
namespace RecordMapper.Source

open RecordMapper.Config RecordMapper.Schema RecordMapper.Text RecordMapper.View

/-- The types that a policy answers with are nested one after another. A text counts as the types
that its characters name. -/
def NestedTypes (answer : Value) : Prop :=
  ∀ items, answer.items? = some items → NestedLines (items.map Value.display)

/-- What is written of a configuration into the sources of a table is nested. -/
structure NestedSettings (config : Settings) (tableName : String) : Prop where
  package : Nested config.package
  imports : ∀ line ∈ config.imports, Nested line
  specImports : ∀ line ∈ config.specImports, Nested line
  arbitraryImports : ∀ line ∈ config.arbitraryImports, Nested line
  baseTypes : NestedTypes (config.baseTypes tableName)
  companionBaseTypes : NestedTypes (config.companionBaseTypes tableName)
  specBaseTypes : NestedTypes (config.specBaseTypes tableName)

section Clauses

variable {v : TableView} {clause keyword : String}

theorem map_display_of_clauseTypes {classAnswer : Value} {items : List Value} {types : List String}
    (h : items.mapM (clauseType classAnswer) = .ok types) : types = items.map Value.display := by
  induction items generalizing types with
  | nil =>
    cases h
    rfl
  | cons item rest ih =>
    rw [List.mapM_cons] at h
    obtain ⟨type, htype, h⟩ := bind_eq_ok_iff.mp h
    obtain ⟨others, hothers, h⟩ := bind_eq_ok_iff.mp h
    cases h
    rw [List.map_cons, ← ih hothers]
    unfold clauseType at htype
    split at htype
    · obtain ⟨-, -, htype⟩ := bind_eq_ok_iff.mp htype
      cases htype
      rfl
    · cases htype

theorem readTexts_map_replaceAll {awaited : Awaited} {className : String} (h : Nested className)
    (types : List String) : readTexts awaited (types.map (replaceAll "$className" className)) =
      readTexts awaited types := by
  induction types generalizing awaited with
  | nil => rfl
  | cons type rest ih =>
    rw [List.map_cons, readTexts_cons, readTexts_cons,
      readText_replaceAll (by decide) (forall_free (by decide)) h, ih]

theorem nested_withClause {types : List String} {className : String} (h : Nested className)
    (htypes : NestedLines types) (hkeyword : Nested keyword) :
    Nested (withClause types className keyword) := by
  have hwith : Nested " with " := by decide
  have hblank : Nested " " := by decide
  unfold withClause
  split
  · exact nested_empty
  · rw [nested_iff]
    simp only [readText_append, hkeyword.readText_eq, hblank.readText_eq, readText_join hwith,
      readTexts_map_replaceAll h, htypes.readTexts_eq]

theorem nested_policyClause {policy : Policy} (h : NestedView v)
    (htypes : NestedTypes (policy v.tableName)) (hkeyword : Nested keyword)
    (hclause : policyClause policy v keyword = .ok clause) : Nested clause := by
  obtain ⟨items, hitems, hclause⟩ := bind_eq_ok_iff.mp hclause
  obtain ⟨types, hmapped, hclause⟩ := bind_eq_ok_iff.mp hclause
  cases hclause
  have hanswer : (policy v.tableName).items? = some items := by
    unfold Policy.items at hitems
    split at hitems
    · cases hitems
    · rename_i hanswer
      rw [hanswer]
      exact congrArg some (Except.ok.inj hitems)
  rw [map_display_of_clauseTypes hmapped]
  exact nested_withClause h.className (htypes items hanswer) hkeyword

end Clauses

section Imports

variable {config : Settings} {v : TableView}

theorem nested_selector {names : List String} (h : ∀ name ∈ names, Nested name) :
    Nested (selector names) := by
  have hnames : Nested (join ", " names) := nested_join (by decide) (nestedLines_of_nested h)
  rw [nested_iff]
  unfold selector
  simp only [readText_append, hnames.readText_eq]
  decide

theorem nestedLines_importLines {imports : List String} (h : ∀ line ∈ imports, Nested line) :
    NestedLines (importLines imports) :=
  nestedLines_map fun line hline => nested_append (by decide) (h line hline)

theorem IsChoice.nested {names : List String} {choice : String} (hchoice : IsChoice names choice)
    (h : ∀ name ∈ names, Nested name) : Nested choice := by
  rcases hchoice with rfl | ⟨-, rfl⟩
  · exact h choice (List.mem_singleton_self choice)
  · exact nested_selector h

theorem nestedLines_timeImports (config : Settings) (v : TableView) :
    NestedLines (timeImports config v) := by
  have htypes : ∀ name ∈ ScalaType.timeTypes, Nested name := by decide
  rcases timeImports_eq config v with ⟨-, himports⟩ | ⟨choice, hchoice, himports⟩
  · rw [himports]
    exact nestedLines_nil
  · have hnames : Nested choice :=
      hchoice.nested fun name hname => htypes name (mem_timeTypes_of_mem hname)
    have hopening : Nested (importOpening config.dateTimeClass.package) := by
      cases config.dateTimeClass <;> decide
    have hbinders :
        NestedLines (if config.dateTimeClass.isJoda then jodaBinderImports else []) := by
      split
      · exact nestedLines_of_nested (by decide +kernel)
      · exact nestedLines_nil
    rw [himports]
    exact nestedLines_cons (nested_append hopening hnames) hbinders

theorem nestedLines_sqlImports (v : TableView) : NestedLines (sqlImports v) := by
  have htypes : ∀ name ∈ ScalaType.sqlTypes, Nested name := by decide
  rcases sqlImports_eq v with ⟨-, himports⟩ | ⟨choice, hchoice, himports⟩
  · rw [himports]
    exact nestedLines_nil
  · have hnames : Nested choice :=
      hchoice.nested fun name hname => htypes name (mem_sqlTypes_of_mem hname)
    rw [himports]
    exact nestedLines_cons (nested_append (by decide) hnames) nestedLines_nil

theorem nestedLines_opening {tableName : String} (hconfig : NestedSettings config tableName)
    (compat : Bool) {libraries : List String} (h : ∀ line ∈ libraries, Nested line) :
    NestedLines (opening config compat libraries) := by
  have hpackage : Nested ("package " ++ config.package) := nested_append (by decide) hconfig.package
  have hcompat : NestedLines (if compat then [compatImport] else []) := by
    split
    · exact nestedLines_of_nested (by decide)
    · exact nestedLines_nil
  exact nestedLines_append (nestedLines_append (nestedLines_cons hpackage
    (nestedLines_cons nested_empty nestedLines_nil)) hcompat) (nestedLines_of_nested h)

theorem nestedLines_modelHeader (hconfig : NestedSettings config v.tableName) :
    NestedLines (modelHeader config v) := by
  have hlibrary : ∀ line ∈ [libraryImport], Nested line := by decide
  have hopening := nestedLines_opening hconfig
    (CollectionShape.of config.returnCollection).usesFactory hlibrary
  have himports : NestedLines (modelImports config v) :=
    nestedLines_append (nestedLines_append hopening (nestedLines_timeImports config v))
      (nestedLines_sqlImports v)
  exact nestedLines_append himports (nestedLines_importLines hconfig.imports)

end Imports

section Declarations

variable {config : Settings} {v : TableView} {clause : String}

theorem nested_sessionParameter (config : Settings) {owner : String} (h : Nested owner) :
    Nested (sessionParameter config owner) := by
  have howner : Nested (if owner.isEmpty then "" else owner ++ ".") := by
    split
    · exact nested_empty
    · exact nested_append h (by decide)
  unfold sessionParameter
  split
  · exact nested_append (nested_append (by decide) howner) (by decide)
  · decide

theorem nestedLines_caseClass (config : Settings) (h : NestedView v) (hclause : Nested clause) :
    NestedLines (caseClass config v clause) := by
  have hparameters : NestedLines (v.columns.map ColumnView.parameter) :=
    nestedLines_map fun c hc => (h.columns c hc).parameter
  have hsession : Nested (sessionParameter config
      (if v.classAnswer.isGiven then v.className else "")) := by
    refine nested_sessionParameter config ?_
    split
    · exact h.className
    · exact nested_empty
  have hending : (fun line => line ++ ") " ++ clause ++ "\x7b") =
      (· ++ (") " ++ clause ++ "\x7b")) :=
    funext fun line => by simp only [String.append_assoc]
  rw [nestedLines_iff]
  unfold caseClass
  simp only [hending, readTexts_append, readTexts_onLast (List.cons_ne_nil _ _), readTexts_cons,
    readTexts_nil, readTexts_listed, readText_append, hparameters.readTexts_eq,
    h.className.readText_eq, hsession.readText_eq, hclause.readText_eq]
  decide

theorem nestedLines_nameConverters (h : NestedView v) : NestedLines (nameConverters v) := by
  have hpairs : ∀ c ∈ v.columns, Nested (literal c.bareName ++ " -> " ++ literal c.name) := by
    intro c hc
    rw [nested_iff]
    simp only [readText_append, readText_literal, (h.columns c hc).bareName.readText_eq,
      (h.columns c hc).name.readText_eq]
    decide
  unfold nameConverters
  dsimp only
  split
  · exact nestedLines_nil
  · have hkept : NestedLines ((v.columns.filter fun c =>
        Naming.plainFieldName c.name ≠ c.fieldName).map fun c =>
          literal c.bareName ++ " -> " ++ literal c.name) :=
      nestedLines_map fun c hc => hpairs c (List.mem_of_mem_filter hc)
    have hcomma : Nested ", " := by decide
    have hjoined := nested_join hcomma hkept
    rw [nestedLines_iff]
    simp only [readTexts_cons, readTexts_nil, readText_append, hjoined.readText_eq]
    decide

theorem nested_rowAssignment (h : NestedView v) {c : ColumnView} (hc : NestedColumn c) :
    Nested (rowAssignment v c) := by
  have hgetter : Nested (if c.isAny then (if c.isNotNull then "any" else "anyOpt") else "get") := by
    cases c.isAny <;> cases c.isNotNull <;> decide
  rw [nested_iff]
  unfold rowAssignment
  simp only [readText_append, hgetter.readText_eq, hc.field.readText_eq,
    h.syntaxVariable.readText_eq, (nested_margin _).readText_eq]
  decide

theorem nested_mapperHead (h : NestedView v) {provider : String} (hprovider : Nested provider) :
    Nested (mapperHead v provider) := by
  rw [nested_iff]
  unfold mapperHead
  simp only [readText_append, hprovider.readText_eq, h.className.readText_eq,
    h.syntaxVariable.readText_eq]
  decide

theorem nestedLines_rowMapper (config : Settings) (h : NestedView v) :
    NestedLines (rowMapper config v) := by
  have hproviders : Nested "SyntaxProvider" ∧ Nested "ResultName" := by decide
  have hsyntax := nested_mapperHead h hproviders.1
  have hresult := nested_mapperHead h hproviders.2
  have hrows : NestedLines (v.columns.map (rowAssignment v)) :=
    nestedLines_map fun c hc => nested_rowAssignment h (h.columns c hc)
  rw [nestedLines_iff]
  unfold rowMapper
  dsimp only
  split
  · simp only [readTexts_cons, readTexts_nil, readText_append, hsyntax.readText_eq,
      hresult.readText_eq, h.syntaxVariable.readText_eq]
    decide
  · simp only [readTexts_cutLines, readTexts_append, readTexts_cons, readTexts_nil,
      readTexts_assignments, readText_append, hsyntax.readText_eq, hresult.readText_eq,
      hrows.readTexts_eq, h.syntaxVariable.readText_eq, h.className.readText_eq]
    decide

/-- The brace of the companion is still open after its last line. -/
theorem readTexts_companion (config : Settings) (h : NestedView v) (hclause : Nested clause) :
    readTexts (some []) (companion config v clause) = some ['\x7d'] := by
  have hcomma : Nested ", " := by decide
  have hnames := nested_join hcomma (nestedLines_map fun c hc => (h.columns c hc).literal_name)
  unfold companion
  simp only [readTexts_append, readTexts_cons, readTexts_nil, readText_append, readText_literal,
    (nestedLines_nameConverters h).readTexts_eq, (nestedLines_rowMapper config h).readTexts_eq,
    hnames.readText_eq, hclause.readText_eq, h.className.readText_eq, h.tableName.readText_eq,
    h.syntaxVariable.readText_eq, h.syntaxName.readText_eq]
  split
  · rename_i schema hschema
    simp only [readTexts_cons, readTexts_nil, readText_append, readText_literal,
      (h.schema? hschema).readText_eq]
    simp only [readText_ofList]
    decide +kernel
  · simp only [readText_ofList]
    decide +kernel

end Declarations

section Methods

variable {config : Settings} {v : TableView}

/-- The texts of a collection shape, given an element. -/
theorem nested_shape (collection : ReturnCollection) :
    Nested (CollectionShape.of collection).typeParameter ∧
    Nested (CollectionShape.of collection).returnType ∧
    Nested (CollectionShape.of collection).rows := by
  cases collection <;> decide

theorem nested_applied (collection : ReturnCollection) {element : String} (h : Nested element) :
    Nested ((CollectionShape.of collection).applied element) := by
  have htype := (nested_shape collection).2.1
  rw [nested_iff]
  unfold CollectionShape.applied
  simp only [readText_append, htype.readText_eq, h.readText_eq]
  decide

theorem nested_factoryParameter (shape : CollectionShape) {element : String} (h : Nested element) :
    Nested (shape.factoryParameter element) := by
  have hfactory : Nested CollectionShape.factoryType := by decide
  unfold CollectionShape.factoryParameter
  split
  · rw [nested_iff]
    simp only [readText_append, h.readText_eq, hfactory.readText_eq]
    decide
  · exact nested_empty

theorem nestedLines_method {m : Method} (hsignature : Nested m.signature)
    (hbody : NestedLines m.body) : NestedLines m.lines := by
  rw [nestedLines_iff]
  unfold Method.lines
  simp only [readTexts_append, readTexts_cons, readTexts_nil, readText_append, readTexts_indent,
    hsignature.readText_eq, hbody.readTexts_eq, (nested_margin _).readText_eq]
  decide

theorem nested_signatures (config : Settings) (style : Style) (h : NestedView v)
    (hdraws : DrawsColumns v) : ∀ m ∈ methods config style v, Nested m.signature := by
  obtain ⟨htype, hreturn, hrows⟩ := nested_shape config.returnCollection
  have hsession := nested_sessionParameter config nested_empty
  have hrowsType := nested_applied config.returnCollection h.className
  have hrowsFactory :=
    nested_factoryParameter (CollectionShape.of config.returnCollection) h.className
  have hint : Nested "Int" := by decide
  have hcountsType := nested_applied config.returnCollection hint
  have hcountsFactory :=
    nested_factoryParameter (CollectionShape.of config.returnCollection) hint
  have hkey : Nested (join ", " (v.key.map ColumnView.typed)) :=
    nested_join (by decide) (nestedLines_map fun c hc => (h.columns c (hdraws.key hc)).typed)
  have hfields : Nested (join ", " (v.insert.map ColumnView.parameter)) :=
    nested_join (by decide)
      (nestedLines_map fun c hc => (h.columns c (hdraws.insert hc)).parameter)
  unfold methods
  simp only [List.forall_mem_cons, nested_iff, readText_append, h.className.readText_eq,
    htype.readText_eq, hsession.readText_eq, hrowsType.readText_eq, hrowsFactory.readText_eq,
    hcountsType.readText_eq, hcountsFactory.readText_eq, hkey.readText_eq, hfields.readText_eq]
  simp only [readText_ofList]
  decide +kernel

theorem nestedLines_bodies (config : Settings) {style : Style} (h : NestedView v)
    (hdraws : DrawsColumns v) (hstyle : NestedStyle style v) :
    ∀ m ∈ methods config style v, NestedLines m.body := by
  obtain ⟨-, hreturn, hrows⟩ := nested_shape config.returnCollection
  unfold methods
  simp only [List.forall_mem_cons]
  exact ⟨hstyle.find, hstyle.findAll hrows, hstyle.countAll, hstyle.findBy, hstyle.findAllBy hrows,
    hstyle.countBy, nestedLines_createBody h hstyle, nestedLines_batchInsertBody h hdraws hreturn,
    hstyle.save, hstyle.destroy, by simp⟩

theorem nestedLines_modelOf {model : ModelSource} (hconfig : NestedSettings config v.tableName)
    (h : NestedView v) (hdraws : DrawsColumns v) (hmodel : modelOf config v = .ok model) :
    NestedLines model.lines := by
  obtain ⟨classClause, companionClause, hclass, hcompanion, rfl⟩ := modelOf_eq_ok hmodel
  have hcaseClass := nestedLines_caseClass config h
    (nested_policyClause h hconfig.baseTypes (by decide) hclass)
  have hopen := readTexts_companion config h
    (nested_policyClause h hconfig.companionBaseTypes (by decide) hcompanion)
  have hstyle := nestedStyle config.template h hdraws
  have hmethods : NestedLines ((methods config (Style.of config.template) v).flatMap
      fun m => "" :: m.lines) :=
    nestedLines_flatMap fun m hm => nestedLines_cons nested_empty (nestedLines_method
      (nested_signatures config _ h hdraws m hm) (nestedLines_bodies config h hdraws hstyle m hm))
  rw [nestedLines_iff]
  unfold ModelSource.lines
  simp only [readTexts_append, readTexts_cons, readTexts_nil, readText_empty,
    (nestedLines_modelHeader hconfig).readTexts_eq, hcaseClass.readTexts_eq, hopen,
    hmethods.readTexts_eq]
  decide

end Methods

end RecordMapper.Source
