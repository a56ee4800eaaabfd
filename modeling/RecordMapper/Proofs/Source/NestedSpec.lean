import RecordMapper.Proofs.Source.NestedModel

/-!
# Nested specs

The body of every framework is nested while its placeholders are open, since placeholders hold no
brackets. Filling them in brings brackets in pairs only, even where a value holds the placeholder of
another one.
-/
namespace RecordMapper.Source

open RecordMapper.Config RecordMapper.Text RecordMapper.View

section Bodies

variable {awaited : Awaited}

theorem isBracket_of_mem_token {p : Placeholder} {c : Char} (h : c ∈ p.token.toList) :
    isBracket c = false := by
  rcases percent_or_letter h with rfl | hletter
  · decide
  · exact isBracket_of_lacking (by decide) hletter

theorem nested_token (p : Placeholder) : Nested p.token :=
  nested_of_free fun _ hc => isBracket_of_mem_token hc

theorem readText_companionCall (call : String) :
    readText awaited (companionCall call) = readText awaited call := by
  have hpoint : Nested "." := by decide
  unfold companionCall
  rw [readText_append, readText_append, (nested_token _).readText_eq, hpoint.readText_eq]

theorem nested_findByKey : Nested findByKey := by
  rw [nested_iff]
  unfold findByKey
  simp only [readText_companionCall, readText_append, (nested_token _).readText_eq]
  decide

theorem nested_byExample {method : String} (h : Nested method) : Nested (byExample method) := by
  rw [nested_iff]
  unfold byExample
  simp only [readText_companionCall, readText_append, (nested_token _).readText_eq, h.readText_eq]
  decide

/-- The wording of a framework is nested around what it is given. -/
structure NestedMatchers (m : Matchers) : Prop where
  isTrue : Nested m.isTrue
  isFalse : Nested m.isFalse
  isAbove : ∀ {limit}, Nested limit → Nested (m.isAbove limit)
  isPresent : Nested m.isPresent
  differsFrom : ∀ {other}, Nested other → Nested (m.differsFrom other)
  isOne : ∀ {expr}, Nested expr → NestedLines (m.isOne expr)

theorem nestedMatchers_scalatest : NestedMatchers .scalatest where
  isTrue := by decide
  isFalse := by decide
  isAbove h := by
    rw [nested_iff]
    unfold Matchers.scalatest
    simp only [readText_append, h.readText_eq]
    decide
  isPresent := by decide
  differsFrom h := by
    rw [nested_iff]
    unfold Matchers.scalatest
    simp only [readText_append, h.readText_eq]
    decide
  isOne h := by
    rw [nestedLines_iff]
    unfold Matchers.scalatest
    simp only [readTexts_cons, readTexts_nil, readText_append, h.readText_eq]
    decide

theorem nestedMatchers_specs2 : NestedMatchers .specs2 where
  isTrue := by decide
  isFalse := by decide
  isAbove h := by
    rw [nested_iff]
    unfold Matchers.specs2
    simp only [readText_append, h.readText_eq]
    decide
  isPresent := by decide
  differsFrom h := by
    rw [nested_iff]
    unfold Matchers.specs2
    simp only [readText_append, h.readText_eq]
    decide
  isOne h := by
    rw [nestedLines_iff]
    unfold Matchers.specs2
    simp only [readTexts_cons, readTexts_nil, readText_append, h.readText_eq]
    decide

theorem nested_titles : ∀ s ∈ scenarios, Nested s.title ∧ Nested s.method := by decide +kernel

theorem nestedLines_statements {m : Matchers} (h : NestedMatchers m) :
    ∀ s ∈ scenarios, NestedLines (s.statements m) := by
  have hfindBy : Nested (byExample "findBy") := nested_byExample (by decide)
  have hfindAllBy : Nested (byExample "findAllBy") := nested_byExample (by decide)
  have hcountBy : Nested (byExample "countBy") := nested_byExample (by decide)
  have hzero : Nested (m.isAbove "0") := h.isAbove (by decide)
  have hlongZero : Nested (m.isAbove "0L") := h.isAbove (by decide)
  have hentity : Nested (m.differsFrom "entity") := h.differsFrom (by decide)
  have hdestroy : NestedLines (m.isOne (companionCall "destroy(entity)")) := by
    refine h.isOne ?_
    rw [nested_iff, readText_companionCall]
    decide
  unfold scenarios
  simp only [List.forall_mem_cons, nestedLines_iff, readTexts_append, readTexts_cons, readTexts_nil,
    readText_append, readText_companionCall, nested_findByKey.readText_eq, hfindBy.readText_eq,
    hfindAllBy.readText_eq, hcountBy.readText_eq, hzero.readText_eq, hlongZero.readText_eq,
    hentity.readText_eq, hdestroy.readTexts_eq, h.isTrue.readText_eq, h.isFalse.readText_eq,
    h.isPresent.readText_eq, (nested_token _).readText_eq, List.not_mem_nil, false_imp_iff,
    implies_true, and_true]
  simp only [readText_ofList]
  decide +kernel

theorem nestedLines_specHeader {imports : List String} (h : ∀ line ∈ imports, Nested line) :
    NestedLines (specHeader imports) := by
  have himports : NestedLines (imports.map ("import " ++ ·)) := nestedLines_importLines h
  rw [nestedLines_iff]
  unfold specHeader
  simp only [readTexts_append, readTexts_cons, readTexts_nil, readText_append,
    himports.readTexts_eq, (nested_token _).readText_eq]
  decide

/-- The head opens the brace of the test class. -/
theorem readText_specHead {parents : String} (h : Nested parents) :
    readText awaited (specHead parents) = readText awaited "\x7b" := by
  have hfixed : Nested "class " ∧ Nested " extends " ∧ Nested " " := by decide
  unfold specHead
  simp only [readText_append, (nested_token _).readText_eq, h.readText_eq, hfixed.1.readText_eq,
    hfixed.2.1.readText_eq, hfixed.2.2.readText_eq]

theorem nestedLines_map_margin (level : Nat) {lines : List String} (h : NestedLines lines) :
    NestedLines (lines.map (margin level ++ ·)) := by
  rw [nestedLines_iff, ← readTexts_withCommas]
  exact (readTexts_listed level lines).trans h.readTexts_eq

theorem nestedLines_specBlock (level : Nat) {head : String} {statements : List String}
    (hhead : Nested head) (h : NestedLines statements) :
    NestedLines (specBlock level head statements) := by
  rw [nestedLines_iff]
  unfold specBlock
  simp only [readTexts_append, readTexts_cons, readTexts_nil, readText_append,
    (nestedLines_map_margin _ h).readTexts_eq, hhead.readText_eq, (nested_margin _).readText_eq]
  decide

theorem nestedLines_scalatestBody : NestedLines scalatestBody := by
  have himports : ∀ line ∈ ["org.scalatest.flatspec.FixtureAnyFlatSpec",
      "org.scalatest.matchers.should.Matchers", "scalikejdbc.scalatest.AutoRollback"],
      Nested line := by decide +kernel
  have hheader := nestedLines_specHeader himports
  have hparents : Nested "FixtureAnyFlatSpec with Matchers with AutoRollback" := by decide +kernel
  have hscenarios : NestedLines (scenarios.flatMap fun s =>
      [margin 1 ++ "it should \"" ++ s.title ++ "\" in \x7b implicit session =>"] ++
        (s.statements .scalatest).map (margin 2 ++ ·) ++ [margin 1 ++ "\x7d"]) := by
    refine nestedLines_flatMap fun s hs => ?_
    have hstatements :=
      nestedLines_map_margin 2 (nestedLines_statements nestedMatchers_scalatest s hs)
    rw [nestedLines_iff]
    simp only [readTexts_append, readTexts_cons, readTexts_nil, readText_append,
      (nested_margin _).readText_eq, (nested_titles s hs).1.readText_eq, hstatements.readTexts_eq]
    decide
  rw [nestedLines_iff]
  unfold scalatestBody
  simp only [readTexts_append, readTexts_cons, readTexts_nil, readText_append,
    readText_specHead hparents, hheader.readTexts_eq, hscenarios.readTexts_eq,
    (nested_margin _).readText_eq, (nested_token _).readText_eq]
  decide

theorem nestedLines_specs2UnitBody : NestedLines specs2UnitBody := by
  have himports : ∀ line ∈ ["scalikejdbc.specs2.mutable.AutoRollback", "org.specs2.mutable._"],
      Nested line := by decide +kernel
  have hheader := nestedLines_specHeader himports
  have hparents : Nested "Specification" := by decide
  have hscenarios : NestedLines (scenarios.flatMap fun s =>
      specBlock 2 ("\"" ++ s.title ++ "\" in new AutoRollback") (s.statements .specs2)) := by
    refine nestedLines_flatMap fun s hs => nestedLines_specBlock 2 ?_
      (nestedLines_statements nestedMatchers_specs2 s hs)
    exact nested_append (nested_append (by decide) (nested_titles s hs).1) (by decide)
  rw [nestedLines_iff]
  unfold specs2UnitBody
  simp only [readTexts_append, readTexts_cons, readTexts_nil, readText_append,
    readText_specHead hparents, hheader.readTexts_eq, hscenarios.readTexts_eq,
    (nested_margin _).readText_eq, (nested_token _).readText_eq]
  decide

theorem nestedLines_specs2AcceptanceBody : NestedLines specs2AcceptanceBody := by
  have himports : ∀ line ∈ ["scalikejdbc.specs2.AutoRollback", "org.specs2._"],
      Nested line := by decide +kernel
  have hheader := nestedLines_specHeader himports
  have hparents : Nested "Specification" := by decide
  have hexamples : NestedLines (scenarios.map fun s =>
      margin 2 ++ padRight titleWidth ("\"" ++ s.title ++ "\"") ++ "! autoRollback()." ++
        s.method ++ " ^") := by
    refine nestedLines_map fun s hs => ?_
    rw [nested_iff]
    unfold padRight
    simp only [readText_append, (nested_margin _).readText_eq, (nested_spaces _).readText_eq,
      (nested_titles s hs).1.readText_eq, (nested_titles s hs).2.readText_eq]
    decide
  have hscenarios : NestedLines (scenarios.flatMap fun s =>
      specBlock 2 ("def " ++ s.method ++ " = this") (s.statements .specs2)) := by
    refine nestedLines_flatMap fun s hs => nestedLines_specBlock 2 ?_
      (nestedLines_statements nestedMatchers_specs2 s hs)
    exact nested_append (nested_append (by decide) (nested_titles s hs).2) (by decide)
  rw [nestedLines_iff]
  unfold specs2AcceptanceBody
  simp only [readTexts_append, readTexts_cons, readTexts_nil, readText_append,
    readText_specHead hparents, hheader.readTexts_eq, hexamples.readTexts_eq,
    hscenarios.readTexts_eq, (nested_margin _).readText_eq, (nested_spaces _).readText_eq,
    (nested_token _).readText_eq]
  decide

theorem nested_specBody (framework : TestFramework) : Nested (specBody framework) := by
  have hlines : NestedLines (bodyLines framework) := by
    cases framework with
    | scalatestFlatSpec => exact nestedLines_scalatestBody
    | specs2Unit => exact nestedLines_specs2UnitBody
    | specs2Acceptance => exact nestedLines_specs2AcceptanceBody
  rw [specBody_eq_join]
  exact nested_join (by decide)
    (nestedLines_append hlines (nestedLines_cons nested_empty nestedLines_nil))

end Bodies

section Values

variable {config : Settings} {v : TableView} {values : List (Placeholder × String)}

/-- Filling in nested values does not change what is open. -/
theorem readText_substitute {awaited : Awaited} (h : ∀ entry ∈ values, Nested entry.2)
    (body : String) : readText awaited (substitute values body) = readText awaited body := by
  induction values generalizing body with
  | nil => rfl
  | cons entry rest ih =>
    obtain ⟨p, value⟩ := entry
    have hvalue : Nested value := h (p, value) (List.mem_cons_self ..)
    rw [substitute_cons, ih fun other hother => h other (List.mem_cons_of_mem _ hother),
      readText_replaceAll (token_ne_empty p) (fun _ hc => isBracket_of_mem_token hc) hvalue]

theorem nested_placeholderValues (hconfig : NestedSettings config v.tableName) (h : NestedView v)
    (hdraws : DrawsColumns v) (hvalues : placeholderValues config v = .ok values) :
    ∀ entry ∈ values, Nested entry.2 := by
  have hstyle := nestedStyle config.template h hdraws
  unfold placeholderValues at hvalues
  obtain ⟨-, -, hvalues⟩ := bind_eq_ok_iff.mp hvalues
  obtain ⟨-, -, hvalues⟩ := bind_eq_ok_iff.mp hvalues
  obtain ⟨baseTypes, hclause, hvalues⟩ := bind_eq_ok_iff.mp hvalues
  obtain ⟨samples, -, hvalues⟩ := bind_eq_ok_iff.mp hvalues
  obtain ⟨-, -, hvalues⟩ := bind_eq_ok_iff.mp hvalues
  obtain ⟨-, -, hvalues⟩ := bind_eq_ok_iff.mp hvalues
  cases hvalues
  have hmodifier : Nested (if config.abstractSpec then "abstract " else "") := by split <;> decide
  have hname : Nested (specClassName v.className config.abstractSpec) := by
    unfold specClassName
    split
    · exact nested_append (nested_append (by decide) h.className) (by decide)
    · exact nested_append h.className (by decide)
  have hkeys : NestedLines (v.key.map ColumnView.sample) :=
    nestedLines_map fun c hc => (h.columns c (hdraws.key hc)).sample
  have hexample : Nested (((Style.of config.template).whereExample? v).getD "") := by
    unfold Style.whereExample?
    cases hkey : v.key with
    | nil => exact nested_empty
    | cons c rest =>
      exact hstyle.whereExample (h.columns c (hdraws.key (hkey ▸ List.mem_cons_self ..)))
  have hfields : NestedLines (v.createFields.map fun c => c.fieldName ++ " = " ++ c.sample) := by
    refine nestedLines_map fun c hc => ?_
    have hc := h.columns c (List.mem_of_mem_filter hc)
    exact nested_append (nested_append hc.field (by decide)) hc.sample
  simp only [List.forall_mem_cons]
  exact ⟨hconfig.package, nested_join (by decide) (nestedLines_timeImports config v),
    nested_join (by decide) (nestedLines_importLines hconfig.specImports), hmodifier, hname,
    h.className, nested_policyClause h hconfig.specBaseTypes (by decide) hclause,
    nested_join (by decide) hkeys, hstyle.syntaxObject, hexample, nested_join (by decide) hfields,
    by simp⟩

theorem nested_eol (config : Settings) : Nested config.eol := by
  cases hbreak : config.lineBreak <;> simp only [Settings.eol, hbreak] <;> decide

theorem nested_specSource {table : Schema.Table} {explicit : Option Value} {text : String}
    (hconfig : NestedSettings config table.name)
    (h : NestedView (TableView.of config table explicit))
    (hmade : specSource config table explicit = .ok (some text)) : Nested text := by
  unfold specSource at hmade
  split at hmade
  · cases hmade
  · rename_i framework hframework
    obtain ⟨values, hvalues, hmade⟩ := bind_eq_ok_iff.mp hmade
    cases hmade
    have hnested := nested_placeholderValues hconfig h (drawsColumns config table explicit) hvalues
    rw [nested_iff, readText_withLineBreak (nested_eol config), readText_substitute hnested,
      (nested_specBody framework).readText_eq]

end Values

end RecordMapper.Source
