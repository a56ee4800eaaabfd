import RecordMapper.Action
import RecordMapper.Validation.Checkup

/-!
# Checked names

What checks without errors say about the names of tables: each is there once, its class name is an
identifier, and no other table has the same class name.
-/
namespace RecordMapper.Validation

open RecordMapper.Config RecordMapper.Naming RecordMapper.Schema

/-- Nothing among the issues is an error. -/
def ErrorFree (issues : List Issue) : Prop := ∀ issue ∈ issues, issue.level ≠ .error

instance (issues : List Issue) : Decidable (ErrorFree issues) :=
  inferInstanceAs (Decidable (∀ issue ∈ issues, issue.level ≠ .error))

theorem errorFree_append {issues more : List Issue} :
    ErrorFree (issues ++ more) ↔ ErrorFree issues ∧ ErrorFree more :=
  List.forall_mem_append

/-- The findings of a level are those of the issues of that level. -/
theorem mem_ofLevel_iff {level : Level} {issues : List Issue} {f : Finding} :
    f ∈ (Report.ofIssues issues).ofLevel level ↔
      ∃ issue ∈ issues, issue.level = level ∧ issue.finding = f := by
  simp only [Report.ofLevel, Report.ofIssues, List.mem_filter, List.mem_map, decide_eq_true_eq]
  constructor
  · rintro ⟨⟨issue, hissue, rfl⟩, hlevel⟩
    exact ⟨issue, hissue, hlevel, rfl⟩
  · rintro ⟨issue, hissue, hlevel, rfl⟩
    exact ⟨⟨issue, hissue, rfl⟩, hlevel⟩

theorem ofLevel_eq_nil_iff {level : Level} {issues : List Issue} :
    (Report.ofIssues issues).ofLevel level = [] ↔ ∀ issue ∈ issues, issue.level ≠ level := by
  simp only [List.eq_nil_iff_forall_not_mem, mem_ofLevel_iff]
  constructor
  · exact fun h issue hissue hlevel => h _ ⟨issue, hissue, hlevel, rfl⟩
  · rintro h _ ⟨issue, hissue, hlevel, -⟩
    exact h issue hissue hlevel

theorem errorFree_of_hasErrors_eq_false {issues : List Issue}
    (h : (Report.ofIssues issues).hasErrors = false) : ErrorFree issues :=
  ofLevel_eq_nil_iff.mp (Report.hasErrors_eq_false_iff.mp h)

/-- What a check of each item finds is found for one of them. -/
theorem mem_each_iff {α : Type} {f : α → Except Failure (List Issue)} {items : List α}
    {issues : List Issue} (h : (do return (← items.mapM f).flatten) = Except.ok issues)
    {issue : Issue} :
    issue ∈ issues ↔ ∃ item ∈ items, ∃ own, f item = .ok own ∧ issue ∈ own := by
  obtain ⟨lists, hlists, h⟩ := bind_eq_ok_iff.mp h
  cases h
  rw [List.mem_flatten]
  constructor
  · rintro ⟨own, hown, hissue⟩
    obtain ⟨item, hitem, hfound⟩ := exists_mem_of_mapM_eq_ok hlists hown
    exact ⟨item, hitem, own, hfound, hissue⟩
  · rintro ⟨item, hitem, own, hfound, hissue⟩
    exact ⟨own, mem_of_mapM_eq_ok hlists hitem hfound, hissue⟩

theorem mem_distinctSorted {name : String} {names : List String} :
    name ∈ distinctSorted names ↔ name ∈ names := by
  rw [distinctSorted, List.mem_mergeSort, List.mem_eraseDups]

theorem mem_mappedTo {name image : String} {pairs : List (String × String)} :
    name ∈ mappedTo image pairs ↔ (name, image) ∈ pairs := by
  rw [mappedTo, mem_distinctSorted]
  simp

/-- An image of two names is a collision. -/
theorem mem_collisions_of_ne {pairs : List (String × String)} {image first second : String}
    (hfirst : (first, image) ∈ pairs) (hsecond : (second, image) ∈ pairs) (hne : first ≠ second) :
    (image, mappedTo image pairs) ∈ collisions pairs := by
  have himage : (image, mappedTo image pairs) ∈
      (pairs.map Prod.snd).eraseDups.map fun image => (image, mappedTo image pairs) :=
    List.mem_map_of_mem (List.mem_eraseDups.mpr (List.mem_map_of_mem hfirst))
  refine List.mem_filter.mpr ⟨himage, decide_eq_true (Nat.lt_of_not_le fun hlength => hne ?_)⟩
  have hpos := List.length_pos_of_mem (mem_mappedTo.mpr hfirst)
  obtain ⟨only, honly⟩ : ∃ only, mappedTo image pairs = [only] := by
    apply List.length_eq_one_iff.mp
    dsimp only at hlength
    omega
  rw [← mem_mappedTo, honly, List.mem_singleton] at hfirst hsecond
  exact hfirst.trans hsecond.symm

/-- Without collisions an image belongs to one name. -/
theorem eq_of_collisions_eq_nil {pairs : List (String × String)} (h : collisions pairs = [])
    {image first second : String} (hfirst : (first, image) ∈ pairs)
    (hsecond : (second, image) ∈ pairs) : first = second := by
  refine Decidable.byContradiction fun hne => ?_
  have hmem := mem_collisions_of_ne hfirst hsecond hne
  rw [h] at hmem
  cases hmem

theorem acceptedClassName_eq {config : Settings} {table : Table} {name : String}
    (h : config.className table.name = .text name) :
    acceptedClassName config table = .ok (if isPlainIdentifier name then some name else none) := by
  rw [acceptedClassName, h]

theorem acceptedClassName_eq_some {config : Settings} {table : Table} {name : String}
    (h : acceptedClassName config table = .ok (some name)) :
    config.className table.name = .text name ∧ isPlainIdentifier name = true := by
  unfold acceptedClassName at h
  split at h
  · rename_i text htext
    split at h
    · cases h
      exact ⟨htext, ‹_›⟩
    · cases h
  · split at h <;> cases h

/-- Checked one by one, the tables have names of their own and accepted class names. -/
theorem accepted_of_errorFree {config : Settings} {seen : List String} {tables : List Table}
    {issues : List Issue} (h : classNameIssues config seen tables = .ok issues)
    (hfree : ErrorFree issues) :
    (∀ table ∈ tables, table.name ∉ seen ∧
      ∃ name, acceptedClassName config table = .ok (some name)) ∧
    (tables.map Table.name).Nodup := by
  -- The names seen so far grow along the list, so the statement is about any of them.
  induction tables generalizing seen issues with
  | nil => exact ⟨fun _ h => absurd h List.not_mem_nil, List.nodup_nil⟩
  | cons table rest ih =>
    obtain ⟨accepted, haccepted, h⟩ := bind_eq_ok_iff.mp h
    obtain ⟨later, hlater, h⟩ := bind_eq_ok_iff.mp h
    cases h
    rw [errorFree_append, errorFree_append] at hfree
    obtain ⟨⟨hduplicate, hinvalid⟩, hrest⟩ := hfree
    have hnew : table.name ∉ seen := by
      intro hseen
      rw [if_pos hseen] at hduplicate
      exact hduplicate _ (List.mem_singleton_self _) rfl
    have hname : ∃ name, accepted = some name := by
      cases accepted with
      | none => exact absurd rfl (hinvalid _ (List.mem_singleton_self _))
      | some name => exact ⟨name, rfl⟩
    obtain ⟨name, rfl⟩ := hname
    obtain ⟨hothers, hnodup⟩ := ih hlater hrest
    refine ⟨fun other hother => ?_, List.nodup_cons.mpr ⟨fun hmem => ?_, hnodup⟩⟩
    · rcases List.mem_cons.mp hother with rfl | hother
      · exact ⟨hnew, name, haccepted⟩
      · obtain ⟨hseen, hsome⟩ := hothers other hother
        exact ⟨List.not_mem_of_not_mem_cons hseen, hsome⟩
    · obtain ⟨other, hother, hsame⟩ := List.mem_map.mp hmem
      exact (hothers other hother).1 (hsame ▸ List.mem_cons_self ..)

theorem mem_acceptedClassNames {config : Settings} {tables : List Table}
    {pairs : List (String × String)} (h : acceptedClassNames config tables = .ok pairs)
    {table : Table} (htable : table ∈ tables) {name : String}
    (hname : acceptedClassName config table = .ok (some name)) : (table.name, name) ∈ pairs := by
  obtain ⟨found, hfound, h⟩ := bind_eq_ok_iff.mp h
  cases h
  refine List.mem_filterMap.mpr ⟨some (table.name, name), ?_, rfl⟩
  exact mem_of_mapM_eq_ok hfound htable (by rw [hname]; rfl)

/-- The accepted class names are the identifiers among those of the policy, each with its tables. -/
theorem mem_acceptedClassNames_iff {config : Settings} {tables : List Table}
    {pairs : List (String × String)} (h : acceptedClassNames config tables = .ok pairs)
    {name image : String} : (name, image) ∈ pairs ↔ ∃ table ∈ tables, table.name = name ∧
      config.className table.name = .text image ∧ isPlainIdentifier image = true := by
  constructor
  · intro hpair
    obtain ⟨found, hfound, h⟩ := bind_eq_ok_iff.mp h
    cases h
    obtain ⟨_, hpair, rfl⟩ := List.mem_filterMap.mp hpair
    obtain ⟨table, htable, hown⟩ := exists_mem_of_mapM_eq_ok hfound hpair
    obtain ⟨accepted, haccepted, hown⟩ := bind_eq_ok_iff.mp hown
    cases accepted with
    | none => cases hown
    | some accepted =>
      cases hown
      exact ⟨table, htable, rfl, acceptedClassName_eq_some haccepted⟩
  · rintro ⟨table, htable, rfl, hclass, hplain⟩
    exact mem_acceptedClassNames h htable (by rw [acceptedClassName_eq hclass, if_pos hplain])

/-- Tables whose class names are identifiers, and different for different tables. -/
structure NamedApart (config : Settings) (tables : List Table) : Prop where
  named : ∀ table ∈ tables, ∃ name, config.className table.name = .text name ∧
    isPlainIdentifier name = true
  nodup : (tables.map Table.name).Nodup
  injective : ∀ first ∈ tables, ∀ second ∈ tables,
    config.className first.name = config.className second.name → first.name = second.name

theorem namedApart_of_errorFree {config : Settings} {tables : List Table} {issues : List Issue}
    (h : checkTableNames tables config = .ok issues) (hfree : ErrorFree issues) :
    NamedApart config tables := by
  obtain ⟨single, hsingle, h⟩ := bind_eq_ok_iff.mp h
  obtain ⟨pairs, hpairs, h⟩ := bind_eq_ok_iff.mp h
  cases h
  obtain ⟨hfirst, hcollisions⟩ := errorFree_append.mp hfree
  obtain ⟨haccepted, hnodup⟩ := accepted_of_errorFree hsingle hfirst
  have hnone : collisions pairs = [] := by
    cases hlist : collisions pairs with
    | nil => rfl
    | cons collision rest =>
      rw [hlist] at hcollisions
      exact absurd rfl (hcollisions _ (List.mem_cons_self ..))
  refine ⟨fun table htable => ?_, hnodup, fun first hfirst second hsecond hsame => ?_⟩
  · obtain ⟨-, name, hname⟩ := haccepted table htable
    exact ⟨name, acceptedClassName_eq_some hname⟩
  · obtain ⟨-, firstName, hfirstName⟩ := haccepted first hfirst
    obtain ⟨-, secondName, hsecondName⟩ := haccepted second hsecond
    rw [(acceptedClassName_eq_some hfirstName).1,
      (acceptedClassName_eq_some hsecondName).1] at hsame
    cases hsame
    exact eq_of_collisions_eq_nil hnone (mem_acceptedClassNames hpairs hfirst hfirstName)
      (mem_acceptedClassNames hpairs hsecond hsecondName)

/-- A package without errors is empty or made of identifiers. -/
theorem segments_of_errorFree {package : String} (hfree : ErrorFree (checkPackage package)) :
    package.isEmpty = true ∨
      ∀ segment ∈ Text.split '.' package, isPlainIdentifier segment = true := by
  unfold checkPackage at hfree
  split at hfree
  · exact .inl ‹_›
  · split at hfree
    · exact absurd rfl (hfree _ (List.mem_singleton_self _))
    · rename_i hfind
      refine .inr fun segment hsegment => ?_
      simpa using List.find?_eq_none.mp hfind segment hsegment

/-- An encoding that cannot be looked up ends the check of the settings. -/
theorem checkSettings_of_nul {config : Settings} (h : Text.hasNul config.encoding = true) :
    checkSettings config = .error .nulInName := by
  rw [checkSettings, Text.Encoding.find, if_pos h]
  rfl

theorem checkSettings_of_noNul {config : Settings} (h : Text.hasNul config.encoding = false) :
    checkSettings config = .ok (checkConfig config) := by
  rw [checkSettings, Text.Encoding.find, if_neg (by rw [h]; exact Bool.false_ne_true)]
  rfl

/-- The checks come to an end when those of the tables do and the encoding can be looked up. -/
theorem check_eq_ok_iff {tables : List Table} {config : Settings} {checkup : Checkup} :
    check tables config = .ok checkup ↔ ∃ issues, checkTables tables config = .ok issues ∧
      Text.hasNul config.encoding = false ∧
      checkup = ⟨issues, checkConfig config, checkSkippedNames tables config⟩ := by
  constructor
  · intro h
    obtain ⟨issues, hissues, h⟩ := bind_eq_ok_iff.mp h
    obtain ⟨ofConfig, hconfig, h⟩ := bind_eq_ok_iff.mp h
    cases hnul : Text.hasNul config.encoding with
    | true =>
      rw [checkSettings_of_nul hnul] at hconfig
      cases hconfig
    | false =>
      rw [checkSettings_of_noNul hnul] at hconfig
      cases hconfig
      exact ⟨issues, hissues, rfl, (Except.ok.inj h).symm⟩
  · rintro ⟨issues, hissues, hnul, rfl⟩
    rw [check, hissues, checkSettings_of_noNul hnul]
    rfl

/-- None of the checks of an input without errors finds one. -/
theorem errorFree_of_check {tables : List Table} {config : Settings} {checkup : Checkup}
    (h : check tables config = .ok checkup) (hvalid : checkup.report.hasErrors = false) :
    (∃ issues, checkTableNames tables config = .ok issues ∧ ErrorFree issues) ∧
    (∃ issues, checkColumnNames tables config = .ok issues ∧ ErrorFree issues) ∧
    ErrorFree (checkConfig config) := by
  obtain ⟨issues, hissues, -, rfl⟩ := check_eq_ok_iff.mp h
  have hfree := errorFree_of_hasErrors_eq_false hvalid
  rw [Checkup.issues, errorFree_append, errorFree_append] at hfree
  obtain ⟨⟨htables, hconfig⟩, -⟩ := hfree
  obtain ⟨tableNames, htableNames, hissues⟩ := bind_eq_ok_iff.mp hissues
  obtain ⟨columnNames, hcolumnNames, hissues⟩ := bind_eq_ok_iff.mp hissues
  obtain ⟨columnTypes, -, hissues⟩ := bind_eq_ok_iff.mp hissues
  cases hissues
  simp only [errorFree_append] at htables
  exact ⟨⟨_, htableNames, htables.1.1.1⟩, ⟨_, hcolumnNames, htables.1.1.2⟩, hconfig⟩

/-- An input without errors has tables that are named apart and a proper package. -/
theorem names_of_check {tables : List Table} {config : Settings} {checkup : Checkup}
    (h : check tables config = .ok checkup) (hvalid : checkup.report.hasErrors = false) :
    NamedApart config tables ∧ ErrorFree (checkPackage config.package) := by
  obtain ⟨⟨issues, hissues, hfree⟩, -, hconfig⟩ := errorFree_of_check h hvalid
  refine ⟨namedApart_of_errorFree hissues hfree, ?_⟩
  simp only [checkConfig, errorFree_append] at hconfig
  exact hconfig.1.1.1.1

end RecordMapper.Validation
