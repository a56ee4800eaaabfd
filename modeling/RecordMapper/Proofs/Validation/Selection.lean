import RecordMapper.Proofs.Validation.Decision

/-!
# Selected tables

What checks that find nothing wrong with some tables find about a selection of them. Every check but
one looks at the tables by themselves or against each other, so it finds no more in fewer tables.
The names to skip are looked for among the tables that are given, and a selection may lack some.
-/
namespace RecordMapper.Validation

open RecordMapper.Config RecordMapper.Naming RecordMapper.Schema RecordMapper.Text

/-- Nothing among the issues is more than information. -/
def Harmless (issues : List Issue) : Prop := ∀ issue ∈ issues, issue.level = .info

/-- The checks are possible and find neither an error nor a warning. -/
def Clean (tables : List Table) (config : Settings) : Prop :=
  ∃ checkup, check tables config = .ok checkup ∧ checkup.report.errors = [] ∧
    checkup.report.warnings = []

/-- The names to skip that none of the tables has in lower case. -/
def unmatchedSkips (tables : List Table) (config : Settings) : List String :=
  config.skipNames.filter fun name => name ∉ tables.map fun t => lower t.name

section Harmless

variable {issues more : List Issue}

theorem harmless_append : Harmless (issues ++ more) ↔ Harmless issues ∧ Harmless more :=
  List.forall_mem_append

theorem harmless_iff : Harmless issues ↔
    (Report.ofIssues issues).errors = [] ∧ (Report.ofIssues issues).warnings = [] := by
  rw [Report.errors, Report.warnings, ofLevel_eq_nil_iff, ofLevel_eq_nil_iff, ← forall₂_and]
  refine forall₂_congr fun issue _ => ?_
  cases issue.level <;> decide

theorem ofLevel_ofIssues_append {level : Level} :
    (Report.ofIssues (issues ++ more)).ofLevel level =
      (Report.ofIssues issues).ofLevel level ++ (Report.ofIssues more).ofLevel level := by
  rw [Report.ofLevel, Report.ofIssues, List.map_append, List.filter_append]
  rfl

end Harmless

section Checks

variable {tables selection : List Table} {config : Settings} {issues : List Issue}

/-- A check of every table by itself finds no more in a selection. -/
theorem harmless_each_of_subset {f : Table → Except Failure (List Issue)}
    (h : (do return (← tables.mapM f).flatten) = Except.ok issues) (hharmless : Harmless issues)
    (hsubset : selection ⊆ tables) :
    ∃ own, (do return (← selection.mapM f).flatten) = Except.ok own ∧ Harmless own := by
  obtain ⟨lists, hlists, -⟩ := bind_eq_ok_iff.mp h
  obtain ⟨chosen, hchosen⟩ := exists_mapM_eq_ok fun table htable =>
    exists_of_mapM_eq_ok hlists table (hsubset htable)
  have hown : (do return (← selection.mapM f).flatten) = Except.ok chosen.flatten := by
    rw [hchosen]
    rfl
  refine ⟨_, hown, fun issue hissue => ?_⟩
  obtain ⟨table, htable, found, hfound, hissue⟩ := (mem_each_iff hown).mp hissue
  exact hharmless issue ((mem_each_iff h).mpr ⟨table, hsubset htable, found, hfound, hissue⟩)

theorem NamedApart.of_subset (h : NamedApart config tables) (hnodup : selection.Nodup)
    (hsubset : selection ⊆ tables) : NamedApart config selection where
  named table htable := h.named table (hsubset htable)
  nodup := by
    refine List.Nodup.map_on (fun first hfirst second hsecond hsame => ?_) hnodup
    exact List.inj_on_of_nodup_map h.nodup (hsubset hfirst) (hsubset hsecond) hsame
  injective first hfirst second hsecond :=
    h.injective first (hsubset hfirst) second (hsubset hsecond)

/-- Tables that are named apart have names of their own and identifiers for class names. -/
theorem classNameIssues_eq_nil {seen : List String}
    (hnamed : ∀ table ∈ tables, ∃ name, config.className table.name = .text name ∧
      isPlainIdentifier name = true)
    (hnodup : (tables.map Table.name).Nodup) (hseen : ∀ table ∈ tables, table.name ∉ seen) :
    classNameIssues config seen tables = .ok [] := by
  -- The names seen so far grow along the list, and those behind stay apart from them.
  induction tables generalizing seen with
  | nil => rfl
  | cons table rest ih =>
    obtain ⟨name, hname, hplain⟩ := hnamed table List.mem_cons_self
    obtain ⟨hnew, hnodup⟩ := List.nodup_cons.mp hnodup
    have haccepted : acceptedClassName config table = .ok (some name) := by
      rw [acceptedClassName_eq hname, if_pos hplain]
    have hlater : classNameIssues config (table.name :: seen) rest = .ok [] := by
      refine ih (fun other hother => hnamed other (List.mem_cons_of_mem _ hother)) hnodup ?_
      intro other hother hmem
      rcases List.mem_cons.mp hmem with hsame | hmem
      · exact hnew (hsame ▸ List.mem_map_of_mem hother)
      · exact hseen other (List.mem_cons_of_mem _ hother) hmem
    rw [classNameIssues, haccepted, ok_bind, hlater, ok_bind,
      if_neg (hseen table List.mem_cons_self)]
    rfl

/-- The checks of names find nothing about tables that are named apart. -/
theorem checkTableNames_of_namedApart (h : NamedApart config tables) :
    checkTableNames tables config = .ok [] := by
  have hsingle := classNameIssues_eq_nil h.named h.nodup fun _ _ => List.not_mem_nil
  obtain ⟨pairs, hpairs⟩ : ∃ pairs, acceptedClassNames config tables = .ok pairs := by
    obtain ⟨found, hfound⟩ := exists_mapM_eq_ok (f := fun table => do
        return (← acceptedClassName config table).map fun name => (table.name, name))
      fun table htable => by
        obtain ⟨name, hname, -⟩ := h.named table htable
        exact ⟨_, by rw [acceptedClassName_eq hname]; rfl⟩
    exact ⟨found.filterMap id, by rw [acceptedClassNames, hfound]; rfl⟩
  have hnone : collisions pairs = [] := by
    by_contra hsome
    obtain ⟨_, _, image, hfirst, hsecond, hne⟩ := collisions_ne_nil_iff.mp hsome
    rw [mem_acceptedClassNames_iff hpairs] at hfirst hsecond
    obtain ⟨first, hfirst, rfl, hfirstClass, -⟩ := hfirst
    obtain ⟨second, hsecond, rfl, hsecondClass, -⟩ := hsecond
    exact hne (h.injective first hfirst second hsecond (hfirstClass.trans hsecondClass.symm))
  rw [checkTableNames, hsingle, ok_bind, hpairs, ok_bind, hnone]
  rfl

theorem harmless_checkPrimaryKeys (h : Harmless (checkPrimaryKeys tables))
    (hsubset : selection ⊆ tables) : Harmless (checkPrimaryKeys selection) := by
  intro issue hissue
  obtain ⟨table, htable, rfl⟩ := List.mem_map.mp hissue
  obtain ⟨hmem, hkey⟩ := List.mem_filter.mp htable
  exact h _ (List.mem_map.mpr ⟨table, List.mem_filter.mpr ⟨hsubset hmem, hkey⟩, rfl⟩)

/-- The checks of the tables find no more in a selection. -/
theorem harmless_checkTables (h : checkTables tables config = .ok issues)
    (hharmless : Harmless issues) (hnames : NamedApart config tables) (hnodup : selection.Nodup)
    (hsubset : selection ⊆ tables) :
    ∃ own, checkTables selection config = .ok own ∧ Harmless own := by
  obtain ⟨tableNames, -, h⟩ := bind_eq_ok_iff.mp h
  obtain ⟨columnNames, hcolumnNames, h⟩ := bind_eq_ok_iff.mp h
  obtain ⟨columnTypes, hcolumnTypes, h⟩ := bind_eq_ok_iff.mp h
  cases h
  simp only [harmless_append] at hharmless
  obtain ⟨⟨⟨-, hcolumns⟩, hkeys⟩, htypes⟩ := hharmless
  have hapart := checkTableNames_of_namedApart (hnames.of_subset hnodup hsubset)
  obtain ⟨ownNames, hownNames, hnamesHarmless⟩ :=
    harmless_each_of_subset hcolumnNames hcolumns hsubset
  obtain ⟨ownTypes, hownTypes, htypesHarmless⟩ :=
    harmless_each_of_subset hcolumnTypes htypes hsubset
  have hcolumnsOfSelection : checkColumnNames selection config = .ok ownNames := hownNames
  have htypesOfSelection : checkColumnTypes selection config = .ok ownTypes := hownTypes
  refine ⟨[] ++ ownNames ++ checkPrimaryKeys selection ++ ownTypes, ?_, ?_⟩
  · rw [checkTables, hapart, hcolumnsOfSelection, htypesOfSelection]
    rfl
  · simp only [harmless_append]
    exact ⟨⟨⟨fun _ h => absurd h List.not_mem_nil, hnamesHarmless⟩,
      harmless_checkPrimaryKeys hkeys hsubset⟩, htypesHarmless⟩

end Checks

section Selections

variable {tables selection : List Table} {config : Settings}

/-- The checks of a selection of clean tables find no error, and a warning for each name to skip
that none of the selected tables has. -/
theorem check_selection (h : Clean tables config) (hnodup : selection.Nodup)
    (hsubset : selection ⊆ tables) : ∃ again, check selection config = .ok again ∧
      again.report.errors = [] ∧ again.report.warnings = (unmatchedSkips selection config).map
        fun name => (Issue.unknownSkippedTable name).finding := by
  obtain ⟨checkup, hcheck, herrors, hwarnings⟩ := h
  have hnames := (names_of_check hcheck (Report.hasErrors_eq_false_iff.mpr herrors)).1
  obtain ⟨issues, hissues, hnul, rfl⟩ := check_eq_ok_iff.mp hcheck
  have hharmless := harmless_iff.mpr ⟨herrors, hwarnings⟩
  rw [Checkup.issues, harmless_append, harmless_append] at hharmless
  obtain ⟨⟨htables, hconfig⟩, -⟩ := hharmless
  obtain ⟨own, hown, hownHarmless⟩ :=
    harmless_checkTables hissues htables hnames hnodup hsubset
  have hquiet := harmless_iff.mp (harmless_append.mpr ⟨hownHarmless, hconfig⟩)
  refine ⟨⟨own, checkConfig config, checkSkippedNames selection config⟩,
    check_eq_ok_iff.mpr ⟨own, hown, hnul, rfl⟩, ?_, ?_⟩
  · rw [Checkup.report, Checkup.issues, Report.errors, ofLevel_ofIssues_append,
      ← Report.errors, hquiet.1, List.nil_append, ofLevel_eq_nil_iff]
    intro issue hissue herror
    obtain ⟨name, -, rfl⟩ := List.mem_map.mp hissue
    cases herror
  · rw [Checkup.report, Checkup.issues, Report.warnings, ofLevel_ofIssues_append,
      ← Report.warnings, hquiet.2, List.nil_append, checkSkippedNames, Report.ofIssues,
      Report.ofLevel, List.map_map]
    refine List.filter_eq_self.mpr fun finding hfinding => ?_
    obtain ⟨name, -, rfl⟩ := List.mem_map.mp hfinding
    rfl

/-- A selection of clean tables is clean exactly when it has all the tables to be skipped. -/
theorem clean_selection_iff (h : Clean tables config) (hnodup : selection.Nodup)
    (hsubset : selection ⊆ tables) : Clean selection config ↔
      ∀ name ∈ config.skipNames, ∃ t ∈ selection, lower t.name = name := by
  obtain ⟨again, hagain, herrors, hwarnings⟩ := check_selection h hnodup hsubset
  have hskips : unmatchedSkips selection config = [] ↔
      ∀ name ∈ config.skipNames, ∃ t ∈ selection, lower t.name = name := by
    simp [unmatchedSkips]
  rw [← hskips]
  constructor
  · rintro ⟨checkup, hcheck, -, hnone⟩
    obtain rfl := Except.ok.inj (hcheck.symm.trans hagain)
    rwa [hwarnings, List.map_eq_nil_iff] at hnone
  · intro hnone
    exact ⟨again, hagain, herrors, by rw [hwarnings, hnone]; rfl⟩

end Selections

end RecordMapper.Validation
