import RecordMapper.Proofs.Source.Parts

/-!
# Imports of column types

Date and time types and types of the database interface have to be imported where a column has one.
What a header imports is read off its lines. Models import just the types of their columns, once
each; specs and arbitraries do so for date and time types, but an arbitrary imports no type of the
database interface, although its generators mention the types of all columns.
-/
namespace RecordMapper.Source

open RecordMapper.Config RecordMapper.Schema RecordMapper.Text RecordMapper.View

/-- The names in a selector: one name, or several in braces. -/
def selectedNames : List Char → List String
  | '\x7b' :: names =>
    (pieces ',' names.dropLast).map fun name => String.ofList (name.dropWhile (· = ' '))
  | name => [String.ofList name]

/-- How the import of a selector from a package starts. -/
def importOpening (package : String) : String := "import " ++ package ++ "."

/-- The names that a line imports from a package. -/
def namesFrom (package line : String) : List String :=
  if (importOpening package).toList.isPrefixOf line.toList then
    selectedNames (line.toList.drop (importOpening package).toList.length)
  else []

def importedFrom (package : String) (lines : List String) : List String :=
  lines.flatMap (namesFrom package)

/-- The lines import from a package those of its types that a column has, once each, and no other
name. -/
def ImportsUsed (package : String) (types : List String) (v : TableView) (lines : List String) :
    Prop :=
  ∀ type, (importedFrom package lines).count type =
    if type ∈ types ∧ ∃ c ∈ v.columns, c.rawType = type then 1 else 0

/-- The date and time types of the columns are imported from the configured family, and nothing is
from another one. -/
structure ImportsTimeTypes (config : Settings) (v : TableView) (lines : List String) : Prop where
  used : ImportsUsed config.dateTimeClass.package ScalaType.timeTypes v lines
  others : ∀ family : DateTimeClass, family.package ≠ config.dateTimeClass.package →
    importedFrom family.package lines = []

/-- The types of the database interface that columns have are imported. -/
def ImportsSqlTypes (v : TableView) (lines : List String) : Prop :=
  ImportsUsed "java.sql" ScalaType.sqlTypes v lines

section Lines

theorem importedFrom_append (package : String) (lines more : List String) :
    importedFrom package (lines ++ more) =
      importedFrom package lines ++ importedFrom package more :=
  List.flatMap_append

theorem namesFrom_opening (package choice : String) :
    namesFrom package (importOpening package ++ choice) = selectedNames choice.toList := by
  rw [namesFrom, String.toList_append, if_pos, List.drop_left]
  rw [List.isPrefixOf_iff_prefix]
  exact List.prefix_append ..

/-- Neither text starts with the other. -/
def Diverge (first second : String) : Prop :=
  ¬first.toList <+: second.toList ∧ ¬second.toList <+: first.toList

instance (first second : String) : Decidable (Diverge first second) :=
  inferInstanceAs (Decidable (_ ∧ _))

/-- Whatever goes on after the one text, the other one is not the beginning of it. -/
theorem Diverge.not_isPrefix {first second : String} (h : Diverge first second) (rest : String) :
    ¬first.toList <+: (second ++ rest).toList := by
  rw [String.toList_append]
  intro hfirst
  rcases List.prefix_or_prefix_of_prefix hfirst (List.prefix_append ..) with hshort | hlong
  · exact h.1 hshort
  · exact h.2 hlong

theorem namesFrom_of_diverge {package start : String} (h : Diverge (importOpening package) start)
    (rest : String) : namesFrom package (start ++ rest) = [] := by
  rw [namesFrom, if_neg]
  rw [List.isPrefixOf_iff_prefix]
  exact h.not_isPrefix rest

end Lines

section Selectors

/-- The name holds nothing that separates names in a selector. -/
def IsSelectable (name : String) : Prop :=
  '\x7b' ∉ name.toList ∧ ',' ∉ name.toList ∧ ' ' ∉ name.toList

instance (name : String) : Decidable (IsSelectable name) := inferInstanceAs (Decidable (_ ∧ _ ∧ _))

theorem isSelectable_of_mem {name : String}
    (h : name ∈ ScalaType.timeTypes ++ ScalaType.sqlTypes) : IsSelectable name := by
  have hall : ∀ name ∈ ScalaType.timeTypes ++ ScalaType.sqlTypes, IsSelectable name := by
    decide +kernel
  exact hall name h

theorem pieces_join {first : String} {rest : List String}
    (h : ∀ name ∈ first :: rest, ',' ∉ name.toList) :
    pieces ',' (join ", " (first :: rest)).toList =
      first.toList :: rest.map fun name => ' ' :: name.toList := by
  induction rest generalizing first with
  | nil => exact pieces_of_not_mem (h first (List.mem_cons_self ..))
  | cons second rest ih =>
    have hjoin : (join ", " (first :: second :: rest)).toList =
        first.toList ++ ',' :: ' ' :: (join ", " (second :: rest)).toList := by
      simp [join]
    have hblank : pieces ',' (' ' :: (join ", " (second :: rest)).toList) =
        (' ' :: second.toList) :: rest.map fun name => ' ' :: name.toList := by
      rw [pieces, if_neg (by decide), ih fun name hname => h name (List.mem_cons_of_mem _ hname)]
    rw [hjoin, pieces_append_cons (h first (List.mem_cons_self ..)), hblank, List.map_cons]

theorem ofList_dropWhile {name : String} (h : ' ' ∉ name.toList) :
    String.ofList (name.toList.dropWhile (· = ' ')) = name := by
  have hkeep : name.toList.dropWhile (· = ' ') = name.toList := by
    cases hcs : name.toList with
    | nil => rfl
    | cons c rest =>
      rw [hcs] at h
      rw [List.dropWhile_cons_of_neg (by simpa using Ne.symm (List.ne_of_not_mem_cons h))]
  rw [hkeep, String.ofList_toList]

/-- A selector in braces names what was put into it. -/
theorem selectedNames_selector {names : List String} (hne : names ≠ [])
    (h : ∀ name ∈ names, IsSelectable name) : selectedNames (selector names).toList = names := by
  obtain ⟨first, rest, rfl⟩ := List.exists_cons_of_ne_nil hne
  have hbraces : (selector (first :: rest)).toList =
      '\x7b' :: ((join ", " (first :: rest)).toList ++ ['\x7d']) := by
    simp [selector]
  have hfirst := ofList_dropWhile (h first (List.mem_cons_self ..)).2.2
  have hrest : rest.map (fun name => String.ofList ((' ' :: name.toList).dropWhile (· = ' '))) =
      rest := by
    conv_rhs => rw [← List.map_id rest]
    refine List.map_congr_left fun name hname => ?_
    exact ofList_dropWhile (h name (List.mem_cons_of_mem _ hname)).2.2
  rw [hbraces, selectedNames, List.dropLast_concat,
    pieces_join fun name hname => (h name hname).2.1, List.map_cons, hfirst, List.map_map]
  exact congrArg (first :: ·) hrest

/-- A single name stands without braces. -/
theorem selectedNames_of_isSelectable {name : String} (h : IsSelectable name) :
    selectedNames name.toList = [name] := by
  have hbrace := h.1
  unfold selectedNames
  split
  · rename_i names hcs
    rw [hcs] at hbrace
    exact absurd (List.mem_cons_self ..) hbrace
  · rw [String.ofList_toList]

/-- A single name as it is, or several names in braces. -/
def IsChoice (names : List String) (choice : String) : Prop :=
  names = [choice] ∨ names ≠ [] ∧ choice = selector names

theorem IsChoice.selectedNames_eq {names : List String} {choice : String}
    (hchoice : IsChoice names choice) (h : ∀ name ∈ names, IsSelectable name) :
    selectedNames choice.toList = names := by
  rcases hchoice with rfl | ⟨hne, rfl⟩
  · exact selectedNames_of_isSelectable (h choice (List.mem_singleton_self choice))
  · exact selectedNames_selector hne h

theorem IsChoice.not_mem {names : List String} {choice : String} (hchoice : IsChoice names choice)
    {c : Char} (hc : c ∉ (selector []).toList ++ ", ".toList)
    (h : ∀ name ∈ names, c ∉ name.toList) : c ∉ choice.toList := by
  rcases hchoice with rfl | ⟨-, rfl⟩
  · exact h choice (List.mem_singleton_self choice)
  · rw [List.mem_append, not_or] at hc
    have hbraces : c ≠ '\x7b' ∧ c ≠ '\x7d' := by simpa [selector, join] using hc.1
    have hnames := not_mem_join hc.2 h
    simp [selector, hbraces, hnames]

end Selectors

/-- The packages that column types are imported from. -/
def typePackages : List String := ["java.time", "org.joda.time", "java.sql"]

section Packages

variable {config : Settings} {v : TableView} {package : String}

theorem family_mem_typePackages (family : DateTimeClass) : family.package ∈ typePackages := by
  cases family <;> decide

theorem family_ne_sql (family : DateTimeClass) : family.package ≠ "java.sql" := by
  cases family <;> decide

theorem diverge_openings {other : String} (h : package ∈ typePackages) (ho : other ∈ typePackages)
    (hne : package ≠ other) : Diverge (importOpening package) (importOpening other) := by
  have hall : ∀ package ∈ typePackages, ∀ other ∈ typePackages, package ≠ other →
      Diverge (importOpening package) (importOpening other) := by decide +kernel
  exact hall package h other ho hne

theorem timeImports_eq (config : Settings) (v : TableView) :
    timeNames v = [] ∧ timeImports config v = [] ∨
    ∃ choice, IsChoice (timeNames v) choice ∧
      timeImports config v = (importOpening config.dateTimeClass.package ++ choice) ::
        if config.dateTimeClass.isJoda then jodaBinderImports else [] := by
  unfold timeImports
  cases hnames : timeNames v with
  | nil => exact .inl ⟨rfl, rfl⟩
  | cons first rest =>
    refine .inr ?_
    cases rest with
    | nil => exact ⟨first, .inl rfl, rfl⟩
    | cons second rest => exact ⟨_, .inr ⟨List.cons_ne_nil _ _, rfl⟩, rfl⟩

theorem sqlImports_eq (v : TableView) :
    sqlNames v = [] ∧ sqlImports v = [] ∨
    ∃ choice, IsChoice (sqlNames v) choice ∧
      sqlImports v = [importOpening "java.sql" ++ choice] := by
  unfold sqlImports
  split
  · rename_i hnames
    exact .inl ⟨hnames, rfl⟩
  · rename_i hne
    exact .inr ⟨_, .inr ⟨hne, rfl⟩, rfl⟩

theorem mem_timeTypes_of_mem {name : String} (h : name ∈ timeNames v) :
    name ∈ ScalaType.timeTypes := by
  simpa using (List.mem_filter.mp h).2

theorem mem_sqlTypes_of_mem {name : String} (h : name ∈ sqlNames v) :
    name ∈ ScalaType.sqlTypes := by
  simpa using (List.mem_filter.mp h).2

theorem importedFrom_jodaBinderImports (h : package ∈ typePackages) :
    importedFrom package jodaBinderImports = [] := by
  have hall : ∀ package ∈ typePackages, importedFrom package jodaBinderImports = [] := by
    decide +kernel
  exact hall package h

theorem importedFrom_timeImports (h : package ∈ typePackages) :
    importedFrom package (timeImports config v) =
      if package = config.dateTimeClass.package then timeNames v else [] := by
  rcases timeImports_eq config v with ⟨hnames, himports⟩ | ⟨choice, hchoice, himports⟩
  · simp [himports, hnames, importedFrom]
  · have hbinders : importedFrom package
        (if config.dateTimeClass.isJoda then jodaBinderImports else []) = [] := by
      split
      · exact importedFrom_jodaBinderImports h
      · rfl
    have hnames : selectedNames choice.toList = timeNames v := hchoice.selectedNames_eq
      fun name hname => isSelectable_of_mem (List.mem_append_left _ (mem_timeTypes_of_mem hname))
    rw [himports, ← List.singleton_append, importedFrom_append, hbinders, List.append_nil,
      importedFrom, List.flatMap_singleton]
    split
    · rename_i hown
      rw [← hown, namesFrom_opening, hnames]
    · rename_i hother
      exact namesFrom_of_diverge (diverge_openings h (family_mem_typePackages _) hother) choice

theorem importedFrom_sqlImports (h : package ∈ typePackages) :
    importedFrom package (sqlImports v) = if package = "java.sql" then sqlNames v else [] := by
  rcases sqlImports_eq v with ⟨hnames, himports⟩ | ⟨choice, hchoice, himports⟩
  · simp [himports, hnames, importedFrom]
  · have hnames : selectedNames choice.toList = sqlNames v := hchoice.selectedNames_eq
      fun name hname => isSelectable_of_mem (List.mem_append_right _ (mem_sqlTypes_of_mem hname))
    rw [himports, importedFrom, List.flatMap_singleton]
    split
    · rename_i hown
      rw [hown, namesFrom_opening, hnames]
    · rename_i hother
      exact namesFrom_of_diverge (diverge_openings h (by decide) hother) choice

/-- No value of another placeholder can change the time imports of a spec. -/
theorem percent_not_mem_timeImports (config : Settings) (v : TableView) :
    ∀ line ∈ timeImports config v, '%' ∉ line.toList := by
  rcases timeImports_eq config v with ⟨-, himports⟩ | ⟨choice, hchoice, himports⟩
  · simp [himports]
  · have htypes : ∀ name ∈ ScalaType.timeTypes, '%' ∉ name.toList := by decide
    have hopening : '%' ∉ (importOpening config.dateTimeClass.package).toList := by
      cases config.dateTimeClass <;> decide
    have hbinders : ∀ line ∈ jodaBinderImports, '%' ∉ line.toList := by decide
    have hfree : '%' ∉ choice.toList :=
      hchoice.not_mem (by decide) fun name hname => htypes name (mem_timeTypes_of_mem hname)
    rw [himports]
    intro line hline
    rcases List.mem_cons.mp hline with rfl | hline
    · rw [String.toList_append, List.mem_append, not_or]
      exact ⟨hopening, hfree⟩
    · split at hline
      · exact hbinders line hline
      · cases hline

end Packages

/-- The line imports nothing from the packages of column types. -/
def IsForeign (line : String) : Prop := ∀ package ∈ typePackages, namesFrom package line = []

instance (line : String) : Decidable (IsForeign line) :=
  inferInstanceAs (Decidable (∀ _ ∈ _, _))

section Headers

variable {config : Settings} {v : TableView} {package : String} {lines : List String}

theorem isForeign_package (name : String) : IsForeign ("package " ++ name) := by
  intro package hpackage
  have hall : ∀ package ∈ typePackages, Diverge (importOpening package) "package " := by
    decide +kernel
  exact namesFrom_of_diverge (hall package hpackage) name

theorem importedFrom_of_isForeign (h : ∀ line ∈ lines, IsForeign line)
    (hpackage : package ∈ typePackages) : importedFrom package lines = [] :=
  List.flatMap_eq_nil_iff.mpr fun line hline => h line hline package hpackage

theorem importedFrom_append_of_isForeign (h : ∀ line ∈ lines, IsForeign line)
    (hpackage : package ∈ typePackages) (rest : List String) :
    importedFrom package (lines ++ rest) = importedFrom package rest := by
  rw [importedFrom_append, importedFrom_of_isForeign h hpackage, List.nil_append]

/-- How a header opens: the package and the imports of libraries. -/
def opening (config : Settings) (compat : Bool) (libraries : List String) : List String :=
  ["package " ++ config.package, ""] ++ (if compat then [compatImport] else []) ++ libraries

theorem isForeign_of_mem_opening {compat : Bool} (h : ∀ line ∈ lines, IsForeign line) :
    ∀ line ∈ opening config compat lines, IsForeign line := by
  intro line hline
  have hfixed : IsForeign "" ∧ IsForeign compatImport := by decide +kernel
  rw [opening, List.mem_append, List.mem_append] at hline
  rcases hline with (hline | hline) | hline
  · rcases List.mem_cons.mp hline with rfl | hline
    · exact isForeign_package config.package
    · rw [List.mem_singleton.mp hline]
      exact hfixed.1
  · split at hline
    · rw [List.mem_singleton.mp hline]
      exact hfixed.2
    · cases hline
  · exact h line hline

theorem count_filter_rawTypes (types : List String) (v : TableView) (type : String) :
    (v.rawTypes.filter (· ∈ types)).count type =
      if type ∈ types ∧ ∃ c ∈ v.columns, c.rawType = type then 1 else 0 := by
  have hnodup : v.rawTypes.Nodup := nodup_eraseDups _
  rw [(hnodup.filter _).count]
  simp [TableView.rawTypes, and_comm]

/-- Lines that import the date and time types of the view, from the configured family alone. -/
theorem importsTimeTypes (h : ∀ family : DateTimeClass, importedFrom family.package lines =
    if family.package = config.dateTimeClass.package then timeNames v else []) :
    ImportsTimeTypes config v lines where
  used type := by
    rw [h, if_pos rfl]
    exact count_filter_rawTypes _ v type
  others family hother := by rw [h, if_neg hother]

theorem importsSqlTypes (h : importedFrom "java.sql" lines = sqlNames v) :
    ImportsSqlTypes v lines := by
  intro type
  rw [h]
  exact count_filter_rawTypes _ v type

/-- Lines that import nothing from the database interface will do if no column needs them to. -/
theorem importsSqlTypes_iff_of_eq_nil (h : importedFrom "java.sql" lines = []) :
    ImportsSqlTypes v lines ↔ ∀ c ∈ v.columns, c.rawType ∉ ScalaType.sqlTypes := by
  have hcount (type : String) : (importedFrom "java.sql" lines).count type = 0 := by
    rw [h, List.count_nil]
  constructor
  · intro himports c hc hsql
    have hone := himports c.rawType
    rw [hcount, if_pos ⟨hsql, c, hc, rfl⟩] at hone
    cases hone
  · rintro hfree type
    rw [hcount, if_neg]
    rintro ⟨hsql, c, hc, rfl⟩
    exact hfree c hc hsql

/-- The header of a model up to the imports that are asked for. -/
def modelImports (config : Settings) (v : TableView) : List String :=
  opening config (CollectionShape.of config.returnCollection).usesFactory [libraryImport] ++
    timeImports config v ++ sqlImports v

theorem importedFrom_modelImports (hpackage : package ∈ typePackages) :
    importedFrom package (modelImports config v) =
      (if package = config.dateTimeClass.package then timeNames v else []) ++
        if package = "java.sql" then sqlNames v else [] := by
  have hopening : ∀ line ∈ opening config (CollectionShape.of config.returnCollection).usesFactory
      [libraryImport], IsForeign line := isForeign_of_mem_opening (by decide +kernel)
  rw [modelImports, List.append_assoc, importedFrom_append_of_isForeign hopening hpackage,
    importedFrom_append, importedFrom_timeImports hpackage, importedFrom_sqlImports hpackage]

/-- The header of an arbitrary up to the imports that are asked for. -/
def arbitraryImports (config : Settings) (v : TableView) : List String :=
  opening config (config.returnCollection = .factory)
      ["import org.scalacheck.\x7bArbitrary, Gen\x7d", "import org.scalacheck.Arbitrary._"] ++
    timeImports config v

theorem importedFrom_arbitraryImports (hpackage : package ∈ typePackages) :
    importedFrom package (arbitraryImports config v) =
      if package = config.dateTimeClass.package then timeNames v else [] := by
  have hopening : ∀ line ∈ opening config (config.returnCollection = .factory)
      ["import org.scalacheck.\x7bArbitrary, Gen\x7d", "import org.scalacheck.Arbitrary._"],
      IsForeign line := isForeign_of_mem_opening (by decide +kernel)
  rw [arbitraryImports, importedFrom_append_of_isForeign hopening hpackage,
    importedFrom_timeImports hpackage]

theorem arbitraryHeader_eq (config : Settings) (v : TableView) :
    arbitraryHeader config v =
      arbitraryImports config v ++ importLines config.arbitraryImports := by
  simp only [arbitraryHeader, arbitraryImports, opening, decide_eq_true_eq]

/-- The lines of the time imports in a spec; one line stays when there are none. -/
def timeImportLines (config : Settings) (v : TableView) : List String :=
  if (timeImports config v).isEmpty then [""] else timeImports config v

theorem join_timeImportLines (config : Settings) (v : TableView) :
    join "\n" (timeImportLines config v) = join "\n" (timeImports config v) := by
  unfold timeImportLines
  split
  · rename_i hempty
    rw [List.isEmpty_iff.mp hempty]
    rfl
  · rfl

theorem importedFrom_timeImportLines (hpackage : package ∈ typePackages) :
    importedFrom package (timeImportLines config v) =
      if package = config.dateTimeClass.package then timeNames v else [] := by
  rw [← importedFrom_timeImports hpackage, timeImportLines]
  split
  · rename_i hempty
    have hblank : IsForeign "" := by decide
    rw [List.isEmpty_iff.mp hempty]
    exact importedFrom_of_isForeign (by simpa using hblank) hpackage
  · rfl

end Headers

section Specs

/-- A body starts with the package and with imports of its framework, before the time imports. -/
theorem bodyLines_header (framework : TestFramework) : ∃ imports rest,
    bodyLines framework =
      ["package " ++ Placeholder.package.token] ++ imports ++ Placeholder.timeImport.token :: rest ∧
    ∀ line ∈ imports, '%' ∉ line.toList ∧ IsForeign line := by
  cases framework
  · exact ⟨["", "import org.scalatest.flatspec.FixtureAnyFlatSpec",
      "import org.scalatest.matchers.should.Matchers", "import scalikejdbc.scalatest.AutoRollback",
      "import scalikejdbc._"], _, rfl, by decide +kernel⟩
  · exact ⟨["", "import scalikejdbc.specs2.mutable.AutoRollback", "import org.specs2.mutable._",
      "import scalikejdbc._"], _, rfl, by decide +kernel⟩
  · exact ⟨["", "import scalikejdbc.specs2.AutoRollback", "import org.specs2._",
      "import scalikejdbc._"], _, rfl, by decide +kernel⟩

/-- The lines of a spec up to its time imports come out the same whatever the placeholders stand
for, but for the name of the package. -/
theorem specLines_header {config : Settings} {v : TableView}
    {values : List (Placeholder × String)} (h : placeholderValues config v = .ok values)
    (framework : TestFramework) :
    ∃ own rest, join "\n" (specLines framework values) = join "\n" (own ++ rest) ∧
      ∀ package ∈ typePackages, importedFrom package own =
        if package = config.dateTimeClass.package then timeNames v else [] := by
  obtain ⟨imports, rest, hbody, himports⟩ := bodyLines_header framework
  have hpackage : substitute values ("package " ++ Placeholder.package.token) =
      "package " ++ substitute values Placeholder.package.token := by
    have hword : substitute values "package" = "package" := substitute_of_free (by decide)
    have hblank : "package " = "package" ++ " " := by decide
    have hboundary : IsBoundary " " := by decide
    rw [hblank, substitute_append hboundary, hword]
  have hfixed : imports.map (substitute values) = imports := by
    conv_rhs => rw [← List.map_id imports]
    exact List.map_congr_left fun line hline => substitute_of_free (himports line hline).1
  have htime : substitute values Placeholder.timeImport.token =
      join "\n" (timeImportLines config v) := by
    rw [join_timeImportLines]
    exact substitute_token (lookup_of_placeholderValues h).1
      (not_mem_join (by decide) (percent_not_mem_timeImports config v))
  have hne : timeImportLines config v ≠ [] := by
    unfold timeImportLines
    split
    · exact List.cons_ne_nil _ _
    · rename_i hempty
      exact fun hnil => hempty (List.isEmpty_iff.mpr hnil)
  let front := ("package " ++ substitute values Placeholder.package.token) :: imports
  refine ⟨front ++ timeImportLines config v, (rest ++ [""]).map (substitute values), ?_, ?_⟩
  · rw [← join_nested hne, specLines, hbody]
    simp only [List.map_append, List.map_cons, List.map_nil, hpackage, hfixed, htime,
      List.append_assoc, List.cons_append, List.nil_append, front]
  · intro package hmem
    have hforeign : ∀ line ∈ front, IsForeign line := by
      intro line hline
      rcases List.mem_cons.mp hline with rfl | hline
      · exact isForeign_package _
      · exact (himports line hline).2
    rw [importedFrom_append_of_isForeign hforeign hmem, importedFrom_timeImportLines hmem]

end Specs

/-- What the sources of a table import. The header of a model, without the imports that are asked
for, names each date and time type and each type of the database interface that a column has once,
and nothing else from their packages. The header of an arbitrary and the start of a spec do the same
for date and time types. They import nothing from the database interface, so an arbitrary lacks none
of its imports exactly when no column has a type from there. -/
theorem used_types_imported (config : Settings) (table : Table) (explicit : Option Value) :
    let v := TableView.of config table explicit
    (∀ text, modelSource config table explicit = .ok text → ∃ model own,
      modelOf config v = .ok model ∧ text = render config.eol model.lines ∧
      model.header = own ++ importLines config.imports ∧
      ImportsTimeTypes config v own ∧ ImportsSqlTypes v own) ∧
    (∀ text, arbitrarySource config table explicit = .ok text → ∃ own,
      text = render config.eol
        (own ++ importLines config.arbitraryImports ++ [""] ++ arbitraryTrait v ++ [""]) ∧
      ImportsTimeTypes config v own ∧ importedFrom "java.sql" own = [] ∧
      (ImportsSqlTypes v own ↔ ∀ c ∈ v.columns, c.rawType ∉ ScalaType.sqlTypes)) ∧
    (∀ text, specSource config table explicit = .ok (some text) → ∃ own rest,
      text = render config.eol (own ++ rest) ∧
      ImportsTimeTypes config v own ∧ importedFrom "java.sql" own = []) := by
  intro v
  refine ⟨fun text htext => ?_, fun text htext => ?_, fun text htext => ?_⟩
  · obtain ⟨model, hmodel, hrender⟩ := modelSource_eq_ok htext
    obtain ⟨classClause, companionClause, -, -, rfl⟩ := modelOf_eq_ok hmodel
    refine ⟨_, modelImports config v, hmodel, hrender, rfl, importsTimeTypes fun family => ?_,
      importsSqlTypes ?_⟩
    · rw [importedFrom_modelImports (family_mem_typePackages family), if_neg (family_ne_sql family),
        List.append_nil]
    · rw [importedFrom_modelImports (by decide), if_neg (family_ne_sql _).symm, if_pos rfl,
        List.nil_append]
  · have hsql : importedFrom "java.sql" (arbitraryImports config v) = [] := by
      rw [importedFrom_arbitraryImports (by decide), if_neg (family_ne_sql _).symm]
    have hrender := arbitrarySource_eq_ok htext
    rw [arbitraryHeader_eq] at hrender
    exact ⟨arbitraryImports config v, hrender,
      importsTimeTypes fun family => importedFrom_arbitraryImports (family_mem_typePackages family),
      hsql, importsSqlTypes_iff_of_eq_nil hsql⟩
  · obtain ⟨framework, values, -, hvalues, rfl⟩ := specSource_eq_some htext
    obtain ⟨own, rest, hlines, himported⟩ := specLines_header hvalues framework
    refine ⟨own, rest, by rw [render, render, hlines],
      importsTimeTypes fun family => himported _ (family_mem_typePackages family), ?_⟩
    rw [himported _ (by decide), if_neg (family_ne_sql _).symm]

namespace Sample

/-- A table with two dates, a point in time and a picture. -/
def events : Table where
  name := "event"
  columns := [⟨"day", 91, "DATE", 0, true, false, false⟩,
    ⟨"until", 91, "DATE", 0, false, false, false⟩,
    ⟨"noted_at", 93, "TIMESTAMP", 0, false, false, false⟩,
    ⟨"picture", 2004, "BLOB", 0, true, false, false⟩]
  autoIncrement := []
  primaryKey := []
  generated := []
  schema := none
  autoIncrement_declared := fun _ h => absurd h List.not_mem_nil
  primaryKey_declared := fun _ h => absurd h List.not_mem_nil
  generated_declared := fun _ h => absurd h List.not_mem_nil

/-- Specs for one of the frameworks. -/
def flatSpec : Settings := { Settings.default with testTemplate := "ScalaTestFlatSpec" }

end Sample

/-- A table with types of both kinds. -/
theorem used_types_imported_of_events :
    (∃ text model own, modelSource Sample.flatSpec Sample.events none = .ok text ∧
      text = render "\n" (model : ModelSource).lines ∧ model.header = own ++ [] ∧
      (importedFrom "java.time" own).count "LocalDate" = 1 ∧
      (importedFrom "java.sql" own).count "Blob" = 1) ∧
    (∃ text own, arbitrarySource Sample.flatSpec Sample.events none = .ok text ∧
      (importedFrom "java.time" own).count "ZonedDateTime" = 1 ∧
      ¬ImportsSqlTypes (TableView.of Sample.flatSpec Sample.events none) own) ∧
    ∃ text own rest, specSource Sample.flatSpec Sample.events none = .ok (some text) ∧
      text = render "\n" (own ++ rest) ∧ (importedFrom "java.time" own).count "LocalTime" = 0 := by
  obtain ⟨hmodel, harbitrary, hspec⟩ := used_types_imported Sample.flatSpec Sample.events none
  refine ⟨?_, ?_, ?_⟩
  · obtain ⟨text, hmade⟩ : ∃ text, modelSource Sample.flatSpec Sample.events none = .ok text :=
      ⟨_, rfl⟩
    obtain ⟨model, own, -, htext, hheader, htime, hsql⟩ := hmodel text hmade
    exact ⟨text, model, own, hmade, htext, hheader,
      (htime.used "LocalDate").trans (if_pos (by decide +kernel)),
      (hsql "Blob").trans (if_pos (by decide +kernel))⟩
  · obtain ⟨text, hmade⟩ : ∃ text, arbitrarySource Sample.flatSpec Sample.events none = .ok text :=
      ⟨_, rfl⟩
    obtain ⟨own, -, htime, -, hsql⟩ := harbitrary text hmade
    refine ⟨text, own, hmade, (htime.used "ZonedDateTime").trans (if_pos (by decide +kernel)), ?_⟩
    rw [hsql]
    decide +kernel
  · obtain ⟨text, hmade⟩ := exists_eq_ok_some
      (show (specSource Sample.flatSpec Sample.events none).toOption.join.isSome = true from rfl)
    obtain ⟨own, rest, htext, htime, -⟩ := hspec text hmade
    exact ⟨text, own, rest, hmade, htext,
      (htime.used "LocalTime").trans (if_neg (by decide +kernel))⟩

/-- A generator has the type `Blob`, which the header of the arbitrary does not import. -/
theorem arbitrary_lacks_sql_import :
    let v := TableView.of Settings.default Sample.events none
    let header := arbitraryHeader Settings.default v
    arbitrarySource Settings.default Sample.events none =
      .ok (render "\n" (header ++ [""] ++ arbitraryTrait v ++ [""])) ∧
    (∃ c ∈ v.columns, c.rawType = "Blob" ∧
      generatorDefinition c = "def genPicture(): Gen[Blob] = Arbitrary.arbitrary[Blob]") ∧
    "Blob" ∈ ScalaType.sqlTypes ∧ (importedFrom "java.sql" header).count "Blob" = 0 := by
  refine ⟨rfl, by decide +kernel, by decide, ?_⟩
  have hasked : importLines Settings.default.arbitraryImports = [] := rfl
  rw [arbitraryHeader_eq, hasked, List.append_nil, importedFrom_arbitraryImports (by decide)]
  rfl

end RecordMapper.Source
