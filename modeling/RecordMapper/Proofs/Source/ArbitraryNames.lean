import RecordMapper.Proofs.Naming.Capital
import RecordMapper.Proofs.Source.Assembly
import RecordMapper.Proofs.Source.Scopes
import RecordMapper.Proofs.Validation.OneLine

/-!
# Names in an arbitrary

The names that an arbitrary declares: those on the left of its arrows and those of its methods.
Checks without errors let a field through that is anything in back-quotes. Such a field is bound as
it is, although in back-quotes it is a pattern there, and without them it becomes a part of the name
of a method. Reserved words are the ones that get a name for both.
-/
namespace RecordMapper.Source

open RecordMapper.Config RecordMapper.Naming RecordMapper.Schema RecordMapper.Text
open RecordMapper.Validation RecordMapper.View

/-- The names on the left of the arrows: those of drawn values, then those of drawn tuples. -/
def Assembly.bound (a : Assembly) : List String :=
  (a.generators.flatMap TupleGenerator.bindings).map Binding.name ++
    (List.range a.generators.length).map fun number => "value" ++ toString number

/-- The field is an identifier on one line or a reserved word in back-quotes. -/
def IsOrdinary (c : ColumnView) : Prop := PlainName c.fieldName ∨ c.bareName ∈ reservedWords

section Bound

variable {v : TableView} {name : String}

theorem bound_ofView (v : TableView) :
    (Assembly.ofView v).bound = bindingNames v.columns ++
      (List.range (Assembly.ofView v).generators.length).map
        fun number => "value" ++ toString number := by
  have hnames : (v.columns.zip (bindingNames v.columns)).map Prod.snd = bindingNames v.columns :=
    List.map_snd_zip (length_bindingNames v.columns).le
  rw [Assembly.bound, flatMap_bindings, List.map_map]
  exact congrArg (· ++ _) hnames

theorem backQuote_not_mem_toString (number : Nat) : '\x60' ∉ (toString number).toList := by
  intro h
  have hdigits : '\x60' ∈ Nat.toDigits 10 number := by simpa using h
  have hdigit := Nat.isDigit_of_mem_toDigits (by decide) (by decide) hdigits
  revert hdigit
  decide

/-- A name that is sought for a reserved word has no back-quotes: it goes on with a number. -/
theorem free_of_firstFree {taken : List String} {word : String} (hword : word ∈ reservedWords)
    (h : FirstFree taken (word ++ "Value") name) : '\x60' ∉ name.toList := by
  have hbase : ∀ word ∈ reservedWords, '\x60' ∉ (word ++ "Value").toList := by decide +kernel
  cases h with
  | plain => exact hbase word hword
  | numbered =>
    rw [String.toList_append, List.mem_append, not_or]
    exact ⟨hbase word hword, backQuote_not_mem_toString _⟩

/-- A column with an accepted field keeps its back-quotes unless a reserved word is in them. -/
theorem free_of_boundTo {fields done : List String} {c : ColumnView}
    (hbound : BoundTo fields done c name) (haccepted : isIdentifier c.fieldName = true)
    (hquoted : QuotedIdentifier c.fieldName → c.bareName ∈ reservedWords) :
    '\x60' ∉ name.toList := by
  by_cases hreserved : c.bareName ∈ reservedWords
  · exact free_of_firstFree hreserved (hbound.reserved hreserved)
  · rw [hbound.plain hreserved]
    rcases isIdentifier_iff.mp haccepted with hplain | hfield
    · exact not_mem_of_isPlainIdentifier (isPlainIdentifier_iff.mpr hplain) (by decide) (by decide)
    · exact absurd (hquoted hfield) hreserved

theorem free_bindingNames_iff {columns : List ColumnView}
    (h : ∀ c ∈ columns, isIdentifier c.fieldName = true) :
    (∀ name ∈ bindingNames columns, '\x60' ∉ name.toList) ↔
      ∀ c ∈ columns, QuotedIdentifier c.fieldName → c.bareName ∈ reservedWords := by
  constructor
  · intro hfree c hc hquoted
    obtain ⟨i, hi, rfl⟩ := List.getElem_of_mem hc
    obtain ⟨name, hname, hbound⟩ := getElem?_bindingNames hi
    by_contra hreserved
    obtain ⟨inner, ending, hfield, -⟩ := hquoted
    have hmem := hfree name (List.mem_of_getElem? hname)
    rw [hbound.plain hreserved, hfield] at hmem
    exact hmem (List.mem_cons_self ..)
  · intro hquoted name hname
    obtain ⟨i, hi, rfl⟩ := List.getElem_of_mem hname
    have hcolumn : i < columns.length := by rwa [← length_bindingNames]
    obtain ⟨other, hother, hbound⟩ := getElem?_bindingNames hcolumn
    rw [List.getElem?_eq_getElem hi, Option.some_inj] at hother
    rw [hother]
    have hmem := List.getElem_mem hcolumn
    exact free_of_boundTo hbound (h _ hmem) (hquoted _ hmem)

/-- The drawn tuples have numbered names, so it is the columns that decide. -/
theorem free_bound_iff (h : ∀ c ∈ v.columns, isIdentifier c.fieldName = true) :
    (∀ name ∈ (Assembly.ofView v).bound, '\x60' ∉ name.toList) ↔
      ∀ c ∈ v.columns, QuotedIdentifier c.fieldName → c.bareName ∈ reservedWords := by
  rw [bound_ofView, ← free_bindingNames_iff h]
  simp only [List.mem_append]
  refine ⟨fun hall name hname => hall name (.inl hname), fun hall name hname => ?_⟩
  rcases hname with hname | hname
  · exact hall name hname
  · obtain ⟨number, -, rfl⟩ := List.mem_map.mp hname
    have hword : '\x60' ∉ "value".toList := by decide
    rw [String.toList_append, List.mem_append, not_or]
    exact ⟨hword, backQuote_not_mem_toString number⟩

end Bound

section Methods

variable {v : TableView} {c : ColumnView}

/-- What is put before a field is the beginning of an identifier. -/
theorem plainName_generatorName_iff :
    PlainName c.generatorName ↔
      ∀ ch ∈ (capitalize c.bareName).toList, isIdentifierPart ch = true := by
  have hgen : ∀ ch ∈ "gen".toList, isIdentifierPart ch = true := by simp [isIdentifierPart]
  have hparts : (∀ ch ∈ c.generatorName.toList, isIdentifierPart ch = true) ↔
      ∀ ch ∈ (capitalize c.bareName).toList, isIdentifierPart ch = true := by
    rw [ColumnView.generatorName, String.toList_append, List.forall_mem_append]
    exact and_iff_right hgen
  have hhead : c.generatorName.toList.head? = some 'g' := by simp [ColumnView.generatorName]
  rw [← hparts]
  refine ⟨PlainName.parts, fun h => ⟨fun hempty => ?_, h, fun ch hch => ?_⟩⟩
  · rw [hempty] at hhead
    cases hhead
  · rw [hhead, Option.mem_some_iff] at hch
    subst hch
    decide

theorem IsOrdinary.bareParts (h : IsOrdinary c) :
    ∀ ch ∈ c.bareName.toList, isIdentifierPart ch = true := by
  rcases h with hplain | hreserved
  · rw [ColumnView.bareName, unquote_of_free hplain.free]
    exact hplain.parts
  · have hwords : ∀ word ∈ reservedWords, PlainName word := by decide +kernel
    exact (hwords _ hreserved).parts

theorem IsOrdinary.reserved_of_quoted (h : IsOrdinary c) (hquoted : QuotedIdentifier c.fieldName) :
    c.bareName ∈ reservedWords := by
  refine h.resolve_left fun hplain => ?_
  obtain ⟨inner, ending, hfield, -⟩ := hquoted
  refine hplain.free ?_
  rw [hfield]
  exact List.mem_append_left _ (List.mem_cons_self ..)

theorem plainName_definitions_iff (v : TableView) :
    (∀ d ∈ definitions v, PlainName d.name) ↔ ∀ c ∈ v.columns,
      IsOrdinary c ∨ ∀ ch ∈ (capitalize c.bareName).toList, isIdentifierPart ch = true := by
  have hhelpers : ∀ helper ∈ helpersOf v, PlainName (Definition.ofHelper helper).name := by
    intro helper _
    cases helper <;> decide +kernel
  simp only [definitions, List.forall_mem_append, List.forall_mem_map]
  rw [and_iff_right hhelpers]
  refine forall₂_congr fun c _ => plainName_generatorName_iff.trans ?_
  exact (or_iff_right_of_imp fun h => isIdentifierPart_capitalize h.bareParts).symm

/-- No column has the generator of a helper, so it is between columns that names can meet. -/
theorem nodup_definitions_iff (v : TableView) :
    ((definitions v).map Definition.name).Nodup ↔
      (v.columns.map fun c => capitalize c.bareName).Nodup := by
  have hhelpers : ((helpersOf v).map Helper.name).Nodup :=
    (nodup_helpersOf v).map fun _ _ h => helperName_inj.mp h
  have hapart : ((helpersOf v).map Helper.name).Disjoint
      (v.columns.map ColumnView.generatorName) := by
    intro name hhelper hcolumn
    obtain ⟨helper, -, rfl⟩ := List.mem_map.mp hhelper
    obtain ⟨c, -, hname⟩ := List.mem_map.mp hcolumn
    exact generatorName_ne c helper hname
  have hnames : (definitions v).map Definition.name =
      (helpersOf v).map Helper.name ++ v.columns.map ColumnView.generatorName := by
    rw [definitions, List.map_append, List.map_map, List.map_map]
    rfl
  have hgenerators : v.columns.map ColumnView.generatorName =
      (v.columns.map fun c => capitalize c.bareName).map ("gen" ++ ·) := by
    rw [List.map_map]
    rfl
  rw [hnames, List.nodup_append', and_iff_right hhelpers, and_iff_left hapart, hgenerators]
  exact List.nodup_map_iff fun _ _ h => (String.append_right_inj "gen").mp h

end Methods

section Defaults

variable {config : Settings} {table : Table} {explicit : Option Value}

theorem fieldName_of_default (hnaming : DefaultNaming config) {c : ColumnView}
    (hc : c ∈ (TableView.of config table explicit).columns) : c.fieldName = fieldName c.name := by
  refine fieldName_of_answer hc ?_
  rw [hnaming.fieldName]
  rfl

theorem IsOrdinary.smallStart {c : ColumnView} (h : IsOrdinary c)
    (hfield : c.fieldName = fieldName c.name) : SmallStart c.bareName := by
  rcases h with hplain | hreserved
  · rw [ColumnView.bareName, unquote_of_free hplain.free, hfield]
    exact smallStart_fieldName c.name
  · have hwords : ∀ word ∈ reservedWords, SmallStart word := by decide +kernel
    exact hwords _ hreserved

/-- An ordinary field is no other field in back-quotes, since that one would be a reserved word. -/
theorem not_requoted_of_ordinary (hnaming : DefaultNaming config)
    (hordinary : ∀ c ∈ (TableView.of config table explicit).columns, IsOrdinary c) :
    ¬Requoted (namesOf table.columns) := by
  rintro ⟨a, ha, b, -, hquoted⟩
  obtain ⟨column, hcolumn, rfl⟩ := List.mem_map.mp ha
  obtain ⟨c, hc, hname⟩ := exists_view config explicit hcolumn
  rw [← hname, ← fieldName_of_default hnaming hc] at hquoted
  rcases hordinary c hc with hplain | hreserved
  · refine hplain.free ?_
    rw [hquoted, toList_backQuoted]
    exact List.mem_append_left _ (List.mem_cons_self ..)
  · rw [ColumnView.bareName, hquoted, unquote_backQuoted] at hreserved
    exact fieldName_not_reserved b hreserved

/-- Under the default policies different ordinary fields have different generators. -/
theorem nodup_capitalize_of_ordinary (hnaming : DefaultNaming config) (hsound : SoundTable table)
    (hordinary : ∀ c ∈ (TableView.of config table explicit).columns, IsOrdinary c) :
    ((TableView.of config table explicit).columns.map fun c => capitalize c.bareName).Nodup := by
  have hbare : ((TableView.of config table explicit).columns.map ColumnView.bareName).Nodup := by
    have hnames : (TableView.of config table explicit).columns.map ColumnView.bareName =
        (namesOf table.columns).map bareField :=
      map_bareName_pick hnaming.fieldName explicit (declares_columns table)
    rw [hnames, nodup_map_bareField_iff hsound.identifier hsound.injective]
    exact ⟨hsound.nodup, not_requoted_of_ordinary hnaming hordinary⟩
  refine hbare.of_map ColumnView.bareName |>.map_on fun c hc d hd hsame => ?_
  refine List.inj_on_of_nodup_map hbare hc hd (String.toList_inj.mp ?_)
  have hlist {c : ColumnView} (hc : c ∈ (TableView.of config table explicit).columns) :=
    toList_eq_of_smallStart
      ((hordinary c hc).smallStart (fieldName_of_default hnaming hc)) (hordinary c hc).bareParts
  rw [hlist hc, hlist hd, hsame]

end Defaults

/-- The names that an arbitrary declares for a table of an input without errors, under any policies.
Its text is made of an assembly and of definitions. The names that the assembly binds are free of
back-quotes exactly when no field is in back-quotes but reserved words. The names of the definitions
are plain identifiers exactly when each field that is neither an identifier on one line nor a
reserved word becomes characters of identifiers, capitalised without its back-quotes; and they
differ from each other exactly when the fields do, capitalised without their back-quotes. So under
the default policies, in an input without warnings, it is enough for all of this that every field is
an identifier on one line or a reserved word. -/
theorem arbitrary_names_plain_iff {tables : List Table} {config : Settings} {checkup : Checkup}
    (hcheck : check tables config = .ok checkup) (herrors : checkup.report.hasErrors = false)
    {table : Table} (htable : table ∈ tables) (explicit : Option Value) :
    let v := TableView.of config table explicit
    (∀ text, arbitrarySource config table explicit = .ok text → text = render config.eol
      (arbitraryHeader config v ++ [""] ++ ["trait " ++ v.className ++ "Arbitrary \x7b", ""] ++
        cutLines (Assembly.ofView v).lines ++ [""] ++
        ((helpersOf v).flatMap (fun helper => (Definition.ofHelper helper).lines ++ [""]) ++
          v.columns.flatMap fun c => [margin 1 ++ (Definition.ofColumn c).line, ""]).dropLast ++
        ["\x7d", ""])) ∧
    ((∀ name ∈ (Assembly.ofView v).bound, '\x60' ∉ name.toList) ↔
      ∀ c ∈ v.columns, QuotedIdentifier c.fieldName → c.bareName ∈ reservedWords) ∧
    ((∀ d ∈ definitions v, PlainName d.name) ↔ ∀ c ∈ v.columns,
      IsOrdinary c ∨ ∀ ch ∈ (capitalize c.bareName).toList, isIdentifierPart ch = true) ∧
    (((definitions v).map Definition.name).Nodup ↔
      (v.columns.map fun c => capitalize c.bareName).Nodup) ∧
    (DefaultNaming config → checkup.report.hasWarnings = false →
      (∀ c ∈ v.columns, IsOrdinary c) →
      (∀ name ∈ (Assembly.ofView v).bound, '\x60' ∉ name.toList) ∧
        (∀ d ∈ definitions v, PlainName d.name) ∧ ((definitions v).map Definition.name).Nodup) := by
  intro v
  have hproper := properColumns_of_check hcheck herrors htable
  have hcolumns : v.columns ≠ [] := by
    intro hnone
    have hnames := map_name_columns config table explicit
    rw [hnone, List.map_nil] at hnames
    exact hproper.filled (List.map_eq_nil_iff.mp hnames.symm)
  have haccepted : ∀ c ∈ v.columns, isIdentifier c.fieldName = true :=
    (forall_fieldName_iff (fun name => isIdentifier name = true) explicit
      fun column hcolumn => (hproper.named column hcolumn).imp fun _ h => h.1).mpr hproper.named
  refine ⟨fun text htext => ?_, free_bound_iff haccepted, plainName_definitions_iff v,
    nodup_definitions_iff v, fun hnaming hwarnings hordinary => ⟨?_, ?_, ?_⟩⟩
  · rw [arbitrarySource_eq_ok htext, arbitraryTrait, generatorMethods_eq,
      arbitraryMethod_eq hcolumns]
    simp only [List.append_assoc, List.cons_append, List.nil_append, v]
  · exact (free_bound_iff haccepted).mpr fun c hc => (hordinary c hc).reserved_of_quoted
  · exact (plainName_definitions_iff v).mpr fun c hc => .inl (hordinary c hc)
  · have hsound := soundTable_of_check hnaming hcheck herrors hwarnings htable
    exact (nodup_definitions_iff v).mpr (nodup_capitalize_of_ordinary hnaming hsound hordinary)

/-- A reserved word is bound and drawn under names of its own. -/
theorem arbitrary_names_plain_iff_of_type :
    let v := TableView.of Settings.default (Sample.keyed "type") none
    (∃ checkup, check [Sample.keyed "type"] Settings.default = .ok checkup ∧
      checkup.report.hasErrors = false ∧ checkup.report.hasWarnings = false) ∧
    (Assembly.ofView v).bound = ["typeValue", "value0"] ∧
    (definitions v).map Definition.name = ["genType"] ∧
    (∀ name ∈ (Assembly.ofView v).bound, '\x60' ∉ name.toList) ∧
    (∀ d ∈ definitions v, PlainName d.name) ∧ ((definitions v).map Definition.name).Nodup := by
  have hreserved : ∀ c ∈ (TableView.of Settings.default (Sample.keyed "type") none).columns,
      c.bareName ∈ reservedWords := by decide +kernel
  obtain ⟨-, -, -, -, hdefault⟩ := arbitrary_names_plain_iff
    (show check [Sample.keyed "type"] Settings.default = .ok _ from rfl)
    (by decide +kernel) (List.mem_singleton_self _) none
  refine ⟨⟨_, rfl, by decide +kernel, by decide +kernel⟩, by decide +kernel, by decide +kernel, ?_⟩
  exact hdefault ⟨rfl, rfl, rfl, rfl⟩ (by decide +kernel) fun c hc => .inr (hreserved c hc)

namespace Sample

/-- A table with a column that is named like another one in back-quotes, and one with a blank. -/
def quoted : Table where
  name := "emp"
  columns := [⟨"x", -5, "BIGINT", 0, true, false, false⟩,
    ⟨"`x`", -5, "BIGINT", 0, true, false, false⟩, ⟨"`a b`", -5, "BIGINT", 0, true, false, false⟩]
  autoIncrement := []
  primaryKey := [⟨"x", -5, "BIGINT", 0, true, false, false⟩]
  generated := []
  schema := none
  autoIncrement_declared := by decide
  primaryKey_declared := by decide
  generated_declared := by decide

end Sample

/-- Under the default policies a table passes the checks, without warnings even, although it has
fields in back-quotes. They are bound as they are, two columns have one generator, and the name of a
third generator is broken by a blank. -/
theorem arbitrary_of_quoted_fields :
    let v := TableView.of Settings.default Sample.quoted none
    (∃ checkup, check [Sample.quoted] Settings.default = .ok checkup ∧
      checkup.report.hasErrors = false ∧ checkup.report.hasWarnings = false) ∧
    (∃ text, arbitrarySource Settings.default Sample.quoted none = .ok text) ∧
    (Assembly.ofView v).bound = ["x", "`x`", "`a b`", "value0"] ∧
    (definitions v).map Definition.name = ["genX", "genX", "genA b"] ∧
    ¬(∀ name ∈ (Assembly.ofView v).bound, '\x60' ∉ name.toList) ∧
    ¬(∀ d ∈ definitions v, PlainName d.name) ∧
    ¬((definitions v).map Definition.name).Nodup := by
  intro v
  have hbound : (Assembly.ofView v).bound = ["x", "`x`", "`a b`", "value0"] := by decide +kernel
  have hnames : (definitions v).map Definition.name = ["genX", "genX", "genA b"] := by
    decide +kernel
  refine ⟨⟨_, rfl, by decide +kernel, by decide +kernel⟩, ⟨_, rfl⟩, hbound, hnames, ?_, ?_, ?_⟩
  · rw [hbound]
    exact fun hfree => hfree "`x`" (by decide) (by decide)
  · intro hplain
    have hlast : "genA b" ∈ (definitions v).map Definition.name := by
      rw [hnames]
      decide
    obtain ⟨d, hd, hname⟩ := List.mem_map.mp hlast
    exact absurd (hname ▸ hplain d hd) (by decide)
  · rw [hnames]
    decide

end RecordMapper.Source
