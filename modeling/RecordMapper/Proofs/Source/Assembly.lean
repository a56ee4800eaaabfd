import RecordMapper.Proofs.Source.Bindings
import RecordMapper.Proofs.Source.Generators
import RecordMapper.Proofs.Source.Groups

/-!
# Assembly of records

An arbitrary draws the values of the columns in tuples and puts a record together from their
components. The names of a tuple, the calls that draw its values and the selections from it are made
apart from each other; they fit because all of them go by the place of a column. For tables of any
width a column is drawn once, by its own generator, and selected once, from where it was drawn.
-/
namespace RecordMapper.Source

open RecordMapper.Config RecordMapper.Schema RecordMapper.Text RecordMapper.View

/-- A value that is drawn by a call, under its name. -/
structure Binding where
  name : String
  call : String

/-- A generator of a tuple: the values that it draws and the names that it yields. -/
structure TupleGenerator where
  bindings : List Binding
  components : List String

namespace TupleGenerator

/-- The text of the tuple. Parentheses around one name alone make no tuple. -/
def tuple (g : TupleGenerator) : String :=
  (if g.components.length = 1 then "Tuple1" else "") ++ "(" ++ join ", " g.components ++ ")"

def lines (number : Nat) (g : TupleGenerator) : List String :=
  ["    val gen" ++ toString number ++ " = for \x7b"] ++
    g.bindings.map (fun b => "      " ++ b.name ++ " <- " ++ b.call) ++
    ["    \x7d yield " ++ g.tuple, ""]

/-- The generator for a group of columns with their names. -/
def ofGroup (members : List (ColumnView × String)) : TupleGenerator where
  bindings := members.map fun (c, name) => ⟨name, generatorCall c⟩
  components := members.map Prod.snd

end TupleGenerator

/-- The component of a tuple that a field of the record is set to. Components count from one. -/
structure Selection where
  field : String
  tuple : Nat
  component : Nat

def Selection.text (s : Selection) : String :=
  s.field ++ " = value" ++ toString s.tuple ++ "._" ++ toString s.component

/-- The generator of a record: tuples are drawn one after another, and each field selects its
component from one of them. -/
structure Assembly where
  className : String
  generators : List TupleGenerator
  selections : List Selection

namespace Assembly

/-- The lines of the generator. Every tuple is drawn once from the generator with its number. -/
def lines (a : Assembly) : List String :=
  ["  def arbitrary: Arbitrary[" ++ a.className ++ "] = Arbitrary \x7b", ""] ++
    (a.generators.mapIdx TupleGenerator.lines).flatten ++
    ["    for \x7b"] ++
    (List.range a.generators.length).map (fun number =>
      "      value" ++ toString number ++ " <- gen" ++ toString number) ++
    ["    \x7d yield " ++ a.className ++ "("] ++
    withCommas (a.selections.map fun s => "      " ++ s.text) ++
    ["    )", "  \x7d"]

/-- The assembly of the records of a table. -/
def ofView (v : TableView) : Assembly where
  className := v.className
  generators :=
    (groupsOf maxTupleSize (v.columns.zip (bindingNames v.columns))).map TupleGenerator.ofGroup
  selections := v.columns.mapIdx fun i c => ⟨c.fieldName, i / maxTupleSize, i % maxTupleSize + 1⟩

end Assembly

section Lines

theorem tuple_eq_tupleOf (g : TupleGenerator) : g.tuple = tupleOf g.components := by
  unfold TupleGenerator.tuple
  match g.components with
  | [] => rfl
  | [name] => rfl
  | first :: second :: rest =>
    rw [if_neg (by simp), String.empty_append]
    rfl

theorem lines_ofGroup (number : Nat) (members : List (ColumnView × String)) :
    (TupleGenerator.ofGroup members).lines number = groupLines number members := by
  have hmargins : margin 3 = "      " ∧ margin 2 ++ "\x7d yield " = "    \x7d yield " := by decide
  simp only [TupleGenerator.lines, tuple_eq_tupleOf, groupLines, hmargins.1, hmargins.2,
    TupleGenerator.ofGroup, List.map_map, Function.comp_def]

variable {v : TableView}

/-- As many columns are in the groups as the table has. -/
theorem length_zip_bindingNames (v : TableView) :
    (v.columns.zip (bindingNames v.columns)).length = v.columns.length := by
  rw [List.length_zip, length_bindingNames, Nat.min_self]

/-- Groups give the same arguments as the list that they were cut from. -/
theorem flatten_groupArguments (v : TableView) :
    ((groupsOf maxTupleSize (v.columns.zip (bindingNames v.columns))).mapIdx
      groupArguments).flatten =
      (Assembly.ofView v).selections.map fun s => "      " ++ s.text := by
  have hmargin : margin 3 = "      " := by decide
  have hcolumns : (v.columns.zip (bindingNames v.columns)).map Prod.fst = v.columns :=
    List.map_fst_zip (length_bindingNames v.columns).ge
  have hflat := flatten_mapIdx_groupsOf (show 0 < maxTupleSize by decide)
    (v.columns.zip (bindingNames v.columns)) fun g p (member : ColumnView × String) =>
      margin 3 ++ member.1.fieldName ++ " = value" ++ toString g ++ "._" ++ toString (p + 1)
  refine Eq.trans hflat ?_
  rw [Assembly.ofView, map_mapIdx]
  conv_rhs => rw [← hcolumns, mapIdx_map]
  simp only [Selection.text, hmargin, String.append_assoc]

theorem arbitraryMethod_eq (h : v.columns ≠ []) :
    arbitraryMethod v = cutLines (Assembly.ofView v).lines := by
  have hmargin : margin 3 ++ "value" = "      value" := by decide
  have hgenerators : (groupsOf maxTupleSize (v.columns.zip (bindingNames v.columns))).mapIdx
      groupLines = (Assembly.ofView v).generators.mapIdx TupleGenerator.lines := by
    simp only [Assembly.ofView, mapIdx_map, lines_ofGroup]
  have hvalues : (groupsOf maxTupleSize (v.columns.zip (bindingNames v.columns))).mapIdx
      (fun i _ => margin 3 ++ "value" ++ toString i ++ " <- gen" ++ toString i) =
      (List.range (Assembly.ofView v).generators.length).map fun number =>
        "      value" ++ toString number ++ " <- gen" ++ toString number := by
    simp only [hmargin]
    refine List.ext_getElem (by simp [Assembly.ofView]) fun i _ _ => by simp
  have hselections : assignments ((groupsOf maxTupleSize
      (v.columns.zip (bindingNames v.columns))).mapIdx groupArguments).flatten =
      withCommas ((Assembly.ofView v).selections.map fun s => "      " ++ s.text) := by
    rw [flatten_groupArguments, assignments, if_neg]
    simpa [Assembly.ofView] using h
  simp only [arbitraryMethod, Assembly.lines, hgenerators, hvalues, hselections]
  rfl

end Lines

section Places

variable {v : TableView}

theorem getElem?_zip_bindingNames {i : Nat} (hi : i < v.columns.length) :
    ∃ name, (bindingNames v.columns)[i]? = some name ∧
      (v.columns.zip (bindingNames v.columns))[i]? = some (v.columns[i], name) := by
  obtain ⟨name, hname, -⟩ := getElem?_bindingNames hi
  refine ⟨name, hname, ?_⟩
  rw [List.getElem?_zip_eq_some]
  exact ⟨List.getElem?_eq_getElem hi, hname⟩

/-- The place of a column tells its generator and its place in there. -/
theorem getElem?_generators {i : Nat} (hi : i < v.columns.length) :
    ∃ g name, (Assembly.ofView v).generators[i / maxTupleSize]? = some g ∧
      (bindingNames v.columns)[i]? = some name ∧
      g.bindings[i % maxTupleSize]? = some ⟨name, generatorCall v.columns[i]⟩ ∧
      g.components[i % maxTupleSize]? = some name := by
  obtain ⟨name, hname, hmember⟩ := getElem?_zip_bindingNames hi
  obtain ⟨group, hgroup, hplace⟩ := getElem?_groupsOf_div (show 0 < maxTupleSize by decide)
    (hi.trans_eq (length_zip_bindingNames v).symm)
  rw [hmember] at hplace
  refine ⟨TupleGenerator.ofGroup group, name, ?_, hname, ?_, ?_⟩
  · simp only [Assembly.ofView, List.getElem?_map, hgroup, Option.map_some]
  · simp only [TupleGenerator.ofGroup, List.getElem?_map, hplace, Option.map_some]
  · simp only [TupleGenerator.ofGroup, List.getElem?_map, hplace, Option.map_some]

/-- All generators together draw every column once, in order. -/
theorem flatMap_bindings (v : TableView) :
    (Assembly.ofView v).generators.flatMap TupleGenerator.bindings =
      (v.columns.zip (bindingNames v.columns)).map fun (c, name) => ⟨name, generatorCall c⟩ := by
  rw [Assembly.ofView, List.flatMap_map]
  conv_rhs => rw [← flatten_groupsOf maxTupleSize (v.columns.zip _), List.map_flatten]
  rfl

end Places

/-- How the records of a table with columns are assembled. The generator of a record draws as many
tuples as it takes to hold all columns, each from a generator of its own. The column at a place is
drawn by its own call, under its own name, at the place in its tuple where that name is yielded and
from where its field is set. No tuple has more components than there can be; nothing else is drawn
or set, so every column is drawn once and set once, in order. -/
theorem record_assembled {v : TableView} (h : v.columns ≠ []) :
    ∃ a : Assembly, arbitraryMethod v = cutLines a.lines ∧ a.className = v.className ∧
      a.generators.length = v.columns.length ⌈/⌉ (22 : Nat) ∧
      (∀ g ∈ a.generators, g.components = g.bindings.map Binding.name ∧
        0 < g.components.length ∧ g.components.length ≤ 22) ∧
      a.generators.flatMap TupleGenerator.bindings =
        (v.columns.zip (bindingNames v.columns)).map (fun (c, name) => ⟨name, generatorCall c⟩) ∧
      a.selections.length = v.columns.length ∧
      ∀ i (hi : i < v.columns.length), ∃ g name,
        a.generators[i / 22]? = some g ∧ (bindingNames v.columns)[i]? = some name ∧
        g.bindings[i % 22]? = some ⟨name, generatorCall v.columns[i]⟩ ∧
        g.components[i % 22]? = some name ∧
        a.selections[i]? = some ⟨v.columns[i].fieldName, i / 22, i % 22 + 1⟩ ∧ i % 22 + 1 ≤ 22 := by
  have hsize : 0 < maxTupleSize := by decide
  refine ⟨Assembly.ofView v, arbitraryMethod_eq h, rfl, ?_, fun g hg => ?_, flatMap_bindings v,
    List.length_mapIdx, fun i hi => ?_⟩
  · rw [Assembly.ofView, List.length_map, length_groupsOf hsize, length_zip_bindingNames,
      maxTupleSize]
  · obtain ⟨members, hmembers, rfl⟩ := List.mem_map.mp hg
    simp only [TupleGenerator.ofGroup, List.length_map, List.map_map]
    exact ⟨rfl, length_of_mem_groupsOf hsize hmembers⟩
  · obtain ⟨g, name, hg, hname, hbinding, hcomponent⟩ := getElem?_generators hi
    refine ⟨g, name, hg, hname, hbinding, hcomponent, ?_, Nat.mod_lt i hsize⟩
    rw [Assembly.ofView, List.getElem?_mapIdx, List.getElem?_eq_getElem hi]
    rfl

namespace Sample

/-- A table with one column more than a tuple has room for. -/
def wide : Table where
  name := "wide"
  columns := (List.range 23).map fun i => ⟨"c" ++ toString i, -5, "BIGINT", 0, true, false, false⟩
  autoIncrement := []
  primaryKey := []
  generated := []
  schema := none
  autoIncrement_declared := by decide
  primaryKey_declared := by decide
  generated_declared := by decide

end Sample

/-- The last column is alone in the second tuple. -/
theorem record_assembled_of_wide :
    let v := TableView.of Settings.default Sample.wide none
    v.columns ≠ [] ∧ ∃ a : Assembly, arbitraryMethod v = cutLines a.lines ∧
      a.generators.length = 2 ∧
      (∃ g, a.generators[1]? = some g ∧ g.bindings[0]? = some ⟨"c22", "genC22()"⟩ ∧
        g.components[0]? = some "c22") ∧
      a.selections[22]? = some ⟨"c22", 1, 1⟩ := by
  intro v
  have hlength : v.columns.length = 23 := by decide +kernel
  have hne : v.columns ≠ [] := List.ne_nil_of_length_pos (by omega)
  obtain ⟨a, hlines, -, hcount, -, -, -, hplaces⟩ := record_assembled hne
  obtain ⟨g, name, hg, hname, hbinding, hcomponent, hselection, -⟩ := hplaces 22 (by omega)
  have hfield : v.columns[22].fieldName = "c22" := by decide +kernel
  have hcall : generatorCall v.columns[22] = "genC22()" := by decide +kernel
  have hbound : (bindingNames v.columns)[22]? = some "c22" := by decide +kernel
  rw [hbound, Option.some_inj] at hname
  rw [hcall, ← hname] at hbinding
  rw [← hname] at hcomponent
  rw [hfield] at hselection
  rw [hlength] at hcount
  exact ⟨hne, a, hlines, hcount.trans (by decide), ⟨g, hg, hbinding, hcomponent⟩, hselection⟩

end RecordMapper.Source
