import RecordMapper.Proofs.Source.Operations
import RecordMapper.Proofs.View.Subsets

/-!
# Calls of a spec

A spec calls `create` and `find` of the model of its table. The calls stand in the body of its
framework, with a placeholder for their arguments. The arguments of `create` are named and come from
the required columns; those of `find` are in the order of the key. The parameters come from the
inserted columns and from the key. Both sides are listed in ways of their own and agree.
-/
namespace RecordMapper.Source

open RecordMapper.Config RecordMapper.Schema RecordMapper.Text RecordMapper.View

/-- A line of a body calls an operation of the companion. The texts are compared as encoded. -/
def Calls (operation line : String) : Prop :=
  (companionCall (operation ++ "(")).toByteArray.data.toList <:+: line.toByteArray.data.toList

instance (operation line : String) : Decidable (Calls operation line) :=
  inferInstanceAs (Decidable (_ <:+: _))

/-- The lines of a spec that call an operation, filled in. -/
def callingLines (framework : TestFramework) (values : List (Placeholder × String))
    (operation : String) : List String :=
  ((bodyLines framework).filter (Calls operation)).map (substitute values)

/-- The line that binds what a call of an operation gives. -/
def callLine (level : Nat) (owner operation arguments binding : String) : String :=
  margin level ++ "val " ++ binding ++ " = " ++ owner ++ "." ++ operation ++ "(" ++ arguments ++ ")"

/-- An argument under the name of its parameter. -/
structure NamedArgument where
  name : String
  value : String

def NamedArgument.text (a : NamedArgument) : String := a.name ++ " = " ++ a.value

/-- Nothing that a spec takes from these columns can be taken for a placeholder. -/
def FreeOfPlaceholders (v : TableView) : Prop :=
  (∀ c ∈ v.createFields, '%' ∉ c.fieldName.toList ∧ '%' ∉ c.sample.toList) ∧
    ∀ c ∈ v.key, '%' ∉ c.sample.toList

instance (v : TableView) : Decidable (FreeOfPlaceholders v) := inferInstanceAs (Decidable (_ ∧ _))

section Lines

/-- Every body calls `create` once and `find` twice. -/
theorem filter_calls_bodyLines (framework : TestFramework) : ∃ level,
    (bodyLines framework).filter (Calls "create") = ["created"].map
      (callLine level Placeholder.className.token "create" Placeholder.createFields.token) ∧
    (bodyLines framework).filter (Calls "find") = ["maybeFound", "shouldBeNone"].map
      (callLine level Placeholder.className.token "find" Placeholder.primaryKeys.token) := by
  cases framework
  · exact ⟨2, by decide +kernel⟩
  · exact ⟨3, by decide +kernel⟩
  · exact ⟨3, by decide +kernel⟩

theorem percent_not_mem_margin (level : Nat) : '%' ∉ (margin level).toList := by
  simp [margin, marginOf, spaces, List.mem_replicate]

variable {values : List (Placeholder × String)}

/-- A call is filled in part by part. -/
theorem substitute_callLine {operation binding : String} (hoperation : '%' ∉ operation.toList)
    (hbinding : '%' ∉ binding.toList) (level : Nat) (owner arguments : String) :
    substitute values (callLine level owner operation arguments binding) =
      callLine level (substitute values owner) operation (substitute values arguments) binding := by
  have hhead : '%' ∉ (margin level ++ "val " ++ binding).toList := by
    simp [percent_not_mem_margin, hbinding]
  have hend : substitute values "" = "" := substitute_of_free (by decide)
  have hclosed : callLine level owner operation arguments binding =
      callLine level owner operation arguments binding ++ "" := String.append_empty.symm
  have hequals : IsBoundary " = " := by decide
  have hpoint : IsBoundary "." := by decide
  have hopens : IsBoundary "(" := by decide
  have hcloses : IsBoundary ")" := by decide
  rw [hclosed, callLine, substitute_append hcloses, substitute_append hopens,
    substitute_append hpoint, substitute_append hequals, substitute_of_free hhead,
    substitute_of_free hoperation, hend, String.append_empty, callLine]

theorem map_substitute_callLine {operation : String} {bindings : List String}
    (hoperation : '%' ∉ operation.toList) (hbindings : ∀ binding ∈ bindings, '%' ∉ binding.toList)
    (level : Nat) (owner arguments : String) :
    (bindings.map (callLine level owner operation arguments)).map (substitute values) =
      bindings.map (callLine level (substitute values owner) operation
        (substitute values arguments)) := by
  rw [List.map_map]
  refine List.map_congr_left fun binding hbinding => ?_
  exact substitute_callLine hoperation (hbindings binding hbinding) level owner arguments

end Lines

/-- The calls of an operation in a spec and the method of the model that they call. -/
structure CallsMethod (model : ModelSource) (operation : String) (bindings lines : List String)
    (owner : String) (parameters : List Parameter) (arguments : List String) : Prop where
  declared : ∃ m, model.method? operation = some m ∧ m.Takes operation parameters
  called : ∃ level, lines =
    bindings.map (callLine level owner operation (join ", " arguments))

section Calls

variable {config : Settings} {v : TableView} {values : List (Placeholder × String)}

/-- Without placeholders in the samples the arguments of the calls are as they were put together. -/
theorem substitute_arguments (h : placeholderValues config v = .ok values)
    (hfree : FreeOfPlaceholders v) :
    substitute values Placeholder.createFields.token =
      join ", " (v.createFields.map fun c => c.fieldName ++ " = " ++ c.sample) ∧
    substitute values Placeholder.primaryKeys.token =
      join ", " (v.key.map ColumnView.sample) := by
  obtain ⟨-, -, hkey, hcreate⟩ := lookup_of_placeholderValues h
  constructor
  · refine substitute_token hcreate (not_mem_join (by decide) ?_)
    intro text htext
    obtain ⟨c, hc, rfl⟩ := List.mem_map.mp htext
    simp [hfree.1 c hc]
  · refine substitute_token hkey (not_mem_join (by decide) ?_)
    intro text htext
    obtain ⟨c, hc, rfl⟩ := List.mem_map.mp htext
    exact hfree.2 c hc

theorem filter_isRequired_createParameters (config : Settings) (table : Table)
    (explicit : Option Value) :
    ((createParameters (TableView.of config table explicit)).filter Parameter.isRequired).map
        Parameter.name =
      (TableView.of config table explicit).createFields.map ColumnView.fieldName := by
  have hrequired : (Parameter.isRequired ∘ fun c : ColumnView =>
      (⟨c.fieldName, c.fieldType, if c.isNotNull then none else some "None"⟩ : Parameter)) =
        ColumnView.isNotNull := by
    funext c
    rw [Function.comp_apply, Parameter.isRequired]
    cases c.isNotNull <;> rfl
  rw [createParameters, List.filter_map, hrequired, List.map_map, createFields_eq_filter]
  rfl

end Calls

/-- A spec and a model of a table fit. The one call of `create` in the spec names in order just
those parameters of the model's `create` that have no default, and gives each the sample of its
column. Both calls of `find` pass as many arguments as `find` has parameters; the parameter and the
argument at a place are the field and the sample of the column at this place of the key. The calls
go to the class of the model unless its name holds a percent sign and might be taken for a
placeholder. -/
theorem spec_calls_fit {config : Settings} {table : Table} {explicit : Option Value}
    {spec source : String} (hspec : specSource config table explicit = .ok (some spec))
    (hsource : modelSource config table explicit = .ok source)
    (hfree : FreeOfPlaceholders (TableView.of config table explicit)) :
    let v := TableView.of config table explicit
    ∃ model framework values owner,
      (modelOf config v = .ok model ∧ source = render config.eol model.lines) ∧
      (framework? config = some framework ∧ placeholderValues config v = .ok values ∧
        spec = render config.eol (specLines framework values)) ∧
      ('%' ∉ v.className.toList → owner = v.className) ∧
      (∃ arguments : List NamedArgument,
        CallsMethod model "create" ["created"] (callingLines framework values "create") owner
          (createParameters v) (arguments.map NamedArgument.text) ∧
        arguments.map NamedArgument.name =
          ((createParameters v).filter Parameter.isRequired).map Parameter.name ∧
        arguments.map NamedArgument.value = v.createFields.map ColumnView.sample) ∧
      v.key.map ColumnView.name = namesOf table.keyColumns ∧
      ∃ arguments,
        CallsMethod model "find" ["maybeFound", "shouldBeNone"]
          (callingLines framework values "find") owner (findParameters v) arguments ∧
        arguments.length = (findParameters v).length ∧
        ∀ i (h : i < v.key.length),
          (findParameters v)[i]? = some ⟨v.key[i].fieldName, v.key[i].fieldType, none⟩ ∧
          arguments[i]? = some v.key[i].sample := by
  intro v
  obtain ⟨model, hmodel, hmodelText⟩ := modelSource_eq_ok hsource
  obtain ⟨framework, values, hframework, hvalues, hspecText⟩ := specSource_eq_some hspec
  obtain ⟨level, hcreate, hfind⟩ := filter_calls_bodyLines framework
  obtain ⟨hcreateArguments, hfindArguments⟩ := substitute_arguments hvalues hfree
  obtain ⟨m, hm, htakes, -⟩ := exists_method?_create hmodel
  refine ⟨model, framework, values, substitute values Placeholder.className.token,
    ⟨hmodel, hmodelText⟩, ⟨hframework, hvalues, hspecText⟩,
    substitute_token (lookup_of_placeholderValues hvalues).2.1, ?_,
    map_name_key config table explicit, ?_⟩
  · refine ⟨v.createFields.map fun c => ⟨c.fieldName, c.sample⟩,
      ⟨⟨m, hm, htakes⟩, level, ?_⟩, ?_, ?_⟩
    · rw [callingLines, hcreate, map_substitute_callLine (by decide) (by decide), hcreateArguments,
        List.map_map]
      rfl
    · rw [filter_isRequired_createParameters, List.map_map]
      rfl
    · rw [List.map_map]
      rfl
  · refine ⟨v.key.map ColumnView.sample, ⟨exists_method?_find hmodel, level, ?_⟩, ?_, ?_⟩
    · rw [callingLines, hfind, map_substitute_callLine (by decide) (by decide), hfindArguments]
    · rw [findParameters, List.length_map, List.length_map]
    · intro i hi
      rw [findParameters, List.getElem?_map, List.getElem?_map, List.getElem?_eq_getElem hi]
      exact ⟨rfl, rfl⟩

namespace Sample

/-- Specs for one of the frameworks. -/
def unitSpec : Settings := { Settings.default with testTemplate := "specs2unit" }

end Sample

/-- A record of a member is created from its name alone and found by its key. -/
theorem spec_calls_fit_of_members :
    FreeOfPlaceholders (TableView.of Sample.unitSpec Sample.members none) ∧
    ∃ spec source model framework values owner,
      specSource Sample.unitSpec Sample.members none = .ok (some spec) ∧
      modelSource Sample.unitSpec Sample.members none = .ok source ∧
      spec = render "\n" (specLines framework values) ∧
      (∃ arguments : List NamedArgument, arguments.map NamedArgument.name = ["name"] ∧
        arguments.map NamedArgument.value = ["\"MyString\""] ∧
        CallsMethod model "create" ["created"] (callingLines framework values "create") owner
          (createParameters (TableView.of Sample.unitSpec Sample.members none))
          (arguments.map NamedArgument.text)) ∧
      ∃ arguments, arguments[0]? = some "1L" ∧
        CallsMethod model "find" ["maybeFound", "shouldBeNone"]
          (callingLines framework values "find") owner
          (findParameters (TableView.of Sample.unitSpec Sample.members none)) arguments := by
  have hfree : FreeOfPlaceholders (TableView.of Sample.unitSpec Sample.members none) := by
    decide +kernel
  obtain ⟨spec, hspec⟩ := exists_eq_ok_some
    (show (specSource Sample.unitSpec Sample.members none).toOption.join.isSome = true from rfl)
  obtain ⟨source, hsource⟩ : ∃ source, modelSource Sample.unitSpec Sample.members none =
    .ok source := ⟨_, rfl⟩
  obtain ⟨model, framework, values, owner, -, ⟨-, -, htext⟩, -,
    ⟨created, hcreate, hnames, hvalues⟩, -, found, hfind, -, hplaces⟩ :=
    spec_calls_fit hspec hsource hfree
  refine ⟨hfree, spec, source, model, framework, values, owner, hspec, hsource, htext,
    ⟨created, hnames.trans (by decide +kernel), hvalues.trans (by decide +kernel), hcreate⟩,
    found, (hplaces 0 (by decide +kernel)).2.trans (by decide +kernel), hfind⟩

end RecordMapper.Source
