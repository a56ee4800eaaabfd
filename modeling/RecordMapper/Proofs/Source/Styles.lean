import RecordMapper.Proofs.Source.Operations

/-!
# Models in both styles

The style of statements reaches no further than the bodies of the operations that run one. Apart
from these bodies the models of a table in both styles are the same, and what `create` returns is
put together in the same way. Interpolated statements name the class and the syntax variable, which
have to be texts for them; nothing else about the style makes a difference to whether there is a
model.
-/
namespace RecordMapper.Source

open RecordMapper.Config RecordMapper.Schema RecordMapper.Text RecordMapper.View

/-- The operations whose bodies run a statement in the style of the model. Batch inserts bind their
parameters by name in both styles. -/
def styledOperations : List String := [
  "find", "findAll", "countAll", "findBy", "findAllBy", "countBy", "create", "save", "destroy"]

/-- A method as far as it does not depend on the style. -/
def Method.outline (m : Method) : Method :=
  if m.operation ∈ styledOperations then { m with body := [] } else m

/-- A model without the bodies of the styled operations. -/
def ModelSource.outline (model : ModelSource) : ModelSource :=
  { model with methods := model.methods.map Method.outline }

section Models

/-- The style changes neither the outlines of the methods nor their order. -/
theorem map_outline_methods (config : Settings) (style other : Style) (v : TableView) :
    (methods config style v).map Method.outline = (methods config other v).map Method.outline := by
  have hnames := map_operation_methods config style v
  simp only [methods, operations, List.map_cons, List.map_nil, Method.operation, List.cons.injEq,
    and_true] at hnames
  simp only [methods, List.map_cons, List.map_nil, Method.outline, Method.operation, hnames]
  rfl

variable {config : Settings} {v : TableView}

/-- What a model asks of a view. -/
theorem exists_modelOf_iff : (∃ model, modelOf config v = .ok model) ↔
    v.demandTypes = .ok () ∧
    (∃ clause, policyClause config.baseTypes v "extends" = .ok clause) ∧
    (∃ clause, policyClause config.companionBaseTypes v "with" = .ok clause) ∧
    Demand.each ColumnView.demandLiteral v.columns = .ok () ∧
    (Style.of config.template).demand v = .ok () ∧
    Demand.each ColumnView.demandSample (sampledColumns v) = .ok () := by
  unfold modelOf demandBodies
  constructor
  · rintro ⟨model, h⟩
    obtain ⟨⟨⟩, htypes, h⟩ := bind_eq_ok_iff.mp h
    obtain ⟨classClause, hclass, h⟩ := bind_eq_ok_iff.mp h
    obtain ⟨companionClause, hcompanion, h⟩ := bind_eq_ok_iff.mp h
    obtain ⟨⟨⟩, hliterals, h⟩ := bind_eq_ok_iff.mp h
    obtain ⟨⟨⟩, hbodies, -⟩ := bind_eq_ok_iff.mp h
    obtain ⟨⟨⟩, hstyle, hsamples⟩ := bind_eq_ok_iff.mp hbodies
    exact ⟨htypes, ⟨classClause, hclass⟩, ⟨companionClause, hcompanion⟩, hliterals, hstyle,
      hsamples⟩
  · rintro ⟨htypes, ⟨classClause, hclass⟩, ⟨companionClause, hcompanion⟩, hliterals, hstyle,
      hsamples⟩
    simp only [htypes, hclass, hcompanion, hliterals, hstyle, hsamples, ok_bind]
    exact ⟨_, rfl⟩

/-- Two models in the same configuration but for the style have the same outline. -/
theorem outline_eq_of_modelOf {first second : ModelSource} {template other : SqlTemplate}
    (hfirst : modelOf { config with template } v = .ok first)
    (hsecond : modelOf { config with template := other } v = .ok second) :
    first.outline = second.outline := by
  obtain ⟨classClause, companionClause, hclass, hcompanion, rfl⟩ := modelOf_eq_ok hfirst
  obtain ⟨otherClass, otherCompanion, hotherClass, hotherCompanion, rfl⟩ := modelOf_eq_ok hsecond
  obtain rfl : classClause = otherClass := Except.ok.inj (hclass.symm.trans hotherClass)
  obtain rfl : companionClause = otherCompanion :=
    Except.ok.inj (hcompanion.symm.trans hotherCompanion)
  simp only [ModelSource.outline, ModelSource.mk.injEq]
  exact ⟨rfl, rfl, rfl, map_outline_methods config _ _ v⟩

theorem demand_interpolationStyle_iff : interpolationStyle.demand v = .ok () ↔
    (∃ name, v.variableAnswer = .text name) ∧ ∃ name, v.classAnswer = .text name := by
  rw [interpolationStyle, Demand.each_eq_ok_iff]
  simp [Demand.isText_eq_ok_iff]

end Models

/-- A model in the interpolated style is made just where one with the query builder is made and the
class and the syntax variable are texts. -/
theorem exists_interpolated_iff (config : Settings) (v : TableView) :
    (∃ model, modelOf { config with template := .interpolation } v = .ok model) ↔
      (∃ model, modelOf { config with template := .queryDsl } v = .ok model) ∧
      (∃ name, v.variableAnswer = .text name) ∧ ∃ name, v.classAnswer = .text name := by
  have hquery : queryDslStyle.demand v = .ok () := rfl
  simp only [exists_modelOf_iff, Style.of, demand_interpolationStyle_iff, hquery]
  tauto

/-- The models of a table in both styles have the same lines outside of the bodies of the styled
operations. They offer the same operations, their batch inserts are the same, and in `create` both
construct the same record after their insert. -/
theorem styles_share_api {config : Settings} {table : Table} {explicit : Option Value}
    {interpolated queried : String}
    (hinterpolated : modelSource { config with template := .interpolation } table explicit =
      .ok interpolated)
    (hqueried : modelSource { config with template := .queryDsl } table explicit = .ok queried) :
    let v := TableView.of config table explicit
    ∃ first second : ModelSource,
      (modelOf { config with template := .interpolation } v = .ok first ∧
        interpolated = render config.eol first.lines) ∧
      (modelOf { config with template := .queryDsl } v = .ok second ∧
        queried = render config.eol second.lines) ∧
      first.outline = second.outline ∧
      first.methods.map Method.operation = operations ∧
      second.methods.map Method.operation = operations ∧
      (∃ m, first.method? "batchInsert" = some m ∧ second.method? "batchInsert" = some m) ∧
      ∃ m other, first.method? "create" = some m ∧ second.method? "create" = some other ∧
        m.body = createStatement interpolationStyle v ++ [""] ++ createRecord v ∧
        other.body = createStatement queryDslStyle v ++ [""] ++ createRecord v := by
  intro v
  obtain ⟨first, hfirst, hfirstText⟩ := modelSource_eq_ok hinterpolated
  obtain ⟨second, hsecond, hsecondText⟩ := modelSource_eq_ok hqueried
  obtain ⟨m, hm, -, hbody⟩ := exists_method?_create hfirst
  obtain ⟨other, hother, -, hotherBody⟩ := exists_method?_create hsecond
  refine ⟨first, second, ⟨hfirst, hfirstText⟩, ⟨hsecond, hsecondText⟩, ?_, ?_, ?_, ?_,
    m, other, hm, hother, hbody, hotherBody⟩
  · exact outline_eq_of_modelOf hfirst hsecond
  · rw [methods_of_modelOf hfirst, map_operation_methods]
  · rw [methods_of_modelOf hsecond, map_operation_methods]
  · obtain ⟨batch, hbatch⟩ : ∃ batch, first.methods[7]? = some batch := by
      rw [methods_of_modelOf hfirst]
      exact ⟨_, rfl⟩
    have hsame : second.methods[7]? = first.methods[7]? := by
      rw [methods_of_modelOf hfirst, methods_of_modelOf hsecond]
      rfl
    exact ⟨batch, method?_of_getElem? hfirst hbatch rfl,
      method?_of_getElem? hsecond (hsame.trans hbatch) rfl⟩

/-- Both models of a table are there, the interpolated one included. -/
theorem styles_share_api_of_members :
    ∃ interpolated queried, ∃ first second : ModelSource,
      modelSource { Settings.default with template := .interpolation } Sample.members none =
        .ok interpolated ∧
      modelSource { Settings.default with template := .queryDsl } Sample.members none =
        .ok queried ∧
      interpolated = render "\n" first.lines ∧ queried = render "\n" second.lines ∧
      first.outline = second.outline := by
  obtain ⟨interpolated, hinterpolated⟩ : ∃ interpolated,
      modelSource { Settings.default with template := .interpolation } Sample.members none =
        .ok interpolated := ⟨_, rfl⟩
  obtain ⟨queried, hqueried⟩ : ∃ queried,
      modelSource { Settings.default with template := .queryDsl } Sample.members none =
        .ok queried := ⟨_, rfl⟩
  obtain ⟨first, second, ⟨-, hfirst⟩, ⟨-, hsecond⟩, houtline, -⟩ :=
    styles_share_api hinterpolated hqueried
  exact ⟨interpolated, queried, first, second, hinterpolated, hqueried, hfirst, hsecond, houtline⟩

end RecordMapper.Source
