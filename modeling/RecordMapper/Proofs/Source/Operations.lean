import RecordMapper.Proofs.Source.Parts

/-!
# Operations of a companion

The name of an operation is read off the signature of its method. Every companion has the same
operations in the same order, whatever the table, the configuration and the style of statements are,
so a method may be looked up by its name. The parameters of `find` and `create` follow from the key
and from the inserted columns.
-/
namespace RecordMapper.Source

open RecordMapper.Config RecordMapper.Schema RecordMapper.Text RecordMapper.View

/-- A name ends where its parameters or its type parameters begin. -/
def endsName (c : Char) : Bool := c = '(' || c = '['

/-- The operation that a signature declares. -/
def operationOf (signature : String) : String :=
  String.ofList ((signature.toList.drop "def ".toList.length).takeWhile fun c => !endsName c)

def Method.operation (m : Method) : String := operationOf m.signature

/-- The operations of a companion in their order. -/
def operations : List String := [
  "find", "findAll", "countAll", "findBy", "findAllBy", "countBy", "create", "batchInsert", "save",
  "destroy"]

/-- The method of a model for an operation. -/
def ModelSource.method? (model : ModelSource) (operation : String) : Option Method :=
  model.methods.find? fun m => m.operation = operation

/-- A parameter of an operation, which may have a default. -/
structure Parameter where
  name : String
  type : String
  default? : Option String

namespace Parameter

def text (p : Parameter) : String :=
  p.name ++ ": " ++ p.type ++ (p.default?.elim "" fun default => " = " ++ default)

def isRequired (p : Parameter) : Bool := p.default?.isNone

end Parameter

/-- The method declares an operation with just these parameters before its session. -/
def Method.Takes (m : Method) (operation : String) (parameters : List Parameter) : Prop :=
  ∃ rest, m.signature =
    "def " ++ operation ++ "(" ++ join ", " (parameters.map Parameter.text) ++ ")(" ++ rest

/-- The key is looked up by all of its fields. -/
def findParameters (v : TableView) : List Parameter :=
  v.key.map fun c => ⟨c.fieldName, c.fieldType, none⟩

/-- A record is made of the inserted fields, of which the nullable ones may be left out. -/
def createParameters (v : TableView) : List Parameter :=
  v.insert.map fun c => ⟨c.fieldName, c.fieldType, if c.isNotNull then none else some "None"⟩

section Methods

theorem map_operation_methods (config : Settings) (style : Style) (v : TableView) :
    (methods config style v).map Method.operation = operations := by
  unfold methods operations
  simp only [List.map_cons, List.map_nil, Method.operation]
  -- Only the containers differ in what stands right after a name.
  cases config.returnCollection <;>
    simp [operationOf, endsName, CollectionShape.of, CollectionShape.factoryType]

theorem find?_of_nodup_map {α : Type} {f : α → String} {items : List α} (h : (items.map f).Nodup)
    {item : α} (hitem : item ∈ items) :
    (items.find? fun other => f other = f item) = some item := by
  obtain ⟨found, hfound⟩ : ∃ found, (items.find? fun other => f other = f item) = some found := by
    rw [← Option.isSome_iff_exists, List.find?_isSome]
    exact ⟨item, hitem, decide_eq_true rfl⟩
  have hsame : f found = f item := by simpa using List.find?_some hfound
  rw [hfound, List.inj_on_of_nodup_map h (List.mem_of_find?_eq_some hfound) hitem hsame]

variable {config : Settings} {v : TableView} {model : ModelSource}

theorem methods_of_modelOf (h : modelOf config v = .ok model) :
    model.methods = methods config (Style.of config.template) v := by
  obtain ⟨classClause, companionClause, -, -, rfl⟩ := modelOf_eq_ok h
  rfl

/-- No two methods of a model are of one operation, so each is found at its place. -/
theorem method?_of_getElem? {i : Nat} {m : Method} {operation : String}
    (h : modelOf config v = .ok model) (hm : model.methods[i]? = some m)
    (hoperation : operations[i]? = some operation) : model.method? operation = some m := by
  have hnames : model.methods.map Method.operation = operations := by
    rw [methods_of_modelOf h, map_operation_methods]
  have hnodup : (model.methods.map Method.operation).Nodup := by
    rw [hnames]
    decide
  rw [← hnames, List.getElem?_map, hm, Option.map_some, Option.some_inj] at hoperation
  rw [← hoperation]
  exact find?_of_nodup_map hnodup (List.mem_of_getElem? hm)

theorem text_findParameters (v : TableView) :
    (findParameters v).map Parameter.text = v.key.map ColumnView.typed := by
  rw [findParameters, List.map_map]
  refine List.map_congr_left fun c _ => ?_
  exact String.append_empty

theorem text_createParameters (v : TableView) :
    (createParameters v).map Parameter.text = v.insert.map ColumnView.parameter := by
  rw [createParameters, List.map_map]
  refine List.map_congr_left fun c _ => ?_
  rw [Function.comp_apply, Parameter.text, ColumnView.parameter, ColumnView.typed]
  cases c.isNotNull <;> rfl

theorem exists_method?_find (h : modelOf config v = .ok model) :
    ∃ m, model.method? "find" = some m ∧ m.Takes "find" (findParameters v) := by
  have hm : model.methods[0]? = some
      ⟨"def find(" ++ join ", " (v.key.map ColumnView.typed) ++ ")" ++
        ("(" ++ sessionParameter config "" ++ ")") ++ ": Option[" ++ v.className ++ "]",
        (Style.of config.template).find v⟩ := by
    rw [methods_of_modelOf h]
    rfl
  refine ⟨_, method?_of_getElem? h hm rfl,
    sessionParameter config "" ++ "): Option[" ++ v.className ++ "]", ?_⟩
  apply String.toList_injective
  simp [text_findParameters]

/-- In any style `create` takes the inserted fields. -/
theorem exists_methods_create (config : Settings) (style : Style) (v : TableView) :
    ∃ m, (methods config style v)[6]? = some m ∧ m.Takes "create" (createParameters v) ∧
      m.body = createBody style v := by
  refine ⟨⟨"def create(" ++ join ", " (v.insert.map ColumnView.parameter) ++ ")" ++
      ("(" ++ sessionParameter config "" ++ ")") ++ ": " ++ v.className, createBody style v⟩, rfl,
    ⟨sessionParameter config "" ++ "): " ++ v.className, ?_⟩, rfl⟩
  apply String.toList_injective
  simp [text_createParameters]

theorem exists_method?_create (h : modelOf config v = .ok model) :
    ∃ m, model.method? "create" = some m ∧ m.Takes "create" (createParameters v) ∧
      m.body = createBody (Style.of config.template) v := by
  obtain ⟨m, hm, htakes⟩ := exists_methods_create config (Style.of config.template) v
  rw [← methods_of_modelOf h] at hm
  exact ⟨m, method?_of_getElem? h hm rfl, htakes⟩

end Methods

namespace Sample

/-- A table with a generated key, a required column and an optional one. -/
def members : Table where
  name := "member"
  columns := [⟨"id", -5, "BIGINT", 0, true, true, false⟩,
    ⟨"name", 12, "VARCHAR", 30, true, false, false⟩, ⟨"born", 91, "DATE", 0, false, false, false⟩]
  autoIncrement := [⟨"id", -5, "BIGINT", 0, true, true, false⟩]
  primaryKey := [⟨"id", -5, "BIGINT", 0, true, true, false⟩]
  generated := []
  schema := none
  autoIncrement_declared := by decide
  primaryKey_declared := by decide
  generated_declared := by decide

end Sample

end RecordMapper.Source
