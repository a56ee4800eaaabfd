import RecordMapper.Config.Options
import RecordMapper.Config.Policy
import RecordMapper.Naming

/-!
# Settings

Every decision that shapes generated code, with its default, and how a configuration is read from
raw settings. Each setting is read by a rule of its own; a configuration with changes is the same
reading with the unchanged settings already in place.
-/
namespace RecordMapper.Config

open RecordMapper.Text

structure Settings where
  sourceDir : String
  testDir : String
  package : String
  lineBreak : LineBreak
  encoding : String
  template : SqlTemplate
  testTemplate : String
  returnCollection : ReturnCollection
  dateTimeClass : DateTimeClass
  autoConstruct : Bool
  defaultAutoSession : Bool
  abstractSpec : Bool
  className : Policy
  fieldName : Policy
  syntaxName : Policy
  syntaxVariable : Policy
  fieldType : (className fieldName : Value) → Answer
  typeOfTypeName : Policy
  sampleOfType : Value → Answer
  skipNames : List String
  baseTypes : Policy
  companionBaseTypes : Policy
  specBaseTypes : Policy
  imports : List String
  specImports : List String
  arbitraryImports : List String

/-- A setting as it comes in: data of a document, a function with what it does to names, to other
values and to pairs of values, or type overrides for pairs of class and field. -/
inductive Setting where
  | data (value : Value)
  | function (onName : Policy) (onOther : Value → Answer)
      (onPair : Value → Value → Answer := fun _ _ => .error .wrongType)
  | fieldTypes (entries : List FieldEntry)

namespace Settings

def default : Settings where
  sourceDir := "src/main/scala"
  testDir := "src/test/scala"
  package := "models"
  lineBreak := .lf
  encoding := "UTF-8"
  template := .queryDsl
  testTemplate := ""
  returnCollection := .list
  dateTimeClass := .zoned
  autoConstruct := false
  defaultAutoSession := true
  abstractSpec := false
  className := fun name => .text (Naming.className name)
  fieldName := fun name => .text (Naming.fieldName name)
  syntaxName := fun name => .text (Naming.tableAlias name)
  syntaxVariable := fun name => .text (Naming.tableAlias name)
  fieldType := fun _ _ => .ok .null
  typeOfTypeName := declining
  sampleOfType := fun _ => .ok .null
  skipNames := []
  baseTypes := sameTypes []
  companionBaseTypes := sameTypes []
  specBaseTypes := sameTypes []
  imports := []
  specImports := []
  arbitraryImports := []

/-- How one setting is read into a configuration. -/
structure Rule where
  key : String
  apply : Setting → Settings → Checked Settings

/-- The setting as data. A function is read as an empty mapping, which none of these readers
takes. -/
def Rule.ofData {α : Type} (key : String) (read : Value → Checked α)
    (set : Settings → α → Settings) : Rule where
  key
  apply
    | .data value, c => (read value).map (set c)
    | _, c => (read (.mapping [])).map (set c)

/-- How a policy is read from what is no function: from data, and from the types of overrides by
class and field. -/
structure PolicyForm where
  ofData : Value → Checked Policy
  ofFieldTypes : List Value → Checked Policy

namespace PolicyForm

/-- Only a function will do. -/
def functionOnly : PolicyForm where
  ofData _ := Checked.fault .notFunction
  ofFieldTypes _ := Checked.fault .notFunction

/-- Overrides by name. A pair of class and field is no name, so such entries override nothing. -/
def overrides : PolicyForm where
  ofData
    | .mapping fields => .ok (lookupPolicy fields)
    | _ => Checked.fault .notFunction
  ofFieldTypes _ := .ok declining

/-- Lists of types by table; entries for pairs list nothing, but have to be lists. -/
def typeLists : PolicyForm where
  ofData := typesPolicy
  ofFieldTypes types :=
    if types.all fun t => t.items?.isSome then .ok (sameTypes []) else .error .wrongType

end PolicyForm

/-- A policy that is given as a function, or in a form of its own. -/
def Rule.ofPolicy (key : String) (form : PolicyForm) (set : Settings → Policy → Settings) :
    Rule where
  key
  apply
    | .data value, c => (form.ofData value).map (set c)
    | .function onName _ _, c => .ok (set c onName)
    | .fieldTypes entries, c => (form.ofFieldTypes (entries.map FieldEntry.type)).map (set c)

/-- A function is asked about pairs; one of a single name is accepted and fails then. -/
def fieldTypeRule : Rule where
  key := "column_name_to_field_type"
  apply
    | .data (.mapping fields), c =>
      .ok { c with fieldType := typesOfFields (fieldEntries fields) }
    | .fieldTypes entries, c => .ok { c with fieldType := typesOfFields entries }
    | .function _ _ onPair, c => .ok { c with fieldType := onPair }
    | .data _, _ => Checked.fault .notFunction

def sampleRule : Rule where
  key := "field_type_to_default_value"
  apply
    | .data (.mapping fields), c => .ok { c with sampleOfType := lookupAnswer fields }
    | .fieldTypes _, c => .ok { c with sampleOfType := lookupAnswer [] }
    | .function onName onOther _, c => .ok { c with sampleOfType := fun type => match type with
        | .text name => .ok (onName name)
        | other => onOther other }
    | .data _, _ => Checked.fault .notFunction

/-- Names to skip are kept in lower case. -/
def withSkipNames (c : Settings) (names : List String) : Settings :=
  { c with skipNames := names.map lower }

/-- The rules in the order in which their faults are listed. -/
def rules : List Rule := [
  .ofData "src_dir" Value.readText fun c s => { c with sourceDir := s },
  .ofData "test_dir" Value.readText fun c s => { c with testDir := s },
  .ofData "package_name" Value.readText fun c s => { c with package := s },
  .ofData "line_break" Choice.read fun c b => { c with lineBreak := b },
  .ofData "encoding" Value.readFilledText fun c s => { c with encoding := s },
  .ofData "template" Choice.read fun c t => { c with template := t },
  .ofData "test_template" Value.readText fun c s => { c with testTemplate := s },
  .ofData "return_collection_type" Choice.read fun c r => { c with returnCollection := r },
  .ofData "date_time_class" Choice.read fun c d => { c with dateTimeClass := d },
  .ofData "auto_construct" Value.readBool fun c b => { c with autoConstruct := b },
  .ofData "default_auto_session" Value.readBool fun c b => { c with defaultAutoSession := b },
  .ofData "abstract_spec" Value.readBool fun c b => { c with abstractSpec := b },
  .ofPolicy "table_name_to_class_name" .functionOnly fun c p => { c with className := p },
  .ofPolicy "column_name_to_field_name" .functionOnly fun c p => { c with fieldName := p },
  .ofPolicy "table_name_to_syntax_name" .functionOnly fun c p => { c with syntaxName := p },
  .ofPolicy "table_name_to_syntax_variable_name" .functionOnly
    fun c p => { c with syntaxVariable := p },
  fieldTypeRule,
  .ofPolicy "column_type_to_field_type" .overrides fun c p => { c with typeOfTypeName := p },
  sampleRule,
  .ofData "table_names_to_skip" Value.readTexts withSkipNames,
  .ofPolicy "table_name_to_base_types" .typeLists fun c p => { c with baseTypes := p },
  .ofPolicy "table_name_to_companion_base_types" .typeLists
    fun c p => { c with companionBaseTypes := p },
  .ofPolicy "table_name_to_spec_base_types" .typeLists fun c p => { c with specBaseTypes := p },
  .ofData "additional_imports" Value.readTexts fun c l => { c with imports := l },
  .ofData "spec_additional_imports" Value.readTexts fun c l => { c with specImports := l },
  .ofData "arbitrary_additional_imports" Value.readTexts
    fun c l => { c with arbitraryImports := l }]

def keys : List String := rules.map Rule.key

/-- Applies rules one after another, each to its setting if there is one. The faults of all rules
are collected. -/
def applyRules (entries : List (String × Setting)) : List Rule → Settings → Checked Settings
  | [], c => .ok c
  | rule :: rest, c =>
    match entries.lookup rule.key with
    | none => applyRules entries rest c
    | some setting =>
      match Checked.within (.key rule.key) (rule.apply setting c) with
      | .ok c => applyRules entries rest c
      | .error r =>
        match applyRules entries rest c with
        | .ok _ => .error r
        | .error s => .error (r.and s)

/-- A configuration with some settings given anew. The others are checked again as well, which
lower-cases the names to skip once more. -/
def update (base : Settings) (entries : List (String × Setting)) : Checked Settings :=
  match Checked.both (applyRules entries rules (base.withSkipNames base.skipNames))
    (Value.onlyFields keys entries) with
  | .ok (c, _) => .ok c
  | .error r => .error r

/-- A configuration from settings of every kind; what is not given has its default. -/
def ofSettings (entries : List (String × Setting)) : Except Failure Settings :=
  Checked.result .config (update default entries)

def dataSettings (fields : List (String × Value)) : List (String × Setting) :=
  fields.map fun (key, value) => (key, .data value)

/-- A configuration from a raw document. -/
def read : Value → Except Failure Settings
  | .mapping fields => ofSettings (dataSettings fields)
  | _ => Checked.result .config (Checked.fault .notObject)

/-- The configuration with changes. -/
def withOverrides (c : Settings) (changes : List (String × Value)) : Except Failure Settings :=
  Checked.result .config (c.update (dataSettings changes))

def eol (c : Settings) : String := c.lineBreak.text

/-- Whether a table is listed to be left out. -/
def skips (c : Settings) (table : String) : Bool := lower table ∈ c.skipNames

end Settings

end RecordMapper.Config
