import LeastGrant.Diagnostic

/-! Notes on the progress of a run, in the order in which things happen. Each note has a level, a
name and fields. -/
namespace LeastGrant

/-- How important a note is. -/
inductive Level where
  | debug
  | info
  | warning
  | error
  | critical
  deriving DecidableEq, Repr

namespace Level

def name : Level → String
  | debug => "debug"
  | info => "info"
  | warning => "warning"
  | error => "error"
  | critical => "critical"

def rank : Level → Nat
  | debug => 10
  | info => 20
  | warning => 30
  | error => 40
  | critical => 50

/-- Upper case as far as it can spell the name of a level: the ASCII letters, and the dotless i. -/
def upperLetter (c : Char) : Char := if c == 'ı' then 'I' else c.toUpper

/-- The level that a text names; any other text stands for warnings. -/
def ofText (text : String) : Level :=
  match String.ofList (text.toList.map upperLetter) with
  | "DEBUG" => debug
  | "INFO" => info
  | "ERROR" => error
  | "CRITICAL" => critical
  | _ => warning

end Level

/-- Something that happened in a run. -/
inductive Note where
  | diagnosed (diagnostic : Diagnostic)
  | typeAliasUnsupported (symbol location : String)
  | joinEntityInferred (entity source : String) (target : Json)
  | modelExtracted (model : String) (table : Json) (location : String)
  | analysisComplete (models diagnostics : Nat)
  | projectLoaded (config : String) (files : Nat)
  | registryEmpty (project : String)
  | storeSaved (path : String) (models : Nat)
  | grantsGenerated (account : String) (statements : Nat)
  | statementApplied (statement : String)
  | grantsApplied (url : String) (statements : Nat)

namespace Note

def level : Note → Level
  | diagnosed d => if d.problem.kind.mayUnderGrant then .error else .warning
  | registryEmpty _ => .warning
  | analysisComplete .. | projectLoaded .. | storeSaved .. | grantsApplied .. => .info
  | typeAliasUnsupported .. | joinEntityInferred .. | modelExtracted .. | grantsGenerated ..
  | statementApplied _ => .debug

def name : Note → String
  | diagnosed d => d.problem.kind.name
  | typeAliasUnsupported .. => "type_alias_unsupported"
  | joinEntityInferred .. => "join_entity_inferred"
  | modelExtracted .. => "model_extracted"
  | analysisComplete .. => "analysis_complete"
  | projectLoaded .. => "project_loaded"
  | registryEmpty _ => "registry_empty"
  | storeSaved .. => "store_saved"
  | grantsGenerated .. => "grants_generated"
  | statementApplied _ => "statement_applied"
  | grantsApplied .. => "grants_applied"

/-- A text that may be missing. -/
def optional : Option String → Json
  | some text => .str text
  | none => .null

def fields : Note → Json.Fields
  | diagnosed d =>
    [("message", .str d.problem.message), ("expression", optional d.expression),
      ("type", optional d.problem.typeText?), ("location", optional d.location)]
  | typeAliasUnsupported symbol location => [("symbol", .str symbol), ("location", .str location)]
  | joinEntityInferred entity source target =>
    [("entity", .str entity), ("source", .str source), ("target", target)]
  | modelExtracted model table location =>
    [("model", .str model), ("table", table), ("location", .str location)]
  | analysisComplete models diagnostics =>
    [("models", .int models), ("diagnostics", .int diagnostics)]
  | projectLoaded config files => [("config", .str config), ("files", .int files)]
  | registryEmpty project => [("project", .str project)]
  | storeSaved path models => [("path", .str path), ("models", .int models)]
  | grantsGenerated account statements =>
    [("account", .str account), ("statements", .int statements)]
  | statementApplied statement => [("statement", .str statement)]
  | grantsApplied url statements => [("url", .str url), ("statements", .int statements)]

def diagnostic? : Note → Option Diagnostic
  | diagnosed d => some d
  | _ => none

/-- The diagnostics among some notes. -/
def diagnostics (notes : List Note) : List Diagnostic := notes.filterMap diagnostic?

theorem diagnostics_append (a b : List Note) :
    diagnostics (a ++ b) = diagnostics a ++ diagnostics b := by
  simp [diagnostics]

/-- The note as an object: its name, its level under the key `levelKey`, and its fields. -/
def toJson (levelKey : String) (note : Note) : Json :=
  .obj (("event", .str note.name) :: (levelKey, .str note.level.name) :: note.fields)

end Note

end LeastGrant
