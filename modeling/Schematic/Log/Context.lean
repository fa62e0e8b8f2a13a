import Schematic.Json.Display
import Schematic.Log.Level

set_option autoImplicit false

namespace Schematic

def Json.isVoid : Json → Bool
  | .null => true
  | .bool value => !value
  | .int value => value == 0
  | .float (.finite _ mantissa _) => mantissa == 0
  | .float _ => false
  | .str text => text == ""
  | .loose glyphs => glyphs.isEmpty
  | .arr items => items.isEmpty
  | .obj members => members.isEmpty

inductive Component where
  | api | service | repository | sdl
deriving Repr, DecidableEq

def Component.all : List Component := [.api, .service, .repository, .sdl]

def Component.text : Component → String
  | .api => "api"
  | .service => "service"
  | .repository => "repository"
  | .sdl => "sdl"

def Component.ofText? (text : String) : Option Component := Component.all.find? (·.text = text)

structure LogEntry where
  logger : String
  level : Int
  message : String
  data : Option Json := none
deriving Repr, BEq

structure LogContext where
  dataModelId : Json := .null
  principalId : Json := .null
  correlationId : Json := .null
  component : Json := .null
  operation : Json := .null
  extra : List (String × Json) := []
deriving Repr, Inhabited

namespace LogContext

/-- Sets one field; none where there is no such field. Further members are added to those there are. -/
def set? (context : LogContext) (field : String) (value : Json) : Option LogContext :=
  match field with
  | "data_model_id" => some { context with dataModelId := value }
  | "principal_id" => some { context with principalId := value }
  | "correlation_id" => some { context with correlationId := value }
  | "component" => some { context with component := value }
  | "operation" => some { context with operation := value }
  | "extra" =>
      match value with
      | .obj members => some { context with extra := Json.mergeMembers context.extra members }
      | value => if value.isVoid then some context else none
  | _ => none

def layer? (context : LogContext) (fields : List (String × Json)) : Option LogContext :=
  fields.foldlM (fun context field => context.set? field.1 field.2) context

def members (context : LogContext) : List (String × Json) :=
  let fields :=
    [("data_model_id", context.dataModelId), ("principal_id", context.principalId),
      ("correlation_id", context.correlationId), ("component", context.component),
      ("operation", context.operation)]
  Json.mergeMembers (fields.filter (·.2 != .null)) context.extra

def isSaid (value : Json) : Bool := value != .null && value != .str ""

/-- What an entry carries: the members given with it, then the context, whose values win, and the component
if nothing else names one. -/
def data (context : LogContext) (component : Option Component) (given : List (String × Json)) :
    List (String × Json) :=
  let members := Json.mergeMembers given context.members
  match component with
  | some component =>
      if members.any (·.1 = "component") then members else members ++ [("component", .str component.text)]
  | none => members

def entry (context : LogContext) (logger : String) (level : Int) (message : String) : LogEntry :=
  { logger, level, message, data := some (.obj (context.data none [])) }

def checkpoint (context : LogContext) (name : String) (data : Json) : LogEntry :=
  let known :=
    [("data_model_id", context.dataModelId), ("principal_id", context.principalId),
      ("correlation_id", context.correlationId)].filter (isSaid ·.2)
  { logger := "checkpoint"
    level := Log.info
    message := "CHECKPOINT: " ++ name
    data := some (.obj (("checkpoint", .str name) :: known ++ if data.isVoid then [] else [("data", data)])) }

end LogContext

end Schematic
