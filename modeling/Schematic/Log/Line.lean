import Schematic.Json.Writer
import Schematic.Log.Context

set_option autoImplicit false

namespace Schematic.Log

structure Event where
  time : String
  level : Int
  logger : String
  message : String
  data : Json := .null
  /-- What was said of an error, empty where nothing was. -/
  trouble : Option String := none
  file : String
  line : Json
  function : Json

def troubleText (message : String) : String :=
  if message = "" then "RuntimeError" else "RuntimeError: " ++ message

def Event.structured (event : Event) (context : LogContext) : String :=
  let given (key : String) (present : Bool) (value : Json) : List (String × Json) :=
    if present then [(key, value)] else []
  Json.write <| .obj <|
    [("timestamp", .str event.time), ("level", .str (levelName event.level)), ("logger", .str event.logger),
      ("message", .str event.message)] ++
    given "context" (!context.members.isEmpty) (.obj context.members) ++
    given "data" (!event.data.isVoid) event.data ++
    (event.trouble.map fun trouble => ("exception", .str (troubleText trouble))).toList ++
    [("source", .obj [("file", .str event.file), ("line", event.line), ("function", event.function)])]

def tags (context : LogContext) : List String :=
  ([("model", context.dataModelId), ("principal", context.principalId), ("op", context.operation)].filter
    (LogContext.isSaid ·.2)).map fun (word, value) => word ++ "=" ++ value.plain

def padded (text : String) : String := text ++ String.ofList (List.replicate (8 - text.length) ' ')

def Event.human (event : Event) (context : LogContext) : String :=
  let shown := tags context
  event.time ++ " " ++ padded (levelName event.level) ++ " " ++ event.logger ++
    (if shown.isEmpty then "" else " [" ++ ", ".intercalate shown ++ "]") ++ ": " ++ event.message ++
    (if event.data.isVoid then "" else " " ++ event.data.plain) ++
    (match event.trouble with
    | some trouble => "\n" ++ troubleText trouble
    | none => "")

end Schematic.Log
