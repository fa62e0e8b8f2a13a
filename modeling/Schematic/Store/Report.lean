import Schematic.Store.Action

set_option autoImplicit false

namespace Schematic

def Action.naming {α : Type} (logger operation : String) (subject : Option String) (work : Action α) : Action α :=
  tryCatch work fun failure => do
    match failure with
    | .operation .. => throw failure
    | _ =>
        let named := Failure.operation operation subject failure
        note { logger, level := Log.error, message := named.message }
        throw named

/-- The outcome of an operation in one line. Ids beyond sixteen characters are cut. -/
def reportText (success : Bool) (operation id : String) (details : Json) : String :=
  let short := if id.length > 16 then String.ofList (id.toList.take 16) ++ "..." else id
  operation ++ (if success then ": " else " failed: ") ++ short ++
    if details.isVoid then "" else " | " ++ details.plain

def report (logger : String) (success : Bool) (operation id : String) (details : Json) : LogEntry :=
  { logger, level := if success then Log.info else Log.warning, message := reportText success operation id details }

end Schematic
