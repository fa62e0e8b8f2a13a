import Schematic.Store.Repositories

set_option autoImplicit false

namespace Schematic.Service

open Schematic.Action

def logger : String := "services.schema_service"

def note (context : LogContext) (level : Int) (message : String) : Action Unit :=
  Action.note (context.entry logger level message)

def acting : Option String → Action String
  | none => throw .unauthenticated
  | some name => if name = "" then throw .unauthenticated else return name

def owned (model : Option DataModel) (id : Int) (principal : String) : Action DataModel :=
  match model with
  | none => throw (.notFound id)
  | some model => if model.isOwnedBy (some principal) then return model else throw (.forbidden id)

/-- A call of the store whose failures are logged and told as its task. -/
def persisting {α : Type} (task : Task) (work : Action α) : Action α :=
  tryCatch work fun failure => do
    if failure.isService then throw failure
    note {} Log.error (task.text ++ " failed: " ++ failure.message)
    throw (.unpersisted task failure)

def createModel (principal : Option String) (given : List (String × Json))
    (store : DataModel → Action DataModel := DataModels.create) : Action DataModel := do
  let owner ← acting principal
  let model ← checked .dataModels (DataModel.read (given ++ [("owner_id", .str owner)]))
  persisting .createModel (store model)

def getModel (id : Int) (principal : Option String) : Action DataModel := do
  let principal ← acting principal
  let model ← persisting .getModel (DataModels.get id)
  owned model id principal

def listModels (principal : Option String) : Action (List DataModel) := do
  let principal ← acting principal
  persisting .listModels (DataModels.list principal 100)

end Schematic.Service
