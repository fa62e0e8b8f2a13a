import Schematic.Drafting.Drafter
import Schematic.Service.Saving
import Schematic.Store.Repositories

set_option autoImplicit false

namespace Schematic

namespace Service

open Schematic.Action

def consult (drafter : Drafter) (instructions : String) (current : Option String) : Action (Option String) := do
  modify fun world => { world with asked := (instructions, current) :: world.asked }
  let draft := drafter instructions current
  draft.log.forM Action.note
  match draft.outcome with
  | .ok text => return text
  | .error fault => throw (.drafter fault)

/-- Asks for a schema text and reads it; nothing is stored. No text counts as an empty one. -/
def draftSchema (known : Except NumberFault Settings) (drafter : Drafter) (instructions : String)
    (current : Option String) : Action (String × Schema) := do
  let text := (← consult drafter instructions current).getD ""
  let schema := validate (← settings known) text
  note {} Log.info
    ("Drafted schema: " ++ toString schema.entities.length ++ " entities, " ++ toString schema.errors.length ++
      " errors")
  return (text, schema)

def recordMessage (id : Int) (sender : Sender) (content : String) (schemaText : Option String) : Action Unit :=
  discard (persisting .addMessage (Messages.add { dataModelId := id, sender, content, schemaText }))

/-- Has a new schema drafted from the stored one and saves it. The instructions and what became of them are
kept as messages. -/
def applyDraft (known : Except NumberFault Settings) (id : Int) (drafter : Drafter) (instructions : String)
    (principal : Option String) : Action Saved := do
  let (current, _) ← getSchema known id principal
  recordMessage id .user instructions none
  let drafting := draftSchema known drafter instructions (if current = "" then none else some current)
  let (text, schema) ← tryCatch drafting fun failure => do
    note {} Log.error ("Schema drafter failed for data model " ++ toString id ++ ": " ++ failure.message)
    recordMessage id .ai ("Draft failed: " ++ failure.message) none
    throw (.undrafted failure)
  if !schema.isValid then
    recordMessage id .ai ("Draft rejected: " ++ toString schema.errors.length ++ " errors") (some text)
    throw (.invalid true schema.errors)
  let saved ← tryCatch (replaceSchema known id text principal) fun failure => do
    if failure.isService then recordMessage id .ai "Draft could not be saved" (some text)
    throw failure
  let count (records : Nat) : String := toString records
  recordMessage id .ai
    ("Draft applied: " ++ count saved.projection.entities.length ++ " entities, " ++
      count saved.projection.relations.length ++ " relations") (some text)
  return saved

def chatHistory (known : Except NumberFault Settings) (id : Int) (principal : Option String) :
    Action (List ChatMessage) := do
  discard (getModel id principal)
  let settings ← settings known
  persisting .listMessages (Messages.list id settings.drafting.historyLimit)

end Service

end Schematic
