import Schematic.Config.Settings
import Schematic.Drafting.Drafter
import Schematic.Graph.Schema
import Schematic.Record.Check

set_option autoImplicit false

namespace Schematic

inductive TableName where
  | dataModels | entities | fields | relations | messages
deriving Repr, DecidableEq

namespace TableName

def all : List TableName := [dataModels, entities, fields, relations, messages]

def text : TableName → String
  | dataModels => "data_models"
  | entities => "model_entities"
  | fields => "model_fields"
  | relations => "model_relations"
  | messages => "chat_messages"

def record : TableName → String
  | dataModels => "DataModel"
  | entities => "ModelEntity"
  | fields => "ModelField"
  | relations => "ModelRelation"
  | messages => "ChatMessage"

def ofText? (text : String) : Option TableName := all.find? (·.text = text)

end TableName

inductive Task where
  | createModel | getModel | listModels | loadSchema | listMessages | addMessage
deriving Repr, DecidableEq

def Task.text : Task → String
  | .createModel => "data model create"
  | .getModel => "data model get"
  | .listModels => "data model list"
  | .loadSchema => "schema load"
  | .listMessages => "chat history"
  | .addMessage => "chat message insert"

inductive Failure where
  | unauthenticated
  | notFound (dataModelId : Int)
  | forbidden (dataModelId : Int)
  | invalid (drafted : Bool) (errors : List Diagnostic)
  | unpersisted (task : Task) (cause : Failure)
  | unsaved (dataModelId : Int) (cause : Failure)
  | undrafted (cause : Failure)
  | operation (name : String) (subject : Option String) (cause : Failure)
  | storage (kind message : String)
  | refused (table : TableName) (complaints : List Complaint)
  | missingColumn (column : String)
  | unrenderable (value : String)
  | setting (fault : NumberFault)
  | drafter (fault : DrafterFault)
deriving Repr, DecidableEq

namespace Failure

/-- Failures that the service itself speaks of; all others are wrapped before they leave it. -/
def isService : Failure → Bool
  | unauthenticated | notFound _ | forbidden _ | invalid _ _ | unpersisted _ _ | unsaved _ _ | undrafted _ => true
  | _ => false

def unencodable (glyphs : List Glyph) : Failure := storage "UnicodeEncodeError" (Glyph.unencodableMessage glyphs)

def message : Failure → String
  | unauthenticated => "Authentication required"
  | notFound dataModelId => "Data model " ++ toString dataModelId ++ " not found"
  | forbidden dataModelId => "Not allowed to access data model " ++ toString dataModelId
  | invalid drafted _ => if drafted then "Drafted schema is invalid" else "Schema is invalid"
  | unpersisted task _ => task.text ++ " failed"
  | unsaved dataModelId _ => "Failed to save schema for data model " ++ toString dataModelId
  | undrafted _ => "Schema drafter failed"
  | operation name subject cause =>
      name ++ " failed" ++ (subject.map (" for " ++ ·)).getD "" ++ ": " ++ cause.message
  | storage _ message => message
  | refused table complaints =>
      toString complaints.length ++ (if complaints.length = 1 then " validation error for " else " validation errors for ") ++
        table.record
  | missingColumn column => Text.quoted column
  | unrenderable value => unrenderableMessage value
  | setting fault => fault.message
  | drafter fault => fault.message

end Failure

end Schematic
