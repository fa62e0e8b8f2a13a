import Schematic.Record.Moment

set_option autoImplicit false

namespace Schematic

inductive Sender where
  | user | ai
deriving Repr, DecidableEq

def Sender.all : List Sender := [.user, .ai]

def Sender.text : Sender → String
  | .user => "user"
  | .ai => "ai"

def Sender.ofText? (text : String) : Option Sender := Sender.all.find? (·.text = text)

structure ChatMessage where
  id : Option Int := none
  dataModelId : Int
  sender : Sender
  content : String
  schemaText : Option String := none
  createdAt : Moment := .clock
deriving Repr, DecidableEq

namespace ChatMessage

def read (members : List (String × Json)) : Checked ChatMessage :=
  ChatMessage.mk <$> defaulted members "id" (.optional .int) none
    <*> required members "data_model_id" .int
    <*> required members "sender" (.word Sender.ofText?)
    <*> required members "content" (.text none)
    <*> defaulted members "schema_text" (.optional (.text none)) none
    <*> defaulted members "created_at" .moment .clock

def json (message : ChatMessage) : Json :=
  .obj [("id", .ofOption .int message.id), ("data_model_id", .int message.dataModelId),
    ("sender", .str message.sender.text), ("content", .str message.content),
    ("schema_text", .optStr message.schemaText)]

def summary (message : ChatMessage) : Json :=
  .obj <|
    [("id", .ofOption .int message.id), ("sender", .str message.sender.text), ("content", .str message.content),
      ("schema_text", .optStr message.schemaText)] ++
    match message.createdAt with
    | .clock => []
    | .given time => [("created_at", .str time.render)]

end ChatMessage

end Schematic
