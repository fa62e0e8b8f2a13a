import Schematic.Http.Request
import Schematic.Store.Repositories

set_option autoImplicit false

namespace Schematic.Http

/-- The places that can be asked for. The number of a data model is kept as it is written. -/
inductive Route where
  | root | health | validate | format | models
  | model (id : String)
  | schema (id : String)
  | draft (id : String)
  | chat (id : String)
deriving Repr, DecidableEq

namespace Route

def ofSegments? : List String → Option Route
  | ["", ""] => some root
  | ["", "health"] => some health
  | ["", "api", "v1", "sdl", "validate"] => some validate
  | ["", "api", "v1", "sdl", "format"] => some format
  | ["", "api", "v1", "data-models"] => some models
  | ["", "api", "v1", "data-models", id] => if id = "" then none else some (model id)
  | ["", "api", "v1", "data-models", id, "schema"] => if id = "" then none else some (schema id)
  | ["", "api", "v1", "data-models", id, "draft"] => if id = "" then none else some (draft id)
  | ["", "api", "v1", "data-models", id, "chat"] => if id = "" then none else some (chat id)
  | _ => none

def ofPath? (path : List Char) : Option Route := ofSegments? ((Text.splitOn '/' path).map String.ofList)

/-- The route of a path. Slashes at the end do not matter where there is none with them. -/
def find? (path : List Char) : Option Route :=
  match ofPath? path with
  | some route => some route
  | none =>
      if path.getLast? = some '/' then ofPath? (path.reverse.dropWhile (· == '/')).reverse else none

end Route

structure Creation where
  name : String
  version : String
  description : Wording
  dbType : DbType
deriving Repr, DecidableEq

namespace Creation

def read (members : List (String × Json)) : Checked Creation :=
  Creation.mk <$> required members "name" (.filledText (some 255))
    <*> defaulted members "version" (.text (some 64)) "1"
    <*> defaulted members "description" .wording (.text "")
    <*> defaulted members "db_type" (.word DbType.ofText?) .sql

def members (creation : Creation) : List (String × Json) :=
  [("name", .str creation.name), ("version", .str creation.version), ("description", creation.description.json),
    ("db_type", .str creation.dbType.text)]

def store (creation : Creation) : DataModel → Action DataModel :=
  match creation.description with
  | .text _ => DataModels.create
  | .loose glyphs => DataModels.refuse glyphs

end Creation

inductive Page where
  | about | health
deriving Repr, DecidableEq

inductive ServiceCall where
  | validate (wording : Wording)
  | format (wording : Wording)
  | createModel (creation : Creation)
  | listModels
  | getModel (id : Int)
  | getSchema (id : Int)
  | replaceSchema (id : Int) (wording : Wording)
  | draft (id : Int) (instructions : String)
  | chat (id : Int)
deriving Repr, DecidableEq

inductive Call where
  | page (page : Page)
  | service (call : ServiceCall)
deriving Repr, DecidableEq

def readId (written : String) : Checked Int :=
  ((Reading.int (.str written)).within (.key "data_model_id")).within (.key "path")

def readPayload {α : Type} (read : List (String × Json) → Checked α) (payload : Payload) : Checked α :=
  let checked : Checked α :=
    match payload with
    | .absent => .complain .missing
    | .value (.obj members) => read members
    | .value _ | .raw => .complain .objectType
    | .malformed place => (Checked.complain .jsonInvalid).within (.index place)
  checked.within (.key "body")

/-- Malformed content is the only complaint about a request that has it. -/
def withPayload {α β : Type} (payload : Payload) (path : Checked (α → β)) (body : Checked α) : Checked β :=
  match payload, body with
  | .malformed _, .refused complaints => .refused complaints
  | _, body => path <*> body

def readText (members : List (String × Json)) : Checked Wording := required members "text" .wording

def readInstructions (members : List (String × Json)) : Checked String :=
  required members "instructions" (.filledText none)

namespace Route

def page? : Route → String → Option Page
  | root, "GET" => some .about
  | health, "GET" => some .health
  | _, _ => none

def serviceCall? (route : Route) (method : String) (payload : Payload) : Option (Checked ServiceCall) :=
  match route, method with
  | validate, "POST" => some (ServiceCall.validate <$> readPayload readText payload)
  | format, "POST" => some (ServiceCall.format <$> readPayload readText payload)
  | models, "POST" => some (ServiceCall.createModel <$> readPayload Creation.read payload)
  | models, "GET" => some (.ok .listModels)
  | model id, "GET" => some (ServiceCall.getModel <$> readId id)
  | schema id, "GET" => some (ServiceCall.getSchema <$> readId id)
  | schema id, "PUT" =>
      some (withPayload payload (ServiceCall.replaceSchema <$> readId id) (readPayload readText payload))
  | draft id, "POST" =>
      some (withPayload payload (ServiceCall.draft <$> readId id) (readPayload readInstructions payload))
  | chat id, "GET" => some (ServiceCall.chat <$> readId id)
  | _, _ => none

/-- How a request is understood under a method; none where the method does not apply. -/
def call? (route : Route) (method : String) (payload : Payload) : Option (Checked Call) :=
  match route.page? method with
  | some page => some (.ok (.page page))
  | none => (route.serviceCall? method payload).map (Call.service <$> ·)

end Route

end Schematic.Http
