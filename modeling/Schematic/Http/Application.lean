import Schematic.Http.Reply
import Schematic.Http.Route
import Schematic.Service.Drafts

set_option autoImplicit false

namespace Schematic

structure Release where
  major : Nat
  minor : Nat
  patch : Nat
  epoch : Nat
  buildDate : String
deriving Repr, DecidableEq

def Release.numbers (release : Release) : List Nat := [release.major, release.minor, release.patch]

def Release.version (release : Release) : String := ".".intercalate (release.numbers.map toString)

def release : Release := ⟨0, 1, 0, 1, "2026-10-19"⟩

namespace Http

structure Application where
  service : Option Settings := none
  drafter : Option Drafter := none

inductive Outcome where
  | replied (reply : Reply)
  | rejected (rejection : Rejection)
  | refused (complaints : List Complaint)
  | broke (failure : Failure)

/-- A refusal tells what was refused and where. It also quotes that, which is left out, and so is what becomes of a quotation
without an encoding. -/
def Outcome.reply : Outcome → Reply
  | .replied reply => reply
  | .rejected rejection => rejection.reply
  | .refused complaints => ⟨422, .complaints complaints⟩
  | .broke _ => ⟨500, .text "Internal Server Error"⟩

def answered {α : Type} (status : Nat) (encode : α → Json) (work : Action α) : StateM World Outcome := do
  match ← ExceptT.run work with
  | .ok value => return .replied ⟨status, .json (encode value)⟩
  | .error failure =>
      match failure.rejection? with
      | some rejection => return .rejected rejection
      | none => return .broke failure

def noting (id : Int) (work : Action Saved) : Action Saved :=
  tryCatch work fun failure => do
    if failure.kind? = some .unpersisted then
      Action.note
        { logger := "api.schema_routes"
          level := Log.error
          message := "Schema save failed for data model " ++ toString id ++ ": " ++ failure.message }
    throw failure

def formatOutcome (settings : Settings) (text : String) : Outcome :=
  match formatted settings text with
  | (some text, _) => .replied ⟨200, .json (.obj [("text", .str text)])⟩
  | (none, schema) => .rejected (rejection .invalid "Schema is invalid" (schema.errors.map Diagnostic.json))

/-- What becomes of a text that is only looked at. Its size is taken first, and that needs an encoding. -/
def inspected (wording : Wording) (inspect : String → Outcome) : Outcome :=
  match wording with
  | .text text => inspect text
  | .loose glyphs => .broke (.unencodable glyphs)

def listing (models : List DataModel) : Json :=
  .obj [("data_models", .arr (models.map DataModel.json)), ("count", .nat models.length)]

def schemaJson (id : Int) (text : String) (projection : Projection) : Json :=
  .obj <|
    [("data_model_id", .int id), ("text", .str text)] ++
    projection.json.members.filter fun member => member.1 ≠ "data_model_id"

def conversation (id : Int) (messages : List ChatMessage) : Json :=
  .obj [("data_model_id", .int id), ("messages", .arr (messages.map ChatMessage.summary)),
    ("count", .nat messages.length)]

def Page.json : Page → Json
  | .about =>
      .obj [("service", .str "SDL Engine"), ("version", .str release.version), ("epoch", .nat release.epoch),
        ("build_date", .str release.buildDate), ("status", .str "running"), ("docs", .str "/docs")]
  | .health => .obj [("status", .str "ok"), ("version", .str release.version)]

def perform (settings : Settings) (drafter : Option Drafter) (principal : Option String) :
    ServiceCall → StateM World Outcome
  | .validate wording => return inspected wording fun text => .replied ⟨200, .json (validate settings text).summary⟩
  | .format wording => return inspected wording (formatOutcome settings)
  | .createModel creation =>
      answered 201 DataModel.json (Service.createModel principal creation.members creation.store)
  | .listModels => answered 200 listing (Service.listModels principal)
  | .getModel id => answered 200 DataModel.json (Service.getModel id principal)
  | .getSchema id =>
      answered 200 (fun found => schemaJson id found.1 found.2) (Service.getSchema (.ok settings) id principal)
  | .replaceSchema id wording =>
      answered 200 Saved.json (noting id (Service.replaceWith (.ok settings) id wording principal))
  | .draft id instructions =>
      match drafter with
      | none => return .rejected ⟨503, .str "Schema drafter not configured"⟩
      | some drafter => answered 200 Saved.json (Service.applyDraft (.ok settings) id drafter instructions principal)
  | .chat id => answered 200 (conversation id) (Service.chatHistory (.ok settings) id principal)

def handle (application : Application) (principal : Option String) : Call → StateM World Outcome
  | .page page => return .replied ⟨200, .json page.json⟩
  | .service call =>
      match application.service with
      | none => return .rejected ⟨503, .str "Schema service not initialized"⟩
      | some settings => perform settings application.drafter principal call

def dispatch (application : Application) (request : Request) : StateM World Outcome :=
  match Route.find? request.path with
  | none => return .rejected ⟨404, .str "Not Found"⟩
  | some route =>
      match route.call? request.method request.payload with
      | none => return .rejected ⟨405, .str "Method Not Allowed"⟩
      | some (.refused complaints) => return .refused complaints
      | some (.ok call) => handle application request.principal? call

def sharedMethods : List String := ["DELETE", "GET", "HEAD", "OPTIONS", "PATCH", "POST", "PUT"]

def permission? (request : Request) : Option Reply :=
  if request.method = "OPTIONS" ∧ (request.header? "origin").isSome then
    (request.header? "access-control-request-method").map fun method =>
      if sharedMethods.contains method then ⟨200, .text "OK"⟩ else ⟨400, .text "Disallowed CORS method"⟩
  else none

/-- Answers a request. Who asks only for the head gets no content. -/
def respond (application : Application) (request : Request) : StateM World Reply := do
  let reply ←
    match permission? request with
    | some reply => pure reply
    | none => do pure (← dispatch application request).reply
  return if request.method = "HEAD" then { reply with body := .text "" } else reply

end Http

end Schematic
