import Schematic.Config.Settings
import Schematic.Drafting.Drafter
import Schematic.Json.Display
import Schematic.Json.Reader

set_option autoImplicit false

namespace Schematic

structure Endpoint where
  url : String
  timeout : Json
deriving Repr, BEq

inductive EndpointFault where
  | setting (fault : NumberFault)
  | noUrl
deriving Repr, DecidableEq

def EndpointFault.message : EndpointFault → String
  | setting fault => fault.message
  | noUrl => "Schema drafter URL is not configured (SDL_DRAFTER_URL)"

inductive EndpointReply where
  | answered (status : Int) (body : String)
  | broken (fault : TransportFault) (message : String)
deriving Repr, DecidableEq

namespace Endpoint

/-- The endpoint of the settings, unless another url or timeout is given. Slashes at the end are dropped. -/
def make (known : Except NumberFault Settings) (url : String) (timeout : Option Json) :
    Except EndpointFault Endpoint := do
  let settings ← known.mapError .setting
  let url := if url = "" then settings.drafting.url.getD "" else url
  if url = "" then throw .noUrl
  return {
    url := String.ofList (url.toList.reverse.dropWhile (· == '/')).reverse
    timeout := timeout.getD (.float settings.drafting.timeoutS) }

def request (endpoint : Endpoint) (instructions : String) (current : Option String) : Json :=
  let timeout : Json := .str endpoint.timeout.display
  .obj [("method", .str "POST"), ("url", .str endpoint.url),
    ("json", .obj [("instructions", .str instructions), ("current_schema", .optStr current)]),
    ("timeout", .obj [("connect", .str "10.0"), ("pool", timeout), ("read", timeout), ("write", timeout)])]

/-- The text in the body of an answer. Halves of surrogate pairs are kept by the decoder, and the service fails with such a
text as with a drafter that breaks down; here replacement characters are handed over for them. -/
def textOf (body : String) : Except BodyFault String :=
  let body := Json.withoutMark body.toList
  match Json.read body with
  | .error (fault, place) => .error (.notJson (Json.faultMessage body fault place))
  | .ok (.obj members) =>
      match members.lookup "text" with
      | some value =>
          match value.shownText? with
          | some text => .ok text
          | none => .error .notText
      | none => .error .noMember
  | .ok _ => .error .noObject

def failed (fault : DrafterFault) (lines : List String) : Draft where
  outcome := .error fault
  log := lines.map fun message => { logger := "infrastructure.drafter_client", level := Log.error, message }

def receive (endpoint : Endpoint) : EndpointReply → Draft
  | .broken .unreachable message =>
      failed (.transport .unreachable message)
        ["Cannot reach schema drafter at " ++ endpoint.url ++ ": " ++ message]
  | .broken .lost message => failed (.transport .lost message) []
  | .broken fault message =>
      failed (.transport fault message) ["Schema drafter timeout: " ++ endpoint.url ++ ": " ++ message]
  | .answered status body =>
      if 400 ≤ status then
        failed (.answered status)
          ["Schema drafter error " ++ toString status ++ ": " ++ String.ofList (body.toList.take 200)]
      else
        match textOf body with
        | .ok text => { outcome := .ok (some text) }
        | .error fault => failed (.noText fault) []

def drafter (endpoint : Endpoint) (reply : EndpointReply) : Drafter := fun _ _ => endpoint.receive reply

end Endpoint

end Schematic
