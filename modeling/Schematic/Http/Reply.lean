import Schematic.Graph.Summary
import Schematic.Store.Failure

set_option autoImplicit false

namespace Schematic.Http

inductive Body where
  | json (value : Json)
  | text (value : String)
  /-- What is wrong with a request. -/
  | complaints (complaints : List Complaint)
deriving Repr

structure Reply where
  status : Nat
  body : Body
deriving Repr

structure Rejection where
  status : Nat
  detail : Json
deriving Repr, BEq

def Rejection.reply (rejection : Rejection) : Reply :=
  ⟨rejection.status, .json (.obj [("detail", rejection.detail)])⟩

inductive FailureKind where
  | unauthenticated | notFound | forbidden | invalid | unpersisted | undrafted | other
deriving Repr, DecidableEq

def rejection (kind : FailureKind) (message : String) (details : List Json) : Rejection :=
  match kind with
  | .unauthenticated => ⟨401, .str message⟩
  | .notFound => ⟨404, .str message⟩
  | .forbidden => ⟨403, .str message⟩
  | .invalid => ⟨400, .obj [("message", .str message), ("details", .arr details)]⟩
  | .unpersisted => ⟨500, .str message⟩
  | .undrafted => ⟨502, .str message⟩
  | .other => ⟨500, .str "Schema service error"⟩

end Schematic.Http

namespace Schematic.Failure

def kind? : Failure → Option Http.FailureKind
  | unauthenticated => some .unauthenticated
  | notFound _ => some .notFound
  | forbidden _ => some .forbidden
  | invalid _ _ => some .invalid
  | unpersisted _ _ | unsaved _ _ => some .unpersisted
  | undrafted _ => some .undrafted
  | _ => none

def details : Failure → List Json
  | invalid _ errors => errors.map Diagnostic.json
  | _ => []

def rejection? (failure : Failure) : Option Http.Rejection :=
  failure.kind?.map fun kind => Http.rejection kind failure.message failure.details

end Schematic.Failure
