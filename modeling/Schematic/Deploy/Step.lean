import Schematic.Json.Value

set_option autoImplicit false

namespace Schematic.Deploy

inductive Status where
  | pending | success | failed | skipped
  | other (word : String)
deriving Repr, DecidableEq

def Status.text : Status → String
  | .pending => "pending"
  | .success => "success"
  | .failed => "failed"
  | .skipped => "skipped"
  | .other word => word

def Status.ofText (text : String) : Status :=
  ([pending, success, failed, skipped].find? (·.text = text)).getD (.other text)

structure StepReport where
  name : String
  status : Status := .pending
  message : String := ""
  error : Option String := none
  details : Json := .obj []
deriving Repr, BEq

def StepReport.fail (report : StepReport) (error message : String) : StepReport :=
  { report with status := .failed, error := some error, message }

def StepReport.json (report : StepReport) : Json :=
  .obj [("name", .str report.name), ("status", .str report.status.text), ("message", .str report.message),
    ("error", .optStr report.error), ("details", report.details)]

structure Tally where
  total : Nat
  successful : Nat
  failed : Nat
  skipped : Nat
deriving Repr, DecidableEq

def Tally.ofSteps (steps : List StepReport) : Tally :=
  let count (status : Status) : Nat := (steps.filter (·.status = status)).length
  { total := steps.length, successful := count .success, failed := count .failed, skipped := count .skipped }

def Tally.json (tally : Tally) : Json :=
  .obj [("total_steps", .nat tally.total), ("successful", .nat tally.successful), ("failed", .nat tally.failed),
    ("skipped", .nat tally.skipped)]

end Schematic.Deploy
