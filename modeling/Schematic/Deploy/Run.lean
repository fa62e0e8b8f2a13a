import Schematic.Config.Connection
import Schematic.Deploy.Server
import Schematic.Deploy.Step
import Schematic.Json.Display

set_option autoImplicit false

namespace Schematic.Deploy

structure Target where
  host : String
  database : String
  schema : String
  connection : String
deriving Repr, DecidableEq

/-- The environment names the server. The schema and the connection may be given; an empty schema is none. -/
def Target.ofEnvironment (known : Except NumberFault Settings) (environment : Environment) (schema : String)
    (connection : Option String) : Except NumberFault Target := do
  let schema ← if schema = "" then known.map (·.store.schemaName) else pure schema
  return {
    schema
    host := environment.get "POSTGRES_HOST" "localhost"
    database := environment.get "POSTGRES_DB" "postgres"
    connection := connection.getD (connectionString environment) }

abbrev Script := Except String (List Statement.Pieces)

def storeScript (schema : String) : Script := (Ddl.setupStatements schema).mapError (·.message)

structure Deployment where
  target : Target
  steps : List StepReport
  errors : List String := []
  warnings : List String := []

namespace Deployment

def success (deployment : Deployment) : Bool := deployment.errors.isEmpty

def tally (deployment : Deployment) : Tally := .ofSteps deployment.steps

def json (deployment : Deployment) : Json :=
  .obj [("database_host", .str deployment.target.host), ("database_name", .str deployment.target.database),
    ("success", .bool deployment.success), ("steps", .arr (deployment.steps.map StepReport.json)),
    ("errors", .strs deployment.errors), ("warnings", .strs deployment.warnings),
    ("summary", deployment.tally.json)]

end Deployment

def logger : String := "infrastructure.database_initializer"

def cut (length : Nat) (text : String) : String := String.ofList (text.toList.take length)

/-- Runs a step and logs what became of it. Work that breaks off fails the step and nothing else. -/
def perform (name : String) (work : Work StepReport) : StateM Progress StepReport := do
  let report ←
    match ← work.run with
    | .ok report => pure report
    | .error message => do
        note logger Log.error ("Step " ++ name ++ " failed: " ++ message)
        pure (StepReport.fail { name } message (name ++ " failed: " ++ message))
  note logger Log.info ("   " ++ name ++ ": " ++ report.status.text ++ " - " ++ report.message)
  return report

def testConnection (server : Server) (target : Target) : StateM Progress StepReport :=
  perform "test_connection" do
    server.connect target.connection
    see .committed
    return {
      name := "test_connection"
      status := .success
      message := "Connected to " ++ server.database
      details := .obj [("version", .str (cut 50 server.version)), ("database", .str server.database)] }

def generated (target : Target) (script : Script) : Work (List Statement.Pieces) := do
  match script with
  | .error message => throw message
  | .ok statements => do
      note "core.schema.sql_generator" Log.info
        ("Generated " ++ toString statements.length ++ " DDL statements for schema " ++ target.schema)
      return statements

def preview (statement : Statement.Pieces) (number : Nat) : Work Unit :=
  match Ddl.render statement with
  | .ok text => note logger Log.info ("   [" ++ toString number ++ "] " ++ cut 100 text)
  | .error fault => throw fault.message

def rehearse (target : Target) (script : Script) : StateM Progress StepReport :=
  perform "deploy_schema" do
    let statements ← generated target script
    statements.zipIdx.forM fun (statement, position) => preview statement (position + 1)
    return {
      name := "deploy_schema"
      status := .success
      message := "[DRY RUN] Would execute " ++ toString statements.length ++ " statements"
      details := .obj [("statements_count", .nat statements.length)] }

def deploySchema (server : Server) (target : Target) (script : Script) : StateM Progress StepReport :=
  perform "deploy_schema" do
    let statements ← generated target script
    let complaint ← server.execute target.connection statements
    let report (executed : Nat) : StepReport :=
      { name := "deploy_schema"
        status := .success
        message := "Deployed " ++ toString executed ++ " statements"
        details := .obj [("statements_executed", .nat executed),
          ("statements_skipped", .nat (statements.length - executed)), ("schema", .str target.schema)] }
    match complaint with
    | none => return report statements.length
    | some complaint => return (report 0).fail complaint "Rolled back after 0 statements"

def verifyTables (server : Server) (target : Target) : StateM Progress StepReport :=
  perform "verify_tables" do
    let existing ← server.tablesIn target.connection target.schema
    let missing := Ddl.storeTables.filter fun table => !existing.contains table
    let report : StepReport :=
      { name := "verify_tables"
        status := .success
        message := "All " ++ toString Ddl.storeTables.length ++ " expected tables exist"
        details := .obj [("expected", .strs Ddl.storeTables), ("existing", .strs existing),
          ("missing", .strs missing)] }
    if missing.isEmpty then return report
    return report.fail ("Missing tables: " ++ (Json.strs missing).display)
      (toString missing.length ++ " tables missing")

def trouble (label : String) (report : StepReport) : List String :=
  if report.status = .failed then [label ++ ": " ++ report.error.getD ""] else []

def announce (target : Target) (dryRun : Bool) : StateM Progress Unit :=
  note logger Log.info
    ("Initializing " ++ target.host ++ "/" ++ target.database ++ " schema " ++ target.schema ++ " (" ++
      (if dryRun then "DRY RUN" else "EXECUTE") ++ ")")

def concluded (deployment : Deployment) : StateM Progress Deployment := do
  note logger Log.info
    ("Initialization " ++ (if deployment.success then "complete" else "FAILED") ++ ": " ++
      toString deployment.tally.successful ++ " succeeded, " ++ toString deployment.tally.failed ++ " failed")
  return deployment

/-- Sets up the store, or only logs what would be run. Without a connection nothing is tried; missing tables
are a warning, since the statements themselves went through. -/
def install (server : Server) (target : Target) (script : Script) (dryRun : Bool) :
    StateM Progress Deployment := do
  announce target dryRun
  if dryRun then
    let deployed ← rehearse target script
    concluded { target, steps := [deployed], errors := trouble "Schema deployment failed" deployed }
  else
    let tested ← testConnection server target
    if tested.status = .failed then
      return { target, steps := [tested], errors := trouble "Connection failed" tested }
    let deployed ← deploySchema server target script
    let verified ← verifyTables server target
    concluded
      { target
        steps := [tested, deployed, verified]
        errors := trouble "Schema deployment failed" deployed
        warnings := trouble "Verification issue" verified }

end Schematic.Deploy
