import Schematic.Ddl.Catalog
import Schematic.Log.Context

/- A server is what it refuses: connections, statements, commits, or a look at its catalog. The commits and rollbacks
   seen are those that a deployment asks for. Left out are the rollback that psycopg makes by itself where a query fails
   inside `with conn`, which the listing of tables relies on, and a rollback that fails. -/
set_option autoImplicit false

namespace Schematic.Deploy

structure Server where
  refusal : Option String := none
  /-- How many connections it accepts before it refuses any. -/
  accepted : Nat := 0
  version : String := "PostgreSQL 16.0"
  database : String := "postgres"
  tables : List String := Ddl.storeTables
  catalogFault : Option String := none
  /-- The statement that fails, counted from one. -/
  failing : Option Int := none
  complaint : String := "syntax error"
  commitFault : Option String := none
deriving Repr

/-- What a server sees of a deployment. Transactions end with the number of statements tried so far. -/
inductive ServerEvent where
  | connected (connection : String)
  | committed (tried : Nat)
  | rolledBack (tried : Nat)
  | listed (schema : String)
deriving Repr, DecidableEq

def ServerEvent.isConnection : ServerEvent → Bool
  | connected _ => true
  | _ => false

/-- How far a deployment has come. Events and log entries stand with the newest first. -/
structure Progress where
  tried : Nat := 0
  events : List ServerEvent := []
  log : List LogEntry := []

def Progress.connections (progress : Progress) : Nat := progress.events.countP (·.isConnection)

abbrev Work := ExceptT String (StateM Progress)

def note (logger : String) (level : Int) (message : String) : StateM Progress Unit :=
  modify fun progress => { progress with log := { logger, level, message } :: progress.log }

def see (event : Nat → ServerEvent) : StateM Progress Unit :=
  modify fun progress => { progress with events := event progress.tried :: progress.events }

def serverLogger : String := "infrastructure.postgresql"

namespace Server

def refusalAfter (server : Server) (earlier : Nat) : Option String :=
  server.refusal.filter fun _ => server.accepted ≤ earlier

def connect (server : Server) (connection : String) : Work Unit := do
  let earlier := (← get).connections
  see fun _ => .connected connection
  match server.refusalAfter earlier with
  | none => return
  | some message => do
      note serverLogger Log.error ("PostgreSQL connection error: " ++ message)
      throw message

def attempt (server : Server) : List Statement.Pieces → StateM Progress (Option String)
  | [] => return none
  | _ :: rest => do
      modify fun progress => { progress with tried := progress.tried + 1 }
      if server.failing = some ((← get).tried : Int) then return some server.complaint
      attempt server rest

/-- Runs statements as a whole or not at all. Answers the complaint about the one that failed, or about the commit,
which counts as one more statement. -/
def execute (server : Server) (connection : String) (statements : List Statement.Pieces) : Work (Option String) := do
  server.connect connection
  let before := (← get).tried
  let failed ← server.attempt statements
  match failed.or server.commitFault with
  | none => do
      see .committed
      return none
  | some complaint => do
      see .rolledBack
      let place := (← get).tried - before + if failed.isSome then 0 else 1
      note serverLogger Log.error ("DDL statement " ++ toString place ++ " failed: " ++ complaint)
      return some complaint

def tablesIn (server : Server) (connection schema : String) : Work (List String) := do
  server.connect connection
  see fun _ => .listed schema
  match server.catalogFault with
  | some message => throw message
  | none => do
      see .committed
      return server.tables

end Server

end Schematic.Deploy
