import Schematic.Log.Context
import Schematic.Store.Command

/- Statements take effect one after the other, each as a whole or not at all, and any of them may break down. This
   stands for all that a driver or a server refuses, also for what was sent: psycopg takes no NUL in a parameter, and
   PostgreSQL no timeout below zero. Of those only a limit below zero is refused by itself, in `lookUpTo`. Premises are
   that psycopg commits or rolls back a transaction where its block ends, that it rolls back what fails outside of one,
   and that a lock and a snapshot keep other sessions away: a lock is a statement like any other here. -/
set_option autoImplicit false

namespace Schematic

inductive StoreEvent where
  | began | committed | rolledBack
  | ran (command : Command)
deriving Repr, DecidableEq

def StoreEvent.label : StoreEvent → String
  | began => "begin"
  | committed => "commit"
  | rolledBack => "rollback"
  | ran command => command.label

structure Happening where
  event : StoreEvent
  tables : Tables

/-- A breakdown that waits for an event of its label: the first when `remaining` is one. -/
structure Breakdown where
  label : String
  remaining : Int
  message : String
deriving Repr, DecidableEq

/-- The store, what has happened there and what will go wrong, the log, and what drafters were asked. All that
happened stands with the newest first. -/
structure World where
  tables : Tables := {}
  breakdowns : List Breakdown := []
  happenings : List Happening := []
  log : List LogEntry := []
  asked : List (String × Option String) := []

/-- Work on the store. A failure keeps what was done before it. -/
abbrev Action := ExceptT Failure (StateM World)

namespace Action

def outcome {α : Type} (work : Action α) (world : World) : Except Failure α × World :=
  StateT.run (ExceptT.run work) world

def note (entry : LogEntry) : Action Unit := modify fun world => { world with log := entry :: world.log }

/-- Counts an event of a label. The first breakdown that waited for it strikes; those behind it do not see
the event. -/
def strike (label : String) : List Breakdown → Option String × List Breakdown
  | [] => (none, [])
  | breakdown :: rest =>
      if breakdown.label ≠ label then
        let (struck, rest) := strike label rest
        (struck, breakdown :: rest)
      else if breakdown.remaining = 1 then (some breakdown.message, rest)
      else
        let (struck, rest) := strike label rest
        (struck, { breakdown with remaining := breakdown.remaining - 1 } :: rest)

def risk (label : String) : Action Unit := do
  let world ← get
  let (struck, breakdowns) := strike label world.breakdowns
  set { world with breakdowns }
  match struck with
  | some message => throw (.storage "RuntimeError" message)
  | none => return

def record (event : StoreEvent) : Action Unit :=
  modify fun world => { world with happenings := ⟨event, world.tables⟩ :: world.happenings }

/-- Sends a statement, which may fail before it has any effect. -/
def run {α : Type} (command : Command) (effect : Tables → α × Tables) : Action α := do
  record (.ran command)
  risk command.label
  let world ← get
  let (reply, tables) := effect world.tables
  set { world with tables }
  return reply

def look {α : Type} (command : Command) (view : Tables → α) : Action α :=
  run command fun tables => (view tables, tables)

/-- A statement that reads the first of some rows. No limit may be below zero. -/
def lookUpTo {α : Type} (limit : Int) (command : Command) (view : Tables → List α) : Action (List α) := do
  let rows ← look command view
  if limit < 0 then throw (.storage "InvalidRowCountInLimitClause" "LIMIT must not be negative")
  else return rows.take limit.toNat

def send (command : Command) (effect : Tables → Tables) : Action Unit :=
  run command fun tables => ((), effect tables)

def connected {α : Type} (work : Action α) : Action α := do
  risk "connect"
  work

/-- Work that is done as a whole or not at all: a failure, also of the commit, puts all rows back. -/
def transaction {α : Type} (work : Action α) : Action α := do
  risk "begin"
  record .began
  let before := (← get).tables
  let attempt : Action α := do
    let value ← work
    risk "commit"
    record .committed
    return value
  tryCatch attempt fun failure => do
    modify fun world => { world with tables := world.tables.rollback before }
    risk "rollback"
    record .rolledBack
    throw failure

def recordOf {κ α : Type} (table : TableName) (row : Row κ α) : Action α :=
  match row.record with
  | .ok value => return value
  | .error (.missing column) => throw (.missingColumn column)
  | .error (.refused complaints) => throw (.refused table complaints)

def checked {α : Type} (table : TableName) : Checked α → Action α
  | .ok value => return value
  | .refused complaints => throw (.refused table complaints)

/-- Settings are read when they are first needed, and that may fail. -/
def settings (known : Except NumberFault Settings) : Action Settings :=
  match known with
  | .ok settings => return settings
  | .error fault => throw (.setting fault)

end Action

end Schematic
