import Schematic.Config.Connection
import Schematic.Log.Context

set_option autoImplicit false

namespace Schematic

structure Pool where
  connection : String
  minSize : Int
  maxSize : Int
deriving Repr, DecidableEq

structure PoolRequest where
  minSize : Option Int := none
  maxSize : Option Int := none
  connection : String := ""
deriving Repr, DecidableEq

inductive PoolEvent where
  | made (pool : Pool)
  | opened | closed
deriving Repr, DecidableEq

/-- The pool in use, the number of pools so far, and what happened to them, the newest first. -/
structure Pools where
  current : Option Pool := none
  made : Nat := 0
  events : List PoolEvent := []
  log : List LogEntry := []

namespace Pools

def logger : String := "repositories.database"

def note (pools : Pools) (level : Int) (message : String) : Pools :=
  { pools with log := { logger, level, message } :: pools.log }

def add (pools : Pools) (pool : Pool) : Pools :=
  { pools with current := some pool, made := pools.made + 1, events := .opened :: .made pool :: pools.events }

def start (known : Except NumberFault Settings) (environment : Environment) (request : PoolRequest) (pools : Pools) :
    Except NumberFault Pools := do
  if pools.current.isSome then
    return pools.note Log.warning "Pool already initialized, returning existing pool"
  let settings ← known
  let pool : Pool :=
    { connection := if request.connection = "" then connectionString environment else request.connection
      minSize := request.minSize.getD settings.store.poolMin
      maxSize := request.maxSize.getD settings.store.poolMax }
  let pools := pools.note Log.info ("Initializing connection pool: " ++ maskConnection pool.connection)
  return (pools.add pool).note Log.info
    ("Connection pool opened (min=" ++ toString pool.minSize ++ ", max=" ++ toString pool.maxSize ++ ")")

def obtain (known : Except NumberFault Settings) (environment : Environment) (pools : Pools) :
    Except NumberFault Pools :=
  if pools.current.isSome then .ok pools else pools.start known environment {}

def close (pools : Pools) : Pools :=
  if pools.current.isSome then
    { pools with current := none, events := .closed :: pools.events }.note Log.info "Connection pool closed"
  else pools

end Pools

end Schematic
