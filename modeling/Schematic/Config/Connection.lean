import Schematic.Config.Settings
import Schematic.Source.Format

set_option autoImplicit false

namespace Schematic

structure ConnectionParts where
  user : String := "postgres"
  password : String := ""
  host : String := "localhost"
  port : String := "5432"
  database : String := "postgres"
  sslMode : String := "prefer"
deriving Repr, DecidableEq

def ConnectionParts.ofEnvironment (environment : Environment) : ConnectionParts where
  user := environment.get "POSTGRES_USER" "postgres"
  password := environment.get "POSTGRES_PASSWORD" ""
  host := environment.get "POSTGRES_HOST" "localhost"
  port := environment.get "POSTGRES_PORT" "5432"
  database := environment.get "POSTGRES_DB" "postgres"
  sslMode := environment.get "POSTGRES_SSLMODE" "prefer"

def ConnectionParts.render (parts : ConnectionParts) : String :=
  "postgresql://" ++ parts.user ++ ":" ++ parts.password ++ "@" ++ parts.host ++ ":" ++ parts.port ++ "/" ++
    parts.database ++ "?sslmode=" ++ parts.sslMode

/-- A connection string given as a whole wins over its parts, unless it is empty. -/
def connectionString (environment : Environment) : String :=
  let whole := environment.get "DATABASE_URL" ""
  if whole = "" then (ConnectionParts.ofEnvironment environment).render else whole

def beforeWord? (word : List Char) : List Char → Option (List Char)
  | [] => if word = [] then some [] else none
  | c :: rest =>
      if word.isPrefixOf (c :: rest) then some [] else (beforeWord? word rest).map (c :: ·)

/-- A connection string for the log: what follows the last at sign, else what precedes the password. -/
def maskConnection (text : String) : String :=
  if text.toList.contains '@' then String.ofList ((Text.splitOn '@' text.toList).getLastD [])
  else
    match beforeWord? "password=".toList text.toList with
    | some before => String.ofList before ++ "password=***"
    | none => text

end Schematic
