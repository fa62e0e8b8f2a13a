import Schematic.Deploy.CommandLine

set_option autoImplicit false

namespace Schematic

def deploymentVariables : List String :=
  ["DATABASE_URL", "POSTGRES_HOST", "POSTGRES_PORT", "POSTGRES_DB", "POSTGRES_USER", "POSTGRES_PASSWORD",
    "POSTGRES_SSLMODE", "SDL_MAX_SOURCE_BYTES", "DB_POOL_MIN_SIZE", "DB_POOL_MAX_SIZE", "SCHEMA_SYNC_TIMEOUT_MS",
    "SDL_DRAFTER_TIMEOUT_S", "SDL_CHAT_HISTORY_LIMIT"]

def readEnvironment : IO Environment :=
  deploymentVariables.filterMapM fun name => do return (← IO.getEnv name).map (name, ·)

/-- No server can be reached from here, so only a dry run succeeds. -/
def unreachableServer : Deploy.Server := { refusal := some "no database connection is available" }

def usage : String := "usage: schematic [--help] [--dry-run] [--status] [--connection CONNECTION] [--verbose]"

def runDeployment (arguments : List String) : IO UInt32 := do
  let environment ← readEnvironment
  match Deploy.command (Settings.ofEnvironment environment) environment unreachableServer arguments with
  | .error fault => do
      IO.eprintln fault.message
      return 1
  | .ok report => do
      for entry in report.progress.log.reverse do
        IO.eprintln (entry.logger ++ " - " ++ Log.levelName entry.level ++ " - " ++ entry.message)
      match report.ending with
      | .done _ => IO.print report.output
      | .helped => IO.println usage
      | .misused => IO.eprintln usage
      return UInt32.ofNat report.ending.exitCode

end Schematic

def main (arguments : List String) : IO UInt32 := Schematic.runDeployment arguments
