import Schematic.Config.Pool
import Schematic.Deploy.Run
import Schematic.Drafting.Endpoint
import Schematic.Http.Application
import Schematic.Text.LowerCase

set_option autoImplicit false

namespace Schematic.Http

structure Running where
  settings : Settings
  pools : Pools
  endpoint : Option Endpoint
  deployment : Deploy.Progress := {}
  log : List LogEntry

def entry (level : Int) (message : String) : LogEntry := ({} : LogContext).entry "main" level message

def say (message : String) : LogEntry := entry Log.info message

def wantsBootstrap (environment : Environment) : Bool :=
  String.ofList (Text.lower (environment.get "AUTO_BOOTSTRAP_SCHEMA" "").toList) = "true"

def bootstrap (known : Except NumberFault Settings) (environment : Environment) (server : Deploy.Server) :
    Except NumberFault (Deploy.Progress × List LogEntry) := do
  let target ← Deploy.Target.ofEnvironment known environment "" none
  let (deployment, progress) := (Deploy.install server target (Deploy.storeScript target.schema) false).run {}
  let verdict :=
    if deployment.success then say "Schema bootstrap completed successfully"
    else entry Log.warning ("Schema bootstrap had issues: " ++ (Json.strs deployment.errors).display)
  return (progress, say "Auto-bootstrap enabled, deploying schema..." :: progress.log.reverse ++ [verdict])

def start (environment : Environment) (server : Deploy.Server) : Except NumberFault Running := do
  let known := Settings.ofEnvironment environment
  let (deployment, deploymentLog) ←
    if wantsBootstrap environment then bootstrap known environment server else pure ({}, [])
  let settings ← known
  let pools ← ({} : Pools).start known environment {}
  let endpoint := (Endpoint.make known "" none).toOption
  let greeting :=
    "Starting SDL Engine v" ++ release.version ++ " (Epoch " ++ toString release.epoch ++ ", Build " ++
      release.buildDate ++ ")"
  return {
    settings
    pools
    endpoint
    deployment
    log :=
      say greeting :: deploymentLog ++ pools.log.reverse ++
        [say "Database pool initialized",
          say (if endpoint.isSome then "Schema drafter configured"
            else "SDL_DRAFTER_URL not set, drafting endpoints disabled"),
          say "Schema service initialized"] }

def stop (running : Running) : Pools × List LogEntry :=
  let pools := { running.pools with log := [] }.close
  (pools, say "Shutting down SDL Engine..." :: pools.log.reverse ++ [say "SDL Engine stopped"])

end Schematic.Http
