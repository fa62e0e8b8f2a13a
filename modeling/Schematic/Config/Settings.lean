import Schematic.Number.Reading

set_option autoImplicit false

namespace Schematic

abbrev Environment := List (String × String)

def Environment.get (environment : Environment) (name fallback : String) : String :=
  (environment.lookup name).getD fallback

structure SourceSettings where
  /-- The field that a relation points to where its target has no identifier. -/
  identifier : String := "id"
  maxBytes : Int := 262144
deriving Repr, DecidableEq

structure StoreSettings where
  schemaName : String := "sdlapp"
  poolMin : Int := 2
  poolMax : Int := 10
  timeoutMs : Int := 30000
deriving Repr, DecidableEq

structure DraftingSettings where
  /-- The endpoint; drafting is off where there is none. -/
  url : Option String := none
  timeoutS : Binary64 := .ofInt 60
  historyLimit : Int := 200
deriving Repr, DecidableEq

structure Settings where
  source : SourceSettings := {}
  store : StoreSettings := {}
  drafting : DraftingSettings := {}
deriving Repr, DecidableEq

def readSetting {α : Type} (read : String → Except NumberFault α) (environment : Environment)
    (name : String) (fallback : α) : Except NumberFault α :=
  match environment.lookup name with
  | some text => read text
  | none => .ok fallback

/-- Settings that variables override. The first that is no number is reported. -/
def Settings.ofEnvironment (environment : Environment) : Except NumberFault Settings := do
  let maxBytes ← readSetting readInt environment "SDL_MAX_SOURCE_BYTES" 262144
  let poolMin ← readSetting readInt environment "DB_POOL_MIN_SIZE" 2
  let poolMax ← readSetting readInt environment "DB_POOL_MAX_SIZE" 10
  let timeoutMs ← readSetting readInt environment "SCHEMA_SYNC_TIMEOUT_MS" 30000
  let timeoutS ← readSetting readFloat environment "SDL_DRAFTER_TIMEOUT_S" (.ofInt 60)
  let historyLimit ← readSetting readInt environment "SDL_CHAT_HISTORY_LIMIT" 200
  return {
    source := { identifier := environment.get "SDL_IDENTIFIER_FIELD" "id", maxBytes }
    store := { poolMin, poolMax, timeoutMs }
    drafting := { url := (environment.lookup "SDL_DRAFTER_URL").filter (· ≠ ""), timeoutS, historyLimit } }

end Schematic
