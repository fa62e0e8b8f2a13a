import Schematic.Basic
import Schematic.Deploy.Run

set_option autoImplicit false

namespace Schematic.Deploy

inductive Switch where
  | help | dryRun | status | connection | verbose
deriving Repr, DecidableEq

namespace Switch

def words : List (String × Switch) :=
  [("--help", help), ("--dry-run", dryRun), ("--status", status), ("--connection", connection), ("--verbose", verbose)]

def ofLetter? : Char → Option Switch
  | 'h' => some help
  | 'v' => some verbose
  | _ => none

end Switch

inductive Word where
  | plain
  | switch (which : Switch) (value : Option String)
  /-- Switches of one letter in one word, and whether letters are left that are none. -/
  | letters (switches : List Switch) (stray : Bool)
  | unknown
  | malformed
  | ambiguous
deriving Repr, DecidableEq

def readLetters : List Char → Word
  | [] => .letters [] false
  | c :: rest =>
      match Switch.ofLetter? c with
      | none => .letters [] true
      | some switch =>
          if rest.head? = some '=' ∨ rest.head? = some '-' then .malformed
          else
            match readLetters rest with
            | .letters switches stray => .letters (switch :: switches) stray
            | other => other

def isNegative (word : List Char) : Bool :=
  match word with
  | '-' :: rest =>
      let isDigit (c : Char) : Bool := (Text.digitValue? c).isSome
      match rest.dropWhile isDigit with
      | [] => !rest.isEmpty
      | '.' :: places => !places.isEmpty && places.all isDigit
      | _ => false
  | _ => false

/-- A switch is known by any beginning that no other shares. A word with a blank is a value unless it begins
with a switch. -/
def readWord (word : String) : Word :=
  let plainOr (other : Word) : Word := if word.toList.contains ' ' then .plain else other
  match word.toList with
  | '-' :: '-' :: _ =>
      let name := word.toList.takeWhile (· ≠ '=')
      let value := if word.toList.contains '=' then some (String.ofList (word.toList.drop (name.length + 1))) else none
      match Switch.words.filter fun known => name.isPrefixOf known.1.toList with
      | [] => plainOr .unknown
      | [known] => .switch known.2 value
      | _ => .ambiguous
  | '-' :: letter :: rest =>
      if (Switch.ofLetter? letter).isSome then readLetters (letter :: rest)
      else if isNegative word.toList then .plain
      else plainOr .unknown
  | _ => .plain

structure Options where
  dryRun : Bool := false
  status : Bool := false
  verbose : Bool := false
  connection : Option String := none
deriving Repr, DecidableEq

inductive Asked where
  | run (options : Options)
  | help
  | misuse
deriving Repr, DecidableEq

def Options.turnOn (options : Options) : Switch → Option Options
  | .dryRun => some { options with dryRun := true }
  | .status => some { options with status := true }
  | .verbose => some { options with verbose := true }
  | .connection => some options
  | .help => none

/-- Reads a command line. The last value of a switch counts. Words that nothing takes are misuse, but a call
for help before the end is answered. -/
def readOptions (options : Options) (stray : Bool) : List String → Asked
  | [] => if stray then .misuse else .run options
  | "--" :: _ => .misuse
  | word :: rest =>
      match readWord word with
      | .plain | .unknown => readOptions options true rest
      | .malformed | .ambiguous => .misuse
      | .letters switches more =>
          match switches.foldlM Options.turnOn options with
          | some options => readOptions options (stray || more) rest
          | none => .help
      | .switch .connection (some value) => readOptions { options with connection := some value } stray rest
      | .switch .connection none =>
          match rest with
          | [] => .misuse
          | value :: rest =>
              if value ≠ "--" ∧ readWord value = .plain then
                readOptions { options with connection := some value } stray rest
              else .misuse
      | .switch _ (some _) => .misuse
      | .switch switch none =>
          match options.turnOn switch with
          | some options => readOptions options stray rest
          | none => .help

/-- Reads a whole command line. No call for help is answered where a word is ambiguous. -/
def ask (words : List String) : Asked :=
  if (words.takeWhile (· ≠ "--")).any (readWord · = .ambiguous) then .misuse else readOptions {} false words

inductive Ending where
  | done (success : Bool)
  | helped
  | misused
deriving Repr, DecidableEq

def Ending.exitCode : Ending → Nat
  | .done true => 0
  | .done false => 1
  | .helped => 0
  | .misused => 2

def rule : String := String.ofList (List.replicate 70 '=')

def heading (target : Target) : List String :=
  [rule, "SDL ENGINE - Schema Deployment", rule, "Host: " ++ target.host, "Database: " ++ target.database,
    "Schema: " ++ target.schema, rule]

def existing (report : StepReport) : List String :=
  ((report.details.get? "existing").getD .null).items.filterMap (·.str?)

def statusLines (target : Target) (report : StepReport) : List String :=
  ["", "[STATUS] " ++ report.status.text ++ ": " ++ report.message] ++
    (existing report).map fun table => "  - " ++ target.schema ++ "." ++ table

def stepLines (verbose : Bool) (report : StepReport) : List String :=
  ["[" ++ report.status.text.toUpper ++ "] " ++ report.name ++ ": " ++ report.message] ++
    (match report.error with
    | some error => if error = "" then [] else ["   Error: " ++ error]
    | none => []) ++
    if verbose then report.details.members.map fun (key, value) => "   " ++ key ++ ": " ++ value.plain else []

def resultLines (verbose : Bool) (deployment : Deployment) : List String :=
  ["", "[RESULTS]", ""] ++ deployment.steps.flatMap (stepLines verbose) ++ ["", rule] ++
    if deployment.success then ["Deployment completed successfully", rule]
    else "Deployment failed!" :: deployment.errors.map ("   - " ++ ·)

def printed (lines : List String) : String := String.join (lines.map (· ++ "\n"))

def execute (options : Options) (server : Server) (target : Target) : StateM Progress (Bool × String) := do
  if options.status then
    let report ← verifyTables server target
    return (report.status = .success, printed (heading target ++ statusLines target report))
  let deployment ← install server target (storeScript target.schema) options.dryRun
  let mode := ["", "Mode: " ++ (if options.dryRun then "DRY RUN" else "EXECUTE"), ""]
  return (deployment.success, printed (heading target ++ mode ++ resultLines options.verbose deployment))

structure CommandReport where
  ending : Ending
  output : String := ""
  progress : Progress := {}

/-- The deployment command. An empty connection is none. -/
def command (known : Except NumberFault Settings) (environment : Environment) (server : Server)
    (arguments : List String) : Except NumberFault CommandReport :=
  match ask arguments with
  | .misuse => .ok { ending := .misused }
  | .help => .ok { ending := .helped }
  | .run options => do
      let target ← Target.ofEnvironment known environment "" (options.connection.filter (· ≠ ""))
      let ((success, output), progress) := (execute options server target).run {}
      return { ending := .done success, output, progress }

end Schematic.Deploy
