import Schematic.Deploy.CommandLine
import Schematic.Proofs.Deploy.Steps

set_option autoImplicit false

namespace Schematic.Deploy

-- How many statements a server holds on to after some events: those of the transactions that it has committed.
def held (tried : Nat) : List ServerEvent → Nat
  | [] => 0
  | .committed reached :: later => reached - tried + held reached later
  | .rolledBack reached :: later => held reached later
  | .connected _ :: later | .listed _ :: later => held tried later

def ServerEvent.isRollback : ServerEvent → Bool
  | rolledBack _ => true
  | _ => false

def rollbacks (events : List ServerEvent) : Nat := events.countP (·.isRollback)

structure Met (server : Server) (script : Script) (before : Progress) (statements : List Statement.Pieces) : Prop where
  made : script = .ok statements
  tested : server.refusalAfter before.connections = none
  connected : server.refusalAfter (before.connections + 1) = none

-- What a deployment comes to that is no rehearsal. Events are told the oldest first.
structure Concluded (server : Server) (target : Target) (script : Script) (before : Progress) (deployment : Deployment)
    (tried : Nat) (fresh : List ServerEvent) : Prop where
  -- It succeeds just where all statements run and are committed, and this is what the server sees of it: a test, and then
  -- one transaction.
  succeeds : deployment.success = true ↔
    ∃ statements, Met server script before statements ∧ ¬ Fails server before.tried statements.length
  commits : deployment.success = true ↔ ∃ statements, script = .ok statements ∧
    [.connected target.connection, .committed before.tried, .connected target.connection,
      .committed (before.tried + statements.length)] <+: fresh
  holds : held before.tried fresh = if deployment.success then (script.toOption.getD []).length else 0
  -- Where a statement or the commit fails, all of them are taken back, once, and none is reported as executed.
  undoes : (∃ statements, Met server script before statements ∧ Fails server before.tried statements.length) →
    rollbacks fresh = 1 ∧ held before.tried fresh = 0 ∧ ∃ report ∈ deployment.steps, report.name = "deploy_schema" ∧
      report.status = .failed ∧ report.details.get? "statements_executed" = some (.nat 0)
  spares : rollbacks fresh ≠ 0 →
    ∃ statements, Met server script before statements ∧ Fails server before.tried statements.length
  tells : ∀ report ∈ deployment.steps, ∀ number,
    report.details.get? "statements_executed" = some (.nat number) → number = held before.tried fresh
  -- Without the first connection nothing is tried.
  stops : server.refusalAfter before.connections ≠ none →
    deployment.steps.map (·.name) = ["test_connection"] ∧ deployment.success = false ∧ tried = before.tried ∧
      fresh = [.connected target.connection]
  -- The tables that are seen at the end, if any, change nothing but the warnings.
  warns : deployment.warnings = [] ↔
    server.refusalAfter before.connections ≠ none ∨ Complete server (before.connections + dialled fresh - 1)
  counts : deployment.tally.total = deployment.steps.length ∧
    deployment.tally.successful + deployment.tally.failed + deployment.tally.skipped = deployment.tally.total

theorem trouble_none (label : String) (report : StepReport) : trouble label report = [] ↔ report.status ≠ .failed := by
  rw [trouble]
  by_cases failed : report.status = .failed
  · simp [failed]
  · simp [failed]

theorem tally_whole (steps : List StepReport) (settled : ∀ report ∈ steps, report.status = .success ∨ report.status = .failed) :
    (Tally.ofSteps steps).successful + (Tally.ofSteps steps).failed + (Tally.ofSteps steps).skipped = steps.length := by
  induction steps with
  | nil => rfl
  | cons report steps ih =>
      have later := ih fun other member => settled other (List.mem_cons_of_mem _ member)
      simp only [Tally.ofSteps] at later ⊢
      cases settled report List.mem_cons_self with
      | inl succeeded =>
          simp [succeeded]
          omega
      | inr failed =>
          simp [failed]
          omega

theorem looked_plain (target : Target) (tried : Nat) (events : List ServerEvent) (looked : Looked target tried events) :
    held tried events = 0 ∧ rollbacks events = 0 ∧ dialled events = 1 := by
  cases looked with
  | refused => exact ⟨rfl, rfl, rfl⟩
  | broken => exact ⟨rfl, rfl, rfl⟩
  | listed =>
      refine ⟨?_, rfl, rfl⟩
      simp [held]

theorem rollbacks_append (first second : List ServerEvent) : rollbacks (first ++ second) = rollbacks first + rollbacks second :=
  List.countP_append

theorem dialled_append (first second : List ServerEvent) : dialled (first ++ second) = dialled first + dialled second :=
  List.countP_append

theorem untested_concludes (server : Server) (target : Target) (script : Script) (before : Progress) (tested : StepReport)
    (fresh : List ServerEvent) (failed : tested.status = .failed)
    (test : Tested server target before.connections before.tried tested fresh) :
    Concluded server target script before { target, steps := [tested], errors := trouble "Connection failed" tested }
      before.tried fresh := by
  cases test with
  | passed accepts succeeded => cases succeeded.symm.trans failed
  | refused message refuses _ named silent =>
      have refused : server.refusalAfter before.connections ≠ none := by simp [refuses]
      have unmet : ∀ statements, ¬ Met server script before statements := fun statements met => refused met.tested
      have unsuccessful :
          Deployment.success { target, steps := [tested], errors := trouble "Connection failed" tested } = false := by
        simp [Deployment.success, trouble, failed]
      constructor
      · rw [unsuccessful]
        exact ⟨fun done => (nomatch done), fun ⟨statements, met, _⟩ => absurd met (unmet statements)⟩
      · rw [unsuccessful]
        refine ⟨fun done => (nomatch done), fun ⟨statements, _, seen⟩ => ?_⟩
        simp at seen
      · rw [unsuccessful]
        rfl
      · exact fun ⟨statements, met, _⟩ => absurd met (unmet statements)
      · exact fun undone => absurd rfl undone
      · intro report member number told
        obtain rfl := List.mem_singleton.mp member
        cases silent.symm.trans told
      · exact fun _ => ⟨by rw [List.map_singleton, named], unsuccessful, rfl, rfl⟩
      · exact ⟨fun _ => .inl refused, fun _ => rfl⟩
      · refine ⟨rfl, tally_whole [tested] fun report member => ?_⟩
        obtain rfl := List.mem_singleton.mp member
        exact .inr failed

section Deployed

variable (server : Server) (target : Target) (script : Script) (connections tried : Nat) (report : StepReport) (reached : Nat)
  (fresh later : List ServerEvent) (deployed : Deployed server target script connections tried report reached fresh)
  (looked : Looked target reached later)

include deployed

theorem deployed_settled : report.status = .success ∨ report.status = .failed := by
  cases deployed with
  | unmade message nothing failed => exact .inr failed
  | refused statements message made refuses failed => exact .inr failed
  | undone statements reached made accepts fails failed => exact .inr failed
  | committed statements made accepts runs succeeded => exact .inl succeeded

theorem deployed_succeeds : report.status ≠ .failed ↔ ∃ statements, script = .ok statements ∧
    server.refusalAfter connections = none ∧ ¬ Fails server tried statements.length := by
  cases deployed with
  | unmade message nothing failed => simp [nothing, failed]
  | refused statements message made refuses failed => simp [failed, refuses]
  | undone statements reached made accepts fails failed => simp [failed, made, fails]
  | committed statements made accepts runs succeeded => simp [succeeded, made, accepts, runs]

theorem deployed_undone : rollbacks fresh = 1 ∧ (∃ statements, script = .ok statements ∧ server.refusalAfter connections = none ∧
      Fails server tried statements.length) ∧ report.name = "deploy_schema" ∧ report.status = .failed ∧
      report.details.get? "statements_executed" = some (.nat 0) ∨
    rollbacks fresh = 0 ∧ ∀ statements, script = .ok statements → server.refusalAfter connections = none →
      ¬ Fails server tried statements.length := by
  cases deployed with
  | unmade message nothing failed => exact .inr ⟨rfl, by simp [nothing]⟩
  | refused statements message made refuses failed => exact .inr ⟨rfl, by simp [refuses]⟩
  | undone statements reached made accepts fails failed named executed =>
      exact .inl ⟨rfl, ⟨statements, made, accepts, fails⟩, named, failed, executed⟩
  | committed statements made accepts runs succeeded =>
      refine .inr ⟨rfl, fun others same _ => ?_⟩
      cases made.symm.trans same
      exact runs

include looked

theorem deployed_held :
    held tried (fresh ++ later) = if report.status = .failed then 0 else (script.toOption.getD []).length := by
  have nothing := (looked_plain target reached later looked).1
  cases deployed with
  | unmade message unmade failed => rw [if_pos failed, List.nil_append, nothing]
  | refused statements message made refuses failed =>
      rw [if_pos failed]
      exact nothing
  | undone statements reached made accepts fails failed =>
      rw [if_pos failed]
      exact nothing
  | committed statements made accepts runs succeeded =>
      rw [if_neg (by simp [succeeded]), made]
      show tried + statements.length - tried + held (tried + statements.length) later = statements.length
      omega

theorem deployed_tells (number : Nat) (told : report.details.get? "statements_executed" = some (.nat number)) :
    number = held tried (fresh ++ later) := by
  have same : ∀ other, report.details.get? "statements_executed" = some (.nat other) → number = other := by
    intro other executed
    have both := Option.some.inj (told.symm.trans executed)
    exact Int.ofNat.inj (Json.int.inj both)
  rw [deployed_held server target script connections tried report reached fresh later deployed looked]
  cases deployed with
  | unmade message unmade failed silent => cases silent.symm.trans told
  | refused statements message made refuses failed silent => cases silent.symm.trans told
  | undone statements reached made accepts fails failed named executed =>
      rw [if_pos failed, same 0 executed]
  | committed statements made accepts runs succeeded executed =>
      rw [if_neg (by simp [succeeded]), made, same _ executed]
      rfl

theorem deployed_commits : report.status ≠ .failed ↔ ∃ statements, script = .ok statements ∧
    [.connected target.connection, .committed (tried + statements.length)] <+: fresh ++ later := by
  cases deployed with
  | unmade message unmade failed => simp [unmade, failed]
  | refused statements message made refuses failed =>
      cases looked with
      | refused => simp [failed]
      | broken => simp [failed]
      | listed => simp [failed]
  | undone statements reached made accepts fails failed => simp [failed]
  | committed statements made accepts runs succeeded =>
      refine ⟨fun _ => ⟨statements, made, later, rfl⟩, fun _ => by simp [succeeded]⟩

end Deployed

theorem verified_looked (server : Server) (target : Target) (connections tried : Nat) (report : StepReport)
    (fresh : List ServerEvent) (verified : Verified server target connections tried report fresh) :
    Looked target tried fresh ∧ (report.status ≠ .failed ↔ Complete server connections) ∧
      (report.status = .success ∨ report.status = .failed) ∧ report.details.get? "statements_executed" = none := by
  cases verified with
  | complete looked complete succeeded silent => exact ⟨looked, by simp [succeeded, complete], .inl succeeded, silent⟩
  | wanting looked wanting failed silent => exact ⟨looked, by simp [failed, wanting], .inr failed, silent⟩

-- What a deployment reports whose test of the connection succeeds, and what the server sees of that test.
def through (target : Target) (tested deployed verified : StepReport) : Deployment :=
  { target, steps := [tested, deployed, verified], errors := trouble "Schema deployment failed" deployed,
    warnings := trouble "Verification issue" verified }

def opened (target : Target) (tried : Nat) : List ServerEvent := [.connected target.connection, .committed tried]

theorem opened_held (target : Target) (tried : Nat) (events : List ServerEvent) :
    held tried (opened target tried ++ events) = held tried events := by
  show tried - tried + held tried events = held tried events
  omega

theorem opened_rollbacks (target : Target) (tried reached : Nat) (second third : List ServerEvent)
    (looked : Looked target reached third) : rollbacks (opened target tried ++ (second ++ third)) = rollbacks second := by
  obtain ⟨-, unspoiled, -⟩ := looked_plain target reached third looked
  rw [rollbacks_append, rollbacks_append, unspoiled]
  exact Nat.zero_add _

theorem opened_dialled (target : Target) (tried reached : Nat) (second third : List ServerEvent)
    (looked : Looked target reached third) : dialled (opened target tried ++ (second ++ third)) = dialled second + 2 := by
  obtain ⟨-, -, once⟩ := looked_plain target reached third looked
  rw [dialled_append, dialled_append, once]
  show 1 + (dialled second + 1) = dialled second + 2
  omega

theorem through_success_iff (target : Target) (tested deployed verified : StepReport) :
    (through target tested deployed verified).success = true ↔ deployed.status ≠ .failed := by
  rw [through, Deployment.success, List.isEmpty_iff, trouble_none]

theorem met_iff (server : Server) (script : Script) (before : Progress) (statements : List Statement.Pieces)
    (accepts : server.refusalAfter before.connections = none) : Met server script before statements ↔
      script = .ok statements ∧ server.refusalAfter (before.connections + 1) = none :=
  ⟨fun met => ⟨met.made, met.connected⟩, fun ⟨made, connected⟩ => ⟨made, accepts, connected⟩⟩

section Through

variable (server : Server) (target : Target) (script : Script) (before : Progress) (tested deployed verified : StepReport)
  (reached : Nat) (second third : List ServerEvent)
  (deploys : Deployed server target script (before.connections + 1) before.tried deployed reached second)
  (verifies : Verified server target (before.connections + 1 + dialled second) reached verified third)
  (looked : Looked target reached third)

include deploys

theorem through_succeeds (accepts : server.refusalAfter before.connections = none) :
    (through target tested deployed verified).success = true ↔
      ∃ statements, Met server script before statements ∧ ¬ Fails server before.tried statements.length := by
  rw [through_success_iff, deployed_succeeds server target script _ _ deployed reached second deploys]
  simp only [met_iff server script before _ accepts, and_assoc]

theorem through_undone (accepts : server.refusalAfter before.connections = none) (statements : List Statement.Pieces)
    (met : Met server script before statements) (fails : Fails server before.tried statements.length) :
    rollbacks second = 1 ∧ deployed.name = "deploy_schema" ∧ deployed.status = .failed ∧
      deployed.details.get? "statements_executed" = some (.nat 0) := by
  rcases deployed_undone server target script _ _ deployed reached second deploys with
    ⟨once, -, reported⟩ | ⟨-, runs⟩
  · exact ⟨once, reported⟩
  · obtain ⟨made, connected⟩ := (met_iff server script before statements accepts).mp met
    exact absurd fails (runs statements made connected)

theorem through_spares (accepts : server.refusalAfter before.connections = none) (spoiled : rollbacks second ≠ 0) :
    ∃ statements, Met server script before statements ∧ Fails server before.tried statements.length := by
  rcases deployed_undone server target script _ _ deployed reached second deploys with
    ⟨-, ⟨statements, made, connected, fails⟩, -⟩ | ⟨none, -⟩
  · exact ⟨statements, (met_iff server script before statements accepts).mpr ⟨made, connected⟩, fails⟩
  · exact absurd none spoiled

include looked in
theorem through_commits : (through target tested deployed verified).success = true ↔ ∃ statements, script = .ok statements ∧
    [.connected target.connection, .committed before.tried, .connected target.connection,
      .committed (before.tried + statements.length)] <+: opened target before.tried ++ (second ++ third) := by
  rw [through_success_iff, deployed_commits server target script _ _ deployed reached second third deploys looked]
  simp only [opened, List.cons_append, List.nil_append, List.cons_prefix_cons, true_and]

include looked in
theorem through_holds : held before.tried (opened target before.tried ++ (second ++ third)) =
    if (through target tested deployed verified).success then (script.toOption.getD []).length else 0 := by
  have success := through_success_iff target tested deployed verified
  rw [opened_held, deployed_held server target script _ _ deployed reached second third deploys looked]
  by_cases failed : deployed.status = .failed
  · rw [if_pos failed, if_neg (fun done => success.mp done failed)]
  · rw [if_neg failed, if_pos (success.mpr failed)]

include verifies

theorem through_tells (quiet : tested.details.get? "statements_executed" = none) (report : StepReport)
    (member : report ∈ [tested, deployed, verified]) (number : Nat)
    (told : report.details.get? "statements_executed" = some (.nat number)) : number = held before.tried (second ++ third) := by
  obtain ⟨looked, -, -, silent⟩ := verified_looked _ _ _ _ _ _ verifies
  rcases List.mem_cons.mp member with rfl | member
  · cases quiet.symm.trans told
  · rcases List.mem_cons.mp member with rfl | member
    · exact deployed_tells server target script _ _ report reached second third deploys looked number told
    · obtain rfl := List.mem_singleton.mp member
      cases silent.symm.trans told

theorem through_settled (succeeded : tested.status = .success) (report : StepReport)
    (member : report ∈ [tested, deployed, verified]) : report.status = .success ∨ report.status = .failed := by
  obtain ⟨-, -, verified_settled, -⟩ := verified_looked _ _ _ _ _ _ verifies
  rcases List.mem_cons.mp member with rfl | member
  · exact .inl succeeded
  · rcases List.mem_cons.mp member with rfl | member
    · exact deployed_settled server target script _ _ report reached second deploys
    · obtain rfl := List.mem_singleton.mp member
      exact verified_settled

theorem through_concludes (accepts : server.refusalAfter before.connections = none) (succeeded : tested.status = .success)
    (quiet : tested.details.get? "statements_executed" = none) :
    Concluded server target script before (through target tested deployed verified) reached
      (opened target before.tried ++ (second ++ third)) := by
  obtain ⟨looked, complete, -⟩ := verified_looked _ _ _ _ _ _ verifies
  have undone := through_undone server target script before deployed reached second deploys accepts
  constructor
  · exact through_succeeds server target script before tested deployed verified reached second deploys accepts
  · exact through_commits server target script before tested deployed verified reached second third deploys looked
  · exact through_holds server target script before tested deployed verified reached second third deploys looked
  · rintro ⟨statements, met, fails⟩
    obtain ⟨once, named, failed, executed⟩ := undone statements met fails
    refine ⟨?_, ?_, deployed, List.mem_cons_of_mem _ List.mem_cons_self, named, failed, executed⟩
    · rw [opened_rollbacks target before.tried reached second third looked, once]
    · rw [opened_held, deployed_held server target script _ _ deployed reached second third deploys looked, if_pos failed]
  · rw [opened_rollbacks target before.tried reached second third looked]
    exact through_spares server target script before deployed reached second deploys accepts
  · rw [opened_held]
    exact through_tells server target script before tested deployed verified reached second third deploys verifies quiet
  · exact fun refused => absurd accepts refused
  · have last : before.connections + (dialled second + 2) - 1 = before.connections + 1 + dialled second := by omega
    rw [opened_dialled target before.tried reached second third looked, last, through, trouble_none, complete]
    simp [accepts]
  · exact ⟨rfl, tally_whole _ (through_settled server target script before tested deployed verified reached second third deploys
      verifies succeeded)⟩

end Through

theorem installed_concludes (server : Server) (target : Target) (script : Script) (before : Progress) (deployment : Deployment)
    (tried : Nat) (fresh : List ServerEvent) (installed : Installed server target script before deployment tried fresh) :
    Concluded server target script before deployment tried fresh := by
  cases installed with
  | untested tested _ failed test => exact untested_concludes server target script before tested fresh failed test
  | through tested deployed verified _ first second third passed test deploys verifies =>
      cases test with
      | passed accepts succeeded named quiet =>
          exact through_concludes server target script before tested deployed verified _ second third deploys verifies accepts
            succeeded quiet
      | refused message refuses failed => exact absurd failed passed

theorem execute_installs (options : Options) (server : Server) (target : Target) (before : Progress)
    (told : options.status = false) :
    ((execute options server target).run before).1.1 =
      ((install server target (storeScript target.schema) options.dryRun).run before).1.success := by
  rw [execute, if_neg (by simp [told])]
  rfl

theorem exit_code_zero (success : Bool) : (Ending.done success).exitCode = 0 ↔ success = true := by
  cases success with
  | false => decide
  | true => decide

theorem command_exits (known : Except NumberFault Settings) (environment : Environment) (server : Server)
    (arguments : List String) (options : Options) (asked : ask arguments = .run options) (told : options.status = false) :
    (∃ report, command known environment server arguments = .ok report ∧ report.ending.exitCode = 0) ↔
      ∃ target, Target.ofEnvironment known environment "" (options.connection.filter (· ≠ "")) = .ok target ∧
        ((install server target (storeScript target.schema) options.dryRun).run {}).1.success = true := by
  simp only [command, asked]
  cases Target.ofEnvironment known environment "" (options.connection.filter (· ≠ "")) with
  | error fault =>
      exact ⟨fun ⟨report, done, _⟩ => (nomatch done), fun ⟨target, found, _⟩ => (nomatch found)⟩
  | ok target =>
      have installs := execute_installs options server target {} told
      constructor
      · rintro ⟨report, done, exits⟩
        cases done
        exact ⟨target, rfl, installs ▸ (exit_code_zero _).mp exits⟩
      · rintro ⟨place, found, succeeds⟩
        cases found
        exact ⟨_, rfl, (exit_code_zero _).mpr (installs ▸ succeeds)⟩

-- Whatever statements there are and whatever the server does, a deployment comes to an end as said above, and the command for
-- it exits with zero just where it succeeds.
theorem deployment_concludes (server : Server) (target : Target) (script : Script) (before : Progress) :
    (∃ deployment tried fresh log, (install server target script false).run before =
        (deployment, ⟨tried, fresh.reverse ++ before.events, log⟩) ∧
      Concluded server target script before deployment tried fresh) ∧
    ∀ (known : Except NumberFault Settings) (environment : Environment) (arguments : List String) (options : Options),
      ask arguments = .run options → options.status = false →
        ((∃ report, command known environment server arguments = .ok report ∧ report.ending.exitCode = 0) ↔
          ∃ place, Target.ofEnvironment known environment "" (options.connection.filter (· ≠ "")) = .ok place ∧
            ((install server place (storeScript place.schema) options.dryRun).run {}).1.success = true) := by
  constructor
  · obtain ⟨deployment, tried, fresh, log, ends, installed⟩ := install_ends server target script before
    exact ⟨deployment, tried, fresh, log, ends, installed_concludes _ _ _ _ _ _ _ installed⟩
  · intro known environment arguments options asked told
    exact command_exits known environment server arguments options asked told

def stoppingServer : Server := { failing := some 2 }

def localTarget : Target := ⟨"localhost", "postgres", "sdlapp", connectionString []⟩

def threeStatements : List Statement.Pieces := [[.raw "SELECT 1"], [.raw "SELECT 2"], [.raw "SELECT 3"]]

theorem stopped_deployment_undone :
    Met stoppingServer (.ok threeStatements) {} threeStatements ∧ Fails stoppingServer 0 threeStatements.length ∧
      (∃ deployment tried fresh log, (install stoppingServer localTarget (.ok threeStatements) false).run {} =
        (deployment, ⟨tried, fresh.reverse ++ [], log⟩) ∧ rollbacks fresh = 1 ∧ held 0 fresh = 0) ∧
      ask [] = .run {} ∧ (∃ report, command (.ok {}) [] {} [] = .ok report ∧ report.ending.exitCode = 0) ∧
      ¬ ∃ report, command (.ok {}) [] stoppingServer [] = .ok report ∧ report.ending.exitCode = 0 := by
  have met : Met stoppingServer (.ok threeStatements) {} threeStatements := ⟨rfl, rfl, rfl⟩
  have fails : Fails stoppingServer 0 threeStatements.length := .inl ⟨2, rfl, by decide, by decide⟩
  have place : Target.ofEnvironment (.ok {}) [] "" none = .ok localTarget := rfl
  have asked : ask [] = .run {} := by decide +kernel
  obtain ⟨⟨deployment, tried, fresh, log, ends, concluded⟩, exits⟩ :=
    deployment_concludes stoppingServer localTarget (.ok threeStatements) {}
  obtain ⟨once, nothing, -⟩ := concluded.undoes ⟨threeStatements, met, fails⟩
  have fine := (deployment_concludes {} localTarget (.ok threeStatements) {}).2 (.ok {}) [] [] {} asked rfl
  have stopped := exits (.ok {}) [] [] {} asked rfl
  refine ⟨met, fails, ⟨deployment, tried, fresh, log, ends, once, nothing⟩, asked, ?_, fun done => ?_⟩
  · exact fine.mpr ⟨localTarget, place, by decide +kernel⟩
  · obtain ⟨target, found, succeeded⟩ := stopped.mp done
    obtain rfl := Except.ok.inj (place.symm.trans found)
    have unsuccessful : ((install stoppingServer localTarget (storeScript localTarget.schema) false).run {}).1.success = false := by
      decide +kernel
    cases unsuccessful.symm.trans succeeded

end Schematic.Deploy
