import Schematic.Proofs.Deploy.Work

set_option autoImplicit false

namespace Schematic.Deploy

def dialled (events : List ServerEvent) : Nat := events.countP (·.isConnection)

-- How the connection is tested. Events are told the oldest first, and the connections and statements before a step are counted.
inductive Tested (server : Server) (target : Target) (connections tried : Nat) : StepReport → List ServerEvent → Prop where
  | passed (report : StepReport) (accepts : server.refusalAfter connections = none) (succeeded : report.status = .success)
      (named : report.name = "test_connection") (silent : report.details.get? "statements_executed" = none) :
      Tested server target connections tried report [.connected target.connection, .committed tried]
  | refused (report : StepReport) (message : String) (refuses : server.refusalAfter connections = some message)
      (failed : report.status = .failed) (named : report.name = "test_connection")
      (silent : report.details.get? "statements_executed" = none) :
      Tested server target connections tried report [.connected target.connection]

def Fails (server : Server) (tried count : Nat) : Prop := server.StopsWithin tried count ∨ server.commitFault ≠ none

inductive Deployed (server : Server) (target : Target) (script : Script) (connections tried : Nat) :
    StepReport → Nat → List ServerEvent → Prop where
  | unmade (report : StepReport) (message : String) (nothing : script = .error message) (failed : report.status = .failed)
      (silent : report.details.get? "statements_executed" = none) :
      Deployed server target script connections tried report tried []
  | refused (report : StepReport) (statements : List Statement.Pieces) (message : String) (made : script = .ok statements)
      (refuses : server.refusalAfter connections = some message) (failed : report.status = .failed)
      (silent : report.details.get? "statements_executed" = none) :
      Deployed server target script connections tried report tried [.connected target.connection]
  | undone (report : StepReport) (statements : List Statement.Pieces) (reached : Nat) (made : script = .ok statements)
      (accepts : server.refusalAfter connections = none) (fails : Fails server tried statements.length)
      (failed : report.status = .failed) (named : report.name = "deploy_schema")
      (executed : report.details.get? "statements_executed" = some (.nat 0)) :
      Deployed server target script connections tried report reached [.connected target.connection, .rolledBack reached]
  | committed (report : StepReport) (statements : List Statement.Pieces) (made : script = .ok statements)
      (accepts : server.refusalAfter connections = none) (runs : ¬ Fails server tried statements.length)
      (succeeded : report.status = .success)
      (executed : report.details.get? "statements_executed" = some (.nat statements.length)) :
      Deployed server target script connections tried report (tried + statements.length)
        [.connected target.connection, .committed (tried + statements.length)]

inductive Looked (target : Target) (tried : Nat) : List ServerEvent → Prop where
  | refused : Looked target tried [.connected target.connection]
  | broken : Looked target tried [.connected target.connection, .listed target.schema]
  | listed : Looked target tried [.connected target.connection, .listed target.schema, .committed tried]

def Complete (server : Server) (connections : Nat) : Prop :=
  server.refusalAfter connections = none ∧ server.catalogFault = none ∧ ∀ table ∈ Ddl.storeTables, table ∈ server.tables

inductive Verified (server : Server) (target : Target) (connections tried : Nat) : StepReport → List ServerEvent → Prop where
  | complete (report : StepReport) (events : List ServerEvent) (looked : Looked target tried events)
      (complete : Complete server connections) (succeeded : report.status = .success)
      (silent : report.details.get? "statements_executed" = none) :
      Verified server target connections tried report events
  | wanting (report : StepReport) (events : List ServerEvent) (looked : Looked target tried events)
      (wanting : ¬ Complete server connections) (failed : report.status = .failed)
      (silent : report.details.get? "statements_executed" = none) :
      Verified server target connections tried report events

def Leaves (step : StateM Progress StepReport) (before : Progress) (report : StepReport) (tried : Nat) (fresh : List ServerEvent) :
    Prop :=
  Reports step before report tried (fresh.reverse ++ before.events)

theorem test_connection_ends (server : Server) (target : Target) (before : Progress) :
    ∃ report fresh, Leaves (testConnection server target) before report before.tried fresh ∧
      Tested server target before.connections before.tried report fresh := by
  cases refusal : server.refusalAfter before.connections with
  | some message =>
      have connects := server.connect_refused target.connection before message refusal
      refine ⟨_, [.connected target.connection], perform_broken _ _ _ _ _ _ (gives_broken _ _ _ _ _ _ connects), ?_⟩
      exact .refused _ message refusal rfl rfl rfl
  | none =>
      have connects := server.connect_accepted target.connection before refusal
      refine ⟨_, [.connected target.connection, .committed before.tried], perform_reports _ _ _ _ _ _
        (gives_bind _ _ _ _ _ _ _ _ _ connects fun log => gives_bind _ _ _ _ _ _ _ _ _ (gives_see _ _) fun log =>
          gives_pure _ _), ?_⟩
      exact .passed _ refusal rfl rfl rfl

theorem gives_generated (target : Target) (statements : List Statement.Pieces) (before : Progress) :
    Gives (generated target (.ok statements)) before (.ok statements) before.tried before.events :=
  gives_bind _ _ _ _ _ _ _ _ _ (gives_note _ _ _ _) fun _ => gives_pure _ _

theorem attempt_ends (server : Server) (statements : List Statement.Pieces) (tried : Nat) :
    (∃ place, server.StopsWithin tried statements.length ∧ ∀ events log,
      (server.attempt statements).run ⟨tried, events, log⟩ = (some server.complaint, ⟨place, events, log⟩)) ∨
    (¬ server.StopsWithin tried statements.length ∧ ∀ events log,
      (server.attempt statements).run ⟨tried, events, log⟩ = (none, ⟨tried + statements.length, events, log⟩)) := by
  by_cases stops : server.StopsWithin tried statements.length
  · obtain ⟨place, fails, behind, within⟩ := stops
    exact .inl ⟨place, ⟨place, fails, behind, within⟩, fun events log =>
      server.attempt_stopped statements ⟨tried, events, log⟩ place fails behind within⟩
  · exact .inr ⟨stops, fun events log => server.attempt_whole statements ⟨tried, events, log⟩ stops⟩

theorem deploy_schema_ends (server : Server) (target : Target) (script : Script) (before : Progress) :
    ∃ report reached fresh, Leaves (deploySchema server target script) before report reached fresh ∧
      Deployed server target script before.connections before.tried report reached fresh := by
  cases script with
  | error message =>
      refine ⟨_, _, [], perform_broken _ _ _ _ _ _ (gives_broken _ _ _ _ _ _ (gives_throw message before)), ?_⟩
      exact .unmade _ message rfl rfl rfl
  | ok statements =>
      have made := gives_generated target statements before
      cases refusal : server.refusalAfter before.connections with
      | some message =>
          refine ⟨_, _, [.connected target.connection], perform_broken _ _ _ _ _ _
            (gives_bind _ _ _ _ _ _ _ _ _ made fun log => gives_broken _ _ _ _ _ _
              (server.execute_refused _ _ _ message refusal)), ?_⟩
          exact .refused _ statements message rfl refusal rfl rfl
      | none =>
          have undone : ∀ failed complaint reached, (∀ events log,
              (server.attempt statements).run ⟨before.tried, events, log⟩ = (failed, ⟨reached, events, log⟩)) →
              failed.or server.commitFault = some complaint → Fails server before.tried statements.length →
              ∃ report reached fresh, Leaves (deploySchema server target (.ok statements)) before report reached fresh ∧
                Deployed server target (.ok statements) before.connections before.tried report reached fresh := by
            intro failed complaint reached tries complains fails
            refine ⟨_, reached, [.connected target.connection, .rolledBack reached], perform_reports _ _ _ _ _ _
              (gives_bind _ _ _ _ _ _ _ _ _ made fun log => gives_bind _ _ _ _ _ _ _ _ _
                (server.execute_undone _ statements _ failed complaint reached refusal tries complains) fun log =>
                gives_pure _ _), ?_⟩
            exact .undone _ statements reached rfl refusal fails rfl rfl rfl
          rcases attempt_ends server statements before.tried with ⟨place, stops, tries⟩ | ⟨whole, tries⟩
          · exact undone _ _ _ tries rfl (.inl stops)
          · cases commits : server.commitFault with
            | some message => exact undone _ _ _ tries commits (.inr (by simp [commits]))
            | none =>
                refine ⟨_, before.tried + statements.length,
                  [.connected target.connection, .committed (before.tried + statements.length)],
                  perform_reports _ _ _ _ _ _ (gives_bind _ _ _ _ _ _ _ _ _ made fun log =>
                    gives_bind _ _ _ _ _ _ _ _ _ (server.execute_committed _ statements _ refusal whole commits) fun log =>
                    gives_pure _ _), ?_⟩
                exact .committed _ statements rfl refusal (fun fails => fails.elim whole fun wrong => wrong commits) rfl rfl

theorem looks_end (server : Server) (target : Target) (before : Progress) :
    ∃ report fresh, Leaves (verifyTables server target) before report before.tried fresh ∧
      Verified server target before.connections before.tried report fresh := by
  cases refusal : server.refusalAfter before.connections with
  | some message =>
      have looks := server.tables_refused target.connection target.schema before message refusal
      refine ⟨_, [.connected target.connection], perform_broken _ _ _ _ _ _ (gives_broken _ _ _ _ _ _ looks), ?_⟩
      exact .wanting _ _ .refused (fun complete => nomatch refusal.symm.trans complete.1) rfl rfl
  | none =>
      cases fault : server.catalogFault with
      | some message =>
          have looks := server.tables_broken target.connection target.schema before message refusal fault
          refine ⟨_, [.connected target.connection, .listed target.schema],
            perform_broken _ _ _ _ _ _ (gives_broken _ _ _ _ _ _ looks), ?_⟩
          exact .wanting _ _ .broken (fun complete => nomatch fault.symm.trans complete.2.1) rfl rfl
      | none =>
          have looks := server.tables_listed target.connection target.schema before refusal fault
          have missing_iff : (Ddl.storeTables.filter fun table => !server.tables.contains table).isEmpty = true ↔
              ∀ table ∈ Ddl.storeTables, table ∈ server.tables := by
            simp
          have ends : ∀ (condition : Prop) [Decidable condition] (first second : StepReport) (middle : Progress),
              Gives (if condition then return first else return second : Work StepReport) middle
                (.ok (if condition then first else second)) middle.tried middle.events := by
            intro condition _ first second middle
            split
            · exact gives_pure _ _
            · exact gives_pure _ _
          refine ⟨_, [.connected target.connection, .listed target.schema, .committed before.tried],
            perform_reports _ _ _ _ _ _ (gives_bind _ _ _ _ _ _ _ _ _ looks fun log => ends _ _ _ _), ?_⟩
          by_cases present : (Ddl.storeTables.filter fun table => !server.tables.contains table).isEmpty = true
          · rw [if_pos present]
            exact .complete _ _ .listed ⟨refusal, fault, missing_iff.mp present⟩ rfl rfl
          · rw [if_neg present]
            exact .wanting _ _ .listed (fun complete => present (missing_iff.mpr complete.2.2)) rfl rfl

theorem dialled_behind (fresh events : List ServerEvent) : dialled (fresh.reverse ++ events) = dialled events + dialled fresh := by
  rw [dialled, List.countP_append, List.countP_reverse, Nat.add_comm]
  rfl

inductive Installed (server : Server) (target : Target) (script : Script) (before : Progress) :
    Deployment → Nat → List ServerEvent → Prop where
  | untested (tested : StepReport) (fresh : List ServerEvent) (failed : tested.status = .failed)
      (test : Tested server target before.connections before.tried tested fresh) :
      Installed server target script before { target, steps := [tested], errors := trouble "Connection failed" tested }
        before.tried fresh
  | through (tested deployed verified : StepReport) (reached : Nat) (first second third : List ServerEvent)
      (passed : tested.status ≠ .failed) (test : Tested server target before.connections before.tried tested first)
      (deploys : Deployed server target script (before.connections + dialled first) before.tried deployed reached second)
      (verifies : Verified server target (before.connections + dialled first + dialled second) reached verified third) :
      Installed server target script before
        { target, steps := [tested, deployed, verified], errors := trouble "Schema deployment failed" deployed,
          warnings := trouble "Verification issue" verified } reached (first ++ second ++ third)

theorem run_bind {α β : Type} (first : StateM Progress α) (next : α → StateM Progress β) (before : Progress) :
    (first >>= next).run before = (next (first.run before).1).run (first.run before).2 := rfl

theorem install_ends (server : Server) (target : Target) (script : Script) (before : Progress) :
    ∃ deployment tried fresh log, (install server target script false).run before =
      (deployment, ⟨tried, fresh.reverse ++ before.events, log⟩) ∧
      Installed server target script before deployment tried fresh := by
  obtain ⟨begun, announced⟩ : ∃ log, (announce target false).run before = ((), ⟨before.tried, before.events, log⟩) := ⟨_, rfl⟩
  obtain ⟨tested, first, ⟨one, tests⟩, test⟩ := test_connection_ends server target ⟨before.tried, before.events, begun⟩
  rw [install, run_bind, announced, if_neg (by decide), run_bind, tests]
  by_cases failed : tested.status = .failed
  · rw [if_pos failed]
    exact ⟨_, _, first, one, rfl, .untested tested first failed test⟩
  · obtain ⟨deployed, reached, second, ⟨two, deploys⟩, deploy⟩ :=
      deploy_schema_ends server target script ⟨before.tried, first.reverse ++ before.events, one⟩
    obtain ⟨verified, third, ⟨three, verifies⟩, verify⟩ :=
      looks_end server target ⟨reached, second.reverse ++ (first.reverse ++ before.events), two⟩
    have further : Progress.connections ⟨before.tried, first.reverse ++ before.events, one⟩ = before.connections + dialled first :=
      dialled_behind first before.events
    have last : Progress.connections ⟨reached, second.reverse ++ (first.reverse ++ before.events), two⟩ =
        before.connections + dialled first + dialled second := by
      rw [← further]
      exact dialled_behind second _
    have whole : third.reverse ++ (second.reverse ++ (first.reverse ++ before.events)) =
        (first ++ second ++ third).reverse ++ before.events := by
      simp only [List.reverse_append, List.append_assoc]
    rw [further] at deploy
    rw [last] at verify
    rw [if_neg failed, run_bind, deploys, run_bind, verifies, whole]
    exact ⟨_, reached, first ++ second ++ third, _, rfl, .through tested deployed verified reached first second third failed test
      deploy verify⟩

end Schematic.Deploy
