import Schematic.Deploy.Run

set_option autoImplicit false

namespace Schematic.Deploy

variable {α β : Type}

def outcome (work : Work α) (before : Progress) : Except String α × Progress := StateT.run (ExceptT.run work) before

-- Work that ends so, with so many statements tried and these events seen. What it logs is left open.
def Gives (work : Work α) (before : Progress) (result : Except String α) (tried : Nat) (events : List ServerEvent) : Prop :=
  ∃ log, outcome work before = (result, { tried, events, log })

def Reports (step : StateM Progress StepReport) (before : Progress) (report : StepReport) (tried : Nat)
    (events : List ServerEvent) : Prop :=
  ∃ log, step.run before = (report, { tried, events, log })

theorem outcome_bind (work : Work α) (next : α → Work β) (before : Progress) :
    outcome (work >>= next) before =
      match outcome work before with
      | (.ok value, after) => outcome (next value) after
      | (.error message, after) => (.error message, after) := by
  unfold outcome ExceptT.run StateT.run
  simp only [bind, ExceptT.bind, ExceptT.mk, StateT.bind]
  cases work before with
  | mk result after => cases result <;> rfl

theorem outcome_get (before : Progress) : outcome (get : Work Progress) before = (.ok before, before) := rfl

theorem outcome_lift (step : StateM Progress α) (before : Progress) :
    outcome (liftM step : Work α) before = (.ok (step.run before).1, (step.run before).2) := rfl

theorem gives_bind (work : Work α) (next : α → Work β) (before : Progress) (value : α) (result : Except String β)
    (tried reached : Nat) (events later : List ServerEvent) (first : Gives work before (.ok value) tried events)
    (second : ∀ log, Gives (next value) { tried, events, log } result reached later) :
    Gives (work >>= next) before result reached later := by
  obtain ⟨log, first⟩ := first
  obtain ⟨last, second⟩ := second log
  exact ⟨last, by rw [outcome_bind, first]; exact second⟩

theorem gives_broken (work : Work α) (next : α → Work β) (before : Progress) (message : String) (tried : Nat)
    (events : List ServerEvent) (broken : Gives work before (.error message) tried events) :
    Gives (work >>= next) before (.error message) tried events := by
  obtain ⟨log, broken⟩ := broken
  exact ⟨log, by rw [outcome_bind, broken]⟩

theorem gives_pure (value : α) (before : Progress) : Gives (pure value) before (.ok value) before.tried before.events :=
  ⟨before.log, rfl⟩

theorem gives_throw (message : String) (before : Progress) :
    Gives (throw message : Work α) before (.error message) before.tried before.events :=
  ⟨before.log, rfl⟩

theorem gives_note (logger : String) (level : Int) (message : String) (before : Progress) :
    Gives (note logger level message) before (.ok ()) before.tried before.events :=
  ⟨_, rfl⟩

theorem gives_see (event : Nat → ServerEvent) (before : Progress) :
    Gives (see event) before (.ok ()) before.tried (event before.tried :: before.events) :=
  ⟨_, rfl⟩

theorem perform_run (name : String) (work : Work StepReport) (before : Progress) :
    (perform name work).run before =
      match outcome work before with
      | (.ok report, after) =>
          (note logger Log.info ("   " ++ name ++ ": " ++ report.status.text ++ " - " ++ report.message) >>= fun _ =>
            return report).run after
      | (.error message, after) =>
          (do
            note logger Log.error ("Step " ++ name ++ " failed: " ++ message)
            let report := StepReport.fail { name } message (name ++ " failed: " ++ message)
            note logger Log.info ("   " ++ name ++ ": " ++ report.status.text ++ " - " ++ report.message)
            return report : StateM Progress StepReport).run after := by
  unfold perform outcome ExceptT.run StateT.run
  simp only [bind, StateT.bind]
  cases work before with
  | mk result after => cases result <;> rfl

-- A step that breaks off is reported as one that failed, and the deployment goes on.
theorem perform_broken (name message : String) (work : Work StepReport) (before : Progress) (tried : Nat)
    (events : List ServerEvent) (broken : Gives work before (.error message) tried events) :
    Reports (perform name work) before (StepReport.fail { name } message (name ++ " failed: " ++ message)) tried events := by
  obtain ⟨log, broken⟩ := broken
  rw [Reports, perform_run, broken]
  exact ⟨_, rfl⟩

theorem perform_reports (name : String) (work : Work StepReport) (before : Progress) (report : StepReport) (tried : Nat)
    (events : List ServerEvent) (gives : Gives work before (.ok report) tried events) :
    Reports (perform name work) before report tried events := by
  obtain ⟨log, gives⟩ := gives
  rw [Reports, perform_run, gives]
  exact ⟨_, rfl⟩

namespace Server

variable (server : Server) (connection : String)

theorem connect_run (before : Progress) :
    outcome (server.connect connection) before =
      let asked : Progress := { before with events := .connected connection :: before.events }
      match server.refusalAfter before.connections with
      | none => (.ok (), asked)
      | some message =>
          let told : LogEntry := ⟨serverLogger, Log.error, "PostgreSQL connection error: " ++ message, none⟩
          (.error message, { asked with log := told :: before.log }) := by
  rw [connect, outcome_bind]
  change outcome (match server.refusalAfter before.connections with
    | none => return
    | some message => do
        note serverLogger Log.error ("PostgreSQL connection error: " ++ message)
        throw message) { before with events := .connected connection :: before.events } = _
  cases server.refusalAfter before.connections <;> rfl

theorem connect_accepted (before : Progress) (accepts : server.refusalAfter before.connections = none) :
    Gives (server.connect connection) before (.ok ()) before.tried (.connected connection :: before.events) := by
  rw [Gives, connect_run, accepts]
  exact ⟨_, rfl⟩

theorem connect_refused (before : Progress) (message : String)
    (refuses : server.refusalAfter before.connections = some message) :
    Gives (server.connect connection) before (.error message) before.tried (.connected connection :: before.events) := by
  rw [Gives, connect_run, refuses]
  exact ⟨_, rfl⟩

def StopsWithin (tried count : Nat) : Prop :=
  ∃ place : Nat, server.failing = some (place : Int) ∧ tried < place ∧ place ≤ tried + count

theorem attempt_cons (statement : Statement.Pieces) (rest : List Statement.Pieces) (before : Progress) :
    (server.attempt (statement :: rest)).run before =
      if server.failing = some ((before.tried + 1 : Nat) : Int) then
        (some server.complaint, { before with tried := before.tried + 1 })
      else (server.attempt rest).run { before with tried := before.tried + 1 } := by
  change ((if server.failing = some ((before.tried + 1 : Nat) : Int) then return some server.complaint
    else server.attempt rest : StateM Progress (Option String)).run { before with tried := before.tried + 1 }) = _
  by_cases fails : server.failing = some ((before.tried + 1 : Nat) : Int)
  · rw [if_pos fails, if_pos fails]
    rfl
  · rw [if_neg fails, if_neg fails]

theorem attempt_whole (statements : List Statement.Pieces) (before : Progress)
    (whole : ¬ server.StopsWithin before.tried statements.length) :
    (server.attempt statements).run before = (none, { before with tried := before.tried + statements.length }) := by
  induction statements generalizing before with
  | nil => rfl
  | cons statement rest ih =>
      rw [List.length_cons] at whole ⊢
      have here : server.failing ≠ some ((before.tried + 1 : Nat) : Int) :=
        fun fails => whole ⟨before.tried + 1, fails, by omega, by omega⟩
      have later : ¬ server.StopsWithin (before.tried + 1) rest.length := by
        intro ⟨place, fails, behind, within⟩
        exact whole ⟨place, fails, by omega, by omega⟩
      rw [attempt_cons, if_neg here, ih _ later, Nat.add_assoc, Nat.add_comm 1]

theorem attempt_stopped (statements : List Statement.Pieces) (before : Progress) (place : Nat)
    (fails : server.failing = some (place : Int)) (behind : before.tried < place)
    (within : place ≤ before.tried + statements.length) :
    (server.attempt statements).run before = (some server.complaint, { before with tried := place }) := by
  induction statements generalizing before with
  | nil =>
      rw [List.length_nil] at within
      omega
  | cons statement rest ih =>
      rw [List.length_cons] at within
      by_cases here : place = before.tried + 1
      · subst here
        rw [attempt_cons, if_pos fails]
      · have apart : server.failing ≠ some ((before.tried + 1 : Nat) : Int) := by
          rw [fails]
          intro same
          have same := Option.some.inj same
          omega
        have next : before.tried + 1 < place := by omega
        have reach : place ≤ before.tried + 1 + rest.length := by omega
        rw [attempt_cons, if_neg apart, ih { before with tried := before.tried + 1 } next reach]

theorem execute_refused (statements : List Statement.Pieces) (before : Progress) (message : String)
    (refuses : server.refusalAfter before.connections = some message) :
    Gives (server.execute connection statements) before (.error message) before.tried (.connected connection :: before.events) :=
  gives_broken _ _ _ _ _ _ (server.connect_refused connection before message refuses)

theorem execute_committed (statements : List Statement.Pieces) (before : Progress)
    (accepts : server.refusalAfter before.connections = none) (whole : ¬ server.StopsWithin before.tried statements.length)
    (commits : server.commitFault = none) :
    Gives (server.execute connection statements) before (.ok none) (before.tried + statements.length)
      (.committed (before.tried + statements.length) :: .connected connection :: before.events) := by
  refine gives_bind _ _ _ _ _ _ _ _ _ (server.connect_accepted connection before accepts) fun log => ?_
  have tries := server.attempt_whole statements ⟨before.tried, .connected connection :: before.events, log⟩ whole
  rw [Gives, outcome_bind, outcome_get]
  simp only [outcome_bind, outcome_lift, tries, commits]
  exact ⟨_, rfl⟩

-- A failed statement and a failed commit are answered alike: all is taken back, and the complaint is handed over.
theorem execute_undone (statements : List Statement.Pieces) (before : Progress) (failed : Option String) (complaint : String)
    (reached : Nat) (accepts : server.refusalAfter before.connections = none)
    (tries : ∀ events log, (server.attempt statements).run ⟨before.tried, events, log⟩ = (failed, ⟨reached, events, log⟩))
    (complains : failed.or server.commitFault = some complaint) :
    Gives (server.execute connection statements) before (.ok (some complaint)) reached
      (.rolledBack reached :: .connected connection :: before.events) := by
  refine gives_bind _ _ _ _ _ _ _ _ _ (server.connect_accepted connection before accepts) fun log => ?_
  rw [Gives, outcome_bind, outcome_get]
  simp only [outcome_bind, outcome_lift, tries, complains]
  exact ⟨_, rfl⟩

theorem tables_refused (schema : String) (before : Progress) (message : String)
    (refuses : server.refusalAfter before.connections = some message) :
    Gives (server.tablesIn connection schema) before (.error message) before.tried (.connected connection :: before.events) :=
  gives_broken _ _ _ _ _ _ (server.connect_refused connection before message refuses)

theorem tables_broken (schema : String) (before : Progress) (message : String)
    (accepts : server.refusalAfter before.connections = none) (broken : server.catalogFault = some message) :
    Gives (server.tablesIn connection schema) before (.error message) before.tried
      (.listed schema :: .connected connection :: before.events) := by
  refine gives_bind _ _ _ _ _ _ _ _ _ (server.connect_accepted connection before accepts) fun log => ⟨log, ?_⟩
  rw [broken]
  rfl

theorem tables_listed (schema : String) (before : Progress) (accepts : server.refusalAfter before.connections = none)
    (works : server.catalogFault = none) :
    Gives (server.tablesIn connection schema) before (.ok server.tables) before.tried
      (.committed before.tried :: .listed schema :: .connected connection :: before.events) := by
  refine gives_bind _ _ _ _ _ _ _ _ _ (server.connect_accepted connection before accepts) fun log => ⟨log, ?_⟩
  rw [works]
  rfl

end Server

end Schematic.Deploy
