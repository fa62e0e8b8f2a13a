import Schematic.Proofs.Store.Transaction

set_option autoImplicit false

namespace Schematic

def Failure.Oversized (failure : Failure) : Prop :=
  ∃ table complaints, failure = .refused table complaints ∧ complaints ≠ [] ∧
    ∀ complaint ∈ complaints, complaint.refusal = .stringTooLong

namespace Action

variable {α β : Type}

def Calm (world : World) : Prop := world.breakdowns = []

-- Work succeeds in a world if it stays within some limits, and else it is refused.
def Settles (limits : Prop) (work : Action α) (before : World) : Prop :=
  (limits → ∃ value after, Yields work before value after ∧ Calm after) ∧
    (¬ limits → ∃ failure after, Fails work before failure after ∧ failure.Oversized ∧ Calm after)

def Spared (limits : Prop) (work : Action α) : Prop := ∀ before, Calm before → Settles limits work before

theorem calm_risk (label : String) (before : World) (calm : Calm before) : Yields (risk label) before () before := by
  have found : strike label before.breakdowns = (none, before.breakdowns) := by
    rw [calm]
    rfl
  exact outcome_risk label before none _ found

theorem calm_run (command : Command) (effect : Tables → α × Tables) (before : World) (calm : Calm before) :
    Yields (run command effect) before (effect before.tables).1
      { sent command before with tables := (effect before.tables).2 } := by
  have none : waiting before = [] := by
    rw [waiting, calm]
    rfl
  obtain ⟨breakdowns, ⟨ran, same⟩ | ⟨message, -, struck⟩⟩ := run_cases command effect before
  · rw [none, List.map_eq_nil_iff] at same
    rw [same, ← calm] at ran
    exact ran
  · rw [none] at struck
    exact absurd struck.length_eq (by simp)

theorem calm_look_up_to (limit : Int) (command : Command) (view : Tables → List α) (before : World) (calm : Calm before)
    (room : 0 ≤ limit) :
    Yields (lookUpTo limit command view) before ((view before.tables).take limit.toNat) (sent command before) := by
  refine (yields_bind _ _ _ _ _).mpr ⟨_, _, calm_run command _ before calm, ?_⟩
  rw [if_neg (Int.not_lt.mpr room)]
  rfl

theorem calm_connected (work : Action α) (before : World) (calm : Calm before) :
    outcome (connected work) before = outcome work before :=
  outcome_after _ _ before before () (calm_risk "connect" before calm)

theorem calm_transaction (work : Action α) (before : World) (calm : Calm before) :
    outcome (transaction work) before =
      outcome (tryCatch (attempt work) (undo before.tables)) (opened before before.breakdowns) := by
  rw [outcome_transaction, outcome_after _ _ _ _ _ (calm_risk "begin" before calm)]
  rfl

theorem calm_committed (work : Action α) (before middle : World) (value : α) (start : Calm before) (calm : Calm middle)
    (yields : Yields work (opened before before.breakdowns) value middle) :
    Yields (transaction work) before value (closed middle middle.breakdowns) := by
  rw [Yields, calm_transaction work before start]
  apply outcome_kept
  rw [Yields, attempt, outcome_after _ _ _ _ _ yields, outcome_after _ _ _ _ _ (calm_risk "commit" middle calm)]
  rfl

theorem calm_undone (work : Action α) (before middle : World) (failure : Failure) (start : Calm before) (calm : Calm middle)
    (fails : Fails work (opened before before.breakdowns) failure middle) :
    ∃ after, Fails (transaction work) before failure after ∧ Calm after ∧ after.asked = middle.asked ∧
      after.tables = middle.tables.rollback before.tables := by
  have failed : Fails (attempt work) (opened before before.breakdowns) failure middle := outcome_failed _ _ _ _ _ fails
  have back : Calm { middle with tables := middle.tables.rollback before.tables } := calm
  have ends : Fails (transaction work) before failure
      { middle with
        tables := middle.tables.rollback before.tables
        happenings := ⟨.rolledBack, middle.tables.rollback before.tables⟩ :: middle.happenings } := by
    rw [Fails, calm_transaction work before start, outcome_recovered _ _ _ _ _ failed]
    exact outcome_after _ _ _ _ _ (calm_risk "rollback" _ back)
  exact ⟨_, ends, calm, rfl, rfl⟩

theorem spared_pure (value : α) : Spared True (pure value : Action α) := by
  intro before calm
  exact ⟨fun _ => ⟨value, before, rfl, calm⟩, fun never => absurd trivial never⟩

theorem spared_of (limits other : Prop) (work : Action α) (same : limits ↔ other) (spared : Spared limits work) :
    Spared other work := by
  rw [propext same.symm]
  exact spared

-- The limits of later work may rest on what earlier work has found.
theorem spared_bind (first second : Prop) (work : Action α) (next : α → Action β) (start : Spared first work)
    (rest : ∀ before value after, Yields work before value after → Spared second (next value)) :
    Spared (first ∧ second) (work >>= next) := by
  intro before calm
  obtain ⟨succeeds, refused⟩ := start before calm
  constructor
  · intro within
    obtain ⟨found, middle, here, still⟩ := succeeds within.1
    obtain ⟨value, after, later, last⟩ := (rest before found middle here middle still).1 within.2
    exact ⟨value, after, (yields_bind _ _ _ _ _).mpr ⟨found, middle, here, later⟩, last⟩
  · intro outside
    by_cases within : first
    · obtain ⟨found, middle, here, still⟩ := succeeds within
      obtain ⟨failure, after, later, told, last⟩ :=
        (rest before found middle here middle still).2 fun also => outside ⟨within, also⟩
      exact ⟨failure, after, (fails_bind _ _ _ _ _).mpr (.inr ⟨found, middle, here, later⟩), told, last⟩
    · obtain ⟨failure, after, here, told, last⟩ := refused within
      exact ⟨failure, after, (fails_bind _ _ _ _ _).mpr (.inl here), told, last⟩

theorem spared_then (limits : Prop) (work : Action α) (next : α → Action β) (start : Spared limits work)
    (rest : ∀ value, Spared True (next value)) : Spared limits (work >>= next) :=
  spared_of _ _ _ (by simp) (spared_bind limits True work next start fun _ value _ _ => rest value)

theorem spared_after (limits : Prop) (work : Action α) (next : α → Action β) (start : Spared True work)
    (rest : ∀ before value after, Yields work before value after → Spared limits (next value)) : Spared limits (work >>= next) :=
  spared_of _ _ _ (by simp) (spared_bind True limits work next start rest)

theorem spared_discard (limits : Prop) (work : Action α) (spared : Spared limits work) :
    Spared limits (discard work : Action PUnit) := by
  have parts : (discard work : Action PUnit) = work >>= fun _ => pure PUnit.unit := map_eq_pure_bind _ work
  rw [parts]
  exact spared_then limits work _ spared fun _ => spared_pure _

theorem spared_run (command : Command) (effect : Tables → α × Tables) : Spared True (run command effect) := by
  intro before calm
  exact ⟨fun _ => ⟨_, _, calm_run command effect before calm, calm⟩, fun never => absurd trivial never⟩

theorem spared_note (entry : LogEntry) : Spared True (note entry) := by
  intro before calm
  exact ⟨fun _ => ⟨(), _, rfl, calm⟩, fun never => absurd trivial never⟩

theorem spared_naming (logger operation : String) (subject : Option String) (work : Action α) (spared : Spared True work) :
    Spared True (naming logger operation subject work) := by
  intro before calm
  obtain ⟨value, after, yields, last⟩ := (spared before calm).1 trivial
  exact ⟨fun _ => ⟨value, after, (yields_naming _ _ _ _ _ _ _).mpr yields, last⟩, fun never => absurd trivial never⟩

theorem spared_list (limits : α → Prop) (work : α → Action β) (items : List α)
    (each : ∀ item ∈ items, Spared (limits item) (work item)) : Spared (∀ item ∈ items, limits item) (items.mapM work) := by
  induction items with
  | nil =>
      rw [List.mapM_nil]
      exact spared_of _ _ _ (by simp) (spared_pure [])
  | cons item items ih =>
      rw [List.mapM_cons]
      apply spared_of _ _ _ List.forall_mem_cons.symm
      apply spared_bind _ _ _ _ (each item List.mem_cons_self)
      intro _ value _ _
      apply spared_then _ _ _ (ih fun other member => each other (List.mem_cons_of_mem _ member))
      exact fun values => spared_pure (value :: values)

theorem spared_checked (limits : Prop) (table : TableName) (value : Checked α) (fits : limits → ∃ found, value = .ok found)
    (exceeds : ¬ limits → ∃ complaints, value = .refused complaints ∧ complaints ≠ [] ∧
      ∀ complaint ∈ complaints, complaint.refusal = .stringTooLong) : Spared limits (checked table value) := by
  intro before calm
  constructor
  · intro within
    obtain ⟨found, rfl⟩ := fits within
    exact ⟨found, before, rfl, calm⟩
  · intro outside
    obtain ⟨complaints, rfl, some, long⟩ := exceeds outside
    exact ⟨_, before, rfl, ⟨table, complaints, rfl, some, long⟩, calm⟩

theorem settles_connected (limits : Prop) (work : Action α) (before : World) (calm : Calm before)
    (settles : Settles limits work before) : Settles limits (connected work) before := by
  simp only [Settles, Yields, Fails, calm_connected work before calm]
  exact settles

theorem settles_transaction (limits : Prop) (work : Action α) (before : World) (calm : Calm before)
    (settles : Settles limits work (opened before before.breakdowns)) : Settles limits (transaction work) before := by
  obtain ⟨succeeds, refused⟩ := settles
  constructor
  · intro within
    obtain ⟨value, middle, here, still⟩ := succeeds within
    exact ⟨value, _, calm_committed work before middle value calm still here, still⟩
  · intro outside
    obtain ⟨failure, middle, here, told, still⟩ := refused outside
    obtain ⟨after, fails, last, -⟩ := calm_undone work before middle failure calm still here
    exact ⟨failure, after, fails, told, last⟩

theorem settles_after (limits : Prop) (work : Action α) (next : α → Action β) (before middle : World) (value : α)
    (yields : Yields work before value middle) (settles : Settles limits (next value) middle) :
    Settles limits (work >>= next) before := by
  simp only [Settles, Yields, Fails, outcome_after _ _ _ _ _ yields]
  exact settles

end Action

end Schematic
