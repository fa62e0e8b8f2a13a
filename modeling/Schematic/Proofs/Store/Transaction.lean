import Schematic.Proofs.Store.Conduct

set_option autoImplicit false

namespace Schematic

-- The same rows in all tables; the ids that were given since may differ.
structure SameRows (a b : Tables) : Prop where
  models : a.models.rows = b.models.rows
  entities : a.entities.rows = b.entities.rows
  fields : a.fields.rows = b.fields.rows
  relations : a.relations.rows = b.relations.rows
  messages : a.messages.rows = b.messages.rows

theorem same_rows_refl (tables : Tables) : SameRows tables tables := ⟨rfl, rfl, rfl, rfl, rfl⟩

theorem rollback_rows (tables before : Tables) : SameRows (tables.rollback before) before := ⟨rfl, rfl, rfl, rfl, rfl⟩

namespace Action

variable {α : Type}

def Unmarked (entry : LogEntry) : Prop := entry.logger ≠ "checkpoint"

structure Undone (before : World) (failure : Failure) (after : World) : Prop where
  rows : SameRows after.tables before.tables
  uncommitted : Since (· ≠ .committed) before after
  unmarked : Logged Unmarked before after
  asked : after.asked = before.asked
  grown : before.tables.entities.lastId ≤ after.tables.entities.lastId
  honest : Honest before (some failure) after

-- A breakdown that strikes the rollback after others is the one that is told.
theorem honest_rollback (before middle after : World) (failure : Option Failure) (message : String)
    (honest : Honest before failure middle) (struck : (("rollback", message) :: waiting after).Perm (waiting middle)) :
    Honest before (some (.storage "RuntimeError" message)) after := by
  refine .inr ⟨.storage "RuntimeError" message, "rollback", message, ?_⟩
  rcases honest with same | ⟨told, label, first, others, -, -, -, all, -⟩
  · exact ⟨[], rfl, rfl, rfl, same ▸ struck, fun _ => rfl⟩
  · refine ⟨(label, first) :: others, rfl, rfl, rfl, ?_, fun other => absurd rfl other⟩
    have whole := ((struck.append_left others).cons (label, first)).trans all
    refine List.Perm.trans ?_ whole
    rw [← List.cons_append]
    exact List.perm_middle.symm

theorem honest_still (before middle after : World) (failure : Option Failure) (honest : Honest before failure middle)
    (same : waiting after = waiting middle) : Honest before failure after := by
  rw [Honest, same]
  exact honest

def opened (before : World) (breakdowns : List Breakdown) : World :=
  { before with breakdowns, happenings := ⟨.began, before.tables⟩ :: before.happenings }

def closed (middle : World) (breakdowns : List Breakdown) : World :=
  { middle with breakdowns, happenings := ⟨.committed, middle.tables⟩ :: middle.happenings }

def attempt (work : Action α) : Action α := do
  let value ← work
  risk "commit"
  record .committed
  return value

def undo (tables : Tables) (failure : Failure) : Action α := do
  modify fun world => { world with tables := world.tables.rollback tables }
  risk "rollback"
  record .rolledBack
  throw failure

theorem outcome_transaction (work : Action α) (before : World) :
    outcome (transaction work) before = outcome (do
      risk "begin"
      record .began
      let tables := (← get).tables
      tryCatch (attempt work) (undo tables)) before := rfl

theorem attempt_yields (work : Action α) (before after : World) (value : α) (yields : Yields (attempt work) before value after) :
    ∃ middle breakdowns, Yields work before value middle ∧ breakdowns.map notice = waiting middle ∧
      after = closed middle breakdowns := by
  obtain ⟨found, middle, here, yieldsCommit⟩ := (yields_bind _ _ _ _ _).mp yields
  obtain ⟨_, risked, passed, yieldsRecord⟩ := (yields_bind _ _ _ _ _).mp yieldsCommit
  obtain ⟨breakdowns, kept, rfl⟩ := yields_risk _ _ _ _ passed
  obtain ⟨same, rfl⟩ := Prod.mk.inj yieldsRecord
  obtain rfl := Except.ok.inj same
  exact ⟨middle, breakdowns, here, kept, rfl⟩

theorem attempt_conduct (work : Action α) (before after : World) (failure : Failure) (conduct : Takes Conduct work)
    (fails : Fails (attempt work) before failure after) : Conduct before (some failure) after := by
  rcases (fails_bind _ _ _ _ _).mp fails with here | ⟨value, middle, here, failsCommit⟩
  · exact conduct.2 _ _ _ here
  · have kept := conduct.1 _ _ _ here
    rcases (fails_bind _ _ _ _ _).mp failsCommit with risked | ⟨_, _, _, failsRecord⟩
    · obtain ⟨message, breakdowns, rfl, struck, rfl⟩ := fails_risk _ _ _ _ risked
      refine ⟨kept.ran, kept.unmarked, kept.asked, kept.grown, ?_⟩
      rcases kept.honest with same | ⟨told, label, first, others, none, -⟩
      · exact .inr ⟨_, "commit", message, [], rfl, rfl, rfl, same ▸ struck, fun _ => rfl⟩
      · cases none
    · cases (Prod.mk.inj failsRecord).1

theorem transaction_yields (work : Action α) (before after : World) (value : α)
    (yields : Yields (transaction work) before value after) :
    ∃ breakdowns middle rest, breakdowns.map notice = waiting before ∧
      Yields work (opened before breakdowns) value middle ∧ rest.map notice = waiting middle ∧
      after = closed middle rest := by
  rw [Yields, outcome_transaction, ← Yields, yields_bind] at yields
  obtain ⟨_, risked, passed, yields⟩ := yields
  obtain ⟨_, begun, began, yields⟩ := (yields_bind _ _ _ _ _).mp yields
  obtain ⟨_, found, got, yields⟩ := (yields_bind _ _ _ _ _).mp yields
  obtain ⟨breakdowns, kept, rfl⟩ := yields_risk _ _ _ _ passed
  obtain ⟨-, rfl⟩ := Prod.mk.inj began
  obtain ⟨-, rfl⟩ := Prod.mk.inj got
  rcases (yields_try _ _ _ _ _).mp yields with done | ⟨failure, middle, -, recovered⟩
  · obtain ⟨middle, rest, here, same, ended⟩ := attempt_yields work _ _ _ done
    exact ⟨breakdowns, middle, rest, kept, here, same, ended⟩
  · -- A failure is thrown again once all is undone.
    obtain ⟨_, _, -, recovered⟩ := (yields_bind _ _ _ _ _).mp recovered
    obtain ⟨_, _, -, recovered⟩ := (yields_bind _ _ _ _ _).mp recovered
    obtain ⟨_, _, -, recovered⟩ := (yields_bind _ _ _ _ _).mp recovered
    exact absurd recovered (yields_throw _ _ _ _)

theorem undo_fails (tables : Tables) (cause failure : Failure) (middle after : World)
    (fails : Fails (undo tables cause : Action α) middle failure after) :
    ∃ breakdowns, (failure = cause ∧ breakdowns.map notice = waiting middle ∧ after =
        { middle with
          tables := middle.tables.rollback tables, breakdowns
          happenings := ⟨.rolledBack, middle.tables.rollback tables⟩ :: middle.happenings }) ∨
      ∃ message, failure = .storage "RuntimeError" message ∧
        (("rollback", message) :: breakdowns.map notice).Perm (waiting middle) ∧
        after = { middle with tables := middle.tables.rollback tables, breakdowns } := by
  rcases (fails_bind _ _ _ _ _).mp fails with changed | ⟨_, back, changed, fails⟩
  · cases (Prod.mk.inj changed).1
  obtain ⟨-, rfl⟩ := Prod.mk.inj changed
  rcases (fails_bind _ _ _ _ _).mp fails with risked | ⟨_, _, passed, fails⟩
  · obtain ⟨message, breakdowns, told, struck, rfl⟩ := fails_risk _ _ _ _ risked
    exact ⟨breakdowns, .inr ⟨message, told, struck, rfl⟩⟩
  · obtain ⟨breakdowns, same, rfl⟩ := yields_risk _ _ _ _ passed
    obtain ⟨told, rfl⟩ := Prod.mk.inj fails
    exact ⟨breakdowns, .inl ⟨(Except.error.inj told).symm, same, rfl⟩⟩

theorem risk_undone (label : String) (before after : World) (failure : Failure)
    (fails : Fails (risk label) before failure after) : Undone before failure after := by
  obtain ⟨message, breakdowns, rfl, struck, rfl⟩ := fails_risk label before after failure fails
  exact ⟨same_rows_refl _, ⟨[], rfl, by simp⟩, ⟨[], rfl, by simp⟩, rfl, Int.le_refl _,
    .inr ⟨_, label, message, [], rfl, rfl, rfl, struck, fun _ => rfl⟩⟩

theorem transaction_fails (work : Action α) (before after : World) (failure : Failure)
    (fails : Fails (transaction work) before failure after) :
    Fails (risk "begin") before failure after ∨
      ∃ breakdowns cause middle, breakdowns.map notice = waiting before ∧
        Fails (attempt work) (opened before breakdowns) cause middle ∧
        Fails (undo before.tables cause : Action α) middle failure after := by
  rw [Fails, outcome_transaction, ← Fails, fails_bind] at fails
  rcases fails with risked | ⟨_, _, passed, fails⟩
  · exact .inl risked
  obtain ⟨breakdowns, same, rfl⟩ := yields_risk _ _ _ _ passed
  rcases (fails_bind _ _ _ _ _).mp fails with began | ⟨_, begun, began, fails⟩
  · cases (Prod.mk.inj began).1
  rcases (fails_bind _ _ _ _ _).mp fails with got | ⟨_, found, got, fails⟩
  · cases (Prod.mk.inj got).1
  obtain ⟨-, rfl⟩ := Prod.mk.inj began
  obtain ⟨first, rfl⟩ := Prod.mk.inj got
  obtain rfl := Except.ok.inj first
  obtain ⟨cause, middle, failed, undone⟩ := (fails_try _ _ _ _ _).mp fails
  exact .inr ⟨breakdowns, cause, middle, same, failed, undone⟩

theorem transaction_undone (work : Action α) (before after : World) (failure : Failure) (conduct : Takes Conduct work)
    (fails : Fails (transaction work) before failure after) : Undone before failure after := by
  rcases transaction_fails work before after failure fails with risked | ⟨breakdowns, cause, middle, same, failed, undone⟩
  · exact risk_undone "begin" before after failure risked
  have kept : Conduct (opened before breakdowns) (some cause) middle := attempt_conduct work _ _ _ conduct failed
  have began : Since (· ≠ .committed) before (opened before breakdowns) := ⟨[⟨.began, before.tables⟩], rfl, by simp⟩
  have ran : Since (· ≠ .committed) (opened before breakdowns) middle := by
    refine since_mono _ _ _ _ ?_ kept.ran
    rintro _ ⟨command, rfl⟩
    exact StoreEvent.noConfusion
  have honest : Honest before (some cause) middle := by
    have start : waiting (opened before breakdowns) = waiting before := same
    rw [Honest, ← start]
    exact kept.honest
  obtain ⟨last, ⟨rfl, still, rfl⟩ | ⟨message, rfl, struck, rfl⟩⟩ := undo_fails _ _ _ _ _ undone
  · obtain ⟨fresh, whole, each⟩ := since_trans _ _ _ _ began ran
    refine ⟨rollback_rows _ _, ?_, kept.unmarked, kept.asked, kept.grown, honest_still _ _ _ _ honest still⟩
    refine ⟨⟨.rolledBack, _⟩ :: fresh, by rw [whole]; rfl, ?_⟩
    simpa using each
  · exact ⟨rollback_rows _ _, since_trans _ _ _ _ began ran, kept.unmarked, kept.asked, kept.grown,
      honest_rollback _ _ _ _ message honest struck⟩

theorem connected_yields (work : Action α) (before after : World) (value : α)
    (yields : Yields (connected work) before value after) :
    ∃ breakdowns, breakdowns.map notice = waiting before ∧ Yields work { before with breakdowns } value after := by
  obtain ⟨_, middle, passed, here⟩ := (yields_bind _ _ _ _ _).mp yields
  obtain ⟨breakdowns, same, rfl⟩ := yields_risk _ _ _ _ passed
  exact ⟨breakdowns, same, here⟩

theorem connected_undone (work : Action α) (before after : World) (failure : Failure)
    (undone : ∀ middle, Fails work middle failure after → Undone middle failure after)
    (fails : Fails (connected work) before failure after) : Undone before failure after := by
  rcases (fails_bind _ _ _ _ _).mp fails with risked | ⟨_, middle, passed, here⟩
  · exact risk_undone "connect" before after failure risked
  · obtain ⟨breakdowns, same, rfl⟩ := yields_risk _ _ _ _ passed
    have kept := undone _ here
    refine ⟨kept.rows, kept.uncommitted, kept.unmarked, kept.asked, kept.grown, ?_⟩
    have start : waiting { before with breakdowns } = waiting before := same
    rw [Honest, ← start]
    exact kept.honest

end Action

end Schematic
