import Schematic.Proofs.Service.Stored
import Schematic.Proofs.Store.Transaction

set_option autoImplicit false

namespace Schematic

namespace Service

open Schematic.Action

def rewrite (context : LogContext) (settings : Settings) (id : Int) (schema : Schema) (principal : String) :
    Action (Projection × List Diagnostic) := do
  send (.limitTime settings.store.timeoutMs) (fun tables => tables)
  discard (owned (← DataModels.lock id) id principal)
  let written ← writeProjection context id schema
  DataModels.touch id
  return written

theorem outcome_replace_stored (context : LogContext) (settings : Settings) (id : Int) (schema : Schema) (principal : String)
    (before : World) :
    outcome (replaceStored context settings id schema principal) before =
      outcome (connected (transaction (rewrite context settings id schema principal))) before := rfl

def replacing (id : Int) (principal : String) : LogContext :=
  { dataModelId := .int id, principalId := .str principal, operation := .str "replace_schema" }

def startMark (context : LogContext) (schema : Schema) : LogEntry :=
  context.checkpoint "schema_replace_started" <|
    counts [("entity_count", schema.entities.length), ("relation_count", schema.relations.length)]

def commitMark (context : LogContext) (projection : Projection) (skipped : List Diagnostic) : LogEntry :=
  context.checkpoint "schema_replace_committed" <|
    counts [("entities", projection.entities.length), ("fields", projection.fields.length),
      ("relations", projection.relations.length), ("skipped_relations", skipped.length)]

def unsaved (context : LogContext) (id : Int) (failure : Failure) : Action (Projection × List Diagnostic) :=
  if failure.isService then throw failure
  else do
    note context Log.error ("Schema replace rolled back for data model " ++ toString id ++ ": " ++ failure.message)
    throw (.unsaved id failure)

def save (settings : Settings) (id : Int) (schema : Schema) (principal : String) : Action Saved := do
  Action.note (startMark (replacing id principal) schema)
  let (projection, skipped) ←
    tryCatch (replaceStored (replacing id principal) settings id schema principal) (unsaved (replacing id principal) id)
  Action.note (commitMark (replacing id principal) projection skipped)
  return { projection, schema, skipped }

theorem replace_schema_save (known : Except NumberFault Settings) (id : Int) (text : String) (principal : Option String) :
    replaceSchema known id text principal = (do
      let name ← acting principal
      let settings ← Action.settings known
      if (validate settings text).isValid then save settings id (validate settings text) name
      else throw (.invalid false (validate settings text).errors)) := by
  have recovery : ∀ name : String, (fun failure : Failure => do
      if failure.isService then throw failure
      note (replacing id name) Log.error ("Schema replace rolled back for data model " ++ toString id ++ ": " ++ failure.message)
      throw (.unsaved id failure) : Failure → Action (Projection × List Diagnostic)) = unsaved (replacing id name) id := by
    intro name
    funext failure
    rw [unsaved]
    cases failure.isService <;> rfl
  refine bind_congr fun name => bind_congr fun settings => ?_
  cases valid : (validate settings text).isValid with
  | true =>
      rw [if_pos rfl, save, ← recovery]
      simp only [valid]
      rfl
  | false =>
      simp only [valid]
      rfl

def isSavedMark (entry : LogEntry) : Bool :=
  entry.logger = "checkpoint" && entry.message = "CHECKPOINT: schema_replace_committed"

theorem start_mark (context : LogContext) (schema : Schema) : isSavedMark (startMark context schema) = false := by
  have other : "CHECKPOINT: " ++ "schema_replace_started" ≠ "CHECKPOINT: schema_replace_committed" := by decide
  exact Bool.and_eq_false_iff.mpr (.inr (decide_eq_false other))

theorem commit_mark (context : LogContext) (projection : Projection) (skipped : List Diagnostic) :
    isSavedMark (commitMark context projection skipped) = true := by
  have same : "CHECKPOINT: " ++ "schema_replace_committed" = "CHECKPOINT: schema_replace_committed" := by decide
  exact Bool.and_eq_true_iff.mpr ⟨decide_eq_true rfl, decide_eq_true same⟩

theorem unmarked_entry (entry : LogEntry) (unmarked : Unmarked entry) : isSavedMark entry = false :=
  Bool.and_eq_false_iff.mpr (.inl (decide_eq_false unmarked))

-- What a replacement leaves that was committed, with what it tells of the records it wrote and of the relations it left out.
structure Committed (id : Int) (schema : Schema) (result : Projection × List Diagnostic) (before after : World) : Prop where
  recorded : Recorded id schema result before.tables after.tables
  stamped : after.tables.models = (before.tables.touchModel id).models
  messages : after.tables.messages = before.tables.messages
  ended : ∃ tables fresh, after.happenings =
      ⟨.committed, after.tables⟩ :: ⟨.ran (.touchModel id), tables⟩ :: (fresh ++ before.happenings) ∧
    ∀ happening ∈ fresh, happening.event ≠ .committed
  marked : ∃ mark fresh, after.log = mark :: (fresh ++ before.log) ∧ isSavedMark mark = true ∧
    ∀ entry ∈ fresh, isSavedMark entry = false
  asked : after.asked = before.asked
  still : waiting after = waiting before

theorem Committed.stored {id : Int} {schema : Schema} {result : Projection × List Diagnostic} {before after : World}
    (committed : Committed id schema result before after) : Rewritten id schema.entities before.tables after.tables :=
  recorded_rewritten id schema result _ _ committed.recorded

structure Refused (id : Int) (before : World) (failure : Failure) (after : World) : Prop where
  rows : SameRows after.tables before.tables
  uncommitted : Since (· ≠ .committed) before after
  unmarked : Logged (fun entry => isSavedMark entry = false) before after
  asked : after.asked = before.asked
  grown : before.tables.entities.lastId ≤ after.tables.entities.lastId
  surfaced : waiting after = waiting before ∨ ∃ cause label message others, failure = .unsaved id cause ∧
    cause.root = .storage "RuntimeError" message ∧ ((label, message) :: (others ++ waiting after)).Perm (waiting before) ∧
    (label ≠ "rollback" → others = [])

theorem refused_still (id : Int) (before : World) (failure : Failure) : Refused id before failure before :=
  ⟨same_rows_refl _, since_refl _ _, logged_refl _ _, rfl, Int.le_refl _, .inl rfl⟩

theorem takes_owned (course : Course) (chains : Chains course) (model : Option DataModel) (id : Int) (principal : String) :
    Takes course (owned model id principal) := by
  rw [owned.eq_def]
  split
  · exact takes_throw course chains _
  · split
    · exact takes_pure course chains _
    · exact takes_throw course chains _

theorem takes_acting (course : Course) (chains : Chains course) (principal : Option String) :
    Takes course (acting principal) := by
  rw [acting.eq_def]
  split
  · exact takes_throw course chains _
  · split
    · exact takes_throw course chains _
    · exact takes_pure course chains _

theorem lock_conduct (id : Int) : Takes Conduct (DataModels.lock id) := by
  refine takes_bind Conduct conduct_chains _ _ ?_ fun row => ?_
  · exact naming_conduct _ _ _ _ (by decide) (run_conduct _ _ fun _ => Int.le_refl _)
  · exact takes_option Conduct conduct_chains row _ fun row => takes_record Conduct conduct_chains _ row

theorem touch_conduct (id : Int) : Takes Conduct (DataModels.touch id) :=
  naming_conduct _ _ _ _ (by decide) (run_conduct _ _ fun _ => Int.le_refl _)

theorem rewrite_conduct (context : LogContext) (settings : Settings) (id : Int) (schema : Schema) (principal : String) :
    Takes Conduct (rewrite context settings id schema principal) := by
  refine takes_bind Conduct conduct_chains _ _ (run_conduct _ _ fun _ => Int.le_refl _) fun _ => ?_
  refine takes_bind Conduct conduct_chains _ _ (lock_conduct id) fun model => ?_
  refine takes_bind Conduct conduct_chains _ _ ?_ fun _ => ?_
  · exact takes_map Conduct conduct_chains _ _ (takes_owned Conduct conduct_chains model id principal)
  refine takes_bind Conduct conduct_chains _ _ (write_conduct context id schema) fun written => ?_
  exact takes_bind Conduct conduct_chains _ _ (touch_conduct id) fun _ => takes_pure Conduct conduct_chains _

theorem record_yields {κ α : Type} (table : TableName) (row : Row κ α) (before after : World) (value : α)
    (yields : Yields (recordOf table row) before value after) : row.record = .ok value ∧ after = before := by
  obtain ⟨id, parent, position, record⟩ := row
  cases record with
  | ok found =>
      obtain ⟨rfl, rfl⟩ := (yields_pure found value before after).mp yields
      exact ⟨rfl, rfl⟩
  | error fault => cases fault <;> exact absurd yields (yields_throw _ before after value)

theorem lock_yields (id : Int) (before after : World) (model : Option DataModel)
    (yields : Yields (DataModels.lock id) before model after) : after.tables = before.tables := by
  obtain ⟨row, middle, looked, yields⟩ := (yields_bind _ _ _ _ _).mp yields
  rw [DataModels.naming, yields_naming] at looked
  obtain ⟨-, breakdowns, -, rfl⟩ := yields_run _ _ _ _ _ looked
  cases row with
  | none =>
      obtain ⟨-, rfl⟩ := (yields_pure _ _ _ _).mp yields
      rfl
  | some row =>
      obtain ⟨record, found, -⟩ := (yields_map _ _ _ _ _).mp yields
      obtain ⟨-, rfl⟩ := record_yields _ row _ _ _ found
      rfl

theorem rewrite_yields (context : LogContext) (settings : Settings) (id : Int) (schema : Schema) (principal : String)
    (before after : World) (result : Projection × List Diagnostic)
    (yields : Yields (rewrite context settings id schema principal) before result after) :
    Recorded id schema result before.tables after.tables ∧
      after.tables.models = (before.tables.touchModel id).models ∧ after.tables.messages = before.tables.messages ∧
      ∃ tables fresh, after.happenings = ⟨.ran (.touchModel id), tables⟩ :: (fresh ++ before.happenings) ∧
        ∀ happening ∈ fresh, happening.event ≠ .committed := by
  obtain ⟨_, first, limited, yields⟩ := (yields_bind _ _ _ _ _).mp yields
  obtain ⟨model, second, locked, yields⟩ := (yields_bind _ _ _ _ _).mp yields
  obtain ⟨_, third, checked, yields⟩ := (yields_bind _ _ _ _ _).mp yields
  obtain ⟨written, fourth, wrote, yields⟩ := (yields_bind _ _ _ _ _).mp yields
  obtain ⟨_, fifth, touched, yields⟩ := (yields_bind _ _ _ _ _).mp yields
  obtain ⟨rfl, rfl⟩ := (yields_pure _ _ _ _).mp yields
  obtain ⟨found, mine⟩ := (yields_discard _ _ _ _).mp checked
  obtain rfl := (takes_owned Still still_chains model id principal).1 second found third mine
  have ran : Since (fun event => ∃ command, event = .ran command) before fourth := by
    have begun := ((run_conduct (.limitTime settings.store.timeoutMs) _ fun _ => Int.le_refl _).1 _ _ _ limited).ran
    have held := ((lock_conduct id).1 _ _ _ locked).ran
    have changed := ((write_conduct context id schema).1 _ _ _ wrote).ran
    exact since_trans _ _ _ _ begun (since_trans _ _ _ _ held changed)
  have tables : third.tables = before.tables := by
    rw [lock_yields id first third model locked]
    obtain ⟨-, breakdowns, -, rfl⟩ := yields_run _ _ _ _ _ limited
    rfl
  obtain ⟨stored, models, messages⟩ := write_yields context id schema third fourth result wrote
  rw [tables] at stored models messages
  obtain ⟨fresh, whole, each⟩ := ran
  rw [DataModels.touch, DataModels.naming, yields_naming] at touched
  obtain ⟨-, breakdowns, -, rfl⟩ := yields_run _ _ _ _ _ touched
  refine ⟨recorded_touched id id schema result _ _ stored, ?_, messages, fourth.tables, fresh, by rw [← whole]; rfl, ?_⟩
  · exact congrArg (fun models => (Tables.touchModel id { before.tables with models }).models) models
  intro happening member
  obtain ⟨command, same⟩ := each happening member
  rw [same]
  exact StoreEvent.noConfusion

theorem replace_stored_yields (context : LogContext) (settings : Settings) (id : Int) (schema : Schema) (principal : String)
    (before after : World) (result : Projection × List Diagnostic)
    (yields : Yields (replaceStored context settings id schema principal) before result after) (mark : LogEntry)
    (marked : isSavedMark mark = true) :
    Committed id schema result before { after with log := mark :: after.log } := by
  rw [Yields, outcome_replace_stored, ← Yields] at yields
  obtain ⟨first, connect, yields⟩ := connected_yields _ _ _ _ yields
  obtain ⟨second, middle, last, begun, here, ended, rfl⟩ := transaction_yields _ _ _ _ yields
  have kept := (rewrite_conduct context settings id schema principal).1 _ _ _ here
  obtain ⟨stored, stamped, messages, tables, fresh, whole, each⟩ :=
    rewrite_yields context settings id schema principal _ _ _ here
  obtain ⟨entries, logged, unmarked⟩ := kept.unmarked
  refine ⟨stored, stamped, messages, ⟨tables, fresh ++ [⟨.began, before.tables⟩], ?_, ?_⟩,
    ⟨mark, entries, ?_, marked, ?_⟩, kept.asked, ?_⟩
  · rw [List.append_assoc]
    exact congrArg (List.cons _) whole
  · simpa [or_imp, forall_and] using each
  · exact congrArg (List.cons mark) logged
  · exact fun entry member => unmarked_entry entry (unmarked entry member)
  · rcases kept.honest with same | ⟨told, label, message, others, none, -⟩
    · have opening : waiting (opened { before with breakdowns := first } second) = waiting before := begun.trans connect
      exact ended.trans (same.trans opening)
    · cases none

theorem replace_stored_fails (context : LogContext) (settings : Settings) (id : Int) (schema : Schema) (principal : String)
    (before after : World) (failure : Failure)
    (fails : Fails (replaceStored context settings id schema principal) before failure after) : Undone before failure after := by
  rw [Fails, outcome_replace_stored, ← Fails] at fails
  refine connected_undone _ _ _ _ (fun middle failed => ?_) fails
  exact transaction_undone _ _ _ _ (rewrite_conduct context settings id schema principal) failed

theorem save_yields (settings : Settings) (id : Int) (schema : Schema) (principal : String) (before after : World)
    (saved : Saved) (yields : Yields (save settings id schema principal) before saved after) :
    saved.schema = schema ∧ Committed id schema (saved.projection, saved.skipped) before after := by
  obtain ⟨_, first, started, yields⟩ := (yields_bind _ _ _ _ _).mp yields
  obtain ⟨⟨projection, skipped⟩, second, stored, yields⟩ := (yields_bind _ _ _ _ _).mp yields
  obtain ⟨_, third, told, yields⟩ := (yields_bind _ _ _ _ _).mp yields
  obtain ⟨rfl, rfl⟩ := (yields_pure _ _ _ _).mp yields
  obtain ⟨-, rfl⟩ := Prod.mk.inj started
  obtain ⟨-, rfl⟩ := Prod.mk.inj told
  refine ⟨rfl, ?_⟩
  rcases (yields_try _ _ _ _ _).mp stored with done | ⟨failure, middle, -, recovered⟩
  · have kept := replace_stored_yields _ _ _ _ _ _ _ _ done _ (commit_mark (replacing id principal) projection skipped)
    obtain ⟨mark, fresh, logged, marked, unmarked⟩ := kept.marked
    refine ⟨kept.recorded, kept.stamped, kept.messages, kept.ended,
      ⟨mark, fresh ++ [startMark (replacing id principal) schema], ?_, marked, ?_⟩, kept.asked, kept.still⟩
    · rw [logged, List.append_assoc]
      rfl
    · simpa [or_imp, forall_and, start_mark] using unmarked
  · rw [unsaved] at recovered
    split at recovered
    · exact absurd recovered (yields_throw _ _ _ _)
    · obtain ⟨_, _, -, recovered⟩ := (yields_bind _ _ _ _ _).mp recovered
      exact absurd recovered (yields_throw _ _ _ _)

theorem unsaved_fails (context : LogContext) (id : Int) (before middle after : World) (cause failure : Failure)
    (undone : Undone before cause middle) (fails : Fails (unsaved context id cause) middle failure after) :
    Refused id before failure after := by
  obtain ⟨entries, logged, plain⟩ := undone.unmarked
  have unmarked : ∀ entry ∈ entries, isSavedMark entry = false := fun entry member => unmarked_entry entry (plain entry member)
  rw [unsaved] at fails
  by_cases service : cause.isService = true
  · rw [if_pos service] at fails
    obtain ⟨rfl, rfl⟩ := (fails_throw _ _ _ _).mp fails
    refine ⟨undone.rows, undone.uncommitted, ⟨entries, logged, unmarked⟩, undone.asked, undone.grown, ?_⟩
    rcases undone.honest with same | ⟨told, label, message, others, cause, other, -⟩
    · exact .inl same
    · obtain rfl := Option.some.inj cause
      exact absurd service (by simp [other])
  · rw [if_neg service] at fails
    rcases (fails_bind _ _ _ _ _).mp fails with noted | ⟨_, last, noted, thrown⟩
    · cases (Prod.mk.inj noted).1
    obtain ⟨-, rfl⟩ := Prod.mk.inj noted
    obtain ⟨rfl, rfl⟩ := (fails_throw _ _ _ _).mp thrown
    refine ⟨undone.rows, undone.uncommitted, ?_, undone.asked, undone.grown, ?_⟩
    · refine ⟨context.entry logger Log.error _ :: entries, congrArg (List.cons _) logged, ?_⟩
      intro entry member
      rcases List.mem_cons.mp member with rfl | earlier
      · exact unmarked_entry _ (by decide : logger ≠ "checkpoint")
      · exact unmarked entry earlier
    · rcases undone.honest with same | ⟨told, label, message, others, found, -, root, struck⟩
      · exact .inl same
      · obtain rfl := Option.some.inj found
        exact .inr ⟨cause, label, message, others, rfl, root, struck⟩

theorem save_fails (settings : Settings) (id : Int) (schema : Schema) (principal : String) (before after : World)
    (failure : Failure) (fails : Fails (save settings id schema principal) before failure after) :
    Refused id before failure after := by
  rcases (fails_bind _ _ _ _ _).mp fails with started | ⟨_, first, started, fails⟩
  · cases (Prod.mk.inj started).1
  obtain ⟨-, rfl⟩ := Prod.mk.inj started
  rcases (fails_bind _ _ _ _ _).mp fails with here | ⟨_, second, -, told⟩
  · obtain ⟨cause, middle, failed, recovered⟩ := (fails_try _ _ _ _ _).mp here
    have kept := unsaved_fails _ id _ middle after cause failure (replace_stored_fails _ _ _ _ _ _ _ _ failed) recovered
    refine ⟨kept.rows, kept.uncommitted, ?_, kept.asked, kept.grown, kept.surfaced⟩
    obtain ⟨entries, logged, unmarked⟩ := kept.unmarked
    refine ⟨entries ++ [startMark (replacing id principal) schema], ?_, ?_⟩
    · rw [logged, List.append_assoc]
      rfl
    · simpa [or_imp, forall_and, start_mark] using unmarked
  · rcases (fails_bind _ _ _ _ _).mp told with noted | ⟨_, _, -, returned⟩
    · cases (Prod.mk.inj noted).1
    · exact absurd returned (fails_pure _ _ _ _)

theorem replace_yields (known : Except NumberFault Settings) (id : Int) (text : String) (principal : Option String)
    (before after : World) (saved : Saved) (yields : Yields (replaceSchema known id text principal) before saved after) :
    ∃ settings, known = .ok settings ∧ (validate settings text).isValid = true ∧ saved.schema = validate settings text ∧
      Committed id (validate settings text) (saved.projection, saved.skipped) before after := by
  rw [replace_schema_save] at yields
  obtain ⟨name, first, named, yieldsNamed⟩ := (yields_bind _ _ _ _ _).mp yields
  obtain ⟨settings, second, found, yieldsSave⟩ := (yields_bind _ _ _ _ _).mp yieldsNamed
  obtain rfl := (takes_acting Still still_chains principal).1 _ _ _ named
  obtain rfl := (takes_settings Still still_chains known).1 _ _ _ found
  split at yieldsSave
  · rename_i valid
    obtain ⟨same, committed⟩ := save_yields _ _ _ _ _ _ _ yieldsSave
    refine ⟨settings, ?_, valid, same, committed⟩
    cases known with
    | ok known => exact congrArg _ (Except.ok.inj (Prod.mk.inj found).1)
    | error fault => cases (Prod.mk.inj found).1
  · exact absurd yieldsSave (yields_throw _ _ _ _)

theorem replace_fails (known : Except NumberFault Settings) (id : Int) (text : String) (principal : Option String)
    (before after : World) (failure : Failure) (fails : Fails (replaceSchema known id text principal) before failure after) :
    Refused id before failure after := by
  rw [replace_schema_save] at fails
  rcases (fails_bind _ _ _ _ _).mp fails with unnamed | ⟨name, first, named, failsNamed⟩
  · rw [(takes_acting Still still_chains principal).2 _ _ _ unnamed]
    exact refused_still id before failure
  obtain rfl := (takes_acting Still still_chains principal).1 _ _ _ named
  rcases (fails_bind _ _ _ _ _).mp failsNamed with unknown | ⟨settings, second, found, failsSave⟩
  · rw [(takes_settings Still still_chains known).2 _ _ _ unknown]
    exact refused_still id _ failure
  obtain rfl := (takes_settings Still still_chains known).1 _ _ _ found
  split at failsSave
  · exact save_fails _ _ _ _ _ _ _ failsSave
  · obtain ⟨-, rfl⟩ := (fails_throw _ _ _ _).mp failsSave
    exact refused_still id _ failure

end Service

end Schematic
