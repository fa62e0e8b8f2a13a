import Schematic.Proofs.Service.Reading

set_option autoImplicit false

namespace Schematic

namespace Action

variable {α : Type}

-- Messages stay as they are, and so does the id that was given to the last of them.
def Silent : Course := fun before _ after => after.tables.messages = before.tables.messages

theorem silent_chains : Chains Silent where
  still _ _ := rfl
  after _ _ _ _ first second := second.trans first

theorem silent_risk (label : String) : Takes Silent (risk label) := by
  constructor
  · intro before value after yields
    obtain ⟨breakdowns, -, rfl⟩ := yields_risk _ _ _ _ yields
    rfl
  · intro before failure after fails
    obtain ⟨message, breakdowns, -, -, rfl⟩ := fails_risk _ _ _ _ fails
    rfl

theorem silent_run (command : Command) (effect : Tables → α × Tables)
    (spares : ∀ tables, (effect tables).2.messages = tables.messages) : Takes Silent (run command effect) := by
  constructor
  · intro before value after yields
    obtain ⟨-, breakdowns, -, rfl⟩ := yields_run _ _ _ _ _ yields
    exact spares before.tables
  · intro before failure after fails
    obtain ⟨message, breakdowns, -, -, rfl⟩ := fails_run _ _ _ _ _ fails
    rfl

theorem silent_modify (change : World → World) (spares : ∀ world, (change world).tables.messages = world.tables.messages) :
    Takes Silent (modify change) := by
  constructor
  · intro before value after yields
    obtain ⟨-, rfl⟩ := Prod.mk.inj yields
    exact spares before
  · intro before failure after fails
    cases (Prod.mk.inj fails).1

theorem silent_note (entry : LogEntry) : Takes Silent (note entry) := silent_modify _ fun _ => rfl

theorem silent_transaction (work : Action α) (silent : Takes Silent work) : Takes Silent (transaction work) := by
  have attempted : Takes Silent (attempt work) := by
    apply takes_bind _ silent_chains _ _ silent
    intro value
    apply takes_bind _ silent_chains _ _ (silent_risk "commit")
    intro _
    exact takes_bind _ silent_chains _ _ (silent_modify _ fun _ => rfl) fun _ => takes_pure _ silent_chains value
  constructor
  · intro before value after yields
    obtain ⟨breakdowns, middle, rest, -, here, -, rfl⟩ := transaction_yields _ _ _ _ yields
    have kept : Silent (opened before breakdowns) none middle := silent.1 _ _ _ here
    exact kept
  · intro before failure after fails
    cases transaction_fails _ _ _ _ fails with
    | inl risked => exact (silent_risk "begin").2 _ _ _ risked
    | inr failed =>
        obtain ⟨breakdowns, cause, middle, -, here, undone⟩ := failed
        have kept : Silent (opened before breakdowns) (some cause) middle := attempted.2 _ _ _ here
        -- What is put back is what was there.
        obtain ⟨last, undo⟩ := undo_fails _ _ _ _ _ undone
        cases undo with
        | inl told =>
            obtain ⟨-, -, rfl⟩ := told
            exact congrArg (Table.rollback · before.tables.messages) kept
        | inr struck =>
            obtain ⟨message, -, -, rfl⟩ := struck
            exact congrArg (Table.rollback · before.tables.messages) kept

theorem silent_spans : Spans Silent where
  chains := silent_chains
  caught _ _ _ _ _ first second := second.trans first
  risk := silent_risk
  note := silent_note
  look _ command _ _ := silent_run command _ fun _ => rfl
  insertModel _ := silent_run _ _ fun _ => rfl
  transaction _ work silent := silent_transaction work silent

theorem silent_outcome (work : Action α) (silent : Takes Silent work) (before : World) :
    (outcome work before).2.tables.messages = before.tables.messages := by
  rcases outcome_cases work before with ⟨value, after, yields⟩ | ⟨failure, after, fails⟩
  · rw [yields]
    exact silent.1 before value after yields
  · rw [fails]
    exact silent.2 before failure after fails

end Action

namespace Service

open Schematic.Action

theorem delete_silent (id : Int) : Takes Silent (Projections.delete id) := by
  apply serves_naming _ silent_spans.toServes
  apply takes_bind _ silent_chains _ _ (silent_run _ _ fun _ => rfl)
  intro relations
  apply takes_bind _ silent_chains _ _ (silent_run _ _ fun _ => rfl)
  intro fields
  apply takes_bind _ silent_chains _ _ (silent_run _ _ fun _ => rfl)
  exact fun entities => takes_pure _ silent_chains _

theorem save_field_silent (entityId : Int) (field : Field) (position : Nat) :
    Takes Silent (saveField entityId field position) := by
  apply takes_bind _ silent_chains _ _ (takes_checked _ silent_chains _ _)
  exact fun record => serves_naming _ silent_spans.toServes _ _ _ _ (silent_run _ _ fun _ => rfl)

theorem save_entity_silent (dataModelId : Int) (entity : Entity) (position : Nat) :
    Takes Silent (saveEntity dataModelId entity position) := by
  apply takes_bind _ silent_chains _ _ (takes_checked _ silent_chains _ _)
  intro record
  apply takes_bind _ silent_chains _ _ (serves_naming _ silent_spans.toServes _ _ _ _ (silent_run _ _ fun _ => rfl))
  intro stored
  apply takes_bind _ silent_chains
  · exact takes_list _ silent_chains _ _ fun place _ => save_field_silent _ place.1 place.2
  · exact fun fields => takes_pure _ silent_chains _

theorem save_relation_silent (context : LogContext) (dataModelId : Int) (schema : Schema) (stored : List StoredEntity)
    (relation : Relation) : Takes Silent (saveRelation context dataModelId schema stored relation) := by
  rw [saveRelation]
  cases ends? stored relation with
  | none => exact takes_bind _ silent_chains _ _ (silent_note _) fun _ => takes_pure _ silent_chains _
  | some ends =>
      apply takes_bind _ silent_chains _ _ (takes_checked _ silent_chains _ _)
      intro record
      apply takes_bind _ silent_chains _ _ (serves_naming _ silent_spans.toServes _ _ _ _ (silent_run _ _ fun _ => rfl))
      exact fun stored => takes_pure _ silent_chains _

theorem write_silent (context : LogContext) (dataModelId : Int) (schema : Schema) :
    Takes Silent (writeProjection context dataModelId schema) := by
  apply takes_bind _ silent_chains _ _ (takes_map _ silent_chains _ _ (delete_silent dataModelId))
  intro _
  apply takes_bind _ silent_chains
  · exact takes_list _ silent_chains _ _ fun place _ => save_entity_silent dataModelId place.1 place.2
  intro stored
  apply takes_bind _ silent_chains
  · exact takes_list _ silent_chains _ _ fun relation _ => save_relation_silent context dataModelId schema stored relation
  · exact fun outcomes => takes_pure _ silent_chains _

theorem rewrite_silent (context : LogContext) (settings : Settings) (id : Int) (schema : Schema) (principal : String) :
    Takes Silent (rewrite context settings id schema principal) := by
  apply takes_bind _ silent_chains _ _ (silent_run _ _ fun _ => rfl)
  intro _
  apply takes_bind _ silent_chains _ _ (lock_takes _ silent_spans.toServes id)
  intro model
  apply takes_bind _ silent_chains _ _ (takes_map _ silent_chains _ _ (takes_owned _ silent_chains model id principal))
  intro _
  apply takes_bind _ silent_chains _ _ (write_silent context id schema)
  intro written
  apply takes_bind _ silent_chains _ _ (serves_naming _ silent_spans.toServes _ _ _ _ (silent_run _ _ fun _ => rfl))
  exact fun _ => takes_pure _ silent_chains written

theorem save_silent (settings : Settings) (id : Int) (schema : Schema) (principal : String) :
    Takes Silent (save settings id schema principal) := by
  have stored : Takes Silent (replaceStored (replacing id principal) settings id schema principal) :=
    serves_connected _ silent_spans.toServes _ (silent_transaction _ (rewrite_silent _ settings id schema principal))
  have recovered : ∀ failure, Takes Silent (unsaved (replacing id principal) id failure) := by
    intro failure
    rw [unsaved]
    split
    · exact takes_throw _ silent_chains _
    · exact takes_bind _ silent_chains _ _ (silent_note _) fun _ => takes_throw _ silent_chains _
  apply takes_bind _ silent_chains _ _ (silent_note _)
  intro _
  apply takes_bind _ silent_chains _ _ (serves_try _ silent_spans.toServes _ _ stored recovered)
  intro result
  exact takes_bind _ silent_chains _ _ (silent_note _) fun _ => takes_pure _ silent_chains _

theorem replace_silent (known : Except NumberFault Settings) (id : Int) (text : String) (principal : Option String) :
    Takes Silent (replaceSchema known id text principal) := by
  rw [replace_schema_save]
  apply takes_bind _ silent_chains _ _ (takes_acting _ silent_chains principal)
  intro name
  apply takes_bind _ silent_chains _ _ (takes_settings _ silent_chains known)
  intro settings
  split
  · exact save_silent settings id _ name
  · exact takes_throw _ silent_chains _

end Service

end Schematic
