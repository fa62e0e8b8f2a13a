import Schematic.Proofs.Service.Denial
import Schematic.Proofs.Service.Loading
import Schematic.Proofs.Store.Telling

set_option autoImplicit false

namespace Schematic

-- Failures that clients hear of, and failures that stay within the service.
def Spoken (failure : Failure) : Prop := failure.isService = true

def Private (failure : Failure) : Prop := failure.isService = false

def Unsaved (id : Int) (failure : Failure) : Prop := Denies id failure ∨ ∃ cause, failure = .unsaved id cause

theorem denies_spoken (id : Int) (failure : Failure) (denies : Denies id failure) : Spoken failure := by
  rcases denies with rfl | rfl | rfl <;> rfl

theorem unsaved_spoken (id : Int) (failure : Failure) (unsaved : Unsaved id failure) : Spoken failure := by
  rcases unsaved with denies | ⟨cause, rfl⟩
  · exact denies_spoken id failure denies
  · rfl

namespace Service

open Schematic.Action

variable {α : Type}

theorem persisting_tells (task : Task) (work : Action α) : Tells Spoken (persisting task work) := by
  refine tells_try Spoken (fun _ => True) _ _ (fun _ _ _ _ => trivial) fun failure _ => ?_
  cases service : failure.isService with
  | true =>
      refine tells_bind Spoken _ _ (tells_throw Spoken _ service) fun _ => ?_
      exact tells_bind Spoken _ _ (tells_note Spoken _) fun _ => tells_throw Spoken _ rfl
  | false => exact tells_bind Spoken _ _ (tells_note Spoken _) fun _ => tells_throw Spoken _ rfl

theorem acting_tells (id : Int) (principal : Option String) : Tells (Denies id) (acting principal) := by
  have nobody : Tells (Denies id) (throw .unauthenticated : Action String) := tells_throw _ _ (.inl rfl)
  cases principal with
  | none => exact nobody
  | some name =>
      rw [acting]
      split
      · exact nobody
      · exact tells_pure _ name

theorem owned_tells (model : Option DataModel) (id : Int) (principal : String) : Tells (Denies id) (owned model id principal) := by
  cases model with
  | none => exact tells_throw _ _ (.inr (.inl rfl))
  | some model =>
      rw [owned]
      split
      · exact tells_pure _ model
      · exact tells_throw _ _ (.inr (.inr rfl))

theorem get_tells (id : Int) (principal : Option String) : Tells Spoken (getModel id principal) := by
  refine tells_bind Spoken _ _ (tells_wider _ _ _ (denies_spoken id) (acting_tells id principal)) fun name => ?_
  refine tells_bind Spoken _ _ (persisting_tells _ _) fun model => ?_
  exact tells_wider _ _ _ (denies_spoken id) (owned_tells model id name)

theorem list_tells (principal : Option String) : Tells Spoken (listModels principal) :=
  tells_bind Spoken _ _ (tells_wider _ _ _ (denies_spoken 0) (acting_tells 0 principal)) fun _ => persisting_tells _ _

theorem chat_tells (settings : Settings) (id : Int) (principal : Option String) :
    Tells Spoken (chatHistory (.ok settings) id principal) := by
  refine tells_bind Spoken _ _ (tells_map Spoken _ _ (get_tells id principal)) fun _ => ?_
  exact tells_bind Spoken _ _ (tells_pure Spoken settings) fun _ => persisting_tells _ _

theorem record_message_tells (id : Int) (sender : Sender) (content : String) (schemaText : Option String) :
    Tells Spoken (recordMessage id sender content schemaText) := tells_map Spoken _ _ (persisting_tells _ _)

theorem record_of_tells {κ : Type} (table : TableName) (row : Row κ α) : Tells Private (recordOf table row) := by
  obtain ⟨id, parent, position, record⟩ := row
  cases record with
  | ok value => exact tells_pure Private value
  | error fault => cases fault <;> exact tells_throw Private _ rfl

theorem named_tells (operation subject : String) (work : Action α) :
    Tells Private (Projections.naming operation subject work) :=
  tells_naming Private _ _ _ _ fun _ _ _ => rfl

theorem write_tells (context : LogContext) (dataModelId : Int) (schema : Schema) :
    Tells Private (writeProjection context dataModelId schema) := by
  refine tells_bind Private _ _ (tells_map Private _ _ (named_tells _ _ _)) fun _ => ?_
  refine tells_bind Private _ _ (tells_list Private _ _ fun place _ => ?_) fun stored => ?_
  · refine tells_bind Private _ _ (tells_checked Private _ _ fun _ => rfl) fun record => ?_
    refine tells_bind Private _ _ (named_tells _ _ _) fun record => ?_
    refine tells_bind Private _ _ (tells_list Private _ _ fun field _ => ?_) fun fields => tells_pure Private _
    exact tells_bind Private _ _ (tells_checked Private _ _ fun _ => rfl) fun record => named_tells _ _ _
  · refine tells_bind Private _ _ (tells_list Private _ _ fun relation _ => ?_) fun outcomes => tells_pure Private _
    rw [saveRelation]
    split
    · exact tells_bind Private _ _ (tells_note Private _) fun _ => tells_pure Private _
    · refine tells_bind Private _ _ (tells_checked Private _ _ fun _ => rfl) fun record => ?_
      exact tells_bind Private _ _ (named_tells _ _ _) fun record => tells_pure Private _

theorem rewrite_tells (context : LogContext) (settings : Settings) (id : Int) (schema : Schema) (principal : String) :
    Tells (fun failure => Denies id failure ∨ Private failure) (rewrite context settings id schema principal) := by
  have hidden : ∀ {β : Type} (work : Action β), Tells Private work → Tells (fun failure => Denies id failure ∨ Private failure) work :=
    fun work tells => tells_wider _ _ work (fun _ => .inr) tells
  refine tells_bind _ _ _ (hidden _ (tells_run Private _ _ fun _ => rfl)) fun _ => ?_
  refine tells_bind _ _ _ (hidden _ ?_) fun model => ?_
  · refine tells_bind Private _ _ (tells_naming Private _ _ _ _ fun _ _ _ => rfl) fun row => ?_
    cases row with
    | none => exact tells_pure Private none
    | some row => exact tells_map Private _ _ (record_of_tells _ row)
  refine tells_bind _ _ _ (tells_map _ _ _ (tells_wider _ _ _ (fun _ => .inl) (owned_tells model id principal))) fun _ => ?_
  refine tells_bind _ _ _ (hidden _ (write_tells context id schema)) fun written => ?_
  exact tells_bind _ _ _ (hidden _ (tells_naming Private _ _ _ _ fun _ _ _ => rfl)) fun _ => tells_pure _ written

theorem save_tells (settings : Settings) (id : Int) (schema : Schema) (principal : String) :
    Tells (Unsaved id) (save settings id schema principal) := by
  refine tells_bind _ _ _ (tells_note _ _) fun _ => ?_
  refine tells_bind _ _ _ ?_ fun result => tells_bind _ _ _ (tells_note _ _) fun _ => tells_pure _ _
  refine tells_try _ (fun failure => Denies id failure ∨ Private failure) _ _ ?_ fun failure told => ?_
  · have struck : ∀ message, Denies id (.storage "RuntimeError" message) ∨ Private (.storage "RuntimeError" message) :=
      fun _ => .inr rfl
    exact tells_connected _ _ struck (tells_transaction _ _ struck (rewrite_tells _ settings id schema principal))
  · rw [unsaved]
    split
    · rename_i service
      rcases told with denies | hidden
      · exact tells_throw _ _ (.inl denies)
      · exact absurd (service.symm.trans hidden) (by decide)
    · exact tells_bind _ _ _ (tells_note _ _) fun _ => tells_throw _ _ (.inr ⟨_, rfl⟩)

theorem replace_tells (settings : Settings) (id : Int) (text : String) (principal : Option String) :
    Tells (fun failure => Unsaved id failure ∨ (validate settings text).isValid = false ∧
      failure = .invalid false (validate settings text).errors) (replaceSchema (.ok settings) id text principal) := by
  rw [replace_schema_save]
  refine tells_bind _ _ _ (tells_wider _ _ _ (fun _ denies => .inl (.inl denies)) (acting_tells id principal)) fun name => ?_
  simp only [Action.settings, pure_bind]
  split
  · exact tells_wider _ _ _ (fun _ => .inl) (save_tells settings id _ name)
  · rename_i wrong
    exact tells_throw _ _ (.inr ⟨by simpa using wrong, rfl⟩)

theorem replace_spoken (settings : Settings) (id : Int) (text : String) (principal : Option String) :
    Tells Spoken (replaceSchema (.ok settings) id text principal) := by
  refine tells_wider _ _ _ (fun failure told => ?_) (replace_tells settings id text principal)
  rcases told with unsaved | ⟨-, rfl⟩
  · exact unsaved_spoken id failure unsaved
  · rfl

theorem undrafted_tells (id : Int) (failure : Failure) : Tells Spoken (undrafted id failure) := by
  refine tells_bind Spoken _ _ (tells_note Spoken _) fun _ => ?_
  exact tells_bind Spoken _ _ (record_message_tells _ _ _ _) fun _ => tells_throw Spoken _ rfl

theorem applied_tells (settings : Settings) (id : Int) (principal : Option String) (text : String) (schema : Schema) :
    Tells Spoken (applied (.ok settings) id principal text schema) := by
  rw [applied]
  split
  · refine tells_bind Spoken _ _ ?_ fun saved => ?_
    · refine tells_try Spoken Spoken _ _ (replace_spoken settings id text principal) fun failure service => ?_
      rw [unapplied, if_pos (show failure.isService = true from service)]
      exact tells_bind Spoken _ _ (record_message_tells _ _ _ _) fun _ => tells_throw Spoken _ service
    · exact tells_bind Spoken _ _ (record_message_tells _ _ _ _) fun _ => tells_pure Spoken saved
  · exact tells_bind Spoken _ _ (record_message_tells _ _ _ _) fun _ => tells_throw Spoken _ rfl

def loaded (id : Int) (principal : Option String) : Action Projection := do
  discard (getModel id principal)
  persisting .loadSchema (Projections.load id)

theorem loaded_tells (id : Int) (principal : Option String) : Tells Spoken (loaded id principal) :=
  tells_bind Spoken _ _ (tells_map Spoken _ _ (get_tells id principal)) fun _ => persisting_tells _ _

theorem loaded_rows (id : Int) (principal : Option String) (before after : World) (projection : Projection)
    (yields : Yields (loaded id principal) before projection after) :
    (before.tables.fieldsOf id).map Row.record = projection.fields.map Except.ok := by
  obtain ⟨_, middle, found, read⟩ := (yields_bind _ _ _ _ _).mp yields
  have quiet := (takes_map _ (quiet_chains _) _ _ (get_takes _ untouched_lasts.toHosts.serves id principal)).1 _ _ _ found
  have rows := (load_yields id _ _ _ (persisting_yields _ _ _ _ _ read)).2
  have same : middle.tables.fieldsOf id = before.tables.fieldsOf id := by
    simp only [Tables.fieldsOf, Tables.entityIds, quiet.entities, quiet.fields]
  rw [← same]
  exact rows

def textOf (settings : Settings) (entities : List Entity) : String :=
  String.ofList ({ entities, identifier := settings.source.identifier } : Schema).render

theorem get_schema_parts (settings : Settings) (id : Int) (principal : Option String) :
    getSchema (.ok settings) id principal = loaded id principal >>= fun projection =>
      match projection.toEntities with
      | .error value => throw (.unrenderable value)
      | .ok entities => pure (textOf settings entities, projection) := by
  rw [loaded, bind_assoc]
  rfl

def Unwritable (value : String) (field : FieldRecord) : Prop :=
  field.defaultValue = some value ∧ DefaultText.ofString? value = none

theorem to_entities_unwritable (projection : Projection) (value : String) (failed : projection.toEntities = .error value) :
    ∃ field ∈ projection.fields, Unwritable value field := by
  rw [Projection.toEntities] at failed
  cases read : (projection.entities.mergeSort fun a b => inOrder a.position a.id b.position b.id).mapM projection.toEntity with
  | ok entities => rw [read] at failed; cases failed
  | error other =>
      rw [read] at failed
      obtain rfl := Except.error.inj failed
      obtain ⟨entity, -, wrong⟩ := mapM_error _ _ _ read
      rw [Projection.toEntity] at wrong
      cases fields : (projection.fieldsFor entity.id).mapM FieldRecord.toField with
      | ok found => rw [fields] at wrong; cases wrong
      | error fault =>
          rw [fields] at wrong
          obtain rfl := Except.error.inj wrong
          obtain ⟨field, member, unread⟩ := mapM_error _ _ _ fields
          refine ⟨field, (List.mem_filter.mp (List.mem_mergeSort.mp member)).1, ?_⟩
          rw [FieldRecord.toField] at unread
          split at unread
          · cases unread
          · rename_i text given
            split at unread
            · cases unread
            · rename_i unwritten
              obtain rfl := Except.error.inj unread
              exact ⟨given, unwritten⟩

-- Records are turned into fields outside of all that a failure is caught in.
theorem get_schema_fails (settings : Settings) (id : Int) (principal : Option String) (before after : World) (failure : Failure)
    (hidden : Private failure) :
    Fails (getSchema (.ok settings) id principal) before failure after ↔
      ∃ projection value, Yields (loaded id principal) before projection after ∧ projection.toEntities = .error value ∧
        failure = .unrenderable value := by
  rw [get_schema_parts, fails_bind]
  constructor
  · rintro (here | ⟨projection, middle, yields, later⟩)
    · exact absurd ((loaded_tells id principal before failure after here).symm.trans hidden) (by decide)
    · cases read : projection.toEntities with
      | error value =>
          simp only [read] at later
          obtain ⟨rfl, rfl⟩ := (fails_throw _ _ _ _).mp later
          exact ⟨projection, value, yields, read, rfl⟩
      | ok entities =>
          simp only [read] at later
          exact absurd later (fails_pure _ _ _ _)
  · rintro ⟨projection, value, yields, read, rfl⟩
    refine .inr ⟨projection, after, yields, ?_⟩
    simp only [read]
    exact (fails_throw _ _ _ _).mpr ⟨rfl, rfl⟩

theorem apply_draft_fails (settings : Settings) (id : Int) (drafter : Drafter) (instructions : String) (principal : Option String)
    (before after : World) (failure : Failure) (hidden : Private failure) :
    Fails (applyDraft (.ok settings) id drafter instructions principal) before failure after ↔
      Fails (getSchema (.ok settings) id principal) before failure after := by
  rw [apply_draft_parts, fails_bind]
  refine ⟨fun fails => ?_, .inl⟩
  rcases fails with here | ⟨stored, middle, -, later⟩
  · exact here
  · have rest : Tells Spoken (recordMessage id .user instructions none >>= fun _ =>
        tryCatch (draftSchema (.ok settings) drafter instructions (told stored.1)) (undrafted id) >>= fun draft =>
          applied (.ok settings) id principal draft.1 draft.2) := by
      refine tells_bind Spoken _ _ (record_message_tells _ _ _ _) fun _ => ?_
      refine tells_bind Spoken _ _ ?_ fun draft => applied_tells settings id principal _ _
      exact tells_try Spoken (fun _ => True) _ _ (fun _ _ _ _ => trivial) fun failure _ => undrafted_tells id failure
    exact absurd ((rest middle failure after later).symm.trans hidden) (by decide)

end Service

end Schematic
