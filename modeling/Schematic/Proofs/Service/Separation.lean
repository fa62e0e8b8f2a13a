import Schematic.Proofs.Service.Drafting
import Schematic.Proofs.Service.Likeness

set_option autoImplicit false

namespace Schematic

namespace Service

open Schematic.Action

variable {α : Type} (past : List (String × Option String) × List (String × Option String))

section Related

variable (related : Tables → Tables → Prop)

theorem acting_pairs (principal : Option String) : Pairs past related (acting principal) := by
  cases principal with
  | none => exact pairs_throw past related _
  | some name =>
      rw [acting]
      split
      · exact pairs_throw past related _
      · exact pairs_pure past related name

theorem owned_pairs (model : Option DataModel) (id : Int) (principal : String) :
    Pairs past related (owned model id principal) := by
  cases model with
  | none => exact pairs_throw past related _
  | some model =>
      rw [owned]
      split
      · exact pairs_pure past related model
      · exact pairs_throw past related _

theorem persisting_pairs (task : Task) (work : Action α) (first : Pairs past related work) :
    Pairs past related (persisting task work) := by
  apply pairs_try past related _ _ first
  intro failure
  have told : Pairs past related (do
      note {} Log.error (task.text ++ " failed: " ++ failure.message)
      throw (.unpersisted task failure) : Action α) :=
    pairs_bind past related _ _ (pairs_note past related _) fun _ => pairs_throw past related _
  cases failure.isService with
  | true => exact pairs_bind past related _ _ (pairs_throw past related failure) fun _ => told
  | false => exact told

theorem received_pairs (known : Except NumberFault Settings) (draft : Draft) : Pairs past related (received known draft) := by
  apply pairs_bind past related
  · induction draft.log with
    | nil => exact pairs_pure past related _
    | cons entry log ih => exact pairs_bind past related _ _ (pairs_note past related entry) fun _ => ih
  · intro _
    cases draft.outcome with
    | error fault => exact pairs_throw past related _
    | ok given =>
        apply pairs_bind past related _ _ (pairs_settings past related known)
        intro settings
        exact pairs_bind past related _ _ (pairs_note past related _) fun _ => pairs_pure past related _

theorem draft_pairs (known : Except NumberFault Settings) (drafter : Drafter) (instructions : String) (current : Option String) :
    Pairs past related (draftSchema known drafter instructions current) := by
  intro a b bond
  rw [outcome_draft, outcome_draft]
  apply received_pairs past related known (drafter instructions current)
  obtain ⟨fresh, first, second⟩ := bond.asked
  exact ⟨bond.tables, bond.breakdowns, (instructions, current) :: fresh, congrArg (List.cons _) first,
    congrArg (List.cons _) second⟩

theorem unsaved_pairs (context : LogContext) (id : Int) (failure : Failure) :
    Pairs past related (unsaved context id failure) := by
  rw [unsaved]
  split
  · exact pairs_throw past related _
  · exact pairs_bind past related _ _ (pairs_note past related _) fun _ => pairs_throw past related _

end Related

section Alike

variable (principal : String) (floor : Int) (held : Int → Prop)

theorem get_pairs (id : Int) (asking : Option String) : Pairs past (Alike principal floor held) (getModel id asking) := by
  apply pairs_bind _ _ _ _ (acting_pairs _ _ asking)
  intro name
  refine pairs_bind _ _ _ _ (persisting_pairs _ _ _ _ ?_) fun model => owned_pairs _ _ model id name
  refine pairs_bind _ _ _ _ (pairs_naming _ _ _ _ _ _ (pairs_connected _ _ _ ?_)) fun row => pairs_found _ _ _ row
  apply pairs_look
  intro a b alike
  rw [Tables.model?, Tables.model?, alike.models]

theorem list_pairs (asking : Option String) : Pairs past (Alike principal floor held) (listModels asking) := by
  apply pairs_bind _ _ _ _ (acting_pairs _ _ asking)
  intro name
  apply persisting_pairs
  refine pairs_bind _ _ _ _ (pairs_naming _ _ _ _ _ _ (pairs_connected _ _ _ ?_)) fun rows => ?_
  · apply pairs_look_up_to
    intro a b alike
    rw [Tables.modelsOf, Tables.modelsOf, alike.models]
  · exact pairs_list _ _ rows _ fun row => pairs_stored _ _ _ row

theorem create_pairs (asking : Option String) (given : List (String × Json)) :
    Pairs past (Alike principal floor held) (createModel asking given) := by
  apply pairs_bind _ _ _ _ (acting_pairs _ _ asking)
  intro owner
  apply pairs_bind _ _ _ _ (pairs_checked _ _ _ _)
  intro model
  apply persisting_pairs
  refine pairs_bind _ _ _ _ (pairs_naming _ _ _ _ _ _ (pairs_connected _ _ _ ?_)) fun stored => ?_
  · exact pairs_run _ _ _ _ fun a b alike => alike_model_inserted principal floor held a b alike model
  · exact pairs_bind _ _ _ _ (pairs_note _ _ _) fun _ => pairs_pure _ _ stored

section Held

variable (id : Int) (holds : held id)

include holds

theorem read_pairs : Pairs past (Alike principal floor held) (Projections.read id) := by
  refine pairs_bind _ _ _ _ (pairs_naming _ _ _ _ _ _ ?_) fun found => ?_
  · apply pairs_bind _ _ _ _ (pairs_look _ _ _ _ fun a b alike => alike_entities_of principal floor held a b alike id holds)
    intro entities
    apply pairs_bind _ _ _ _ (pairs_look _ _ _ _ fun a b alike => alike_fields_of principal floor held a b alike id holds)
    intro fields
    apply pairs_bind _ _ _ _ (pairs_look _ _ _ _ fun a b alike => alike_relations_of principal floor held a b alike id holds)
    exact fun relations => pairs_pure _ _ _
  · apply pairs_bind _ _ _ _ (pairs_list _ _ _ _ fun row => pairs_stored _ _ _ row)
    intro entities
    apply pairs_bind _ _ _ _ (pairs_list _ _ _ _ fun row => pairs_stored _ _ _ row)
    intro fields
    apply pairs_bind _ _ _ _ (pairs_list _ _ _ _ fun row => pairs_stored _ _ _ row)
    exact fun relations => pairs_pure _ _ _

theorem load_pairs : Pairs past (Alike principal floor held) (Projections.load id) := by
  apply pairs_connected
  refine pairs_transaction _ _ _ ?_ fun a b c d alike now => alike_restored principal floor held a b alike c d now
  apply pairs_bind _ _ _ _ (pairs_send _ _ _ _ fun a b alike => alike)
  exact fun _ => read_pairs past principal floor held id holds

theorem messages_pairs (limit : Int) : Pairs past (Alike principal floor held) (Messages.list id limit) := by
  refine pairs_bind _ _ _ _ (pairs_naming _ _ _ _ _ _ (pairs_connected _ _ _ ?_)) fun rows => ?_
  · exact pairs_look_up_to _ _ _ _ _ fun a b alike => alike_messages_of principal floor held a b alike id holds
  · exact pairs_list _ _ rows _ fun row => pairs_stored _ _ _ row

theorem delete_pairs : Pairs past (Alike principal floor held) (Projections.delete id) := by
  apply pairs_naming
  apply pairs_bind _ _ _ _ (pairs_run _ _ _ _ fun a b alike => alike_relations_deleted principal floor held a b alike id holds)
  intro relations
  apply pairs_bind _ _ _ _ (pairs_run _ _ _ _ fun a b alike => alike_fields_deleted principal floor held a b alike id holds)
  intro fields
  apply pairs_bind _ _ _ _ (pairs_run _ _ _ _ fun a b alike => alike_entities_deleted principal floor held a b alike id holds)
  exact fun entities => pairs_pure _ _ _

theorem record_message_pairs (sender : Sender) (content : String) (schemaText : Option String) :
    Pairs past (Alike principal floor held) (recordMessage id sender content schemaText) := by
  apply pairs_map
  apply persisting_pairs
  apply pairs_naming
  apply pairs_connected
  exact pairs_run _ _ _ _ fun a b alike => alike_message_inserted principal floor held a b alike id holds _ rfl

theorem undrafted_pairs (failure : Failure) : Pairs past (Alike principal floor held) (undrafted id failure) := by
  apply pairs_bind _ _ _ _ (pairs_note _ _ _)
  intro _
  exact pairs_bind _ _ _ _ (record_message_pairs past principal floor held id holds _ _ _) fun _ => pairs_throw _ _ _

theorem unapplied_pairs (text : String) (failure : Failure) :
    Pairs past (Alike principal floor held) (unapplied id text failure) := by
  rw [unapplied]
  split
  · exact pairs_bind _ _ _ _ (record_message_pairs past principal floor held id holds _ _ _) fun _ => pairs_throw _ _ _
  · exact pairs_throw _ _ _

end Held

theorem save_entity_pairs (id : Int) (entity : Entity) (position : Nat) :
    Pairs past (Alike principal floor held) (saveEntity id entity position) := by
  apply pairs_bind _ _ _ _ (pairs_checked _ _ _ _)
  intro record
  refine pairs_bind _ _ _ _ (pairs_naming _ _ _ _ _ _ ?_) fun stored => ?_
  · exact pairs_run _ _ _ _ fun a b alike => alike_entity_inserted principal floor held a b alike record
  refine pairs_bind _ _ _ _ (pairs_list _ _ _ _ fun place => ?_) fun fields => pairs_pure _ _ _
  apply pairs_bind _ _ _ _ (pairs_checked _ _ _ _)
  intro field
  apply pairs_naming
  exact pairs_run _ _ _ _ fun a b alike => alike_field_inserted principal floor held a b alike field

theorem save_relation_pairs (context : LogContext) (id : Int) (schema : Schema) (stored : List StoredEntity)
    (relation : Relation) : Pairs past (Alike principal floor held) (saveRelation context id schema stored relation) := by
  rw [saveRelation]
  cases ends? stored relation with
  | none => exact pairs_bind _ _ _ _ (pairs_note _ _ _) fun _ => pairs_pure _ _ _
  | some ends =>
      apply pairs_bind _ _ _ _ (pairs_checked _ _ _ _)
      intro record
      refine pairs_bind _ _ _ _ (pairs_naming _ _ _ _ _ _ ?_) fun stored => pairs_pure _ _ _
      exact pairs_run _ _ _ _ fun a b alike => alike_relation_inserted principal floor held a b alike record

theorem write_pairs (context : LogContext) (id : Int) (schema : Schema) (holds : held id) :
    Pairs past (Alike principal floor held) (writeProjection context id schema) := by
  apply pairs_bind _ _ _ _ (pairs_map _ _ _ _ (delete_pairs past principal floor held id holds))
  intro _
  apply pairs_bind
  · apply pairs_list
    rintro ⟨entity, position⟩
    exact save_entity_pairs past principal floor held id entity position
  intro stored
  apply pairs_bind
  · apply pairs_list
    exact save_relation_pairs past principal floor held context id schema stored
  · exact fun outcomes => pairs_pure _ _ _

end Alike

section Owner

variable (principal : String) (floor : Int) (held : Int → Prop) (id : Int)

def withId (other : Int) : Prop := held other ∨ other = id

theorem alike_gained (a b : Tables) (alike : Alike principal floor held a b) (owns : Owns a principal id) :
    Alike principal floor (withId held id) a b := by
  apply alike_held principal floor held a b alike
  rintro other (known | same)
  · exact alike.owned other known
  · rw [same]
    exact owns

theorem alike_known (a b : Tables) (alike : Alike principal floor (withId held id) a b) : Alike principal floor held a b :=
  alike_held principal floor _ a b alike held fun other known => alike.owned other (.inl known)

theorem with_id : withId held id id := .inr rfl

theorem got_pairs {α : Type} (next : PUnit → Action α) (rest : Pairs past (Alike principal floor (withId held id)) (next ⟨⟩)) :
    Pairs past (Alike principal floor held) (discard (getModel id (some principal)) >>= next) := by
  have got := pairs_map _ _ _ (Function.const _ PUnit.unit) (get_pairs past principal floor held id (some principal))
  apply pairs_learn _ _ (Alike principal floor (withId held id)) _ _ got
  · intro before _ after yields b alike
    obtain ⟨model, got⟩ := (yields_discard _ _ _ _).mp yields
    obtain ⟨-, owns, same⟩ := get_model_yields id principal before after model got
    rw [← same] at owns
    exact alike_gained principal floor held id after.tables b alike owns
  · exact alike_known principal floor held id
  · exact fun _ => rest

def rendered (known : Except NumberFault Settings) : Action (String × Projection) := do
  let projection ← persisting .loadSchema (Projections.load id)
  match projection.toEntities with
  | .error value => throw (.unrenderable value)
  | .ok entities =>
      let settings ← settings known
      let schema : Schema := { entities, identifier := settings.source.identifier }
      return (String.ofList schema.render, projection)

theorem rendered_pairs (known : Except NumberFault Settings) (holds : held id) :
    Pairs past (Alike principal floor held) (rendered id known) := by
  apply pairs_bind _ _ _ _ (persisting_pairs _ _ _ _ (load_pairs past principal floor held id holds))
  intro projection
  cases projection.toEntities with
  | error value => exact pairs_throw _ _ _
  | ok entities => exact pairs_bind _ _ _ _ (pairs_settings _ _ known) fun settings => pairs_pure _ _ _

theorem get_schema_pairs (known : Except NumberFault Settings) :
    Pairs past (Alike principal floor held) (getSchema known id (some principal)) :=
  got_pairs past principal floor held id _ (rendered_pairs past principal floor _ id known (with_id held id))

theorem chat_pairs (known : Except NumberFault Settings) :
    Pairs past (Alike principal floor held) (chatHistory known id (some principal)) := by
  apply got_pairs
  apply pairs_bind _ _ _ _ (pairs_settings _ _ known)
  exact fun settings => persisting_pairs _ _ _ _ (messages_pairs past principal floor _ id (with_id held id) _)

theorem lock_pairs : Pairs past (Alike principal floor held)
    (DataModels.lock id >>= fun model => discard (owned model id principal)) := by
  refine pairs_bind _ _ _ _ ?_ fun model => pairs_map _ _ _ _ (owned_pairs _ _ model id principal)
  refine pairs_bind _ _ _ _ (pairs_naming _ _ _ _ _ _ ?_) fun row => pairs_found _ _ _ row
  apply pairs_look
  intro a b alike
  rw [Tables.model?, Tables.model?, alike.models]

theorem rewrite_pairs (context : LogContext) (settings : Settings) (schema : Schema) :
    Pairs past (Alike principal floor held) (rewrite context settings id schema principal) := by
  have parts : rewrite context settings id schema principal =
      send (.limitTime settings.store.timeoutMs) (fun tables => tables) >>= fun _ =>
        (DataModels.lock id >>= fun model => discard (owned model id principal)) >>= fun _ =>
          writeProjection context id schema >>= fun written => DataModels.touch id >>= fun _ => pure written := by
    rw [rewrite]
    simp only [bind_assoc]
  rw [parts]
  apply pairs_bind _ _ _ _ (pairs_send _ _ _ _ fun a b alike => alike)
  intro _
  apply pairs_learn _ _ (Alike principal floor (withId held id)) _ _ (lock_pairs past principal floor held id)
  · intro before value after yields b alike
    exact alike_gained principal floor held id after.tables b alike (lock_owned_yields id principal before after value yields)
  · exact alike_known principal floor held id
  intro _
  apply pairs_bind _ _ _ _ (write_pairs past principal floor _ context id schema (with_id held id))
  intro written
  refine pairs_bind _ _ _ _ (pairs_naming _ _ _ _ _ _ ?_) fun _ => pairs_pure _ _ written
  exact pairs_send _ _ _ _ fun a b alike => alike_model_touched principal floor _ a b alike id

theorem replace_pairs (known : Except NumberFault Settings) (text : String) :
    Pairs past (Alike principal floor held) (replaceSchema known id text (some principal)) := by
  rw [replace_schema_save]
  by_cases nobody : principal = ""
  · rw [acting, if_pos nobody]
    exact fun a b bond => ⟨.error .unauthenticated, a, b, rfl, rfl, bond⟩
  simp only [acting, if_neg nobody, pure_bind]
  apply pairs_bind _ _ _ _ (pairs_settings _ _ known)
  intro settings
  split
  · apply pairs_bind _ _ _ _ (pairs_note _ _ _)
    intro _
    apply pairs_bind
    · apply pairs_try _ _ _ _ _ fun failure => unsaved_pairs _ _ _ id failure
      apply pairs_connected
      apply pairs_transaction
      · exact rewrite_pairs past principal floor held id _ settings _
      · exact fun a b c d alike now => alike_restored principal floor held a b alike c d now
    · exact fun written => pairs_bind _ _ _ _ (pairs_note _ _ _) fun _ => pairs_pure _ _ _
  · exact pairs_throw _ _ _

theorem applied_pairs (known : Except NumberFault Settings) (text : String) (schema : Schema) (holds : held id) :
    Pairs past (Alike principal floor held) (applied known id (some principal) text schema) := by
  have recording := record_message_pairs past principal floor held id holds
  rw [applied]
  split
  · apply pairs_bind
    · refine pairs_try _ _ _ _ (replace_pairs past principal floor held id known text) ?_
      exact unapplied_pairs past principal floor held id holds text
    · exact fun saved => pairs_bind _ _ _ _ (recording _ _ _) fun _ => pairs_pure _ _ saved
  · exact pairs_bind _ _ _ _ (recording _ _ _) fun _ => pairs_throw _ _ _

theorem apply_draft_pairs (known : Except NumberFault Settings) (drafter : Drafter) (instructions : String) :
    Pairs past (Alike principal floor held) (applyDraft known id drafter instructions (some principal)) := by
  have got : getSchema known id (some principal) = discard (getModel id (some principal)) >>= fun _ => rendered id known := rfl
  have holds := with_id held id
  rw [apply_draft_parts, got, bind_assoc]
  apply got_pairs
  apply pairs_bind _ _ _ _ (rendered_pairs past principal floor _ id known holds)
  intro stored
  apply pairs_bind _ _ _ _ (record_message_pairs past principal floor _ id holds _ _ _)
  intro _
  apply pairs_bind
  · exact pairs_try _ _ _ _ (draft_pairs _ _ _ _ _ _) (undrafted_pairs past principal floor _ id holds)
  · exact fun draft => applied_pairs past principal floor _ id known draft.1 draft.2 holds

end Owner

end Service

end Schematic
