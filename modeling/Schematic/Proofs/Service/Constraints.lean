import Schematic.Proofs.Service.Upkeep

set_option autoImplicit false

namespace Schematic

open Schematic.Action

namespace Service

theorem lock_finds (id : Int) (before after : World) (model : DataModel)
    (yields : Yields (DataModels.lock id) before (some model) after) : HasModel after.tables id := by
  rw [lock_yields id before after (some model) yields]
  obtain ⟨row, middle, looked, read⟩ := (yields_bind _ _ _ _ _).mp yields
  rw [DataModels.naming, yields_naming] at looked
  obtain ⟨rfl, -⟩ := yields_run _ _ _ _ _ looked
  cases found : before.tables.model? id with
  | none =>
      simp only [found] at read
      obtain ⟨none, -⟩ := (yields_pure _ _ _ _).mp read
      cases none
  | some row => exact ⟨row, List.mem_of_find?_eq_some found, by simpa using List.find?_some found⟩

theorem owned_found (model : Option DataModel) (id : Int) (principal : String) (before after : World) (found : DataModel)
    (yields : Yields (owned model id principal) before found after) : model ≠ none := by
  intro none
  rw [none] at yields
  exact yields_throw _ _ _ _ yields

theorem rewrite_upholds (context : LogContext) (settings : Settings) (id : Int) (schema : Schema) (principal : String)
    (coherent : Coherent schema.entities) : Takes (Upholds Always) (rewrite context settings id schema principal) := by
  have chains := upholds_chains
  apply upholds_then
  · exact serves_look _ upholds_hosts (.limitTime settings.store.timeoutMs) (fun _ => ()) rfl
  intro _
  apply upholds_bind _ (fun model tables => model ≠ none → HasModel tables id)
  · refine takes_bind _ chains _ _ ?_ fun row => takes_option _ chains row _ fun row => takes_record _ chains _ row
    exact upholds_naming _ _ _ _ _ (serves_look _ upholds_hosts _ _ rfl)
  · intro before model after yields _ _ present
    cases model with
    | none => exact absurd rfl present
    | some model => exact lock_finds id before after model yields
  intro model
  apply upholds_bind _ (fun _ => (HasModel · id))
  · apply upholds_mono _ Always _ fun _ _ _ => trivial
    exact takes_map _ chains _ _ (takes_owned _ chains model id principal)
  · intro before _ after yields _ present
    obtain ⟨found, mine⟩ := (yields_discard _ _ _ _).mp yields
    rw [(takes_owned Still still_chains model id principal).1 _ _ _ mine]
    exact present (owned_found model id principal before after found mine)
  intro _
  apply upholds_then _ _ _ (write_upholds context id schema coherent)
  intro written
  apply takes_bind _ chains
  · apply upholds_naming
    exact upholds_run _ _ _ (fun _ => rfl) fun tables steady _ => model_touched id tables steady
  · exact fun _ => takes_pure _ chains written

theorem save_upholds (settings : Settings) (id : Int) (schema : Schema) (principal : String) (coherent : Coherent schema.entities) :
    Takes (Upholds Always) (save settings id schema principal) := by
  have chains := upholds_chains
  have stored : Takes (Upholds Always) (replaceStored (replacing id principal) settings id schema principal) :=
    serves_connected _ upholds_hosts _ (transaction_upholds _ (rewrite_upholds _ settings id schema principal coherent))
  have recovered : ∀ failure, Takes (Upholds Always) (unsaved (replacing id principal) id failure) := by
    intro failure
    rw [unsaved]
    split
    · exact takes_throw _ chains _
    · exact takes_bind _ chains _ _ (upholds_note _) fun _ => takes_throw _ chains _
  apply takes_bind _ chains _ _ (upholds_note _)
  intro _
  apply takes_bind _ chains _ _ (serves_try _ upholds_hosts _ _ stored recovered)
  intro result
  exact takes_bind _ chains _ _ (upholds_note _) fun _ => takes_pure _ chains _

theorem replace_upholds (known : Except NumberFault Settings) (id : Int) (text : String) (principal : Option String) :
    Takes (Upholds Always) (replaceSchema known id text principal) := by
  have chains := upholds_chains
  rw [replace_schema_save]
  apply takes_bind _ chains _ _ (takes_acting _ chains principal)
  intro name
  apply takes_bind _ chains _ _ (takes_settings _ chains known)
  intro settings
  by_cases valid : (validate settings text).isValid = true
  · rw [if_pos valid]
    apply save_upholds
    rw [valid_parse settings text valid]
    exact (parse_coherent settings.source.identifier text.toList).1
  · rw [if_neg valid]
    exact takes_throw _ chains _

theorem draft_upholds (known : Except NumberFault Settings) (drafter : Drafter) (instructions : String) (current : Option String) :
    Takes (Upholds Always) (draftSchema known drafter instructions current) := by
  have answered := received_takes _ upholds_chains upholds_note known (drafter instructions current)
  constructor
  · intro before value after yields steady _
    rw [Yields, outcome_draft, ← Yields] at yields
    obtain ⟨watch, kept⟩ := answered.1 _ _ _ yields steady trivial
    exact ⟨⟨watch.grown, watch.sound, watch.follows⟩, kept⟩
  · intro before failure after fails steady _
    rw [Fails, outcome_draft, ← Fails] at fails
    obtain ⟨watch, kept⟩ := answered.2 _ _ _ fails steady trivial
    exact ⟨⟨watch.grown, watch.sound, watch.follows⟩, kept⟩

theorem apply_draft_upholds (known : Except NumberFault Settings) (id : Int) (drafter : Drafter) (instructions : String)
    (principal : Option String) : Takes (Upholds Always) (applyDraft known id drafter instructions principal) := by
  have chains := upholds_chains
  have recording := record_message_takes _ upholds_hosts
  rw [apply_draft_parts]
  apply takes_bind _ chains _ _ (get_schema_takes _ upholds_lasts known id principal)
  intro stored
  apply takes_bind _ chains _ _ (recording _ _ _ _)
  intro _
  apply takes_bind _ chains
  · exact serves_try _ upholds_hosts _ _ (draft_upholds known drafter instructions _) (undrafted_takes _ upholds_hosts id)
  intro draft
  rw [applied]
  split
  · apply takes_bind _ chains
    · exact serves_try _ upholds_hosts _ _ (replace_upholds known id draft.1 principal) (unapplied_takes _ upholds_hosts id draft.1)
    · exact fun saved => takes_bind _ chains _ _ (recording _ _ _ _) fun _ => takes_pure _ chains saved
  · exact takes_bind _ chains _ _ (recording _ _ _ _) fun _ => takes_throw _ chains _

end Service

-- What may be done at a store: a step of a session, or a deletion of all that is stored of a schema outside of a transaction.
inductive Deed where
  | call (known : Except NumberFault Settings) (turn : Turn)
  | delete (id : Int)

def Deed.work : Deed → Action Unit
  | .call known turn => turn.work known
  | .delete id => discard (connected (Projections.delete id))

-- Worlds that come of a store without schemas, whatever is done there and breaks down.
inductive Arises (start : Tables) : World → Prop where
  | start (world : World) (tables : world.tables = start) (new : world.happenings = []) (entities : start.entities.rows = [])
      (fields : start.fields.rows = []) (relations : start.relations.rows = []) : Arises start world
  | deed (world : World) (deed : Deed) (earlier : Arises start world) : Arises start (outcome deed.work world).2

theorem turn_upholds (known : Except NumberFault Settings) (turn : Turn) : Takes (Upholds Always) (turn.work known) := by
  have chains := upholds_chains
  have hosts := upholds_hosts
  cases turn with
  | create principal given => exact takes_map _ chains _ _ (Service.create_takes _ hosts principal given)
  | replace principal id text => exact takes_map _ chains _ _ (Service.replace_upholds known id text principal)
  | draft principal id drafter instructions =>
      exact takes_map _ chains _ _ (Service.apply_draft_upholds known id drafter instructions principal)
  | get principal id => exact takes_map _ chains _ _ (Service.get_takes _ hosts id principal)
  | list principal => exact takes_map _ chains _ _ (Service.list_takes _ hosts principal)
  | schema principal id => exact takes_map _ chains _ _ (Service.get_schema_takes _ upholds_lasts known id principal)
  | validate text => exact takes_map _ chains _ _ (Service.settled_takes _ hosts known _)
  | format text => exact takes_map _ chains _ _ (Service.settled_takes _ hosts known _)
  | preview drafter instructions current =>
      exact takes_map _ chains _ _ (Service.draft_upholds known drafter instructions current)
  | chat principal id => exact takes_map _ chains _ _ (Service.chat_takes _ hosts known id principal)
  | configure known => exact takes_pure _ chains _
  | fault breakdown =>
      constructor
      · intro before value after yields steady _
        obtain ⟨-, rfl⟩ := Prod.mk.inj yields
        exact ⟨watch_aside _ before _ rfl rfl (watch_refl before), steady⟩
      · intro before failure after fails
        cases (Prod.mk.inj fails).1

theorem deed_upholds (deed : Deed) : Takes (Upholds Always) deed.work := by
  cases deed with
  | call known turn => exact turn_upholds known turn
  | delete id => exact takes_map _ upholds_chains _ _ (serves_connected _ upholds_hosts _ (Service.delete_upholds id))

theorem bare_steady (tables : Tables) (entities : tables.entities.rows = []) (fields : tables.fields.rows = [])
    (relations : tables.relations.rows = []) : Steady tables := by
  refine ⟨⟨?_, ?_, ?_, ?_, ?_⟩, ?_, ?_⟩ <;> simp [entities, fields, relations]

structure Upheld (start : Tables) (world : World) : Prop where
  steady : Steady world.tables
  sound : ∀ happening ∈ world.happenings, Sound happening.tables ∧ Sound happening.left
  follows : Follows start world.happenings world.tables

theorem deed_upheld (start : Tables) (world : World) (deed : Deed) (upheld : Upheld start world) :
    Upheld start (outcome deed.work world).2 := by
  have course : Watch world (outcome deed.work world).2 ∧ Steady (outcome deed.work world).2.tables := by
    cases outcome_cases deed.work world with
    | inl done =>
        obtain ⟨value, after, yields⟩ := done
        rw [yields]
        exact (deed_upholds deed).1 _ _ _ yields upheld.steady trivial
    | inr failed =>
        obtain ⟨failure, after, fails⟩ := failed
        rw [fails]
        exact (deed_upholds deed).2 _ _ _ fails upheld.steady trivial
  obtain ⟨watch, steady⟩ := course
  obtain ⟨fresh, whole, each⟩ := watch.sound
  refine ⟨steady, ?_, watch.follows start upheld.follows⟩
  rw [whole]
  intro happening member
  exact (List.mem_append.mp member).elim (each happening) (upheld.sound happening)

theorem arises_upheld (start : Tables) (world : World) (arises : Arises start world) : Upheld start world := by
  induction arises with
  | start world tables new entities fields relations =>
      have steady := bare_steady start entities fields relations
      rw [← tables] at steady ⊢
      refine ⟨steady, by simp [new], ?_⟩
      rw [new]
      exact .start
  | deed world deed earlier ih => exact deed_upheld start world deed ih

-- The store would admit every statement, also in the middle of a transaction and of a deletion that broke down.
theorem statements_admitted (start : Tables) (world : World) (arises : Arises start world) :
    Sound world.tables ∧ (∀ happening ∈ world.happenings, Sound happening.tables ∧ Sound happening.left) ∧
      Follows start world.happenings world.tables := by
  have upheld := arises_upheld start world arises
  exact ⟨upheld.steady.sound, upheld.sound, upheld.follows⟩

-- A schema was saved, and its deletion broke down once the relations and the fields were gone.
def brokenDeletion : World :=
  [Deed.call (.ok {}) (.create (some "ann") [("name", .str "Shop")]),
    .call (.ok {}) (.replace (some "ann") 1 "entity Cart \x7b\n id: ID\n next: Cart\n\x7d\n"),
    .call (.ok {}) (.fault ⟨"DELETE model_entities", 1, "disk full"⟩), .delete 1].foldl
    (fun world deed => (outcome deed.work world).2) {}

theorem broken_deletion_admitted :
    Arises {} brokenDeletion ∧ brokenDeletion.tables.entities.rows.length = 1 ∧ brokenDeletion.tables.fields.rows.length = 0 ∧
      Sound brokenDeletion.tables ∧
      (∀ happening ∈ brokenDeletion.happenings, Sound happening.tables ∧ Sound happening.left) ∧
      Follows {} brokenDeletion.happenings brokenDeletion.tables := by
  have arises : Arises {} brokenDeletion := .deed _ _ (.deed _ _ (.deed _ _ (.deed _ _ (.start {} rfl rfl rfl rfl rfl))))
  exact ⟨arises, by decide +kernel, by decide +kernel, statements_admitted {} brokenDeletion arises⟩

end Schematic
