import Schematic.Proofs.Service.Replacing
import Schematic.Proofs.Store.Quiet

set_option autoImplicit false

namespace Schematic

namespace Service

open Schematic.Action

section Serves

variable {α : Type} (course : Course) (serves : Serves course)

include serves

theorem persisting_takes (task : Task) (work : Action α) (takes : Takes course work) : Takes course (persisting task work) := by
  apply serves_try course serves _ _ takes
  intro failure
  have told : Takes course (do
      note {} Log.error (task.text ++ " failed: " ++ failure.message)
      throw (.unpersisted task failure) : Action α) :=
    takes_bind _ serves.chains _ _ (serves.note _) fun _ => takes_throw _ serves.chains _
  cases failure.isService with
  | true => exact takes_bind _ serves.chains _ _ (takes_throw _ serves.chains failure) fun _ => told
  | false => exact told

theorem create_takes (principal : Option String) (given : List (String × Json)) : Takes course (createModel principal given) := by
  refine takes_bind _ serves.chains _ _ (takes_acting _ serves.chains principal) fun owner => ?_
  refine takes_bind _ serves.chains _ _ (takes_checked _ serves.chains _ _) fun model => persisting_takes _ serves _ _ ?_
  refine takes_bind _ serves.chains _ _ (serves_naming _ serves _ _ _ _ (serves_connected _ serves _ ?_)) fun stored => ?_
  · exact serves.insertModel model
  · exact takes_bind _ serves.chains _ _ (serves.note _) fun _ => takes_pure _ serves.chains stored

theorem get_takes (id : Int) (principal : Option String) : Takes course (getModel id principal) := by
  refine takes_bind _ serves.chains _ _ (takes_acting _ serves.chains principal) fun name => ?_
  refine takes_bind _ serves.chains _ _ (persisting_takes _ serves _ _ ?_) fun model => takes_owned _ serves.chains model id name
  refine takes_bind _ serves.chains _ _ (serves_naming _ serves _ _ _ _ (serves_connected _ serves _ ?_)) fun row => ?_
  · exact serves_look _ serves _ _ rfl
  · exact takes_option _ serves.chains row _ fun row => takes_record _ serves.chains _ row

theorem lock_takes (id : Int) : Takes course (DataModels.lock id) := by
  refine takes_bind _ serves.chains _ _ (serves_naming _ serves _ _ _ _ (serves_look _ serves _ _ rfl)) fun row => ?_
  exact takes_option _ serves.chains row _ fun row => takes_record _ serves.chains _ row

theorem list_takes (principal : Option String) : Takes course (listModels principal) := by
  refine takes_bind _ serves.chains _ _ (takes_acting _ serves.chains principal) fun name => persisting_takes _ serves _ _ ?_
  refine takes_bind _ serves.chains _ _ (serves_naming _ serves _ _ _ _ (serves_connected _ serves _ ?_)) fun rows => ?_
  · exact serves_look_up_to _ serves _ _ _ rfl
  · exact takes_list _ serves.chains rows _ fun row _ => takes_record _ serves.chains _ row

theorem read_takes (id : Int) : Takes course (Projections.read id) := by
  refine takes_bind _ serves.chains _ _ (serves_naming _ serves _ _ _ _ ?_) fun found => ?_
  · refine takes_bind _ serves.chains _ _ (serves_look _ serves _ _ rfl) fun entities => ?_
    refine takes_bind _ serves.chains _ _ (serves_look _ serves _ _ rfl) fun fields => ?_
    refine takes_bind _ serves.chains _ _ (serves_look _ serves _ _ rfl) fun relations => ?_
    exact takes_pure _ serves.chains _
  · refine takes_bind _ serves.chains _ _ ?_ fun entities => takes_bind _ serves.chains _ _ ?_ fun fields =>
      takes_bind _ serves.chains _ _ ?_ fun relations => takes_pure _ serves.chains _
    · exact takes_list _ serves.chains _ _ fun row _ => takes_record _ serves.chains _ row
    · exact takes_list _ serves.chains _ _ fun row _ => takes_record _ serves.chains _ row
    · exact takes_list _ serves.chains _ _ fun row _ => takes_record _ serves.chains _ row

theorem chat_takes (known : Except NumberFault Settings) (id : Int) (principal : Option String) :
    Takes course (chatHistory known id principal) := by
  refine takes_bind _ serves.chains _ _ (takes_map _ serves.chains _ _ (get_takes course serves id principal)) fun _ => ?_
  refine takes_bind _ serves.chains _ _ (takes_settings _ serves.chains known) fun settings => persisting_takes _ serves _ _ ?_
  refine takes_bind _ serves.chains _ _ (serves_naming _ serves _ _ _ _ (serves_connected _ serves _ ?_)) fun rows => ?_
  · exact serves_look_up_to _ serves _ _ _ rfl
  · exact takes_list _ serves.chains rows _ fun row _ => takes_record _ serves.chains _ row

theorem settled_takes (known : Except NumberFault Settings) (change : Settings → α) :
    Takes course (change <$> settings known) := takes_map _ serves.chains _ _ (takes_settings _ serves.chains known)

end Serves

theorem record_message_takes (course : Course) (hosts : Hosts course) (id : Int) (sender : Sender) (content : String)
    (schemaText : Option String) : Takes course (recordMessage id sender content schemaText) := by
  apply takes_map _ hosts.chains
  apply persisting_takes course hosts
  exact serves_naming _ hosts _ _ _ _ (serves_connected _ hosts _ (hosts.call _ _ _ (.insertMessage _)))

theorem get_schema_takes (course : Course) (spans : Spans course) (known : Except NumberFault Settings) (id : Int)
    (principal : Option String) : Takes course (getSchema known id principal) := by
  have chains := spans.chains
  have load : Takes course (Projections.load id) := by
    apply serves_connected _ spans.toServes
    apply spans.transaction
    apply takes_bind _ chains
    · exact serves_look _ spans.toServes .readSnapshot (fun _ => ()) rfl
    · exact fun _ => read_takes _ spans.toServes id
  refine takes_bind _ chains _ _ (takes_map _ chains _ _ (get_takes course spans.toServes id principal)) fun _ => ?_
  refine takes_bind _ chains _ _ (persisting_takes course spans.toServes _ _ load) fun projection => ?_
  cases projection.toEntities with
  | error value => exact takes_throw _ chains _
  | ok entities => exact takes_bind _ chains _ _ (takes_settings _ chains known) fun settings => takes_pure _ chains _

def Untouched (event : StoreEvent) : Prop := ∀ id, event ≠ .ran (.touchModel id)

theorem untouched_lasts : Lasts (Quiet Untouched) := quiet_lasts Untouched fun _ other => other

theorem uncommitted_hosts : Hosts (Quiet (· ≠ .committed)) := quiet_hosts _ fun _ _ => by simp

end Service

end Schematic
