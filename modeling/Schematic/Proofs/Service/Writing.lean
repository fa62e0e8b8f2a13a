import Schematic.Proofs.Store.Conduct
import Schematic.Service.Drafts

set_option autoImplicit false

namespace Schematic

namespace Service

open Schematic.Action

theorem delete_conduct (dataModelId : Int) : Takes Conduct (Projections.delete dataModelId) := by
  refine naming_conduct _ _ _ _ (by decide) ?_
  refine takes_bind Conduct conduct_chains _ _ (run_conduct _ _ fun _ => Int.le_refl _) fun _ => ?_
  refine takes_bind Conduct conduct_chains _ _ (run_conduct _ _ fun _ => Int.le_refl _) fun _ => ?_
  refine takes_bind Conduct conduct_chains _ _ (run_conduct _ _ fun _ => Int.le_refl _) fun _ => ?_
  exact takes_pure Conduct conduct_chains _

theorem insert_entity_conduct (entity : EntityRecord) : Takes Conduct (Projections.insertEntity entity) := by
  refine naming_conduct _ _ _ _ (by decide) (run_conduct _ _ fun tables => ?_)
  exact Int.le_of_lt (Int.lt_succ tables.entities.lastId)

theorem insert_field_conduct (field : FieldRecord) : Takes Conduct (Projections.insertField field) :=
  naming_conduct _ _ _ _ (by decide) (run_conduct _ _ fun _ => Int.le_refl _)

theorem insert_relation_conduct (relation : RelationRecord) : Takes Conduct (Projections.insertRelation relation) :=
  naming_conduct _ _ _ _ (by decide) (run_conduct _ _ fun _ => Int.le_refl _)

theorem save_field_conduct (entityId : Int) (field : Field) (position : Nat) :
    Takes Conduct (saveField entityId field position) :=
  takes_bind Conduct conduct_chains _ _ (takes_checked Conduct conduct_chains _ _) fun record => insert_field_conduct record

theorem save_entity_conduct (dataModelId : Int) (entity : Entity) (position : Nat) :
    Takes Conduct (saveEntity dataModelId entity position) := by
  refine takes_bind Conduct conduct_chains _ _ (takes_checked Conduct conduct_chains _ _) fun checked => ?_
  refine takes_bind Conduct conduct_chains _ _ (insert_entity_conduct checked) fun record => ?_
  refine takes_bind Conduct conduct_chains _ _ ?_ fun fields => takes_pure Conduct conduct_chains _
  exact takes_list Conduct conduct_chains _ _ fun place _ => save_field_conduct _ place.1 place.2

theorem save_relation_conduct (context : LogContext) (dataModelId : Int) (schema : Schema) (stored : List StoredEntity)
    (relation : Relation) : Takes Conduct (saveRelation context dataModelId schema stored relation) := by
  rw [saveRelation]
  cases ends? stored relation with
  | none =>
      refine takes_bind Conduct conduct_chains _ _ (note_conduct _ ?_) fun _ => takes_pure Conduct conduct_chains _
      exact (by decide : logger ≠ "checkpoint")
  | some ends =>
      refine takes_bind Conduct conduct_chains _ _ (takes_checked Conduct conduct_chains _ _) fun record => ?_
      refine takes_bind Conduct conduct_chains _ _ (insert_relation_conduct record) fun _ => ?_
      exact takes_pure Conduct conduct_chains _

theorem write_conduct (context : LogContext) (dataModelId : Int) (schema : Schema) :
    Takes Conduct (writeProjection context dataModelId schema) := by
  refine takes_bind Conduct conduct_chains _ _ (takes_map Conduct conduct_chains _ _ (delete_conduct dataModelId)) fun _ => ?_
  refine takes_bind Conduct conduct_chains _ _ ?_ fun stored => ?_
  · exact takes_list Conduct conduct_chains _ _ fun place _ => save_entity_conduct dataModelId place.1 place.2
  · refine takes_bind Conduct conduct_chains _ _ ?_ fun outcomes => takes_pure Conduct conduct_chains _
    exact takes_list Conduct conduct_chains _ _ fun relation _ => save_relation_conduct context dataModelId schema stored relation

end Service

end Schematic
