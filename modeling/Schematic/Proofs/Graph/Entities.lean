import Schematic.Source.References
import Mathlib.Data.List.Nodup

set_option autoImplicit false

namespace Schematic

theorem nodup_append_one (items : List String) (item : String) (distinct : items.Nodup) (fresh : item ∉ items) :
    (items ++ [item]).Nodup := by
  rw [← List.concat_eq_append]
  exact List.Nodup.concat fresh distinct

def entityNames (entities : List Entity) : List String := entities.map Entity.name

theorem entity_names_append (a b : List Entity) : entityNames (a ++ b) = entityNames a ++ entityNames b :=
  List.map_append

theorem entity_names_cons (entity : Entity) (rest : List Entity) :
    entityNames (entity :: rest) = entity.name :: entityNames rest := rfl

theorem entity_found (entities : List Entity) (name : String) (entity : Entity)
    (found : entity? entities name = some entity) : entity ∈ entities ∧ entity.name = name :=
  ⟨List.mem_of_find?_eq_some found, by simpa using List.find?_some found⟩

theorem entity_missing (entities : List Entity) (name : String) : entity? entities name = none ↔ name ∉ entityNames entities := by
  simp [entity?, entityNames]

theorem has_entity_iff (entities : List Entity) (name : String) : hasEntity entities name = true ↔ name ∈ entityNames entities := by
  simp [hasEntity, entityNames]

theorem entity_known (entities : List Entity) (name : String) (known : name ∈ entityNames entities) :
    ∃ entity, entity? entities name = some entity ∧ entity.name = name := by
  cases found : entity? entities name with
  | none => exact absurd known ((entity_missing _ _).mp found)
  | some entity => exact ⟨entity, rfl, (entity_found _ _ _ found).2⟩

theorem find_member {α : Type} (name : α → String) (items : List α) (item : α) (member : item ∈ items)
    (distinct : (items.map name).Nodup) : items.find? (fun other => decide (name other = name item)) = some item := by
  induction items with
  | nil => simp at member
  | cons first rest ih =>
      obtain ⟨fresh, distinct⟩ := List.nodup_cons.mp distinct
      cases List.mem_cons.mp member with
      | inl here => simp [here]
      | inr later =>
          have other : name first ≠ name item := by
            intro same
            exact fresh (same ▸ List.mem_map_of_mem later)
          rw [List.find?_cons_of_neg (by simpa using other)]
          exact ih later distinct

theorem entity_member (entities : List Entity) (entity : Entity) (member : entity ∈ entities)
    (distinct : (entityNames entities).Nodup) : entity? entities entity.name = some entity :=
  find_member Entity.name entities entity member distinct

theorem field_member (entity : Entity) (field : Field) (member : field ∈ entity.fields)
    (distinct : (entity.fields.map Field.name).Nodup) : entity.field? field.name = some field :=
  find_member Field.name entity.fields field member distinct

theorem update_entity_absent (entities : List Entity) (name : String) (change : Entity → Entity)
    (absent : name ∉ entityNames entities) : updateEntity entities name change = entities := by
  rw [updateEntity, List.map_congr_left (g := id), List.map_id]
  intro entity member
  rw [if_neg]
  · rfl
  · rintro rfl
    exact absent (List.mem_map_of_mem member)

theorem update_entity_at (before after : List Entity) (entity : Entity) (change : Entity → Entity)
    (distinct : (entityNames (before ++ entity :: after)).Nodup) :
    updateEntity (before ++ entity :: after) entity.name change = before ++ change entity :: after := by
  rw [entity_names_append, entity_names_cons, List.nodup_append] at distinct
  obtain ⟨-, right, apart⟩ := distinct
  have left : updateEntity before entity.name change = before :=
    update_entity_absent before _ change fun member => apart _ member _ List.mem_cons_self rfl
  have later : updateEntity after entity.name change = after :=
    update_entity_absent after _ change (List.nodup_cons.mp right).1
  rw [updateEntity, List.map_append, List.map_cons, if_pos rfl, ← updateEntity, ← updateEntity, left, later]

theorem entity_names_update (entities : List Entity) (name : String) (change : Entity → Entity)
    (keeps : ∀ entity, (change entity).name = entity.name) :
    entityNames (updateEntity entities name change) = entityNames entities := by
  rw [entityNames, updateEntity, List.map_map]
  apply List.map_congr_left
  intro entity _
  by_cases same : entity.name = name <;> simp [same, keeps]

theorem mem_update (entities : List Entity) (name : String) (change : Entity → Entity) (entity : Entity)
    (member : entity ∈ updateEntity entities name change) :
    entity ∈ entities ∨ ∃ old ∈ entities, old.name = name ∧ entity = change old := by
  obtain ⟨old, inside, same⟩ := List.mem_map.mp member
  by_cases hit : old.name = name
  · exact .inr ⟨old, inside, hit, by rw [← same, if_pos hit]⟩
  · rw [if_neg hit] at same
    exact .inl (same ▸ inside)

theorem field_missing (entity : Entity) (name : String) :
    entity.field? name = none ↔ name ∉ entity.fields.map Field.name := by
  simp [Entity.field?]

theorem has_field_iff (entity : Entity) (name : String) :
    entity.hasField name = true ↔ name ∈ entity.fields.map Field.name := by
  simp [Entity.hasField]

def Resolved (entities : List Entity) : Prop :=
  ∀ entity ∈ entities, ∀ field ∈ entity.fields, ∀ target named, field.type.base = .ref target (some named) →
    ∃ other ∈ entities, other.name = target ∧ named ∈ other.fields.map Field.name

theorem all_fields_cons (entity : Entity) (rest : List Entity) :
    allFields (entity :: rest) = entity.fields.map (entity.name, ·) ++ allFields rest := List.flatMap_cons

theorem mem_all_fields (entities : List Entity) (owner : String) (field : Field) :
    (owner, field) ∈ allFields entities ↔ ∃ entity ∈ entities, entity.name = owner ∧ field ∈ entity.fields := by
  simp only [allFields, List.mem_flatMap, List.mem_map, Prod.mk.injEq]
  constructor
  · rintro ⟨entity, member, _, inside, rfl, rfl⟩
    exact ⟨entity, member, rfl, inside⟩
  · rintro ⟨entity, member, rfl, inside⟩
    exact ⟨entity, member, field, inside, rfl, rfl⟩

theorem broken_target_none (entities : List Entity) (field : Field) (distinct : (entityNames entities).Nodup) :
    brokenTarget? entities field = none ↔
      ∀ target named, field.type.base = .ref target (some named) →
        ∃ other ∈ entities, other.name = target ∧ named ∈ other.fields.map Field.name := by
  have found : ∀ target named, (entity? entities target).any (·.hasField named) = true ↔
      ∃ other ∈ entities, other.name = target ∧ named ∈ other.fields.map Field.name := by
    intro target named
    rw [Option.any_eq_true]
    constructor
    · rintro ⟨other, present, has⟩
      obtain ⟨member, same⟩ := entity_found entities target other present
      exact ⟨other, member, same, (has_field_iff other named).mp has⟩
    · rintro ⟨other, member, rfl, has⟩
      exact ⟨other, entity_member entities other member distinct, (has_field_iff other named).mpr has⟩
  rw [brokenTarget?.eq_def]
  split
  · rename_i target named base
    constructor
    · intro whole target' named' base'
      rw [base] at base'
      obtain ⟨rfl, same⟩ := BaseType.ref.inj base'
      obtain rfl := Option.some.inj same
      apply (found target named).mp
      by_contra broken
      simp [broken] at whole
    · intro holds
      rw [if_pos ((found target named).mpr (holds target named base))]
  · rename_i other
    constructor
    · exact fun _ target named base => absurd base (other target named)
    · exact fun _ => rfl

theorem resolved_iff (entities : List Entity) (distinct : (entityNames entities).Nodup) :
    Resolved entities ↔ ∀ entry ∈ allFields entities, brokenTarget? entities entry.2 = none := by
  constructor
  · rintro resolved ⟨owner, field⟩ member
    obtain ⟨entity, inside, -, declared⟩ := (mem_all_fields entities owner field).mp member
    exact (broken_target_none entities field distinct).mpr (resolved entity inside field declared)
  · intro whole entity inside field declared
    have member : (entity.name, field) ∈ allFields entities :=
      (mem_all_fields entities entity.name field).mpr ⟨entity, inside, rfl, declared⟩
    exact (broken_target_none entities field distinct).mp (whole _ member)

end Schematic
