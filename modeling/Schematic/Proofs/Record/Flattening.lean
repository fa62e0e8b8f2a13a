import Schematic.Proofs.Record.Rebuilding
import Schematic.Proofs.Source.Integrity

set_option autoImplicit false

namespace Schematic

structure FieldFits (field : Field) : Prop where
  name : field.name.length ≤ 255
  typeName : field.type.base.name.length ≤ 255
  pointed : (field.type.base.targetField?.getD "").length ≤ 255

theorem overlong_nil (key : String) (limit : Nat) (value : String) : overlong key limit value = [] ↔ value.length ≤ limit := by
  simp [overlong]

theorem scalar_token_fits (kind : ScalarKind) : kind.token.length ≤ 255 := by
  cases kind <;> decide

theorem resolved_field_fits (entities : List Entity) (coherent : Coherent entities) (resolved : Resolved entities)
    (short : ∀ entity ∈ entities, entity.name.length ≤ 255)
    (narrow : ∀ entity ∈ entities, ∀ field ∈ entity.fields, field.name.length ≤ 255) (entity : Entity)
    (inside : entity ∈ entities) (field : Field) (declared : field ∈ entity.fields) : FieldFits field := by
  have intact := writable_intact entities resolved entity inside field declared
    ((coherent.formed entity inside).writable field declared)
  have name := narrow entity inside field declared
  have nothing : "".length ≤ 255 := by decide
  have word : "enum".length ≤ 255 := by decide
  cases base : field.type.base with
  | scalar kind => exact ⟨name, by rw [base]; exact scalar_token_fits kind, by rw [base]; exact nothing⟩
  | enum values => exact ⟨name, by rw [base]; exact word, by rw [base]; exact nothing⟩
  | ref target named =>
      obtain ⟨other, among, same, has⟩ := intact.targeted target named base
      refine ⟨name, ?_, ?_⟩
      · rw [base]
        exact same ▸ short other among
      · rw [base]
        cases named with
        | none => exact nothing
        | some pointed =>
            obtain ⟨candidate, there, called⟩ := has pointed rfl
            exact called ▸ narrow other among candidate there

theorem of_entity_fits (dataModelId : Int) (entity : Entity) (position : Nat) (fits : entity.name.length ≤ 255) :
    EntityRecord.ofEntity dataModelId entity position = .ok { dataModelId, name := entity.name, position } := by
  rw [EntityRecord.ofEntity, (overlong_nil _ _ _).mpr fits]

theorem of_field_fits (entityId : Int) (field : Field) (position : Nat) (fits : FieldFits field) :
    ∃ record, FieldRecord.ofField entityId field position = .ok record := by
  have short : overlong "name" 255 field.name ++ overlong "field_type" 255 field.type.base.name ++
      overlong "referenced_field" 255 (field.type.base.targetField?.getD "") = [] := by
    rw [(overlong_nil _ _ _).mpr fits.name, (overlong_nil _ _ _).mpr fits.typeName, (overlong_nil _ _ _).mpr fits.pointed]
    rfl
  rw [FieldRecord.ofField, short]
  exact ⟨_, rfl⟩

theorem field_rebuilds (names : List String) (unreserved : Unreserved names) (field : Field) (writable : Writable names field)
    (fits : FieldFits field) (entityId : Int) (position : Nat) :
    ∃ record, FieldRecord.ofField entityId field position = .ok record ∧ Meant entityId (field, position) record := by
  obtain ⟨record, built⟩ := of_field_fits entityId field position fits
  have meant := field_meant names unreserved entityId field position writable record built none
  have unnumbered : record.id = none := by
    rw [FieldRecord.ofField] at built
    split at built
    · rw [← Checked.ok.inj built]
    · cases built
  rw [← unnumbered] at meant
  exact ⟨record, built, meant⟩

namespace Projection

def flatten (dataModelId id : Int) (entity : Entity) (position : Nat) :
    Except (List Complaint) (EntityRecord × List FieldRecord) := do
  let record ← (EntityRecord.ofEntity dataModelId entity position).toExcept
  let fields ← entity.fields.zipIdx.mapM fun slot => (FieldRecord.ofField id slot.1 slot.2).toExcept
  return ({ record with id := some id }, fields)

def ofRows (dataModelId : Int) (rows : List (EntityRecord × List FieldRecord)) : Projection :=
  { dataModelId, entities := rows.map Prod.fst, fields := rows.flatMap Prod.snd }

def ofNumbered (dataModelId : Int) (numbered : List (Int × Entity)) : Except (List Complaint) Projection :=
  (numbered.zipIdx.mapM fun place => flatten dataModelId place.1.1 place.1.2 place.2).map (ofRows dataModelId)

structure Reordered (original other : Projection) : Prop where
  entities : other.entities.Perm original.entities
  fields : other.fields.Perm original.fields

theorem of_entities_numbered (dataModelId : Int) (entities : List Entity) :
    ofEntities dataModelId entities =
      ofNumbered dataModelId (entities.zipIdx.map fun place => ((place.2 : Int) + 1, place.1)) := by
  have places : (entities.zipIdx.map fun place => ((place.2 : Int) + 1, place.1)).zipIdx =
      entities.zipIdx.map fun place => (((place.2 : Int) + 1, place.1), place.2) := by
    refine List.ext_getElem (by simp) fun index _ _ => ?_
    simp
  rw [ofNumbered, places, List.mapM_map]
  rfl

end Projection

structure Flattened (dataModelId : Int) (place : (Int × Entity) × Nat) (row : EntityRecord × List FieldRecord) : Prop where
  record : row.1 = { id := some place.1.1, dataModelId, name := place.1.2.name, position := place.2 }
  fields : List.Forall₂ (Meant place.1.1) place.1.2.fields.zipIdx row.2

theorem flatten_flattened (names : List String) (unreserved : Unreserved names) (dataModelId : Int)
    (place : (Int × Entity) × Nat) (formed : WellFormed names place.1.2) (short : place.1.2.name.length ≤ 255)
    (fits : ∀ field ∈ place.1.2.fields, FieldFits field) :
    ∃ row, Projection.flatten dataModelId place.1.1 place.1.2 place.2 = .ok row ∧ Flattened dataModelId place row := by
  obtain ⟨records, built, meant⟩ := mapM_related
    (fun slot => (FieldRecord.ofField place.1.1 slot.1 slot.2).toExcept) (Meant place.1.1) place.1.2.fields.zipIdx (by
      intro slot member
      have declared : slot.1 ∈ place.1.2.fields := List.fst_mem_of_mem_zipIdx member
      obtain ⟨record, made, meant⟩ :=
        field_rebuilds names unreserved slot.1 (formed.writable _ declared) (fits _ declared) place.1.1 slot.2
      exact ⟨record, by rw [made]; rfl, meant⟩)
  refine ⟨({ id := some place.1.1, dataModelId, name := place.1.2.name, position := place.2 }, records), ?_, rfl, meant⟩
  rw [Projection.flatten, of_entity_fits dataModelId place.1.2 place.2 short, built]
  rfl

theorem of_numbered_flattened (names : List String) (unreserved : Unreserved names) (dataModelId : Int)
    (numbered : List (Int × Entity)) (formed : ∀ place ∈ numbered, WellFormed names place.2)
    (short : ∀ place ∈ numbered, place.2.name.length ≤ 255)
    (fits : ∀ place ∈ numbered, ∀ field ∈ place.2.fields, FieldFits field) :
    ∃ rows, Projection.ofNumbered dataModelId numbered = .ok (.ofRows dataModelId rows) ∧
      List.Forall₂ (Flattened dataModelId) numbered.zipIdx rows := by
  obtain ⟨rows, built, flattened⟩ := mapM_related
    (fun place => Projection.flatten dataModelId place.1.1 place.1.2 place.2) (Flattened dataModelId) numbered.zipIdx (by
      intro place member
      have inside : place.1 ∈ numbered := List.fst_mem_of_mem_zipIdx member
      exact flatten_flattened names unreserved dataModelId place (formed _ inside) (short _ inside) (fits _ inside))
  refine ⟨rows, ?_, flattened⟩
  rw [Projection.ofNumbered, built]
  rfl

theorem flattened_owner (dataModelId : Int) (place : (Int × Entity) × Nat) (row : EntityRecord × List FieldRecord)
    (flattened : Flattened dataModelId place row) : ∀ field ∈ row.2, field.entityId = place.1.1 := by
  intro field member
  obtain ⟨slot, -, meant⟩ := related_right _ _ _ flattened.fields field member
  exact meant.owner

theorem owned_fields (dataModelId : Int) (places : List ((Int × Entity) × Nat)) (rows : List (EntityRecord × List FieldRecord))
    (flattened : List.Forall₂ (Flattened dataModelId) places rows) (distinct : (places.map fun place => place.1.1).Nodup) :
    List.Forall₂ (fun place row => Flattened dataModelId place row ∧
      (rows.flatMap Prod.snd).filter (fun field => some field.entityId = some place.1.1) = row.2) places rows := by
  induction flattened with
  | nil => exact .nil
  | @cons place row places rows here later ih =>
      obtain ⟨fresh, others⟩ := List.nodup_cons.mp distinct
      have mine := flattened_owner dataModelId place row here
      have foreign : ∀ field ∈ rows.flatMap Prod.snd, ∃ other ∈ places, field.entityId = other.1.1 := by
        intro field member
        obtain ⟨owner, inside, among⟩ := List.mem_flatMap.mp member
        obtain ⟨other, known, found⟩ := related_right _ _ _ later owner inside
        exact ⟨other, known, flattened_owner dataModelId other owner found field among⟩
      refine .cons ⟨here, ?_⟩ (related_mono _ _ _ _ (ih others) ?_)
      · rw [List.flatMap_cons, List.filter_append, List.filter_eq_self.mpr, List.filter_eq_nil_iff.mpr, List.append_nil]
        · intro field member
          obtain ⟨other, known, owner⟩ := foreign field member
          rw [decide_eq_true_iff, Option.some.injEq, owner]
          rintro same
          exact fresh (List.mem_map.mpr ⟨other, known, same⟩)
        · intro field member
          rw [mine field member]
          exact decide_eq_true rfl
      · rintro other owner known - ⟨found, kept⟩
        refine ⟨found, ?_⟩
        rw [List.flatMap_cons, List.filter_append, List.filter_eq_nil_iff.mpr, List.nil_append]
        · exact kept
        · intro field member
          rw [decide_eq_true_iff, Option.some.injEq, mine field member]
          rintro same
          exact fresh (List.mem_map.mpr ⟨other, known, same.symm⟩)

-- Positions say where an entity and a field stand, and ids say whose a field is. The order of the rows says nothing.
theorem reordered_rebuilds (dataModelId : Int) (numbered : List (Int × Entity)) (coherent : Coherent (numbered.map Prod.snd))
    (distinct : (numbered.map Prod.fst).Nodup) (rows : List (EntityRecord × List FieldRecord))
    (flattened : List.Forall₂ (Flattened dataModelId) numbered.zipIdx rows) (other : Projection)
    (reordered : (Projection.ofRows dataModelId rows).Reordered other) :
    other.toEntities = .ok ((numbered.map Prod.snd).map Entity.unplaced) := by
  have sorted : (other.entities.mergeSort fun a b => inOrder a.position a.id b.position b.id) = rows.map Prod.fst := by
    refine sort_places EntityRecord.position EntityRecord.id _ _ reordered.entities ?_
    refine (places_ascending _ numbered 0 _ (List.forall₂_map_right_iff.mpr (flattened.imp ?_))).1
    intro place row found
    rw [found.record]
  have apart : (numbered.zipIdx.map fun place => place.1.1).Nodup := by
    have same : (numbered.zipIdx.map fun place => place.1.1) = numbered.map Prod.fst := by
      rw [← List.zipIdx_map_fst 0 numbered, List.map_map, List.zipIdx_map_fst]
      rfl
    rw [same]
    exact distinct
  have meanings : (rows.map Prod.fst).mapM other.toEntity = .ok (numbered.map fun place => place.2.unplaced) := by
    refine read_places _ (fun place => place.2.unplaced) numbered 0 _ (List.forall₂_map_right_iff.mpr ?_)
    refine related_mono _ _ _ _ (owned_fields dataModelId _ rows flattened apart) ?_
    rintro place row member - ⟨found, owned⟩
    have formed : WellFormed (entityNames (numbered.map Prod.snd)) place.1.2 :=
      coherent.formed place.1.2 (List.mem_map_of_mem (List.fst_mem_of_mem_zipIdx member))
    refine entity_meant other row.1 place.1.1 place.1.2 row.2 ?_ ?_ formed.distinct found.fields ?_
    · rw [found.record]
    · rw [found.record]
    · exact (reordered.fields.filter _).trans (List.Perm.of_eq owned)
  have names : (([] ++ numbered.map fun place : Int × Entity => place.2.unplaced).map Entity.name).Nodup := by
    rw [List.nil_append, List.map_map]
    have same : numbered.map (Entity.name ∘ fun place : Int × Entity => place.2.unplaced) = entityNames (numbered.map Prod.snd) := by
      rw [entityNames, List.map_map]
      rfl
    rw [same]
    exact coherent.distinct
  rw [Projection.toEntities, sorted, meanings, List.map_map]
  exact congrArg Except.ok (put_all Entity.name [] _ names)

-- What is read of a text goes into records and comes out of them as it was, in whatever order they are stored.
theorem parsed_records_rebuild (identifier : String) (source : List Char) (dataModelId : Int) (numbered : List (Int × Entity))
    (parsed : numbered.map Prod.snd = (Schema.parse identifier source).entities) (distinct : (numbered.map Prod.fst).Nodup)
    (short : ∀ entity ∈ (Schema.parse identifier source).entities,
      entity.name.length ≤ 255 ∧ ∀ field ∈ entity.fields, field.name.length ≤ 255) :
    (∃ projection, Projection.ofNumbered dataModelId numbered = .ok projection ∧
      ∀ other, projection.Reordered other →
        other.toEntities = .ok ((Schema.parse identifier source).entities.map Entity.unplaced)) ∧
    ∀ entity ∈ (Schema.parse identifier source).entities, ∀ field ∈ entity.fields, ∀ entityId position,
      ∃ record, FieldRecord.ofField entityId field position = .ok record ∧ record.toField = .ok field.unplaced := by
  obtain ⟨coherent, resolved⟩ := parse_coherent identifier source
  have fits := resolved_field_fits _ coherent resolved (fun entity inside => (short entity inside).1)
    (fun entity inside => (short entity inside).2)
  have listed : ∀ place ∈ numbered, place.2 ∈ (Schema.parse identifier source).entities := by
    intro place member
    rw [← parsed]
    exact List.mem_map_of_mem member
  constructor
  · obtain ⟨rows, built, flattened⟩ := of_numbered_flattened _ coherent.unreserved dataModelId numbered
      (fun place member => coherent.formed _ (listed place member)) (fun place member => (short _ (listed place member)).1)
      (fun place member => fits _ (listed place member))
    refine ⟨_, built, fun other reordered => ?_⟩
    rw [← parsed] at coherent ⊢
    exact reordered_rebuilds dataModelId numbered coherent distinct rows flattened other reordered
  · intro entity inside field declared entityId position
    obtain ⟨record, built, meant⟩ := field_rebuilds _ coherent.unreserved field
      ((coherent.formed entity inside).writable field declared) (fits entity inside field declared) entityId position
    exact ⟨record, built, meant.field⟩

def mistakenText : List Char :=
  "entity Cart \x7b\n of: User.mail @index\n in: enum(a,b)[] @default(a)\n oops\n\x7d\nentity User \x7b\n mail: ID\n\x7d".toList

def mistakenCarts : List Entity := (Schema.parse "id" mistakenText).entities

def numberedCarts : List (Int × Entity) := [7, 3].zip mistakenCarts

theorem mistaken_records_rebuild :
    (Schema.parse "id" mistakenText).isValid = false ∧ mistakenCarts.map Entity.name = ["Cart", "User"] ∧
      ∃ projection, Projection.ofNumbered 1 numberedCarts = .ok projection ∧
        ({ projection with entities := projection.entities.reverse, fields := projection.fields.reverse } : Projection).toEntities =
          .ok (mistakenCarts.map Entity.unplaced) := by
  have facts : ((Schema.parse "id" mistakenText).isValid = false ∧ mistakenCarts.map Entity.name = ["Cart", "User"]) ∧
      numberedCarts.map Prod.snd = mistakenCarts ∧ (numberedCarts.map Prod.fst).Nodup ∧
      ∀ entity ∈ mistakenCarts, entity.name.length ≤ 255 ∧ ∀ field ∈ entity.fields, field.name.length ≤ 255 := by
    decide +kernel
  obtain ⟨⟨mistaken, named⟩, parsed, distinct, short⟩ := facts
  obtain ⟨⟨projection, built, rebuilt⟩, -⟩ :=
    parsed_records_rebuild "id" mistakenText 1 numberedCarts parsed distinct short
  exact ⟨mistaken, named, projection, built, rebuilt _ ⟨projection.entities.reverse_perm, projection.fields.reverse_perm⟩⟩

end Schematic
