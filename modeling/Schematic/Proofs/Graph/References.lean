import Schematic.Proofs.Graph.Entities
import Mathlib.Data.List.Forall2

set_option autoImplicit false

namespace Schematic

def Field.isReference (field : Field) : Bool :=
  match field.type.base with
  | .ref _ _ => true
  | _ => false

def referenceFields (entities : List Entity) : List (Entity × Field) :=
  entities.flatMap fun entity => (entity.fields.filter Field.isReference).map (entity, ·)

-- The field of an entity that a reference points to: the one it names, else the first of kind ID, else the first
-- primary one, else the one of the assumed name.
inductive PointsTo (identifier : String) (other : Entity) : Option String → String → Prop where
  | named (name : String) : PointsTo identifier other (some name) name
  | identified (before after : List Field) (field : Field) (whole : other.fields = before ++ field :: after)
      (kind : field.type.base = .scalar .identifier) (first : ∀ earlier ∈ before, earlier.type.base ≠ .scalar .identifier) :
      PointsTo identifier other none field.name
  | primary (before after : List Field) (field : Field) (whole : other.fields = before ++ field :: after)
      (unidentified : ∀ candidate ∈ other.fields, candidate.type.base ≠ .scalar .identifier)
      (kind : field.modifiers.isPrimary = true) (first : ∀ earlier ∈ before, earlier.modifiers.isPrimary = false) :
      PointsTo identifier other none field.name
  | assumed (unidentified : ∀ candidate ∈ other.fields, candidate.type.base ≠ .scalar .identifier)
      (secondary : ∀ candidate ∈ other.fields, candidate.modifiers.isPrimary = false) :
      PointsTo identifier other none identifier

-- A reference that names no field, to an entity with no field of kind ID, no primary one and none of the assumed name.
def Stranded (identifier : String) (entities : List Entity) (field : Field) : Prop :=
  ∃ other ∈ entities, field.type.base = .ref other.name none ∧ ∀ candidate ∈ other.fields,
    candidate.type.base ≠ .scalar .identifier ∧ candidate.modifiers.isPrimary = false ∧ candidate.name ≠ identifier

theorem is_reference (field : Field) (reference : field.isReference = true) :
    ∃ target named, field.type.base = .ref target named := by
  rw [Field.isReference] at reference
  cases base : field.type.base with
  | ref target named => exact ⟨target, named, rfl⟩
  | scalar kind => simp [base] at reference
  | enum values => simp [base] at reference

theorem mem_references (entities : List Entity) (place : Entity × Field) (member : place ∈ referenceFields entities) :
    place.1 ∈ entities ∧ place.2 ∈ place.1.fields ∧ place.2.isReference = true := by
  obtain ⟨entity, inside, among⟩ := List.mem_flatMap.mp member
  obtain ⟨field, kept, same⟩ := List.mem_map.mp among
  obtain ⟨declared, reference⟩ := List.mem_filter.mp kept
  rw [← same]
  exact ⟨inside, declared, reference⟩

theorem relation_of_reference (entities : List Entity) (identifier source : String) (field : Field) (target : String)
    (named : Option String) (base : field.type.base = .ref target named) :
    field.relation? entities identifier source =
      some
        { fromEntity := source
          fromField := field.name
          toEntity := target
          toField := targetField entities identifier target named
          cardinality := if field.type.isArray then .oneToMany else .oneToOne
          isNullable := field.modifiers.isNullable } := by
  rw [Field.relation?, base]

theorem field_relations (entities : List Entity) (identifier : String) (entity : Entity) (fields : List Field) :
    List.Forall₂ (fun place relation => place.2.relation? entities identifier place.1.name = some relation)
      ((fields.filter Field.isReference).map (entity, ·)) (fields.filterMap (·.relation? entities identifier entity.name)) := by
  induction fields with
  | nil => exact .nil
  | cons field fields ih =>
      cases reference : field.isReference with
      | true =>
          obtain ⟨target, named, base⟩ := is_reference field reference
          have relation := relation_of_reference entities identifier entity.name field target named base
          rw [List.filter_cons_of_pos reference, List.map_cons, List.filterMap_cons_some relation]
          exact .cons relation ih
      | false =>
          have none : field.relation? entities identifier entity.name = none := by
            rw [Field.isReference] at reference
            rw [Field.relation?]
            cases base : field.type.base with
            | ref target named => simp [base] at reference
            | scalar kind => rfl
            | enum values => rfl
          rw [List.filter_cons_of_neg (by simp [reference]), List.filterMap_cons_none none]
          exact ih

-- There is one relation for each reference field, in the same order.
theorem references_relations (entities : List Entity) (identifier : String) :
    List.Forall₂ (fun place relation => place.2.relation? entities identifier place.1.name = some relation)
      (referenceFields entities) (relationsOf entities identifier) := by
  apply List.rel_flatMap (List.forall₂_same.mpr fun _ _ => rfl)
  intro entity other same
  subst same
  exact field_relations entities identifier entity entity.fields

theorem target_points_to (entities : List Entity) (identifier : String) (other : Entity) (named : Option String)
    (found : entity? entities other.name = some other) (filled : ∀ field ∈ other.fields, field.name ≠ "") :
    PointsTo identifier other named (targetField entities identifier other.name named) := by
  cases named with
  | some name => exact .named name
  | none =>
      simp only [targetField, found, Option.bind_some, Entity.identifierField?]
      cases identified : other.fields.find? (fun field => decide (field.type.base = .scalar .identifier)) with
      | some field =>
          have inside := List.mem_of_find?_eq_some identified
          obtain ⟨kind, before, after, whole, first⟩ := List.find?_eq_some_iff_append.mp identified
          simp only [Option.filter_some, filled field inside, ne_eq, not_false_eq_true, decide_true, if_true, Option.getD_some]
          exact .identified before after field whole (by simpa using kind) (by simpa using first)
      | none =>
          have unidentified := List.find?_eq_none.mp identified
          cases primary : other.fields.find? (fun field => field.modifiers.isPrimary) with
          | some field =>
              have inside := List.mem_of_find?_eq_some primary
              obtain ⟨kind, before, after, whole, first⟩ := List.find?_eq_some_iff_append.mp primary
              simp only [Option.map_some, Option.filter_some, filled field inside, ne_eq, not_false_eq_true, decide_true, if_true,
                Option.getD_some]
              exact .primary before after field whole (by simpa using unidentified) kind (by simpa using first)
          | none =>
              have secondary := List.find?_eq_none.mp primary
              exact .assumed (by simpa using unidentified) (by simpa using secondary)

theorem stranded_other (identifier : String) (entities : List Entity) (distinct : (entityNames entities).Nodup)
    (other : Entity) (inside : other ∈ entities) (field : Field) (named : Option String)
    (base : field.type.base = .ref other.name named) :
    Stranded identifier entities field ↔ named = none ∧ ∀ candidate ∈ other.fields,
      candidate.type.base ≠ .scalar .identifier ∧ candidate.modifiers.isPrimary = false ∧ candidate.name ≠ identifier := by
  constructor
  · intro stranded
    obtain ⟨again, among, same, lacks⟩ := stranded
    obtain ⟨names, unnamed⟩ := BaseType.ref.inj (base.symm.trans same)
    have one : other = again := by
      have first := entity_member entities other inside distinct
      have second := entity_member entities again among distinct
      rw [names] at first
      exact Option.some.inj (first.symm.trans second)
    rw [one]
    exact ⟨unnamed, lacks⟩
  · intro lacking
    exact ⟨other, inside, lacking.1 ▸ base, lacking.2⟩

theorem stranded_iff (identifier : String) (entities : List Entity) (distinct : (entityNames entities).Nodup)
    (other : Entity) (inside : other ∈ entities) (field : Field) (named : Option String)
    (base : field.type.base = .ref other.name named) (filled : ∀ field ∈ other.fields, field.name ≠ "")
    (resolved : ∀ name, named = some name → name ∈ other.fields.map Field.name) :
    Stranded identifier entities field ↔ other.field? (targetField entities identifier other.name named) = none := by
  have pointed := target_points_to entities identifier other named (entity_member entities other inside distinct) filled
  rw [stranded_other identifier entities distinct other inside field named base, field_missing]
  generalize targetField entities identifier other.name named = name at pointed
  cases pointed with
  | named =>
      have present := resolved name rfl
      simp [present]
  | identified before after candidate whole kind first =>
      have among : candidate ∈ other.fields := by simp [whole]
      constructor
      · intro lacking
        exact absurd kind (lacking.2 candidate among).1
      · intro absent
        exact absurd (List.mem_map_of_mem among) absent
  | primary before after candidate whole unidentified kind first =>
      have among : candidate ∈ other.fields := by simp [whole]
      constructor
      · intro lacking
        exact absurd kind (by simp [(lacking.2 candidate among).2.1])
      · intro absent
        exact absurd (List.mem_map_of_mem among) absent
  | assumed unidentified secondary =>
      constructor
      · intro lacking present
        obtain ⟨candidate, among, same⟩ := List.mem_map.mp present
        exact (lacking.2 candidate among).2.2 same
      · intro absent
        refine ⟨rfl, fun candidate among => ⟨unidentified candidate among, secondary candidate among, ?_⟩⟩
        intro same
        exact absent (same ▸ List.mem_map_of_mem among)

end Schematic
