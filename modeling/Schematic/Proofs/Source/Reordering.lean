import Schematic.Proofs.Source.Bodies
import Schematic.Proofs.Source.Pruning

set_option autoImplicit false

namespace Schematic

section Entities

variable (a b : List Entity) (permuted : a.Perm b)

include permuted

theorem names_permuted : (entityNames a).Perm (entityNames b) := permuted.map Entity.name

theorem fields_permuted : (allFields a).Perm (allFields b) := permuted.flatMap_right _

theorem keyed_permuted (keyed : WellKeyed a) : WellKeyed b :=
  ⟨(names_permuted a b permuted).nodup_iff.mp keyed.owners, fun entity inside => keyed.names entity (permuted.mem_iff.mpr inside)⟩

theorem entity_permuted (distinct : (entityNames a).Nodup) (name : String) : entity? a name = entity? b name := by
  cases found : entity? b name with
  | none =>
      have absent := (entity_missing b name).mp found
      exact (entity_missing a name).mpr fun member => absent ((names_permuted a b permuted).mem_iff.mp member)
  | some entity =>
      obtain ⟨member, rfl⟩ := entity_found b name entity found
      exact entity_member a entity (permuted.mem_iff.mpr member) distinct

theorem relations_permuted (distinct : (entityNames a).Nodup) (identifier : String) :
    (relationsOf a identifier).Perm (relationsOf b identifier) := by
  have pointed : ∀ target named, targetField a identifier target named = targetField b identifier target named := by
    intro target named
    rw [targetField.eq_def, targetField.eq_def, entity_permuted a b permuted distinct]
  have one : ∀ (field : Field) source, field.relation? a identifier source = field.relation? b identifier source := by
    intro field source
    rw [Field.relation?.eq_def, Field.relation?.eq_def]
    simp only [pointed]
  rw [relationsOf, relationsOf]
  simp only [one]
  exact permuted.flatMap_right _

theorem supported_permuted : supportedSets a = supportedSets b := by
  have fields : fieldSet a = fieldSet b := Set.ext fun entry => (fields_permuted a b permuted).mem_iff
  rw [supportedSets, supportedSets, fields]

end Entities

def dropReport? (entry : String × Field) : Option Diagnostic :=
  match entry.2.type.base with
  | .ref target (some named) => some ⟨entry.2.line, .missingTarget named target⟩
  | _ => none

theorem drop_reports (dropped : List (String × Field)) (found : List Diagnostic)
    (reported : List.Forall₂ DropReport dropped found) : found = dropped.filterMap dropReport? := by
  induction reported with
  | nil => rfl
  | @cons entry diagnostic dropped found here _ ih =>
      obtain ⟨target, named, base, line, problem, -⟩ := here
      have whole : diagnostic = ⟨entry.2.line, .missingTarget named target⟩ := by rw [← line, ← problem]
      have told : dropReport? entry = some diagnostic := by rw [dropReport?, base, whole]
      rw [List.filterMap_cons_some told, ih]

-- References are checked to the same end in whatever order the entities stand.
theorem check_references_permuted (a b : List Entity) (permuted : a.Perm b) (keyed : WellKeyed a) :
    (checkReferences a).1.Perm (checkReferences b).1 ∧ (checkReferences a).2.Perm (checkReferences b).2 := by
  have other := keyed_permuted a b permuted keyed
  have declaration : ∀ graph : List Entity, (allFields graph).Perm (allFields graph) := fun graph => .refl _
  have here : Prunes allFields a (checkReferences a).1 (checkReferences a).2 := sweeps_prune _ a (Nat.lt_succ_self _)
  have there : Prunes allFields b (checkReferences b).1 (checkReferences b).2 := sweeps_prune _ b (Nat.lt_succ_self _)
  obtain ⟨first, one⟩ := prunes_dropped allFields declaration a _ _ keyed here
  obtain ⟨second, two⟩ := prunes_dropped allFields declaration b _ _ other there
  have greatest := dropped_greatest _ _ _ _ one (prunes_resolved allFields declaration a _ _ keyed here)
  have highest := dropped_greatest _ _ _ _ two (prunes_resolved allFields declaration b _ _ other there)
  rw [supported_permuted a b permuted] at greatest
  have same := greatest.unique highest
  have left : ∀ entry, entry ∈ allFields (checkReferences a).1 ↔ entry ∈ allFields (checkReferences b).1 := fun entry =>
    ⟨fun member => same.subset member, fun member => same.superset member⟩
  have gone : ∀ entry, entry ∈ first ↔ entry ∈ second := by
    intro entry
    have fields := (fields_permuted a b permuted).mem_iff (a := entry)
    constructor
    · intro dropped
      by_contra stays
      have kept := (dropped_fields _ _ _ _ two entry).mpr ⟨fields.mp (one.declared entry dropped), stays⟩
      exact ((dropped_fields _ _ _ _ one entry).mp ((left entry).mpr kept)).2 dropped
    · intro dropped
      by_contra stays
      have kept := (dropped_fields _ _ _ _ one entry).mpr ⟨fields.mpr (two.declared entry dropped), stays⟩
      exact ((dropped_fields _ _ _ _ two entry).mp ((left entry).mp kept)).2 dropped
  constructor
  · rw [one.left, two.left]
    simp only [gone]
    exact permuted.map _
  · rw [drop_reports _ _ one.reported, drop_reports _ _ two.reported]
    exact ((List.perm_ext_iff_of_nodup one.once two.once).mpr gone).filterMap _

section Names

variable (a b : List String) (same : ∀ name, name ∈ a ↔ name ∈ b)

include same

theorem classify_names (word : List Char) (field : Option String) (isArray : Bool) :
    classify a word field isArray = classify b word field isArray := by
  rw [classify, classify]
  simp only [same]

theorem resolve_type_names (expression : List Char) : resolveType a expression = resolveType b expression := by
  rw [resolveType, resolveType]
  simp only [classify_names a b same]

theorem follow_names (entity : Entity) (statement : Statement) : entity.follow a statement = entity.follow b statement := by
  rw [Entity.follow, Entity.follow, Entity.declare, Entity.declare, resolve_type_names a b same]

theorem read_body_names (entity : Entity) (body : List Statement) : entity.readBody a body = entity.readBody b body := by
  induction body generalizing entity with
  | nil => rfl
  | cons statement rest ih => rw [read_body_cons, read_body_cons, follow_names a b same, ih]

end Names

end Schematic
