import Schematic.Proofs.Graph.Entities

set_option autoImplicit false

namespace Schematic

def Thinned (kept entities : List Entity) : Prop :=
  List.Forall₂ (fun (less more : Entity) =>
    less.name = more.name ∧ less.line = more.line ∧ less.fields.Sublist more.fields) kept entities

theorem thinned_refl (entities : List Entity) : Thinned entities entities := by
  induction entities with
  | nil => exact .nil
  | cons entity rest ih => exact .cons ⟨rfl, rfl, List.Sublist.refl _⟩ ih

theorem thinned_trans (a b c : List Entity) (first : Thinned a b) (second : Thinned b c) : Thinned a c := by
  induction first generalizing c with
  | nil => exact second
  | cons here _ ih =>
      cases second with
      | cons there rest => exact .cons ⟨here.1.trans there.1, here.2.1.trans there.2.1, here.2.2.trans there.2.2⟩ (ih _ rest)

theorem thinned_names (kept entities : List Entity) (thinned : Thinned kept entities) :
    entityNames kept = entityNames entities := by
  induction thinned with
  | nil => rfl
  | cons here _ ih => rw [entity_names_cons, entity_names_cons, here.1, ih]

theorem thinned_member (kept entities : List Entity) (thinned : Thinned kept entities) (entity : Entity)
    (member : entity ∈ kept) : ∃ whole ∈ entities, entity.name = whole.name ∧ entity.fields.Sublist whole.fields := by
  induction thinned with
  | nil => simp at member
  | cons here _ ih =>
      rcases List.mem_cons.mp member with rfl | later
      · exact ⟨_, List.mem_cons_self, here.1, here.2.2⟩
      · obtain ⟨whole, inside, same⟩ := ih later
        exact ⟨whole, List.mem_cons_of_mem _ inside, same⟩

theorem erase_thinned (entities : List Entity) (owner name : String) :
    Thinned (updateEntity entities owner (·.eraseField name)) entities := by
  induction entities with
  | nil => exact .nil
  | cons entity rest ih =>
      refine .cons ?_ ih
      dsimp only
      by_cases same : entity.name = owner
      · rw [if_pos same]
        exact ⟨rfl, rfl, List.filter_sublist⟩
      · rw [if_neg same]
        exact ⟨rfl, rfl, List.Sublist.refl _⟩

def fieldCount (entities : List Entity) : Nat := (allFields entities).length

theorem field_count_cons (entity : Entity) (rest : List Entity) :
    fieldCount (entity :: rest) = entity.fields.length + fieldCount rest := by
  simp [fieldCount, allFields]

theorem thinned_count (kept entities : List Entity) (thinned : Thinned kept entities) :
    fieldCount kept ≤ fieldCount entities := by
  induction thinned with
  | nil => exact Nat.le_refl _
  | cons here _ ih =>
      have fewer := here.2.2.length_le
      rw [field_count_cons, field_count_cons]
      omega

theorem erase_count (entities : List Entity) (owner : String) (field : Field)
    (member : (owner, field) ∈ allFields entities) :
    fieldCount (updateEntity entities owner (·.eraseField field.name)) < fieldCount entities := by
  obtain ⟨entity, inside, same, declared⟩ := (mem_all_fields entities owner field).mp member
  obtain ⟨before, after, rfl⟩ := List.append_of_mem inside
  have dropped : (entity.eraseField field.name).fields.length < entity.fields.length := by
    have removed : ¬ decide (field.name ≠ field.name) = true := by simp
    exact List.length_filter_lt_length_iff_exists.mpr ⟨field, declared, removed⟩
  have split : ∀ a b : List Entity, fieldCount (a ++ b) = fieldCount a + fieldCount b := by
    intro a b
    simp [fieldCount, allFields]
  have early := thinned_count _ _ (erase_thinned before owner field.name)
  have late := thinned_count _ _ (erase_thinned after owner field.name)
  have parts : updateEntity (before ++ entity :: after) owner (·.eraseField field.name) =
      updateEntity before owner (·.eraseField field.name) ++
        entity.eraseField field.name :: updateEntity after owner (·.eraseField field.name) := by
    simp [updateEntity, same]
  rw [parts, split, split, field_count_cons, field_count_cons]
  omega

theorem sweep_thinned (entities : List Entity) (entries : List (String × Field)) :
    Thinned (sweep entities entries).1 entities := by
  induction entries generalizing entities with
  | nil => exact thinned_refl entities
  | cons entry entries ih =>
      obtain ⟨owner, field⟩ := entry
      rw [sweep]
      split
      · exact ih entities
      · exact thinned_trans _ _ _ (ih _) (erase_thinned entities owner field.name)

theorem sweep_quiet (entities : List Entity) (entries : List (String × Field)) :
    (sweep entities entries).2 = [] ↔ ∀ entry ∈ entries, brokenTarget? entities entry.2 = none := by
  induction entries with
  | nil => simp [sweep]
  | cons entry entries ih =>
      obtain ⟨owner, field⟩ := entry
      rw [sweep]
      cases broken : brokenTarget? entities field with
      | none => simp [ih, broken]
      | some target => simp [broken]

theorem sweep_count (entities : List Entity) (entries : List (String × Field))
    (known : ∀ entry ∈ entries, entry ∈ allFields entities) (found : (sweep entities entries).2 ≠ []) :
    fieldCount (sweep entities entries).1 < fieldCount entities := by
  induction entries with
  | nil => exact absurd rfl found
  | cons entry entries ih =>
      obtain ⟨owner, field⟩ := entry
      have later : ∀ other ∈ entries, other ∈ allFields entities :=
        fun other member => known other (List.mem_cons_of_mem _ member)
      rw [sweep] at found ⊢
      cases broken : brokenTarget? entities field with
      | none =>
          rw [broken] at found
          exact ih later found
      | some target =>
          have erased := erase_count entities owner field (known _ List.mem_cons_self)
          have kept := thinned_count _ _
            (sweep_thinned (updateEntity entities owner (·.eraseField field.name)) entries)
          exact Nat.lt_of_le_of_lt kept erased

theorem sweeps_quiet (fuel : Nat) (entities : List Entity) (quiet : (sweep entities (allFields entities)).2 = []) :
    sweeps (fuel + 1) entities = (entities, []) := by
  rw [sweeps]
  cases swept : sweep entities (allFields entities) with
  | mk kept found =>
      rw [swept] at quiet
      obtain rfl : found = [] := quiet
      rfl

theorem sweeps_again (fuel : Nat) (entities : List Entity) (dropped : (sweep entities (allFields entities)).2 ≠ []) :
    sweeps (fuel + 1) entities =
      ((sweeps fuel (sweep entities (allFields entities)).1).1,
        (sweep entities (allFields entities)).2 ++ (sweeps fuel (sweep entities (allFields entities)).1).2) := by
  rw [sweeps]
  cases swept : sweep entities (allFields entities) with
  | mk kept found =>
      rw [swept] at dropped
      cases found with
      | nil => exact absurd rfl dropped
      | cons diagnostic found => rfl

theorem sweeps_thinned (fuel : Nat) (entities : List Entity) : Thinned (sweeps fuel entities).1 entities := by
  induction fuel generalizing entities with
  | zero => exact thinned_refl entities
  | succ fuel ih =>
      by_cases quiet : (sweep entities (allFields entities)).2 = []
      · rw [sweeps_quiet fuel entities quiet]
        exact thinned_refl entities
      · rw [sweeps_again fuel entities quiet]
        exact thinned_trans _ _ _ (ih _) (sweep_thinned entities (allFields entities))

-- A pass that drops something leaves fewer fields, so enough passes end with one that drops nothing.
theorem sweeps_settle (fuel : Nat) (entities : List Entity) (enough : fieldCount entities < fuel) :
    (sweep (sweeps fuel entities).1 (allFields (sweeps fuel entities).1)).2 = [] := by
  induction fuel generalizing entities with
  | zero => omega
  | succ fuel ih =>
      by_cases quiet : (sweep entities (allFields entities)).2 = []
      · rw [sweeps_quiet fuel entities quiet]
        exact quiet
      · have fewer := sweep_count entities (allFields entities) (fun _ member => member) quiet
        rw [sweeps_again fuel entities quiet]
        exact ih _ (by omega)

theorem check_references_thinned (entities : List Entity) : Thinned (checkReferences entities).1 entities :=
  sweeps_thinned _ entities

theorem check_references_resolved (entities : List Entity) (distinct : (entityNames entities).Nodup) :
    Resolved (checkReferences entities).1 := by
  have settled := sweeps_settle ((allFields entities).length + 1) entities (Nat.lt_succ_self _)
  rw [resolved_iff _ (by rw [thinned_names _ _ (check_references_thinned entities)]; exact distinct)]
  exact (sweep_quiet _ _).mp settled

theorem check_references_quiet (entities : List Entity) (distinct : (entityNames entities).Nodup)
    (resolved : Resolved entities) : checkReferences entities = (entities, []) :=
  sweeps_quiet _ entities ((sweep_quiet _ _).mpr ((resolved_iff entities distinct).mp resolved))

theorem check_references_clean (entities : List Entity) (distinct : (entityNames entities).Nodup)
    (clean : (checkReferences entities).2 = []) : Resolved entities := by
  rw [resolved_iff entities distinct, ← sweep_quiet]
  by_contra dropped
  rw [checkReferences, sweeps_again _ entities dropped] at clean
  exact dropped (List.append_eq_nil_iff.mp clean).1

end Schematic
