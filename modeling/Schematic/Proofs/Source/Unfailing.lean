import Schematic.Proofs.Source.Accounting
import Schematic.Proofs.Source.Indexing

set_option autoImplicit false

namespace Schematic

def Targeted (entities : List Entity) : Prop :=
  ∀ entity ∈ entities, ∀ field ∈ entity.fields, ∀ target named, field.type.base = .ref target named → target ∈ entityNames entities

structure Checkable (entities : List Entity) : Prop where
  keyed : WellKeyed entities
  targeted : Targeted entities

theorem coherent_checkable (entities : List Entity) (coherent : Coherent entities) : Checkable entities := by
  refine ⟨coherent_keyed entities coherent, ?_⟩
  intro entity inside field declared target named base
  obtain ⟨word, read⟩ := type_text_base _ _ _ ((coherent.formed entity inside).writable field declared).typed
  rw [base] at read
  exact base_text_target _ word target named read

theorem thinned_checkable (kept entities : List Entity) (thinned : Thinned kept entities) (checkable : Checkable entities) :
    Checkable kept := by
  have names := thinned_names kept entities thinned
  refine ⟨⟨by rw [names]; exact checkable.keyed.owners, ?_⟩, ?_⟩
  · intro entity member
    obtain ⟨whole, inside, -, fewer⟩ := thinned_member kept entities thinned entity member
    exact (fewer.map Field.name).nodup (checkable.keyed.names whole inside)
  · intro entity member field declared target named base
    obtain ⟨whole, inside, -, fewer⟩ := thinned_member kept entities thinned entity member
    rw [names]
    exact checkable.targeted whole inside field (fewer.subset declared) target named base

theorem sweep_append (entities : List Entity) (a b : List (String × Field)) :
    sweep entities (a ++ b) =
      ((sweep (sweep entities a).1 b).1, (sweep entities a).2 ++ (sweep (sweep entities a).1 b).2) := by
  induction a generalizing entities with
  | nil => rfl
  | cons entry a ih =>
      obtain ⟨owner, field⟩ := entry
      rw [List.cons_append, sweep, sweep]
      cases brokenTarget? entities field with
      | none => exact ih entities
      | some target =>
          simp only
          rw [ih]
          rfl

theorem sweep_idle (entities : List Entity) (entries : List (String × Field)) (quiet : (sweep entities entries).2 = []) :
    (sweep entities entries).1 = entities := by
  induction entries with
  | nil => rfl
  | cons entry entries ih =>
      obtain ⟨owner, field⟩ := entry
      rw [sweep] at quiet ⊢
      cases broken : brokenTarget? entities field with
      | none =>
          rw [broken] at quiet
          exact ih quiet
      | some target =>
          rw [broken] at quiet
          cases quiet

theorem sweep_spares (kept : List Entity → Prop) (entries : List (String × Field))
    (each : ∀ entities, ∀ entry ∈ entries, kept entities → kept (updateEntity entities entry.1 (·.eraseField entry.2.name)))
    (entities : List Entity) (holds : kept entities) : kept (sweep entities entries).1 := by
  induction entries generalizing entities with
  | nil => exact holds
  | cons entry entries ih =>
      have later := ih fun entities other member => each entities other (List.mem_cons_of_mem _ member)
      rw [sweep]
      split
      · exact later entities holds
      · exact later _ (each entities entry List.mem_cons_self holds)

theorem erase_elsewhere (entities : List Entity) (owner name : String) (entity : Entity) (inside : entity ∈ entities)
    (apart : entity.name ≠ owner) : entity ∈ updateEntity entities owner (·.eraseField name) :=
  List.mem_map.mpr ⟨entity, inside, if_neg apart⟩

theorem erase_others (entities : List Entity) (owner name place : String) (field : Field)
    (member : (place, field) ∈ allFields entities) (apart : field.name ≠ name) :
    (place, field) ∈ allFields (updateEntity entities owner (·.eraseField name)) := by
  obtain ⟨entity, inside, rfl, declared⟩ := (mem_all_fields _ _ _).mp member
  refine (mem_all_fields _ _ _).mpr ⟨_, List.mem_map_of_mem inside, ?_, ?_⟩
  · split <;> rfl
  · split
    · exact List.mem_filter.mpr ⟨declared, decide_eq_true apart⟩
    · exact declared

namespace Strict.Checked

variable (checked : Checked)

def swept (entries : List (String × Field)) : Checked :=
  ⟨(sweep checked.entities entries).1, checked.errors ++ (sweep checked.entities entries).2⟩

theorem swept_nil : checked.swept [] = checked := by
  rw [swept, sweep, List.append_nil]

theorem swept_append (a b : List (String × Field)) : (checked.swept a).swept b = checked.swept (a ++ b) := by
  rw [swept, swept, swept, sweep_append, List.append_assoc]

theorem swept_checkable (checkable : Checkable checked.entities) (entries : List (String × Field)) :
    Checkable (checked.swept entries).entities :=
  thinned_checkable _ _ (sweep_thinned checked.entities entries) checkable

theorem field_checks (checkable : Checkable checked.entities) (owner : String) (field : Field)
    (member : (owner, field) ∈ allFields checked.entities) : checked.field owner field = .ok (checked.swept [(owner, field)]) := by
  obtain ⟨home, inside, rfl, declared⟩ := (mem_all_fields _ _ _).mp member
  have found := entity_member _ home inside checkable.keyed.owners
  have here := field_member home field declared (checkable.keyed.names home inside)
  rw [Checked.field.eq_def, swept, sweep, brokenTarget?.eq_def]
  cases base : field.type.base with
  | scalar kind => simp [sweep]
  | enum values => simp [sweep]
  | ref target named =>
      cases named with
      | none => simp [sweep]
      | some named =>
          obtain ⟨pointed, there, -⟩ := entity_known _ target (checkable.targeted home inside field declared target (some named) base)
          simp only [there, demand_some, ok_bind, Option.any_some]
          by_cases has : pointed.hasField named = true
          · simp [has, sweep]
          · simp [has, found, here, sweep]

-- A field that is dropped takes no other with it, so each is found when its turn comes.
theorem fields_check (checkable : Checkable checked.entities) (owner : String) (fields : List Field)
    (distinct : (fields.map Field.name).Nodup) (declared : ∀ field ∈ fields, (owner, field) ∈ allFields checked.entities) :
    fields.foldlM (Checked.field owner) checked = .ok (checked.swept (fields.map (owner, ·))) := by
  induction fields generalizing checked with
  | nil =>
      rw [List.map_nil, swept_nil]
      rfl
  | cons field fields ih =>
      obtain ⟨fresh, distinct⟩ := List.nodup_cons.mp distinct
      have later : ∀ other ∈ fields, (owner, other) ∈ allFields (checked.swept [(owner, field)]).entities := by
        intro other member
        have apart : other.name ≠ field.name := fun same => fresh (same ▸ List.mem_map_of_mem member)
        refine sweep_spares ((owner, other) ∈ allFields ·) _ ?_ _ (declared other (List.mem_cons_of_mem _ member))
        intro entities entry listed there
        rw [List.mem_singleton.mp listed]
        exact erase_others entities owner field.name owner other there apart
      rw [List.foldlM_cons, field_checks checked checkable owner field (declared field List.mem_cons_self), ok_bind,
        ih _ (swept_checkable checked checkable _) distinct later, swept_append]
      rfl

theorem entity_checks (checkable : Checkable checked.entities) (entity : Entity) (inside : entity ∈ checked.entities) :
    checked.entity entity.name = .ok (checked.swept (entity.fields.map (entity.name, ·))) := by
  rw [Checked.entity, entity_member _ entity inside checkable.keyed.owners, demand_some, ok_bind]
  exact fields_check checked checkable entity.name entity.fields (checkable.keyed.names entity inside) fun field declared =>
    (mem_all_fields _ _ _).mpr ⟨entity, inside, rfl, declared⟩

-- Only the entity whose turn it is loses fields, so those behind it still have the fields that they were read with.
theorem entities_check (checkable : Checkable checked.entities) (rest : List Entity) (distinct : (entityNames rest).Nodup)
    (waiting : ∀ entity ∈ rest, entity ∈ checked.entities) :
    (entityNames rest).foldlM Checked.entity checked = .ok (checked.swept (allFields rest)) := by
  induction rest generalizing checked with
  | nil =>
      rw [allFields, List.flatMap_nil, swept_nil]
      rfl
  | cons entity rest ih =>
      obtain ⟨fresh, distinct⟩ := List.nodup_cons.mp distinct
      have later : ∀ other ∈ rest, other ∈ (checked.swept (entity.fields.map (entity.name, ·))).entities := by
        intro other member
        have apart : other.name ≠ entity.name := fun same => fresh (same ▸ List.mem_map_of_mem member)
        refine sweep_spares (other ∈ ·) _ ?_ _ (waiting other (List.mem_cons_of_mem _ member))
        intro entities entry listed there
        obtain ⟨field, -, rfl⟩ := List.mem_map.mp listed
        exact erase_elsewhere entities entity.name field.name other there apart
      rw [entity_names_cons, List.foldlM_cons, entity_checks checked checkable entity (waiting entity List.mem_cons_self), ok_bind,
        ih _ (swept_checkable checked checkable _) distinct later, swept_append, all_fields_cons]

theorem pass_checks (entities : List Entity) (checkable : Checkable entities) :
    pass entities = .ok ⟨(sweep entities (allFields entities)).1, (sweep entities (allFields entities)).2⟩ :=
  entities_check { entities } checkable entities checkable.keyed.owners fun _ member => member

theorem passes_end (fuel : Nat) (entities : List Entity) (checkable : Checkable entities) (enough : fieldCount entities < fuel) :
    ∃ turns, turns ≤ fieldCount entities + 1 ∧ ∀ budget, passes budget entities =
      if turns ≤ budget then .ok (⟨(sweeps fuel entities).1, (sweeps fuel entities).2⟩, turns) else .error .endless := by
  induction fuel generalizing entities with
  | zero => omega
  | succ fuel ih =>
      by_cases quiet : (sweep entities (allFields entities)).2 = []
      · refine ⟨1, by omega, fun budget => ?_⟩
        rw [sweeps_quiet fuel entities quiet]
        cases budget with
        | zero => rfl
        | succ budget =>
            rw [passes, pass_checks entities checkable, ok_bind, if_pos quiet, if_pos (by omega), sweep_idle _ _ quiet, quiet]
      · have fewer := sweep_count entities (allFields entities) (fun _ member => member) quiet
        have thinned := sweep_thinned entities (allFields entities)
        obtain ⟨turns, few, ends⟩ := ih _ (thinned_checkable _ _ thinned checkable) (by omega)
        refine ⟨turns + 1, by omega, fun budget => ?_⟩
        rw [sweeps_again fuel entities quiet]
        cases budget with
        | zero => rfl
        | succ budget =>
            rw [passes, pass_checks entities checkable, ok_bind, if_neg quiet, ends]
            by_cases spare : turns ≤ budget
            · rw [if_pos spare, if_pos (by omega)]
              rfl
            · rw [if_neg spare, if_neg (by omega)]
              rfl

end Strict.Checked

namespace Strict

theorem passes_declare (statements : List Statement) :
    ∃ index walk last, statements.zipIdx.foldlM Index.step {} = .ok index ∧
      statements.zipIdx.foldlM (Walk.step index.accepted) { entities := index.entities } = .ok walk ∧ walk.reportOpen = .ok last ∧
      index.errors = (registered statements).errors ∧ last.entities = (declared statements).entities ∧
      last.errors = (declared statements).errors := by
  obtain ⟨index, gathered, headers, places, marks⟩ := Index.index_gathers statements
  have entities : index.entities = (registered statements).entities := congrArg Headers.entities headers
  have known : ∀ place name, index.accepted.lookup place = some name → name ∈ entityNames index.entities := by
    intro place name found
    obtain ⟨before, after, whole, -⟩ := List.lookup_eq_some_iff.mp found
    rw [entities]
    exact (places (place, name) (by rw [whole]; simp)).2
  obtain ⟨walk, walked, sound, same⟩ := Walk.walk_follows { entities := index.entities }
    ⟨fun inside => (nomatch inside), fun _ nowhere => nomatch nowhere⟩ index.accepted known statements.zipIdx
  have read : walk.state.reportOpen = declared statements := by
    rw [same, ← marksAt, marks, declared, readUpTo, ← entities]
    rfl
  refine ⟨index, walk, _, gathered, walked, Walk.report_open_reports walk sound, congrArg Headers.errors headers, ?_, ?_⟩
  · rw [Walk.follow, read]
  · rw [Walk.follow, read]

-- Reading a text never fails where it takes something for granted: each key is there, each open block has its header, each
-- default can be written. The passes over the references are at most one more than there are fields, and with as many turns
-- as that the reading ends with the schema.
theorem parse_unfailing (identifier : String) (source : List Char) :
    ∃ outcome : Outcome, outcome.schema = Schema.parse identifier source ∧ outcome.passes ≤ outcome.fields + 1 ∧
      ∀ budget, parse budget identifier source = if outcome.passes ≤ budget then .ok outcome else .error .endless := by
  obtain ⟨index, walk, last, gathered, walked, ended, told, entities, errors⟩ := passes_declare (scan source)
  have checkable := coherent_checkable _ (declared_coherent (scan source) (scan_tame source))
  obtain ⟨turns, few, ends⟩ := Checked.passes_end _ _ checkable (Nat.lt_succ_self _)
  refine ⟨⟨Schema.parse identifier source, fieldCount (declared (scan source)).entities, turns⟩, rfl, few, fun budget => ?_⟩
  rw [parse]
  simp only [gathered, walked, ended, ok_bind, entities, ends]
  by_cases spare : turns ≤ budget
  · rw [if_pos spare, if_pos spare, ok_bind, told, errors, parse_statements]
    rfl
  · rw [if_neg spare, if_neg spare]
    rfl

-- Where each field names the next one, a pass drops only the last of them, so the bound is reached.
example : (Strict.parse 4 "id" "entity A \x7b\n x: A.y\n y: A.z\n z: A.none\n\x7d".toList).toOption.map
    (fun outcome => (outcome.fields, outcome.passes)) = some (3, 4) := by decide +kernel

end Strict

end Schematic
