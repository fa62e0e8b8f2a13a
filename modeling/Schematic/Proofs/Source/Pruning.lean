import Schematic.Proofs.Source.Sweeping
import Mathlib.Data.List.Perm.Basic
import Mathlib.Order.Bounds.Basic

set_option autoImplicit false

namespace Schematic

structure WellKeyed (entities : List Entity) : Prop where
  owners : (entityNames entities).Nodup
  names : ∀ entity ∈ entities, (entity.fields.map Field.name).Nodup

def restrict (keep : String × Field → Bool) (entities : List Entity) : List Entity :=
  entities.map fun entity => { entity with fields := entity.fields.filter fun field => keep (entity.name, field) }

def fieldSet (entities : List Entity) : Set (String × Field) := {entry | entry ∈ allFields entities}

-- Every qualified reference in the set names a field in the set, on its target.
def Supported (chosen : Set (String × Field)) : Prop :=
  ∀ entry ∈ chosen, ∀ target named, entry.2.type.base = .ref target (some named) →
    ∃ other ∈ chosen, other.1 = target ∧ other.2.name = named

def supportedSets (entities : List Entity) : Set (Set (String × Field)) :=
  {chosen | chosen ⊆ fieldSet entities ∧ Supported chosen}

def DropReport (entry : String × Field) (diagnostic : Diagnostic) : Prop :=
  ∃ target named, entry.2.type.base = .ref target (some named) ∧ diagnostic.line = entry.2.line ∧
    diagnostic.problem = .missingTarget named target ∧ diagnostic.problem.kind = .typeError

-- Fields were dropped from a graph, each once, with a report of each, and none of them could have been left.
structure Dropped (entities kept : List Entity) (dropped : List (String × Field)) (found : List Diagnostic) : Prop where
  left : kept = restrict (fun entry => decide (entry ∉ dropped)) entities
  reported : List.Forall₂ DropReport dropped found
  declared : ∀ entry ∈ dropped, entry ∈ allFields entities
  once : dropped.Nodup
  spared : ∀ chosen ∈ supportedSets entities, ∀ entry ∈ dropped, entry ∉ chosen

-- The loop of passes, each over the fields in an order of its own, until one drops nothing.
inductive Prunes (order : List Entity → List (String × Field)) : List Entity → List Entity → List Diagnostic → Prop where
  | quiet (entities : List Entity) (nothing : (sweep entities (order entities)).2 = []) : Prunes order entities entities []
  | again (entities kept : List Entity) (later : List Diagnostic) (something : (sweep entities (order entities)).2 ≠ [])
      (rest : Prunes order (sweep entities (order entities)).1 kept later) :
      Prunes order entities kept ((sweep entities (order entities)).2 ++ later)

theorem all_fields_restrict (keep : String × Field → Bool) (entities : List Entity) :
    allFields (restrict keep entities) = (allFields entities).filter keep := by
  induction entities with
  | nil => rfl
  | cons entity rest ih =>
      rw [restrict, List.map_cons, all_fields_cons, all_fields_cons, List.filter_append, ← restrict, ih, List.filter_map]
      rfl

theorem restrict_congr (a b : String × Field → Bool) (entities : List Entity)
    (same : ∀ entry ∈ allFields entities, a entry = b entry) : restrict a entities = restrict b entities := by
  apply List.map_congr_left
  intro entity inside
  have fields : (entity.fields.filter fun field => a (entity.name, field)) =
      entity.fields.filter fun field => b (entity.name, field) :=
    List.filter_congr fun field declared => same _ ((mem_all_fields entities _ field).mpr ⟨entity, inside, rfl, declared⟩)
  rw [fields]

theorem restrict_all (entities : List Entity) : restrict (fun _ => true) entities = entities := by
  have whole : ∀ entity ∈ entities,
      ({ entity with fields := entity.fields.filter fun _ => true } : Entity) = entity := by
    intro entity _
    rw [List.filter_true]
  exact (List.map_congr_left whole).trans (List.map_id' _)

theorem restrict_restrict (a b : String × Field → Bool) (entities : List Entity) :
    restrict a (restrict b entities) = restrict (fun entry => a entry && b entry) entities := by
  rw [restrict, restrict, List.map_map]
  apply List.map_congr_left
  intro entity _
  simp only [Function.comp_apply, List.filter_filter]

theorem restrict_keyed (keep : String × Field → Bool) (entities : List Entity) (keyed : WellKeyed entities) :
    WellKeyed (restrict keep entities) := by
  constructor
  · have names : entityNames (restrict keep entities) = entityNames entities := by
      rw [restrict, entityNames, List.map_map]
      rfl
    rw [names]
    exact keyed.owners
  · intro entity inside
    obtain ⟨whole, among, rfl⟩ := List.mem_map.mp inside
    exact (List.filter_sublist.map Field.name).nodup (keyed.names whole among)

section Keyed

variable (entities : List Entity) (keyed : WellKeyed entities)

include keyed

theorem same_place (a b : String × Field) (here : a ∈ allFields entities) (there : b ∈ allFields entities)
    (owners : a.1 = b.1) (names : a.2.name = b.2.name) : a = b := by
  obtain ⟨owner, field⟩ := a
  obtain ⟨other, twin⟩ := b
  obtain rfl : owner = other := owners
  obtain ⟨entity, inside, same, declared⟩ := (mem_all_fields entities owner field).mp here
  obtain ⟨again, among, known, stated⟩ := (mem_all_fields entities owner twin).mp there
  have found := entity_member entities entity inside keyed.owners
  rw [same, ← known, entity_member entities again among keyed.owners] at found
  obtain rfl : again = entity := Option.some.inj found
  have first := field_member again field declared (keyed.names again among)
  have second := field_member again twin stated (keyed.names again among)
  have fields : field.name = twin.name := names
  rw [fields, second] at first
  rw [Option.some.inj first]

theorem all_fields_nodup : (allFields entities).Nodup := by
  rw [allFields, List.nodup_flatMap]
  constructor
  · intro entity inside
    exact (keyed.names entity inside).of_map.map fun _ _ same => (Prod.mk.inj same).2
  · have apart : entities.Pairwise fun a b => a.name ≠ b.name := List.pairwise_map.mp keyed.owners
    refine apart.imp fun different => ?_
    rw [Function.onFun_apply, List.disjoint_left]
    intro entry here there
    obtain ⟨_, _, rfl⟩ := List.mem_map.mp here
    obtain ⟨_, _, same⟩ := List.mem_map.mp there
    exact different (Prod.mk.inj same).1.symm

theorem erase_restrict (owner : String) (field : Field) (member : (owner, field) ∈ allFields entities) :
    updateEntity entities owner (·.eraseField field.name) =
      restrict (fun entry => decide (entry ∉ [(owner, field)])) entities := by
  apply List.map_congr_left
  intro entity inside
  by_cases same : entity.name = owner
  · rw [if_pos same]
    dsimp only [Entity.eraseField]
    have fields : (entity.fields.filter fun other => decide (other.name ≠ field.name)) =
        entity.fields.filter fun other => decide ((entity.name, other) ∉ [(owner, field)]) := by
      apply List.filter_congr
      intro other declared
      have there := (mem_all_fields entities _ other).mpr ⟨entity, inside, rfl, declared⟩
      rw [decide_eq_decide, not_iff_not, List.mem_singleton]
      constructor
      · exact fun names => same_place entities keyed _ _ there member same names
      · exact fun entry => congrArg (·.2.name) entry
    rw [fields]
  · rw [if_neg same]
    have fields : (entity.fields.filter fun other => decide ((entity.name, other) ∉ [(owner, field)])) = entity.fields := by
      apply List.filter_eq_self.mpr
      intro other _
      rw [decide_eq_true_eq, List.mem_singleton]
      exact fun entry => same (congrArg Prod.fst entry)
    rw [fields]

theorem dropped_one (owner target named : String) (field : Field) (member : (owner, field) ∈ allFields entities)
    (broken : brokenTarget? entities field = some (target, named)) :
    Dropped entities (updateEntity entities owner (·.eraseField field.name)) [(owner, field)]
      [⟨field.line, .missingTarget named target⟩] := by
  have base : field.type.base = .ref target (some named) := by
    rw [brokenTarget?.eq_def] at broken
    split at broken
    · rename_i base
      split at broken
      · cases broken
      · obtain ⟨rfl, rfl⟩ := Prod.mk.inj (Option.some.inj broken)
        exact base
    · cases broken
  refine ⟨erase_restrict entities keyed owner field member, .cons ⟨target, named, base, rfl, rfl, rfl⟩ .nil, ?_,
    List.nodup_singleton _, ?_⟩
  · intro entry inside
    rw [List.mem_singleton.mp inside]
    exact member
  · rintro chosen ⟨within, supported⟩ entry inside among
    rw [List.mem_singleton.mp inside] at among
    have whole : brokenTarget? entities field = none := by
      rw [broken_target_none entities field keyed.owners]
      intro target named base
      obtain ⟨other, present, rfl, rfl⟩ := supported _ among target named base
      obtain ⟨entity, known, same, declared⟩ := (mem_all_fields entities other.1 other.2).mp (within present)
      exact ⟨entity, known, same, List.mem_map_of_mem declared⟩
    rw [whole] at broken
    cases broken

end Keyed

theorem dropped_none (entities : List Entity) : Dropped entities entities [] [] := by
  refine ⟨?_, .nil, by simp, List.nodup_nil, by simp⟩
  rw [← restrict_all entities, restrict_restrict]
  simp

theorem dropped_keyed (entities kept : List Entity) (dropped : List (String × Field)) (found : List Diagnostic)
    (some : Dropped entities kept dropped found) (keyed : WellKeyed entities) : WellKeyed kept := by
  rw [some.left]
  exact restrict_keyed _ entities keyed

theorem dropped_fields (entities kept : List Entity) (dropped : List (String × Field)) (found : List Diagnostic)
    (some : Dropped entities kept dropped found) (entry : String × Field) :
    entry ∈ allFields kept ↔ entry ∈ allFields entities ∧ entry ∉ dropped := by
  rw [some.left, all_fields_restrict, List.mem_filter, decide_eq_true_eq]

theorem dropped_append (a b c : List Entity) (first second : List (String × Field)) (found later : List Diagnostic)
    (before : Dropped a b first found) (after : Dropped b c second later) :
    Dropped a c (first ++ second) (found ++ later) := by
  have fresh : ∀ entry ∈ second, entry ∈ allFields a ∧ entry ∉ first :=
    fun entry member => (dropped_fields a b first found before entry).mp (after.declared entry member)
  refine ⟨?_, List.rel_append before.reported after.reported, ?_, ?_, ?_⟩
  · rw [after.left, before.left, restrict_restrict]
    apply restrict_congr
    intro entry _
    by_cases early : entry ∈ first <;> by_cases late : entry ∈ second <;> simp [early, late]
  · intro entry member
    cases List.mem_append.mp member with
    | inl early => exact before.declared entry early
    | inr late => exact (fresh entry late).1
  · rw [List.nodup_append]
    refine ⟨before.once, after.once, fun x early y late same => ?_⟩
    exact (fresh y late).2 (same ▸ early)
  · rintro chosen possible entry member
    have kept : chosen ∈ supportedSets b := by
      refine ⟨fun other inside => ?_, possible.2⟩
      exact (dropped_fields a b first found before other).mpr
        ⟨possible.1 inside, fun gone => before.spared chosen possible other gone inside⟩
    cases List.mem_append.mp member with
    | inl early => exact before.spared chosen possible entry early
    | inr late => exact after.spared chosen kept entry late

-- One pass drops only what cannot be left, however it goes through the fields.
theorem sweep_dropped (entities : List Entity) (entries : List (String × Field)) (keyed : WellKeyed entities)
    (known : ∀ entry ∈ entries, entry ∈ allFields entities) (once : entries.Nodup) :
    ∃ dropped, Dropped entities (sweep entities entries).1 dropped (sweep entities entries).2 := by
  induction entries generalizing entities with
  | nil => exact ⟨[], dropped_none entities⟩
  | cons entry rest ih =>
      obtain ⟨owner, field⟩ := entry
      obtain ⟨fresh, once⟩ := List.nodup_cons.mp once
      have member := known _ List.mem_cons_self
      rw [sweep]
      cases broken : brokenTarget? entities field with
      | none => exact ih entities keyed (fun other later => known other (List.mem_cons_of_mem _ later)) once
      | some missing =>
          obtain ⟨target, named⟩ := missing
          have one := dropped_one entities keyed owner target named field member broken
          have present : ∀ other ∈ rest, other ∈ allFields (updateEntity entities owner (·.eraseField field.name)) := by
            intro other later
            refine (dropped_fields _ _ _ _ one other).mpr ⟨known other (List.mem_cons_of_mem _ later), ?_⟩
            rintro gone
            exact fresh (List.mem_singleton.mp gone ▸ later)
          obtain ⟨dropped, others⟩ := ih _ (dropped_keyed _ _ _ _ one keyed) present once
          exact ⟨_, dropped_append _ _ _ _ _ _ _ one others⟩

section Order

variable (order : List Entity → List (String × Field)) (complete : ∀ graph, (order graph).Perm (allFields graph))

include complete

theorem pass_dropped (entities : List Entity) (keyed : WellKeyed entities) :
    ∃ dropped, Dropped entities (sweep entities (order entities)).1 dropped (sweep entities (order entities)).2 :=
  sweep_dropped entities (order entities) keyed (fun _ member => (complete entities).mem_iff.mp member)
    ((complete entities).nodup_iff.mpr (all_fields_nodup entities keyed))

theorem prunes_dropped (entities kept : List Entity) (found : List Diagnostic) (keyed : WellKeyed entities)
    (pruned : Prunes order entities kept found) : ∃ dropped, Dropped entities kept dropped found := by
  induction pruned with
  | quiet entities nothing => exact ⟨[], dropped_none entities⟩
  | again entities kept later something rest ih =>
      obtain ⟨first, pass⟩ := pass_dropped order complete entities keyed
      obtain ⟨second, others⟩ := ih (dropped_keyed _ _ _ _ pass keyed)
      exact ⟨_, dropped_append _ _ _ _ _ _ _ pass others⟩

theorem prunes_resolved (entities kept : List Entity) (found : List Diagnostic) (keyed : WellKeyed entities)
    (pruned : Prunes order entities kept found) : Resolved kept := by
  induction pruned with
  | quiet entities nothing =>
      rw [resolved_iff entities keyed.owners]
      intro entry member
      exact (sweep_quiet entities (order entities)).mp nothing entry ((complete entities).mem_iff.mpr member)
  | again entities kept later something rest ih =>
      obtain ⟨first, pass⟩ := pass_dropped order complete entities keyed
      exact ih (dropped_keyed _ _ _ _ pass keyed)

-- A pass that drops a field leaves fewer, so the loop ends.
theorem prunes_ends (entities : List Entity) : ∃ kept found, Prunes order entities kept found := by
  generalize size : fieldCount entities = count
  induction count using Nat.strongRecOn generalizing entities with
  | ind count ih =>
      by_cases nothing : (sweep entities (order entities)).2 = []
      · exact ⟨entities, [], .quiet entities nothing⟩
      · have fewer := sweep_count entities (order entities) (fun _ member => (complete entities).mem_iff.mp member) nothing
        obtain ⟨kept, later, rest⟩ := ih _ (size ▸ fewer) _ rfl
        exact ⟨kept, _, .again entities kept later nothing rest⟩

end Order

theorem prunes_once (order : List Entity → List (String × Field)) (entities a b : List Entity) (found other : List Diagnostic)
    (first : Prunes order entities a found) (second : Prunes order entities b other) : b = a ∧ other = found := by
  induction first generalizing other with
  | quiet entities nothing =>
      cases second with
      | quiet _ _ => exact ⟨rfl, rfl⟩
      | again _ _ _ something _ => exact absurd nothing something
  | again entities kept later something rest ih =>
      cases second with
      | quiet _ nothing => exact absurd nothing something
      | again _ _ _ _ others =>
          obtain ⟨rfl, rfl⟩ := ih _ others
          exact ⟨rfl, rfl⟩

theorem resolved_supported (entities : List Entity) (resolved : Resolved entities) : Supported (fieldSet entities) := by
  rintro ⟨owner, field⟩ member target named base
  obtain ⟨entity, inside, -, declared⟩ := (mem_all_fields entities owner field).mp member
  obtain ⟨other, known, rfl, has⟩ := resolved entity inside field declared target named base
  obtain ⟨pointed, among, rfl⟩ := List.mem_map.mp has
  exact ⟨(other.name, pointed), (mem_all_fields entities _ pointed).mpr ⟨other, known, rfl, among⟩, rfl, rfl⟩

theorem dropped_greatest (entities kept : List Entity) (dropped : List (String × Field)) (found : List Diagnostic)
    (some : Dropped entities kept dropped found) (resolved : Resolved kept) :
    IsGreatest (supportedSets entities) (fieldSet kept) := by
  refine ⟨⟨fun entry member => ?_, resolved_supported kept resolved⟩, fun chosen possible entry member => ?_⟩
  · exact ((dropped_fields _ _ _ _ some entry).mp member).1
  · exact (dropped_fields _ _ _ _ some entry).mpr
      ⟨possible.1 member, fun gone => some.spared chosen possible entry gone member⟩

theorem dropped_same (entities a b : List Entity) (first second : List (String × Field)) (found other : List Diagnostic)
    (one : Dropped entities a first found) (two : Dropped entities b second other)
    (same : fieldSet a = fieldSet b) : a = b := by
  rw [one.left, two.left]
  apply restrict_congr
  intro entry member
  have left : entry ∈ fieldSet a ↔ entry ∈ fieldSet b := by rw [same]
  have here := dropped_fields _ _ _ _ one entry
  have there := dropped_fields _ _ _ _ two entry
  rw [decide_eq_decide]
  constructor
  · exact fun stays => (there.mp (left.mp (here.mpr ⟨member, stays⟩))).2
  · exact fun stays => (here.mp (left.mpr (there.mpr ⟨member, stays⟩))).2

theorem sweeps_prune (fuel : Nat) (entities : List Entity) (enough : fieldCount entities < fuel) :
    Prunes allFields entities (sweeps fuel entities).1 (sweeps fuel entities).2 := by
  induction fuel generalizing entities with
  | zero => omega
  | succ fuel ih =>
      by_cases nothing : (sweep entities (allFields entities)).2 = []
      · rw [sweeps_quiet fuel entities nothing]
        exact .quiet entities nothing
      · have fewer := sweep_count entities (allFields entities) (fun _ member => member) nothing
        rw [sweeps_again fuel entities nothing]
        exact .again entities _ _ nothing (ih _ (by omega))

-- The fields that are left are the greatest set in which every qualified reference names a field of the set. This holds for
-- every order in which the passes take the fields, the loop ends in each, and each field that is dropped is reported once.
theorem references_pruned (entities : List Entity) (keyed : WellKeyed entities) :
    Prunes allFields entities (checkReferences entities).1 (checkReferences entities).2 ∧
      IsGreatest (supportedSets entities) (fieldSet (checkReferences entities).1) ∧
      (∃ keep, (checkReferences entities).1 = restrict keep entities) ∧
      ∀ order : List Entity → List (String × Field), (∀ graph, (order graph).Perm (allFields graph)) →
        ∃ found dropped,
          (∀ kept told, Prunes order entities kept told ↔ kept = (checkReferences entities).1 ∧ told = found) ∧
          dropped.Perm ((allFields entities).filter fun entry => decide (entry ∉ allFields (checkReferences entities).1)) ∧
          List.Forall₂ DropReport dropped found := by
  have declaration : ∀ graph : List Entity, (allFields graph).Perm (allFields graph) := fun graph => .refl _
  have run : Prunes allFields entities (checkReferences entities).1 (checkReferences entities).2 :=
    sweeps_prune _ entities (Nat.lt_succ_self _)
  obtain ⟨gone, whole⟩ := prunes_dropped allFields declaration entities _ _ keyed run
  have greatest := dropped_greatest _ _ _ _ whole (prunes_resolved allFields declaration entities _ _ keyed run)
  refine ⟨run, greatest, ⟨_, whole.left⟩, fun order complete => ?_⟩
  obtain ⟨kept, found, pruned⟩ := prunes_ends order complete entities
  obtain ⟨dropped, some⟩ := prunes_dropped order complete entities kept found keyed pruned
  have resolved := prunes_resolved order complete entities kept found keyed pruned
  have same : kept = (checkReferences entities).1 :=
    dropped_same _ _ _ _ _ _ _ some whole ((dropped_greatest _ _ _ _ some resolved).unique greatest)
  refine ⟨found, dropped, fun other told => ⟨fun again => ?_, ?_⟩, ?_, some.reported⟩
  · obtain ⟨here, there⟩ := prunes_once order entities kept other found told pruned again
    exact ⟨here.trans same, there⟩
  · rintro ⟨rfl, rfl⟩
    exact same ▸ pruned
  · rw [← same, List.perm_ext_iff_of_nodup some.once ((all_fields_nodup entities keyed).filter _)]
    intro entry
    rw [List.mem_filter, decide_eq_true_eq, dropped_fields _ _ _ _ some entry, not_and, not_not]
    exact ⟨fun gone => ⟨some.declared entry gone, fun _ => gone⟩, fun gone => gone.2 gone.1⟩

def pointing (name target pointed : String) (line : Nat) : Field :=
  { name, type := ⟨.ref target (some pointed), false⟩, line }

-- A broken reference with one that points to it, and two that point to each other.
def chained : List Entity :=
  [⟨"A", [pointing "last" "B" "gone" 2, pointing "there" "B" "back" 3], 1⟩,
    ⟨"B", [pointing "back" "A" "there" 6, pointing "first" "A" "last" 7], 5⟩]

def unchained : List Entity := [⟨"A", [pointing "there" "B" "back" 3], 1⟩, ⟨"B", [pointing "back" "A" "there" 6], 5⟩]

theorem chained_references_pruned : WellKeyed chained ∧ (checkReferences chained).1 = unchained ∧
    IsGreatest (supportedSets chained) (fieldSet unchained) ∧
    ∃ found, Prunes (fun graph => (allFields graph).reverse) chained unchained found := by
  have keyed : WellKeyed chained := ⟨by decide, by decide⟩
  have kept : (checkReferences chained).1 = unchained := by decide +kernel
  obtain ⟨-, greatest, -, orders⟩ := references_pruned chained keyed
  obtain ⟨found, -, runs, -⟩ := orders (fun graph => (allFields graph).reverse) fun _ => List.reverse_perm _
  rw [kept] at greatest
  exact ⟨keyed, kept, greatest, found, (runs unchained found).mpr ⟨kept.symm, rfl⟩⟩

end Schematic
