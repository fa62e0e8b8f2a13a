import Schematic.Proofs.Record.Rebuilding
import Schematic.Proofs.Service.Keys

set_option autoImplicit false

namespace Schematic

structure EntityRows (tables : Tables) (dataModelId : Int) (place : Entity × Nat) (row : Row Int EntityRecord) : Prop where
  stored : EntityRow dataModelId place row
  declared : List.Forall₂ (FieldRow row.id) place.1.fields.zipIdx (tables.fields.belonging row.id)

def Holds (tables : Tables) (dataModelId : Int) (entities : List Entity) : Prop :=
  List.Forall₂ (EntityRows tables dataModelId) entities.zipIdx (tables.entities.belonging dataModelId)

theorem holds_none (tables : Tables) (dataModelId : Int) (empty : tables.entities.rows = []) : Holds tables dataModelId [] := by
  rw [Holds, Table.belonging, empty]
  exact .nil

theorem holds_rows (before after : Tables) (dataModelId : Int) (list : List Entity)
    (entities : after.entities.rows = before.entities.rows) (fields : after.fields.rows = before.fields.rows)
    (holds : Holds before dataModelId list) : Holds after dataModelId list := by
  rw [Holds, Table.belonging, entities]
  refine holds.imp fun place row found => ⟨found.stored, ?_⟩
  rw [Table.belonging, fields]
  exact found.declared

theorem filter_all {α : Type} (rows : List α) (wanted : α → Bool) (all : ∀ row ∈ rows, wanted row = true) :
    rows.filter wanted = rows := List.filter_eq_self.mpr all

theorem filter_none {α : Type} (rows : List α) (wanted : α → Bool) (none : ∀ row ∈ rows, wanted row = false) :
    rows.filter wanted = [] := List.filter_eq_nil_iff.mpr fun row member => by simp [none row member]

theorem belonging_fresh {α : Type} (parent : Int) (old fresh : List (Row Int α)) (mine : ∀ row ∈ fresh, row.parent = some parent) :
    ((old.filter fun row => !decide (row.parent = some parent)) ++ fresh).filter (fun row => decide (row.parent = some parent)) =
      fresh := by
  rw [List.filter_append, filter_none, List.nil_append, filter_all]
  · simpa using mine
  · intro row member
    simpa using (List.mem_filter.mp member).2

theorem written_rows (dataModelId last : Int) (places : List (Entity × Nat)) (rows : List (Row Int EntityRecord))
    (fields : List (Row Int FieldRecord)) (written : Written dataModelId last places rows fields) :
    List.Forall₂ (fun place row => last < row.id ∧ EntityRow dataModelId place row ∧
      List.Forall₂ (FieldRow row.id) place.1.fields.zipIdx (fields.filter fun field => field.parent = some row.id))
      places rows := by
  induction written with
  | nil => exact .nil
  | cons last place places row rows fields others next stored declared later ih =>
      have mine := field_rows_parent row.id _ fields declared
      have foreign : ∀ field ∈ others, ∃ other, last + 1 < other ∧ field.parent = some other := by
        intro field member
        obtain ⟨owner, inside, same⟩ := written_fields _ _ _ _ _ later field member
        exact ⟨owner.id, (written_ids _ _ _ _ _ later owner inside).1, same⟩
      refine .cons ⟨by omega, stored, ?_⟩ (ih.imp ?_)
      · rw [List.filter_append, filter_all fields _ (by simpa using mine), filter_none others, List.append_nil]
        · exact declared
        · intro field member
          obtain ⟨other, greater, same⟩ := foreign field member
          rw [decide_eq_false_iff_not, same, Option.some.injEq]
          omega
      · rintro place entity ⟨greater, kept, whole⟩
        refine ⟨by omega, kept, ?_⟩
        rw [List.filter_append, filter_none fields, List.nil_append]
        · exact whole
        · intro field member
          rw [decide_eq_false_iff_not, mine field member, Option.some.injEq]
          omega

theorem rewritten_belonging (id : Int) (entities : List Entity) (before after : Tables) (rows : List (Row Int EntityRecord))
    (fields : List (Row Int FieldRecord)) (written : Written id before.entities.lastId entities.zipIdx rows fields)
    (table : after.entities.rows = (before.cleared id).entities.rows ++ rows) : after.entities.belonging id = rows := by
  rw [Table.belonging, table, cleared_entities]
  exact belonging_fresh id _ rows (written_parents id _ _ rows fields written)

theorem rewritten_count (id : Int) (entities : List Entity) (before after : Tables)
    (rewritten : Rewritten id entities before after) : (after.entities.belonging id).length = entities.length := by
  obtain ⟨rows, fields, relations, written, -, tables⟩ := rewritten
  rw [rewritten_belonging id entities before after rows fields written tables.entities,
    ← (written_rows id _ _ rows fields written).length_eq, List.length_zipIdx]

theorem rewritten_holds (id : Int) (entities : List Entity) (before after : Tables)
    (rewritten : Rewritten id entities before after) (keyed : Keyed before) : Holds after id entities := by
  obtain ⟨rows, fields, relations, written, -, tables⟩ := rewritten
  rw [Holds, rewritten_belonging id entities before after rows fields written tables.entities]
  refine (written_rows id _ _ rows fields written).imp ?_
  rintro place row ⟨fresh, stored, declared⟩
  refine ⟨stored, ?_⟩
  rw [Table.belonging, tables.fields, List.filter_append, filter_none, List.nil_append]
  · exact declared
  · intro field member
    rw [decide_eq_false_iff_not]
    intro owned
    have given := keyed.parented field (List.mem_filter.mp member).1 _ owned
    omega

theorem rewritten_holds_other (id other : Int) (entities list : List Entity) (before after : Tables)
    (rewritten : Rewritten id entities before after) (keyed : Keyed before) (apart : other ≠ id)
    (holds : Holds before other list) : Holds after other list := by
  rw [Holds, rewritten_entities id other entities before after rewritten apart]
  refine related_mono _ _ _ _ holds fun place row _ member found => ⟨found.stored, ?_⟩
  rw [Table.belonging, rewritten_owned id other entities before after rewritten keyed apart]
  · exact found.declared
  · intro field mine
    exact ⟨row.id, List.mem_map_of_mem member, by simpa using mine⟩

end Schematic
