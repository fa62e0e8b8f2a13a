import Schematic.Proofs.Related
import Schematic.Proofs.Source.RoundTrip
import Schematic.Record.Projection

set_option autoImplicit false

namespace Schematic

theorem put_absent {α : Type} (name : α → String) (item : α) (items : List α) (absent : name item ∉ items.map name) :
    putBy name item items = items ++ [item] := by
  induction items with
  | nil => rfl
  | cons first items ih =>
      rw [List.map_cons, List.mem_cons, not_or] at absent
      rw [putBy, if_neg (Ne.symm absent.1), ih absent.2]
      rfl

theorem put_all {α : Type} (name : α → String) (kept items : List α) (distinct : ((kept ++ items).map name).Nodup) :
    items.foldl (fun kept item => putBy name item kept) kept = kept ++ items := by
  induction items generalizing kept with
  | nil => rw [List.append_nil]; rfl
  | cons item items ih =>
      have absent : name item ∉ kept.map name := by
        rw [List.map_append, List.map_cons, List.nodup_append] at distinct
        exact fun member => distinct.2.2 _ member _ List.mem_cons_self rfl
      rw [List.foldl_cons, put_absent name item kept absent, ih (kept ++ [item]), List.append_assoc]
      · rfl
      · rw [List.append_assoc]
        exact distinct

theorem put_fields (entity : Entity) (fields : List Field) :
    fields.foldl Entity.putField entity =
      { entity with fields := fields.foldl (fun kept field => putBy Field.name field kept) entity.fields } := by
  induction fields generalizing entity with
  | nil => rfl
  | cons field fields ih => rw [List.foldl_cons, ih, List.foldl_cons]; rfl

theorem in_order_iff (a : Int) (idA : Option Int) (b : Int) (idB : Option Int) :
    inOrder a idA b idB = true ↔ a < b ∨ a = b ∧ idA.getD 0 ≤ idB.getD 0 := by
  simp [inOrder]

-- Rows with different positions are sorted in one way only.
theorem sort_places {α : Type} (position : α → Int) (id : α → Option Int) (rows sorted : List α) (same : rows.Perm sorted)
    (ascending : sorted.Pairwise fun a b => position a < position b) :
    (rows.mergeSort fun a b => inOrder (position a) (id a) (position b) (id b)) = sorted := by
  have distinct : (sorted.map position).Nodup := by
    rw [List.Nodup, List.pairwise_map]
    exact ascending.imp fun less => Int.ne_of_lt less
  have whole := (List.mergeSort_perm rows fun a b => inOrder (position a) (id a) (position b) (id b)).trans same
  refine @List.Perm.eq_of_pairwise α (fun a b => inOrder (position a) (id a) (position b) (id b) = true) _ _ ?_ ?_ ?_ whole
  · intro a b inA inB lessA lessB
    rw [in_order_iff] at lessA lessB
    have equal : position a = position b := by omega
    exact List.inj_on_of_nodup_map distinct (whole.mem_iff.mp inA) inB equal
  · apply List.pairwise_mergeSort
    · intro a b c first second
      rw [in_order_iff] at first second ⊢
      omega
    · intro a b
      rw [Bool.or_eq_true, in_order_iff, in_order_iff]
      omega
  · exact ascending.imp fun less => (in_order_iff _ _ _ _).mpr (.inl less)

theorem places_ascending {α β : Type} (position : β → Int) (items : List α) (first : Nat) (rows : List β)
    (placed : List.Forall₂ (fun place row => position row = place.2) (items.zipIdx first) rows) :
    (rows.Pairwise fun a b => position a < position b) ∧ ∀ row ∈ rows, (first : Int) ≤ position row := by
  induction items generalizing first rows with
  | nil =>
      cases placed
      exact ⟨List.Pairwise.nil, by simp⟩
  | cons item items ih =>
      cases placed with
      | cons here later =>
          obtain ⟨ascending, bounds⟩ := ih (first + 1) _ later
          simp only at here
          refine ⟨List.pairwise_cons.mpr ⟨fun other member => ?_, ascending⟩, fun other member => ?_⟩
          · have bound := bounds other member
            omega
          · rcases List.mem_cons.mp member with rfl | inside
            · omega
            · have bound := bounds other inside
              omega

theorem read_places {α β γ : Type} (read : β → Except String γ) (meaning : α → γ) (items : List α) (first : Nat)
    (rows : List β) (each : List.Forall₂ (fun place row => read row = .ok (meaning place.1)) (items.zipIdx first) rows) :
    rows.mapM read = .ok (items.map meaning) := by
  induction items generalizing first rows with
  | nil =>
      cases each
      rfl
  | cons item items ih =>
      cases each with
      | cons here later =>
          rw [List.mapM_cons, here, ih (first + 1) _ later]
          rfl

theorem reference_known (names : List String) (text : List Char) (type : FieldType) (target : String) (field : Option String)
    (typed : TypeText names text type) (base : type.base = .ref target field) : target ∈ names := by
  have known : ∀ text, BaseText names text (.ref target field) → target ∈ names := by
    intro text read
    cases read with
    | entity _ known _ => exact known
    | member _ _ _ _ known _ _ _ _ => exact known
  cases typed with
  | one text found read =>
      obtain rfl : found = .ref target field := base
      exact known _ read
  | many text gap found read blank =>
      obtain rfl : found = .ref target field := base
      exact known _ read

theorem default_text_again (value : DefaultText) : DefaultText.ofString? value.text = some value := by
  rw [DefaultText.ofString?, dif_pos value.renderable]

structure Meant (entityId : Int) (place : Field × Nat) (record : FieldRecord) : Prop where
  owner : record.entityId = entityId
  position : record.position = place.2
  field : record.toField = .ok place.1.unplaced

theorem stored_type (names : List String) (unreserved : Unreserved names) (type : FieldType) (text : List Char)
    (typed : TypeText names text type) (record : FieldRecord) (name : record.fieldType = type.base.name)
    (array : record.isArray = type.isArray) (target : record.referencedField = type.base.targetField?)
    (values : record.enumValues = type.base.enumValues) : record.toType = type := by
  obtain ⟨base, isArray⟩ := type
  rw [FieldRecord.toType]
  cases base with
  | scalar kind =>
      have word : record.fieldType = kind.token := name
      have other : kind.token ≠ "enum" := by cases kind <;> decide
      rw [word, if_neg other, scalar_token, array]
  | enum listed =>
      have word : record.fieldType = "enum" := name
      rw [word, if_pos rfl, values, array]
      rfl
  | ref entity field =>
      have word : record.fieldType = entity := name
      have free := unreserved entity (reference_known names text _ entity field typed rfl)
      have other : entity ≠ "enum" := by
        rintro rfl
        exact free (by decide)
      rw [word, if_neg other, unreserved_not_scalar entity free, array, target]
      rfl

theorem field_meant (names : List String) (unreserved : Unreserved names) (entityId : Int) (field : Field) (position : Nat)
    (writable : Writable names field) (record : FieldRecord) (built : FieldRecord.ofField entityId field position = .ok record)
    (id : Option Int) : Meant entityId (field, position) { record with id } := by
  rw [FieldRecord.ofField] at built
  split at built
  · obtain rfl := Checked.ok.inj built
    refine ⟨rfl, rfl, ?_⟩
    have nullable : (field.modifiers.isNullable && !field.modifiers.isPrimary) = field.modifiers.isNullable := by
      cases primary : field.modifiers.isPrimary with
      | true => rw [writable.settled primary]; rfl
      | false => simp
    rw [FieldRecord.toField, stored_type names unreserved field.type _ writable.typed _ rfl rfl rfl rfl]
    simp only [nullable]
    cases given : field.modifiers.defaultText with
    | none =>
        simp only [Option.map_none]
        rw [Field.unplaced, ← given]
    | some value =>
        simp only [Option.map_some, default_text_again]
        rw [Field.unplaced, ← given]
  · cases built

theorem entity_meant (projection : Projection) (record : EntityRecord) (id : Int) (entity : Entity) (records : List FieldRecord)
    (known : record.id = some id) (named : record.name = entity.name)
    (distinct : (entity.fields.map Field.name).Nodup) (meant : List.Forall₂ (Meant id) entity.fields.zipIdx records)
    (stored : (projection.fields.filter fun field => some field.entityId = some id).Perm records) :
    projection.toEntity record = .ok entity.unplaced := by
  have sorted : projection.fieldsFor record.id = records := by
    rw [Projection.fieldsFor, known]
    refine sort_places FieldRecord.position FieldRecord.id _ records stored ?_
    exact (places_ascending _ _ 0 records (meant.imp fun _ _ found => found.position)).1
  have fields : records.mapM FieldRecord.toField = .ok (entity.fields.map Field.unplaced) :=
    read_places _ _ _ 0 records (meant.imp fun _ _ found => found.field)
  rw [Projection.toEntity, sorted, fields]
  have names : (([] ++ entity.fields.map Field.unplaced).map Field.name).Nodup := by
    rw [List.nil_append, List.map_map]
    exact distinct
  show Except.ok ((entity.fields.map Field.unplaced).foldl Entity.putField { name := record.name }) = _
  rw [put_fields, put_all Field.name [] _ names, named]
  rfl

end Schematic
