import Schematic.Proofs.Source.Integrity
import Schematic.Proofs.Source.RoundTrip

set_option autoImplicit false

namespace Schematic

open Text

def Producible (values : List String) : Prop :=
  ∃ identifier source, ∃ entity ∈ (Schema.parse identifier source).entities, ∃ field ∈ entity.fields,
    field.type.base = .enum values

structure BuiltField (entities : List Entity) (field : Field) : Prop where
  named : Identifier field.name
  targeted : ∀ target named, field.type.base = .ref target named → ∃ other ∈ entities, other.name = target ∧
    ∀ name, named = some name → ∃ pointed ∈ other.fields, pointed.name = name
  listed : ∀ values, field.type.base = .enum values → Producible values
  unbroken : ∀ value, field.modifiers.defaultText = some value → Unbroken value.text.toList

structure BuiltEntity (entities : List Entity) (entity : Entity) : Prop where
  named : Identifier entity.name
  free : entity.name ∉ reservedNames
  distinct : (entity.fields.map Field.name).Nodup
  fields : ∀ field ∈ entity.fields, BuiltField entities field

structure Built (entities : List Entity) : Prop where
  distinct : (entityNames entities).Nodup
  entities : ∀ entity ∈ entities, BuiltEntity entities entity

def Field.Settled (field : Field) : Prop := field.modifiers.isPrimary = true → field.modifiers.isNullable = false

-- A field without clauses, or whose type leaves no parenthesis open for them.
def Field.Closed (field : Field) : Prop := field.modifiers = {} ∨ depthOver 0 field.type.render = 0

def Field.settled (field : Field) : Field := { field with modifiers := field.modifiers.settle }

def Entity.settled (entity : Entity) : Entity := { entity with fields := entity.fields.map Field.settled }

def writtenAndRead (identifier : String) (entities : List Entity) : Schema :=
  Schema.parse identifier ({ entities, identifier } : Schema).render

structure Stands (names : List String) (base : BaseType) : Prop where
  read : BaseText names base.render base
  unbroken : Unbroken base.render
  uncommented : ∀ spot : Spot, spot.depth = 0 → Uncommented spot base.render
  sheltered : Sheltered fieldMarks 0 base.render

theorem identifier_name (name : String) (named : Identifier name) : isName name.toList = true := by
  rw [is_name_iff]
  refine ⟨fun empty => named.1 (by simpa using empty), fun c member => ?_⟩
  have letter := named.2 c member
  simp only [char_le_iff, char_eq_iff, Char.reduceToNat] at letter
  simp only [isNameChar, Bool.or_eq_true, beq_iff_eq, alphanumeric_codes, char_eq_iff, Char.reduceToNat]
  omega

theorem settle_render (modifiers : Modifiers) : modifiers.settle.render = modifiers.render := by
  obtain ⟨isPrimary, isUnique, isIndex, isNullable, defaultText⟩ := modifiers
  cases isPrimary <;> cases isNullable <;> rfl

theorem settled_same (field : Field) : field.settled = field ↔ field.Settled := by
  obtain ⟨name, type, ⟨isPrimary, isUnique, isIndex, isNullable, defaultText⟩, line⟩ := field
  cases isPrimary <;> cases isNullable <;> simp [Field.settled, Field.Settled, Modifiers.settle]

theorem settled_render (identifier : String) (entities : List Entity) :
    ({ entities := entities.map Entity.settled, identifier } : Schema).render = ({ entities, identifier } : Schema).render := by
  have field : ∀ field : Field, field.settled.render = field.render := by
    intro field
    rw [Field.render, Field.render, Field.settled, settle_render]
  have entity : ∀ entity : Entity, entity.settled.render = entity.render := by
    intro entity
    simp only [Entity.render, Entity.settled, List.map_map, Function.comp_def, field]
  simp only [Schema.render, List.isEmpty_map, List.map_map, Function.comp_def, entity]

theorem type_base_stands (names : List String) (field : Field) (values : List String) (base : field.type.base = .enum values)
    (writable : Writable names field) (others : List String) : Stands others (.enum values) := by
  obtain ⟨brackets, whole⟩ : ∃ brackets, field.type.render = (BaseType.enum values).render ++ brackets := by
    rw [FieldType.render, base]
    exact ⟨_, rfl⟩
  have unbroken := writable.unbroken
  have uncommented := writable.uncommented
  have sheltered := writable.sheltered
  rw [whole] at unbroken uncommented sheltered
  obtain ⟨word, read⟩ := type_text_base _ _ _ writable.typed
  rw [base] at read
  refine ⟨?_, fun c member => unbroken c (List.mem_append_left _ member), fun spot outside => ?_, ?_⟩
  · cases read with
    | enum gap body values blank line listed =>
        exact base_text_render others _ _ (.enum gap body values blank line listed)
  · exact (uncommented_append spot _ _ (uncommented spot outside)).1
  · exact ((sheltered_append _ _ _ _).mp sheltered).1

theorem producible_stands (names values : List String) (producible : Producible values) : Stands names (.enum values) := by
  obtain ⟨identifier, source, entity, inside, field, declared, base⟩ := producible
  have writable := ((parse_coherent identifier source).1.formed entity inside).writable field declared
  exact type_base_stands _ field values base writable names

theorem word_stands (names : List String) (base : BaseType) (read : BaseText names base.render base)
    (words : ∀ values, base ≠ .enum values) : Stands names base ∧ depthOver 0 base.render = 0 := by
  cases base_render_chars names base.render base read with
  | inl listed =>
      obtain ⟨_, _, values, -, -, -, same⟩ := listed
      exact absurd same (words values)
  | inr written =>
      refine ⟨⟨read, ?_, fun spot _ => uncommented_absent spot _ ?_, word_sheltered _ written.2 0⟩, word_depth _ written.2 0⟩
      · intro c member
        cases written.1 c member with
        | inl named => exact name_char_unbroken c named
        | inr dot =>
            rw [dot]
            decide
      · exact word_absent _ written.2 '/' (by decide) (by decide) (by decide)

theorem built_stands (entities : List Entity) (built : Built entities) (field : Field) (here : BuiltField entities field) :
    Stands (entityNames entities) field.type.base := by
  cases base : field.type.base with
  | scalar kind => exact (word_stands _ _ (.scalar kind) (by simp)).1
  | enum values => exact producible_stands _ values (here.listed values base)
  | ref target named =>
      obtain ⟨other, inside, rfl, has⟩ := here.targeted target named base
      have known : other.name ∈ entityNames entities := List.mem_map_of_mem inside
      have name := identifier_name _ (built.entities other inside).named
      cases named with
      | none => exact (word_stands _ _ (.entity other.name known name) (by simp)).1
      | some pointed =>
          obtain ⟨candidate, declared, rfl⟩ := has pointed rfl
          have spelled := identifier_name _ ((built.entities other inside).fields candidate declared).named
          have read := base_text_render _ _ _ (.member other.name candidate.name [] [] known name spelled blanks_nil blanks_nil)
          exact (word_stands _ _ read (by simp)).1

theorem array_stands (names : List String) (type : FieldType) (stands : Stands names type.base) :
    TypeText names type.render type ∧ Unbroken type.render ∧ (∀ spot : Spot, spot.depth = 0 → Uncommented spot type.render) ∧
      Sheltered fieldMarks 0 type.render := by
  obtain ⟨base, isArray⟩ := type
  cases isArray with
  | false =>
      rw [FieldType.render, if_neg (by simp), List.append_nil]
      exact ⟨.one _ base stands.read, stands.unbroken, stands.uncommented, stands.sheltered⟩
  | true =>
      have read := TypeText.many _ [] base stands.read blanks_nil
      rw [List.append_nil] at read
      rw [FieldType.render, if_pos rfl]
      refine ⟨read, ?_, fun spot outside => ?_, ?_⟩
      · intro c member
        cases List.mem_append.mp member with
        | inl inside => exact stands.unbroken c inside
        | inr mark => exact unbroken_literal ['[', ']'] (by decide) c mark
      · exact uncommented_join spot _ _ (stands.uncommented spot outside) (uncommented_absent _ _ (by decide)) (by decide)
      · rw [sheltered_append]
        exact ⟨stands.sheltered, sheltered_literal _ _ _ (by decide)⟩

theorem built_writable (entities : List Entity) (built : Built entities) (field : Field) (here : BuiltField entities field)
    (closed : field.Closed) : Writable (entityNames entities) field.settled := by
  obtain ⟨typed, unbroken, uncommented, sheltered⟩ := array_stands _ field.type (built_stands entities built field here)
  refine ⟨identifier_name _ here.named, typed, unbroken, uncommented, sheltered, ?_, ?_, here.unbroken⟩
  · cases closed with
    | inl plain => exact .inl (by simp [Field.settled, plain, Modifiers.settle])
    | inr balanced => exact .inr balanced
  · intro primary
    have same : field.modifiers.isPrimary = true := primary
    simp [Field.settled, Modifiers.settle, same]

theorem settled_names (entities : List Entity) : entityNames (entities.map Entity.settled) = entityNames entities := by
  rw [entityNames, List.map_map]
  rfl

theorem settled_fields (entity : Entity) : entity.settled.fields.map Field.name = entity.fields.map Field.name := by
  rw [Entity.settled, List.map_map]
  rfl

theorem built_coherent (entities : List Entity) (built : Built entities)
    (closed : ∀ entity ∈ entities, ∀ field ∈ entity.fields, field.Closed) : Coherent (entities.map Entity.settled) := by
  refine ⟨by rw [settled_names]; exact built.distinct, ?_, ?_⟩
  · rw [settled_names]
    intro name member
    obtain ⟨entity, inside, rfl⟩ := List.mem_map.mp member
    exact (built.entities entity inside).free
  · intro whole member
    obtain ⟨entity, inside, rfl⟩ := List.mem_map.mp member
    have here := built.entities entity inside
    rw [settled_names]
    refine ⟨identifier_name _ here.named, by rw [settled_fields]; exact here.distinct, ?_⟩
    intro field declared
    obtain ⟨given, among, rfl⟩ := List.mem_map.mp declared
    exact built_writable entities built given (here.fields given among) (closed entity inside given among)

theorem built_resolved (entities : List Entity) (built : Built entities) : Resolved (entities.map Entity.settled) := by
  intro whole member field declared target name base
  obtain ⟨entity, inside, rfl⟩ := List.mem_map.mp member
  obtain ⟨given, among, rfl⟩ := List.mem_map.mp declared
  obtain ⟨other, present, same, has⟩ := ((built.entities entity inside).fields given among).targeted target (some name) base
  refine ⟨other.settled, List.mem_map_of_mem present, same, ?_⟩
  rw [settled_fields]
  exact List.mem_map.mpr (has name rfl)

theorem settled_all (entities : List Entity) (settled : ∀ entity ∈ entities, ∀ field ∈ entity.fields, field.Settled) :
    entities.map Entity.settled = entities := by
  have each : ∀ entity ∈ entities, entity.settled = entity := by
    intro entity inside
    have fields : entity.fields.map Field.settled = entity.fields :=
      (List.map_congr_left fun field declared => (settled_same field).mpr (settled entity inside field declared)).trans
        (List.map_id' _)
    rw [Entity.settled, fields]
  exact (List.map_congr_left each).trans (List.map_id' _)

theorem parsed_settled (identifier : String) (source : List Char) (entities : List Entity)
    (same : (Schema.parse identifier source).entities.map Entity.unplaced = entities.map Entity.unplaced) (entity : Entity)
    (inside : entity ∈ entities) (field : Field) (declared : field ∈ entity.fields) : field.Settled ∧ field.Closed := by
  have among : entity.unplaced ∈ (Schema.parse identifier source).entities.map Entity.unplaced := by
    rw [same]
    exact List.mem_map_of_mem inside
  obtain ⟨read, present, alike⟩ := List.mem_map.mp among
  have fields : read.fields.map Field.unplaced = entity.fields.map Field.unplaced := congrArg Entity.fields alike
  have within : field.unplaced ∈ read.fields.map Field.unplaced := by
    rw [fields]
    exact List.mem_map_of_mem declared
  obtain ⟨found, there, twin⟩ := List.mem_map.mp within
  have writable := ((parse_coherent identifier source).1.formed read present).writable found there
  have modifiers : found.modifiers = field.modifiers := by
    show found.unplaced.modifiers = field.unplaced.modifiers
    rw [twin]
  have type : found.type = field.type := by
    show found.unplaced.type = field.unplaced.type
    rw [twin]
  rw [Field.Settled, Field.Closed, ← modifiers, ← type]
  exact ⟨writable.settled, writable.closed⟩

-- A graph that is built by hand is read back from its text as it is just where none of its primary fields is nullable and no
-- enumeration leaves a parenthesis open before a clause. Without such enumerations it is read back once those are settled.
theorem built_graph_reads_back (identifier : String) (entities : List Entity) (built : Built entities) :
    ((∀ entity ∈ entities, ∀ field ∈ entity.fields, field.Closed) →
      (writtenAndRead identifier entities).errors = [] ∧
      (writtenAndRead identifier entities).entities.map Entity.unplaced =
        (entities.map Entity.settled).map Entity.unplaced) ∧
    ((writtenAndRead identifier entities).errors = [] ∧
      (writtenAndRead identifier entities).entities.map Entity.unplaced =
        entities.map Entity.unplaced ↔
      ∀ entity ∈ entities, ∀ field ∈ entity.fields, field.Settled ∧ field.Closed) := by
  have written : (∀ entity ∈ entities, ∀ field ∈ entity.fields, field.Closed) →
      (writtenAndRead identifier entities).errors = [] ∧
      (writtenAndRead identifier entities).entities.map Entity.unplaced =
        (entities.map Entity.settled).map Entity.unplaced := by
    intro closed
    obtain ⟨placed, document, same⟩ := render_document { entities := entities.map Entity.settled, identifier }
      (built_coherent entities built closed) (built_resolved entities built)
    rw [settled_render] at document
    have read : writtenAndRead identifier entities = ⟨placed, [], identifier⟩ := parse_of_document identifier _ placed document
    rw [read]
    exact ⟨rfl, same⟩
  refine ⟨written, fun read entity inside field declared => ?_, fun apt => ?_⟩
  · exact parsed_settled identifier _ entities read.2 entity inside field declared
  · have whole := written fun entity inside field declared => (apt entity inside field declared).2
    rw [settled_all entities fun entity inside field declared => (apt entity inside field declared).1] at whole
    exact whole

theorem open_value_producible : Producible ["a(b"] := ⟨"id", "entity A \x7b\n s: enum(a(b)\n\x7d\n".toList, by decide +kernel⟩

def alone (field : Field) : List Entity := [{ name := "A", fields := [field] }]

theorem alone_built (field : Field) (named : Identifier field.name)
    (plain : ∀ target pointed, field.type.base ≠ .ref target pointed)
    (listed : ∀ values, field.type.base = .enum values → Producible values)
    (unbroken : ∀ value, field.modifiers.defaultText = some value → Unbroken value.text.toList) : Built (alone field) := by
  have free : "A" ∉ reservedNames := by decide
  refine ⟨List.nodup_singleton _, ?_⟩
  intro entity inside
  obtain rfl := List.mem_singleton.mp inside
  refine ⟨name_identifier "A" (by decide), free, List.nodup_singleton _, ?_⟩
  intro other declared
  obtain rfl := List.mem_singleton.mp declared
  exact ⟨named, fun target pointed base => absurd base (plain target pointed), listed, unbroken⟩

def openField (isUnique : Bool) : Field := { name := "s", type := ⟨.enum ["a(b"], false⟩, modifiers := { isUnique } }

theorem open_field_built (isUnique : Bool) : Built (alone (openField isUnique)) := by
  refine alone_built _ (name_identifier "s" (by decide)) (by simp [openField]) (fun values base => ?_) (by simp [openField])
  obtain rfl := BaseType.enum.inj base
  exact open_value_producible

theorem open_field_reads_back :
    Built (alone (openField false)) ∧
      (writtenAndRead "id" (alone (openField false))).errors = [] ∧
      (writtenAndRead "id" (alone (openField false))).entities.map Entity.unplaced =
        (alone (openField false)).map Entity.unplaced := by
  have built := open_field_built false
  refine ⟨built, (built_graph_reads_back "id" _ built).2.mpr ?_⟩
  intro entity inside field declared
  obtain rfl := List.mem_singleton.mp inside
  obtain rfl := List.mem_singleton.mp declared
  exact ⟨fun primary => (nomatch primary), .inl rfl⟩

def keyField : Field := { name := "id", type := ⟨.scalar .identifier, false⟩, modifiers := { isPrimary := true } }

theorem built_graph_may_change :
    (Built (alone keyField) ∧
      (writtenAndRead "id" (alone keyField)).entities.map Entity.unplaced ≠
        (alone keyField).map Entity.unplaced) ∧
      Built (alone (openField true)) ∧
      (writtenAndRead "id" (alone (openField true))).errors ≠ [] := by
  refine ⟨⟨alone_built _ (name_identifier "id" (by decide)) (by simp [keyField]) (by simp [keyField]) (by simp [keyField]), ?_⟩,
    open_field_built true, ?_⟩
  · decide +kernel
  · decide +kernel

end Schematic
