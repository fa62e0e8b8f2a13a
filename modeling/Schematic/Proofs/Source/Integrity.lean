import Schematic.Proofs.Source.Coherence

set_option autoImplicit false

namespace Schematic

open Text

def Identifier (name : String) : Prop :=
  name ≠ "" ∧ ∀ c ∈ name.toList, 'A' ≤ c ∧ c ≤ 'Z' ∨ 'a' ≤ c ∧ c ≤ 'z' ∨ '0' ≤ c ∧ c ≤ '9' ∨ c = '_'

def EnumValue (value : String) : Prop := value ≠ "" ∧ trim value.toList = value.toList ∧ ',' ∉ value.toList

structure IntactField (entities : List Entity) (field : Field) : Prop where
  named : Identifier field.name
  targeted : ∀ target named, field.type.base = .ref target named → ∃ other ∈ entities, other.name = target ∧
    ∀ name, named = some name → ∃ pointed ∈ other.fields, pointed.name = name
  listed : ∀ values, field.type.base = .enum values → values ≠ [] ∧ values.Nodup ∧ ∀ value ∈ values, EnumValue value
  present : field.modifiers.isPrimary = true → field.modifiers.isNullable = false
  writable : ∀ value, field.modifiers.defaultText = some value →
    isRenderable value.text.toList = true ∧ Unbroken value.text.toList

structure IntactEntity (entities : List Entity) (entity : Entity) : Prop where
  named : Identifier entity.name
  free : (∀ kind : ScalarKind, entity.name ≠ kind.token) ∧ entity.name ≠ "enum" ∧ entity.name ≠ "entity"
  found : entity? entities entity.name = some entity
  fieldFound : ∀ field ∈ entity.fields, entity.field? field.name = some field
  fields : ∀ field ∈ entity.fields, IntactField entities field

def Intact (entities : List Entity) : Prop := ∀ entity ∈ entities, IntactEntity entities entity

theorem name_identifier (name : String) (named : isName name.toList = true) : Identifier name := by
  obtain ⟨some, letters⟩ := (is_name_iff name.toList).mp named
  constructor
  · intro empty
    apply some
    simp [empty]
  · intro c member
    have codes := name_char_codes c (letters c member)
    simp only [char_le_iff, char_eq_iff, Char.reduceToNat]
    omega

theorem unreserved_words (name : String) (free : name ∉ reservedNames) :
    (∀ kind : ScalarKind, name ≠ kind.token) ∧ name ≠ "enum" ∧ name ≠ "entity" := by
  rw [reservedNames, List.mem_append, not_or] at free
  refine ⟨?_, ?_, ?_⟩
  · intro kind same
    apply free.1
    rw [same]
    exact List.mem_map_of_mem (scalar_all kind)
  · intro same
    apply free.2
    simp [same]
  · intro same
    apply free.2
    simp [same]

theorem enum_body_value (body : List Char) (values : List String) (listed : EnumBody body values) (value : String)
    (member : value ∈ values) : EnumValue value := by
  have among : value.toList ∈ (splitOn ',' body).map trim := by
    rw [← listed.1]
    exact List.mem_map_of_mem member
  obtain ⟨piece, inside, same⟩ := List.mem_map.mp among
  refine ⟨?_, ?_, ?_⟩
  · intro empty
    exact listed.2.1 (empty ▸ member)
  · rw [← same]
    exact trim_trim piece
  · rw [← same]
    intro comma
    exact (mem_split_on ',' ',' body piece inside (mem_of_mem_trim ',' piece comma)).2 rfl

theorem type_text_base (names : List String) (text : List Char) (type : FieldType) (read : TypeText names text type) :
    ∃ word, BaseText names word type.base := by
  cases read with
  | one text base read => exact ⟨text, read⟩
  | many text gap base read blank => exact ⟨text, read⟩

theorem base_text_target (names : List String) (word : List Char) (target : String) (named : Option String)
    (read : BaseText names word (.ref target named)) : target ∈ names := by
  cases read with
  | entity name known named => exact known
  | member name field before after known named fieldNamed blankBefore blankAfter => exact known

theorem base_text_values (names : List String) (word : List Char) (values : List String)
    (read : BaseText names word (.enum values)) : values ≠ [] ∧ values.Nodup ∧ ∀ value ∈ values, EnumValue value := by
  cases read with
  | enum gap body values blank line listed =>
      exact ⟨enum_values_ne_nil body values listed, listed.2.2, enum_body_value body values listed⟩

theorem writable_intact (entities : List Entity) (resolved : Resolved entities) (entity : Entity) (inside : entity ∈ entities)
    (field : Field) (declared : field ∈ entity.fields) (writable : Writable (entityNames entities) field) :
    IntactField entities field := by
  obtain ⟨word, read⟩ := type_text_base _ _ _ writable.typed
  refine ⟨name_identifier field.name writable.named, ?_, ?_, writable.settled, ?_⟩
  · intro target named base
    rw [base] at read
    cases named with
    | some name =>
        obtain ⟨other, among, same, has⟩ := resolved entity inside field declared target name base
        refine ⟨other, among, same, ?_⟩
        intro again told
        rw [← Option.some.inj told]
        exact List.mem_map.mp has
    | none =>
        obtain ⟨other, among, same⟩ := List.mem_map.mp (base_text_target _ word target none read)
        refine ⟨other, among, same, ?_⟩
        intro name told
        cases told
  · intro values base
    rw [base] at read
    exact base_text_values _ word values read
  · intro value given
    exact ⟨value.renderable, writable.whole value given⟩

-- Each step of the reading keeps the graph coherent, and the last one leaves no reference without its field.
theorem parse_intact (identifier : String) (source : List Char) : Intact (Schema.parse identifier source).entities := by
  obtain ⟨coherent, resolved⟩ := parse_coherent identifier source
  intro entity inside
  have formed := coherent.formed entity inside
  refine ⟨name_identifier entity.name formed.named, ?_, ?_, ?_, ?_⟩
  · exact unreserved_words entity.name (coherent.unreserved entity.name (List.mem_map_of_mem inside))
  · exact entity_member _ entity inside coherent.distinct
  · intro field declared
    exact field_member entity field declared formed.distinct
  · intro field declared
    exact writable_intact _ resolved entity inside field declared (formed.writable field declared)

-- What is wrong in a text does not keep the rest of it out of the graph.
example : ((Schema.parse "id" "entity Cart \x7b\n  id: ID\n  next: Cart.ref\n  of: Shop\n".toList).entities.map fun entity =>
    (entity.name, entity.fields.map Field.name)) = [("Cart", ["id"])] := by decide +kernel

end Schematic
