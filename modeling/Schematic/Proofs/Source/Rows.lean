import Schematic.Proofs.Source.ClauseWriting
import Schematic.Proofs.Source.Coherence

set_option autoImplicit false

namespace Schematic

open Text

def Field.unplaced (field : Field) : Field := { field with line := 0 }

def Entity.unplaced (entity : Entity) : Entity := { entity with fields := entity.fields.map Field.unplaced, line := 0 }

def Modifiers.clauses (modifiers : Modifiers) : List (List Char) := modifiers.said.map Prod.fst

def Field.row (field : Field) : List Char := ' ' :: ' ' :: field.render

def Entity.headRow (entity : Entity) : List Char := "entity ".toList ++ entity.name.toList ++ [' ', '{']

def Entity.rows (entity : Entity) : List (List Char) := entity.headRow :: (entity.fields.map Field.row ++ [['}']])

def documentRows : List Entity → List (List Char)
  | [] => []
  | [entity] => entity.rows
  | entity :: rest => entity.rows ++ [] :: documentRows rest

theorem document_rows_cons (entity : Entity) (rest : List Entity) (more : rest ≠ []) :
    documentRows (entity :: rest) = entity.rows ++ [] :: documentRows rest := by
  cases rest with
  | nil => exact absurd rfl more
  | cons next rest => rfl

theorem join_rows (rows : List (List Char)) (some : rows ≠ []) :
    joinWith ['\n'] rows ++ ['\n'] = rows.flatMap (· ++ ['\n']) := by
  induction rows with
  | nil => exact absurd rfl some
  | cons row rows ih =>
      by_cases last : rows = []
      · subst last
        simp [joinWith]
      · rw [join_cons _ _ _ last, List.append_assoc, ih last, List.flatMap_cons]

theorem entity_render (entity : Entity) : entity.render ++ ['\n'] = entity.rows.flatMap (· ++ ['\n']) :=
  join_rows entity.rows (by simp [Entity.rows])

theorem schema_render (schema : Schema) : schema.render = (documentRows schema.entities).flatMap (· ++ ['\n']) := by
  rw [Schema.render]
  generalize schema.entities = entities
  by_cases none : entities = []
  · subst none
    rfl
  · rw [if_neg (by simpa using none)]
    induction entities with
    | nil => exact absurd rfl none
    | cons entity rest ih =>
        by_cases last : rest = []
        · subst last
          exact entity_render entity
        · have more : rest.map Entity.render ≠ [] := by simpa using last
          rw [List.map_cons, join_cons _ _ _ more, document_rows_cons entity rest last, List.flatMap_append,
            List.flatMap_cons, ← entity_render, ← ih last]
          simp

theorem join_spaces (first : List Char) (clauses : List (List Char)) :
    joinWith [' '] (first :: clauses.map ('@' :: ·)) = first ++ marked clauses := by
  induction clauses generalizing first with
  | nil => simp [joinWith, marked]
  | cons clause clauses ih =>
      rw [List.map_cons, join_cons _ _ _ (by simp), ih, marked_cons]
      simp

theorem field_render (field : Field) :
    field.render = field.name.toList ++ ':' :: (' ' :: field.type.render ++ marked field.modifiers.clauses) := by
  have clauses : field.modifiers.render = field.modifiers.clauses.map ('@' :: ·) := by
    rw [modifiers_render, Modifiers.clauses, List.map_map]
    rfl
  rw [Field.render, clauses, join_spaces]
  simp

def Field.opening (field : Field) : List Char := ' ' :: ' ' :: (field.name.toList ++ [':', ' '])

def Field.declaration (field : Field) (clauses : List (List Char)) : List Char :=
  field.name.toList ++ ':' :: (' ' :: field.type.render ++ marked clauses)

def Field.rowWith (field : Field) (clauses : List (List Char)) : List Char := ' ' :: ' ' :: field.declaration clauses

theorem row_with (field : Field) (clauses : List (List Char)) :
    field.rowWith clauses = field.opening ++ (field.type.render ++ marked clauses) := by
  simp [Field.rowWith, Field.declaration, Field.opening]

theorem field_row (field : Field) : field.row = field.rowWith field.modifiers.clauses := by
  rw [Field.row, field_render]
  rfl

theorem clauses_carried (pieces clauses : List (List Char)) (terms : List Term)
    (same : List.Forall₂ (fun piece clause => trim piece = trim clause) pieces clauses)
    (said : List.Forall₂ ClauseText clauses terms) : List.Forall₂ ClauseText pieces terms := by
  induction same generalizing terms with
  | nil => exact said
  | cons trimmed _ ih =>
      cases said with
      | cons text rest => exact .cons (by rw [ClauseText, trimmed]; exact text) (ih _ rest)

section Rows

variable (names : List String) (field : Field) (writable : Writable names field)

section Clauses

variable (clauses : List (List Char)) (clean : ∀ clause ∈ clauses, Clean clause)
  (closed : clauses = [] ∨ depthOver 0 field.type.render = 0)

include writable

theorem opening_depth : depthOver 0 field.opening = 0 := by
  have name : depthOver 0 field.name.toList = 0 := depth_over_name 0 _ writable.named
  rw [Field.opening, depth_over_cons, depth_over_cons]
  exact (depth_over_append 0 _ _).trans (congrArg (depthOver · [':', ' ']) name)

theorem opening_absent (c : Char) (named : isNameChar c = false) (blank : c ≠ ' ') (colon : c ≠ ':') : c ∉ field.opening := by
  simp only [Field.opening, List.mem_cons, List.mem_append, List.not_mem_nil, or_false, not_or]
  exact ⟨blank, blank, name_absent _ c writable.named named, colon, blank⟩

theorem row_with_unbroken (unbroken : ∀ clause ∈ clauses, Unbroken clause) : Unbroken (field.rowWith clauses) := by
  intro c member
  rw [row_with, Field.opening] at member
  simp only [List.mem_cons, List.mem_append, List.not_mem_nil, or_false] at member
  rcases member with (rfl | rfl | named | rfl | rfl) | typed | said
  · decide
  · decide
  · exact name_unbroken _ writable.named c named
  · decide
  · decide
  · exact writable.unbroken c typed
  · exact marked_unbroken _ unbroken c said

include clean

theorem declaration_solid : (∃ c, (field.declaration clauses).head? = some c ∧ isBlank c = false) ∧
    ∃ c, (field.declaration clauses).getLast? = some c ∧ isBlank c = false := by
  obtain ⟨some, letters⟩ := (is_name_iff _).mp writable.named
  obtain ⟨-, d, ending, solid⟩ := type_text_ends names _ _ writable.typed
  have whole : field.declaration clauses = (field.name.toList ++ [':', ' '] ++ field.type.render) ++ marked clauses := by
    simp [Field.declaration]
  constructor
  · refine ⟨field.name.toList.head some, ?_, name_char_solid _ (letters _ (List.head_mem some))⟩
    rw [Field.declaration, List.head?_append, List.head?_eq_some_head some]
    rfl
  · rw [whole]
    exact marked_solid _ _ clean ⟨d, by rw [List.getLast?_append, ending]; rfl, solid⟩

theorem row_with_trim : trim (field.rowWith clauses) = field.declaration clauses := by
  have blank : Blanks [' ', ' '] := by simp [Blanks, isBlank]
  have padded := trim_pad [' ', ' '] (field.declaration clauses) [] blank blanks_nil
  rw [List.append_nil] at padded
  obtain ⟨first, last⟩ := declaration_solid names field writable clauses clean
  exact padded.trans (ends_trim _ first last)

include closed

theorem row_with_uncommented : Uncommented .start (field.rowWith clauses) := by
  have slash := opening_absent names field writable '/' (by decide) (by decide) (by decide)
  have outside : (Spot.start.over field.opening).depth = 0 := by
    rw [over_depth]
    exact opening_depth names field writable
  have said : Uncommented ((Spot.start.over field.opening).over field.type.render) (marked clauses) := by
    rcases closed with none | closed
    · rw [none]
      trivial
    · exact marked_uncommented _ clean _ (by rw [over_depth, outside, closed])
  rw [row_with]
  exact uncommented_after _ _ _ slash
    (uncommented_join _ _ _ (writable.uncommented _ outside) said (marked_head _))

theorem row_with_sheltered : Sheltered braces 0 (field.rowWith clauses) := by
  have opening : ∀ c ∈ field.opening, c ∉ braces := by
    intro c member brace
    simp only [braces, List.mem_cons, List.not_mem_nil, or_false] at brace
    rcases brace with rfl | rfl <;> exact opening_absent names field writable _ (by decide) (by decide) (by decide) member
  rw [row_with, sheltered_append, opening_depth names field writable, sheltered_append]
  refine ⟨sheltered_absent _ _ _ opening, ((sheltered_union _ _ _ _).mp writable.sheltered).1, ?_⟩
  rcases closed with none | closed
  · rw [none]
    trivial
  · rw [closed]
    exact marked_sheltered _ clean

theorem declaration_declares (terms : List Term) (said : List.Forall₂ ClauseText clauses terms) (line : Nat) :
    FieldText names ⟨line, field.declaration clauses⟩ ⟨field.name, field.type, .ofTerms terms, line⟩ := by
  have sheltered : Sheltered ['@'] 0 (' ' :: field.type.render) :=
    ⟨by decide, ((sheltered_union _ _ _ _).mp writable.sheltered).2⟩
  obtain ⟨first, rest, parted, same, pieces⟩ := split_marked (' ' :: field.type.render) clauses clean sheltered closed
  have typed : TypeText names (trim first) field.type := by
    have blank : Blanks [' '] := by simp [Blanks, isBlank]
    have padded : trim (' ' :: field.type.render) = trim field.type.render := by
      simpa using trim_pad [' '] field.type.render [] blank blanks_nil
    rw [same, padded, type_text_trim names _ _ writable.typed]
    exact writable.typed
  exact .declares line field.name.toList (' ' :: field.type.render ++ marked clauses) first rest field.name field.type _
    (name_absent _ ':' writable.named (by decide)) (name_trim _ writable.named) writable.named parted typed
    (clauses_carried rest _ _ pieces said)

end Clauses

include writable

theorem clauses_clean : ∀ clause ∈ field.modifiers.clauses, Clean clause := by
  intro clause member
  obtain ⟨⟨_, term⟩, among, rfl⟩ := List.mem_map.mp member
  exact (mem_said field.modifiers writable.whole _ term among).2

theorem clauses_said : List.Forall₂ ClauseText field.modifiers.clauses (field.modifiers.said.map Prod.snd) := by
  rw [Modifiers.clauses, List.forall₂_map_left_iff, List.forall₂_map_right_iff, List.forall₂_same]
  exact fun pair member => (mem_said field.modifiers writable.whole pair.1 pair.2 member).1

theorem clauses_closed : field.modifiers.clauses = [] ∨ depthOver 0 field.type.render = 0 := by
  refine writable.closed.imp_left fun none => ?_
  rw [none]
  rfl

theorem field_row_unbroken : Unbroken field.row := by
  rw [field_row]
  exact row_with_unbroken names field writable _ fun clause member => (clauses_clean names field writable clause member).unbroken

theorem field_row_declares (line : Nat) : FieldText names ⟨line, field.render⟩ { field with line := line } := by
  have built := declaration_declares names field writable _ (clauses_clean names field writable)
    (clauses_closed names field writable) _ (clauses_said names field writable) line
  rw [said_terms field.modifiers writable.settled] at built
  rw [field_render]
  exact built

end Rows

end Schematic
