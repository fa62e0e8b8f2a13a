import Schematic.Proofs.Source.Rows

set_option autoImplicit false

namespace Schematic

open Text

theorem split_braces_whole (depth : Nat) (text : List Char) (sheltered : Sheltered braces depth text) :
    splitBraces depth text = [text] := by
  induction text generalizing depth with
  | nil => rfl
  | cons c text ih =>
      have inside : ∀ brace ∈ braces, ¬ (c = brace ∧ depthAfter depth c = 0) := by
        rintro brace member ⟨rfl, outside⟩
        exact sheltered.1 member outside
      rw [splitBraces, if_neg (inside '{' (by decide)), if_neg (inside '}' (by decide)), ih _ sheltered.2, consFirst]

theorem split_braces_opening (depth : Nat) (text : List Char) (sheltered : Sheltered braces depth text)
    (outside : depthOver depth text = 0) : splitBraces depth (text ++ ['{']) = [text ++ ['{'], []] := by
  induction text generalizing depth with
  | nil =>
      have here : depthAfter depth '{' = 0 := outside
      rw [List.nil_append, splitBraces, if_pos ⟨rfl, here⟩, splitBraces]
  | cons c text ih =>
      have inside : ∀ brace ∈ braces, ¬ (c = brace ∧ depthAfter depth c = 0) := by
        rintro brace member ⟨rfl, outside⟩
        exact sheltered.1 member outside
      rw [List.cons_append, splitBraces, if_neg (inside '{' (by decide)), if_neg (inside '}' (by decide)),
        ih _ sheltered.2 outside, consFirst]

theorem row_with_pieces (names : List String) (field : Field) (writable : Writable names field) (clauses : List (List Char))
    (clean : ∀ clause ∈ clauses, Clean clause) (closed : clauses = [] ∨ depthOver 0 field.type.render = 0) :
    piecesOfLine (field.rowWith clauses) = [field.declaration clauses] := by
  have uncut : beforeComment 0 ' ' ' ' (field.rowWith clauses) = field.rowWith clauses :=
    before_comment_whole .start _ (row_with_uncommented names field writable clauses clean closed)
  have some : field.declaration clauses ≠ [] := by
    intro none
    obtain ⟨⟨c, first, -⟩, -⟩ := declaration_solid names field writable clauses clean
    rw [none] at first
    exact nomatch first
  rw [piecesOfLine, uncut, split_braces_whole 0 _ (row_with_sheltered names field writable clauses clean closed),
    List.map_singleton, row_with_trim names field writable clauses clean]
  simp [some]

theorem field_row_pieces (names : List String) (field : Field) (writable : Writable names field) :
    piecesOfLine field.row = [field.render] := by
  rw [field_row, field_render]
  exact row_with_pieces names field writable _ (clauses_clean names field writable) (clauses_closed names field writable)

theorem head_row (entity : Entity) :
    entity.headRow = ("entity".toList ++ [' '] ++ entity.name.toList ++ [' ']) ++ ['{'] := by
  have word : "entity ".toList = "entity".toList ++ [' '] := by decide
  have whole : entity.headRow = "entity ".toList ++ entity.name.toList ++ [' ', '{'] := rfl
  rw [whole, word]
  simp only [List.append_assoc, List.cons_append, List.nil_append]

theorem head_row_text (entity : Entity) (named : isName entity.name.toList = true) :
    HeaderText entity.headRow entity.name.toList := by
  have blank : Blanks [' '] := by simp [Blanks, isBlank]
  exact ⟨[' '], [' '], by simp, blank, blank, named, head_row entity⟩

theorem head_row_pieces (entity : Entity) (named : isName entity.name.toList = true) :
    piecesOfLine entity.headRow = [entity.headRow] := by
  rw [head_row]
  generalize opening : "entity".toList ++ [' '] ++ entity.name.toList ++ [' '] = text
  have absent : ∀ c, isNameChar c = false → c ≠ ' ' → c ∉ text := by
    intro c other blank
    have word : c ∉ "entity".toList := by
      intro member
      have letters : "entity".toList.all isNameChar = true := by decide
      exact absurd (other.symm.trans (List.all_eq_true.mp letters c member)) Bool.false_ne_true
    rw [← opening]
    simp only [List.mem_append, List.mem_singleton, not_or]
    exact ⟨⟨⟨word, blank⟩, name_absent _ c named other⟩, blank⟩
  have plain : ∀ c ∈ text, c ∉ braces := by
    intro c member brace
    simp only [braces, List.mem_cons, List.not_mem_nil, or_false] at brace
    rcases brace with rfl | rfl <;> exact absent _ (by decide) (by decide) member
  have outside : depthOver 0 text = 0 :=
    depth_over_plain 0 text (absent '(' (by decide) (by decide)) (absent ')' (by decide) (by decide))
  have slash : '/' ∉ text ++ ['{'] := by simp [absent '/' (by decide) (by decide)]
  have uncut : beforeComment 0 ' ' ' ' (text ++ ['{']) = text ++ ['{'] :=
    before_comment_whole .start _ (uncommented_absent _ _ slash)
  have first : ∃ c, (text ++ ['{']).head? = some c ∧ isBlank c = false := ⟨'e', by rw [← opening]; rfl, by decide⟩
  have trimmed := ends_trim _ first ⟨'{', by rw [List.getLast?_concat], by decide⟩
  rw [piecesOfLine, uncut, split_braces_opening 0 _ (sheltered_absent _ _ _ plain) outside, List.map_cons, List.map_singleton,
    trimmed, trim_nil]
  simp

theorem scan_lines_one (number : Nat) (row text : List Char) (rest : List (List Char)) (pieces : piecesOfLine row = [text]) :
    scanLines number (row :: rest) = ⟨number, text⟩ :: scanLines (number + 1) rest := by
  rw [scanLines, pieces]
  rfl

theorem scan_field_rows (names : List String) (fields : List Field) (writable : ∀ field ∈ fields, Writable names field)
    (number : Nat) (later : List (List Char)) :
    ∃ body placed, scanLines number (fields.map Field.row ++ later) = body ++ scanLines (number + fields.length) later ∧
      List.Forall₂ (FieldText names) body placed ∧ placed.map Field.unplaced = fields.map Field.unplaced := by
  induction fields generalizing number with
  | nil => exact ⟨[], [], rfl, .nil, rfl⟩
  | cons field fields ih =>
      have here := writable field List.mem_cons_self
      obtain ⟨body, placed, scanned, declared, same⟩ :=
        ih (fun other member => writable other (List.mem_cons_of_mem _ member)) (number + 1)
      refine ⟨⟨number, field.render⟩ :: body, { field with line := number } :: placed, ?_,
        .cons (field_row_declares names field here number) declared, ?_⟩
      · rw [List.map_cons, List.cons_append, scan_lines_one number _ _ _ (field_row_pieces names field here), scanned,
          List.length_cons, Nat.add_right_comm, Nat.add_assoc]
        rfl
      · rw [List.map_cons, List.map_cons, same]
        rfl

theorem unplaced_names (placed fields : List Field) (same : placed.map Field.unplaced = fields.map Field.unplaced) :
    placed.map Field.name = fields.map Field.name := by
  have names := congrArg (List.map Field.name) same
  simpa only [List.map_map, Function.comp_def, Field.unplaced] using names

theorem scan_entity_rows (names : List String) (entity : Entity) (formed : WellFormed names entity) (number : Nat)
    (later : List (List Char)) :
    ∃ part placed next, scanLines number (entity.rows ++ later) = part ++ scanLines next later ∧
      BlockText names part placed ∧ placed.unplaced = entity.unplaced := by
  obtain ⟨body, fields, scanned, declared, same⟩ :=
    scan_field_rows names entity.fields formed.writable (number + 1) (['}'] :: later)
  have closing : piecesOfLine ['}'] = [['}']] := by decide
  refine ⟨⟨number, entity.headRow⟩ :: (body ++ [⟨number + 1 + entity.fields.length, ['}']⟩]), ⟨entity.name, fields, number⟩,
    number + 1 + entity.fields.length + 1, ?_, ?_, ?_⟩
  · have rows : entity.rows ++ later = entity.headRow :: (entity.fields.map Field.row ++ ['}'] :: later) := by
      simp [Entity.rows]
    rw [rows, scan_lines_one number _ _ _ (head_row_pieces entity formed.named), scanned,
      scan_lines_one _ _ _ _ closing]
    simp
  · exact .block ⟨number, entity.headRow⟩ _ body entity.name fields (head_row_text entity formed.named) rfl declared
      (by rw [unplaced_names fields entity.fields same]; exact formed.distinct)
  · rw [Entity.unplaced, Entity.unplaced, same]

theorem scan_document_rows (names : List String) (entities : List Entity)
    (formed : ∀ entity ∈ entities, WellFormed names entity) (number : Nat) :
    ∃ parts placed, scanLines number (documentRows entities) = parts.flatten ∧
      List.Forall₂ (BlockText names) parts placed ∧ placed.map Entity.unplaced = entities.map Entity.unplaced := by
  induction entities generalizing number with
  | nil => exact ⟨[], [], rfl, .nil, rfl⟩
  | cons entity rest ih =>
      have here := formed entity List.mem_cons_self
      by_cases last : rest = []
      · subst last
        obtain ⟨part, placed, next, scanned, block, same⟩ := scan_entity_rows names entity here number []
        refine ⟨[part], [placed], ?_, .cons block .nil, by rw [List.map_singleton, List.map_singleton, same]⟩
        rw [List.append_nil] at scanned
        rw [documentRows, scanned]
        simp [scanLines]
      · obtain ⟨part, placed, next, scanned, block, same⟩ := scan_entity_rows names entity here number ([] :: documentRows rest)
        obtain ⟨parts, others, later, blocks, unplaced⟩ :=
          ih (fun other member => formed other (List.mem_cons_of_mem _ member)) (next + 1)
        refine ⟨part :: parts, placed :: others, ?_, .cons block blocks, by rw [List.map_cons, List.map_cons, same, unplaced]⟩
        have gap : piecesOfLine [] = [] := by decide
        rw [document_rows_cons entity rest last, scanned, scanLines, gap, later]
        rfl

theorem head_row_unbroken (entity : Entity) (named : isName entity.name.toList = true) : Unbroken entity.headRow := by
  intro c member
  rw [head_row] at member
  simp only [List.mem_append, List.mem_singleton] at member
  rcases member with (((here | rfl) | inside) | rfl) | rfl
  · exact unbroken_literal _ (by decide) c here
  · decide
  · exact name_unbroken _ named c inside
  · decide
  · decide

theorem document_rows_unbroken (names : List String) (entities : List Entity)
    (formed : ∀ entity ∈ entities, WellFormed names entity) : ∀ row ∈ documentRows entities, Unbroken row := by
  have empty : Unbroken [] := by simp [Unbroken]
  have closing : Unbroken ['}'] := by simp [Unbroken, isLineBreak]
  have rows : ∀ entity, WellFormed names entity → ∀ row ∈ entity.rows, Unbroken row := by
    intro entity formed row member
    rcases List.mem_cons.mp member with rfl | inside
    · exact head_row_unbroken entity formed.named
    · rcases List.mem_append.mp inside with declared | last
      · obtain ⟨field, among, rfl⟩ := List.mem_map.mp declared
        exact field_row_unbroken names field (formed.writable field among)
      · obtain rfl : row = ['}'] := by simpa using last
        exact closing
  induction entities with
  | nil => simp [documentRows]
  | cons entity rest ih =>
      have later := ih fun other member => formed other (List.mem_cons_of_mem _ member)
      have here := rows entity (formed entity List.mem_cons_self)
      intro row member
      by_cases last : rest = []
      · subst last
        exact here row member
      · rw [document_rows_cons entity rest last, List.mem_append, List.mem_cons] at member
        rcases member with inside | rfl | inside
        · exact here row inside
        · exact empty
        · exact later row inside

theorem entity_names_unplaced (entities : List Entity) : entityNames (entities.map Entity.unplaced) = entityNames entities := by
  rw [entityNames, List.map_map]
  rfl

theorem field_names_unplaced (entity : Entity) : entity.unplaced.fields.map Field.name = entity.fields.map Field.name := by
  rw [Entity.unplaced, List.map_map]
  rfl

theorem resolved_unplaced (entities : List Entity) : Resolved (entities.map Entity.unplaced) ↔ Resolved entities := by
  have targets : ∀ target named, (∃ other ∈ entities.map Entity.unplaced, other.name = target ∧
      named ∈ other.fields.map Field.name) ↔
      ∃ other ∈ entities, other.name = target ∧ named ∈ other.fields.map Field.name := by
    intro target named
    constructor
    · rintro ⟨_, member, here, declared⟩
      obtain ⟨other, inside, rfl⟩ := List.mem_map.mp member
      exact ⟨other, inside, here, field_names_unplaced other ▸ declared⟩
    · rintro ⟨other, inside, here, declared⟩
      exact ⟨other.unplaced, List.mem_map_of_mem inside, here, (field_names_unplaced other).symm ▸ declared⟩
  constructor
  · intro resolved entity inside field declared target named base
    exact (targets target named).mp (resolved entity.unplaced (List.mem_map_of_mem inside) field.unplaced
      (List.mem_map_of_mem declared) target named base)
  · intro resolved entity inside field declared target named base
    obtain ⟨whole, among, rfl⟩ := List.mem_map.mp inside
    obtain ⟨other, within, rfl⟩ := List.mem_map.mp declared
    exact (targets target named).mpr (resolved whole among other within target named base)

theorem entity_render_unplaced (entity : Entity) : entity.unplaced.render = entity.render := by
  rw [Entity.render, Entity.render, Entity.unplaced, List.map_map]
  rfl

theorem render_unplaced (a b : Schema) (same : a.entities.map Entity.unplaced = b.entities.map Entity.unplaced) :
    a.render = b.render := by
  have texts := congrArg (List.map Entity.render) same
  simp only [List.map_map, Function.comp_def, entity_render_unplaced] at texts
  have empty : a.entities.isEmpty = b.entities.isEmpty := by
    rw [← List.isEmpty_map (f := Entity.unplaced), same, List.isEmpty_map]
  rw [Schema.render, Schema.render, texts, empty]

theorem identifier_field_unplaced (entity : Entity) : entity.unplaced.identifierField? = entity.identifierField? := by
  rw [Entity.identifierField?, Entity.identifierField?, Entity.unplaced, List.find?_map, List.find?_map]
  have base : ((fun field : Field => decide (field.type.base = .scalar .identifier)) ∘ Field.unplaced) =
      fun field => decide (field.type.base = .scalar .identifier) := rfl
  have primary : ((fun field : Field => field.modifiers.isPrimary) ∘ Field.unplaced) = (·.modifiers.isPrimary) := rfl
  rw [base, primary]
  cases entity.fields.find? fun field => decide (field.type.base = .scalar .identifier) with
  | some field => rfl
  | none => cases entity.fields.find? (·.modifiers.isPrimary) <;> rfl

theorem target_field_unplaced (entities : List Entity) (identifier target : String) (named : Option String) :
    targetField (entities.map Entity.unplaced) identifier target named = targetField entities identifier target named := by
  cases named with
  | some field => rfl
  | none =>
      have found : entity? (entities.map Entity.unplaced) target = (entity? entities target).map Entity.unplaced := by
        rw [entity?, List.find?_map]
        rfl
      have identified : ((entity? entities target).map Entity.unplaced).bind Entity.identifierField? =
          (entity? entities target).bind Entity.identifierField? := by
        cases entity? entities target with
        | none => rfl
        | some entity => exact identifier_field_unplaced entity
      rw [targetField, found, identified, targetField]

theorem relations_unplaced (entities : List Entity) (identifier : String) :
    relationsOf (entities.map Entity.unplaced) identifier = relationsOf entities identifier := by
  have one : ∀ (field : Field) (source : String),
      field.unplaced.relation? (entities.map Entity.unplaced) identifier source = field.relation? entities identifier source := by
    intro field source
    rw [Field.relation?.eq_def, Field.relation?.eq_def]
    simp only [target_field_unplaced]
    rfl
  rw [relationsOf, List.flatMap_map, relationsOf]
  simp only [Entity.unplaced, List.filterMap_map, Function.comp_def, one]

-- Coherent entities are written as a document that declares them again.
theorem render_document (schema : Schema) (coherent : Coherent schema.entities) (resolved : Resolved schema.entities) :
    ∃ placed, Document (scan schema.render) placed ∧
      placed.map Entity.unplaced = schema.entities.map Entity.unplaced := by
  obtain ⟨parts, placed, scanned, blocks, same⟩ := scan_document_rows _ schema.entities coherent.formed 1
  have rows : lines schema.render = documentRows schema.entities := by
    rw [schema_render]
    exact lines_flat_map _ (document_rows_unbroken _ schema.entities coherent.formed)
  have names : entityNames placed = entityNames schema.entities := by
    rw [← entity_names_unplaced, same, entity_names_unplaced]
  refine ⟨placed, ⟨⟨parts, ?_, ?_⟩, ?_, ?_, ?_⟩, same⟩
  · rw [scan, rows, scanned]
  · rw [names]
    exact blocks
  · rw [names]
    exact coherent.distinct
  · rw [names]
    exact coherent.unreserved
  · rw [← resolved_unplaced, same, resolved_unplaced]
    exact resolved

theorem parse_identifier (identifier : String) (source : List Char) : (Schema.parse identifier source).identifier = identifier :=
  rfl

def rereading (identifier : String) (source : List Char) : Schema :=
  Schema.parse identifier (Schema.parse identifier source).render

-- Whatever was read, its canonical text is read back without errors as the same graph, and is canonical itself.
theorem canonical_text_reads_back (identifier : String) (source : List Char) :
    (rereading identifier source).errors = [] ∧
      (rereading identifier source).entities.map Entity.unplaced =
        (Schema.parse identifier source).entities.map Entity.unplaced ∧
      (rereading identifier source).relations = (Schema.parse identifier source).relations ∧
      (rereading identifier source).render = (Schema.parse identifier source).render := by
  obtain ⟨coherent, resolved⟩ := parse_coherent identifier source
  obtain ⟨placed, document, same⟩ := render_document (Schema.parse identifier source) coherent resolved
  have read : rereading identifier source = ⟨placed, [], identifier⟩ := parse_of_document identifier _ placed document
  have entities : (rereading identifier source).entities.map Entity.unplaced =
      (Schema.parse identifier source).entities.map Entity.unplaced := by
    rw [read]
    exact same
  refine ⟨by rw [read], entities, ?_, render_unplaced _ _ entities⟩
  have identifiers : (rereading identifier source).identifier = (Schema.parse identifier source).identifier := by
    rw [read, parse_identifier]
  rw [Schema.relations, Schema.relations, ← relations_unplaced, entities, relations_unplaced, identifiers]

end Schematic
