import Schematic.Proofs.Source.Building

set_option autoImplicit false

namespace Schematic

open Text

def Bystander (clause : List Char) : Prop :=
  Clean clause ∧ ∃ term, ClauseText clause term ∧ ∀ value, term ≠ .default value

-- A text with one entity and one field, on a line of its own, with a place between its clauses for one more.
structure Vacancy where
  owner : String
  name : String
  type : FieldType
  before : List (List Char)
  after : List (List Char)
  named : isName owner.toList = true
  free : owner ∉ reservedNames
  writable : Writable [owner] { name, type }
  closed : depthOver 0 type.render = 0
  resolved : ∀ target pointed, type.base = .ref target (some pointed) → pointed = name
  others : ∀ clause ∈ before ++ after, Bystander clause

namespace Vacancy

def field (vacancy : Vacancy) : Field := { name := vacancy.name, type := vacancy.type }

def clauses (vacancy : Vacancy) (clause : List Char) : List (List Char) := vacancy.before ++ clause :: vacancy.after

def rows (vacancy : Vacancy) (clause : List Char) : List (List Char) :=
  [({ name := vacancy.owner } : Entity).headRow, vacancy.field.rowWith (vacancy.clauses clause), ['}']]

def text (vacancy : Vacancy) (clause : List Char) : List Char := (vacancy.rows clause).flatMap (· ++ ['\n'])

def default? (vacancy : Vacancy) (identifier : String) (clause : List Char) : Option (List Char) :=
  let schema := Schema.parse identifier (vacancy.text clause)
  if schema.isValid then
    ((entity? schema.entities vacancy.owner).bind (·.field? vacancy.name)).bind fun field =>
      field.modifiers.defaultText.map (·.text.toList)
  else none

end Vacancy

def enclosed (value : List Char) : List Char := "default(".toList ++ value ++ [')']

def assigned (value : List Char) : List Char := "default=".toList ++ value

theorem say_default (terms : List Term) (modifiers : Modifiers) (given : ∀ term ∈ terms, ∀ value, term ≠ .default value) :
    (terms.foldl Modifiers.say modifiers).defaultText = modifiers.defaultText := by
  induction terms generalizing modifiers with
  | nil => rfl
  | cons term terms ih =>
      rw [List.foldl_cons, ih _ fun other member => given other (List.mem_cons_of_mem _ member)]
      cases term with
      | default value => exact absurd rfl (given _ List.mem_cons_self value)
      | primary => rfl
      | unique => rfl
      | index => rfl
      | nullable value => rfl

theorem bystanders_said (clauses : List (List Char)) (others : ∀ clause ∈ clauses, Bystander clause) :
    ∃ terms, List.Forall₂ ClauseText clauses terms ∧ ∀ term ∈ terms, ∀ value, term ≠ .default value := by
  induction clauses with
  | nil => exact ⟨[], .nil, by simp⟩
  | cons clause clauses ih =>
      obtain ⟨-, term, said, plain⟩ := others clause List.mem_cons_self
      obtain ⟨terms, rest, apart⟩ := ih fun other member => others other (List.mem_cons_of_mem _ member)
      refine ⟨term :: terms, .cons said rest, fun other member => ?_⟩
      rcases List.mem_cons.mp member with rfl | later
      · exact plain
      · exact apart other later

section Vacancy

variable (identifier : String) (vacancy : Vacancy) (clause : List Char)

theorem vacancy_clean (clean : Clean clause) : ∀ other ∈ vacancy.clauses clause, Clean other := by
  intro other member
  rcases List.mem_append.mp member with early | later
  · exact (vacancy.others other (List.mem_append_left _ early)).1
  · rcases List.mem_cons.mp later with rfl | late
    · exact clean
    · exact (vacancy.others other (List.mem_append_right _ late)).1

theorem vacancy_said (value : DefaultText) (said : ClauseText clause (.default value)) :
    ∃ terms, List.Forall₂ ClauseText (vacancy.clauses clause) terms ∧ (Modifiers.ofTerms terms).defaultText = some value := by
  obtain ⟨first, early, -⟩ :=
    bystanders_said vacancy.before fun other member => vacancy.others other (List.mem_append_left _ member)
  obtain ⟨last, late, plain⟩ :=
    bystanders_said vacancy.after fun other member => vacancy.others other (List.mem_append_right _ member)
  refine ⟨first ++ .default value :: last, List.rel_append early (.cons said late), ?_⟩
  rw [Modifiers.ofTerms, List.foldl_append, List.foldl_cons]
  exact say_default last _ plain

theorem rows_unbroken (unbroken : ∀ other ∈ vacancy.clauses clause, Unbroken other) :
    ∀ row ∈ vacancy.rows clause, Unbroken row := by
  intro row member
  simp only [Vacancy.rows, List.mem_cons, List.not_mem_nil, or_false] at member
  rcases member with rfl | rfl | rfl
  · exact head_row_unbroken _ vacancy.named
  · exact row_with_unbroken _ vacancy.field vacancy.writable _ unbroken
  · simp [Unbroken, isLineBreak]

theorem vacancy_scan (unbroken : ∀ other ∈ vacancy.clauses clause, Unbroken other) :
    scan (vacancy.text clause) = scanLines 1 (vacancy.rows clause) := by
  rw [scan, Vacancy.text, lines_flat_map _ (rows_unbroken vacancy clause unbroken)]

theorem vacancy_document (clean : Clean clause) (terms : List Term)
    (said : List.Forall₂ ClauseText (vacancy.clauses clause) terms) :
    Document (scan (vacancy.text clause))
      [⟨vacancy.owner, [⟨vacancy.name, vacancy.type, .ofTerms terms, 2⟩], 1⟩] := by
  have clauses := vacancy_clean vacancy clause clean
  have closed : vacancy.clauses clause = [] ∨ depthOver 0 vacancy.field.type.render = 0 := .inr vacancy.closed
  have head := head_row_pieces { name := vacancy.owner } vacancy.named
  have row := row_with_pieces _ vacancy.field vacancy.writable _ clauses closed
  have closing : piecesOfLine ['}'] = [['}']] := by decide
  have declared := declaration_declares _ vacancy.field vacancy.writable _ clauses closed terms said 2
  have opens := head_row_text { name := vacancy.owner } vacancy.named
  refine ⟨⟨[_], List.flatten_singleton, .cons ?_ .nil⟩, List.nodup_singleton _, ?_, ?_⟩
  · rw [vacancy_scan vacancy clause fun other member => (clauses other member).unbroken, Vacancy.rows,
      scan_lines_one 1 _ _ _ head, scan_lines_one 2 _ _ _ row, scan_lines_one 3 _ _ _ closing]
    exact .block ⟨1, _⟩ ⟨3, ['}']⟩ [_] vacancy.owner [_] opens rfl (.cons declared .nil) (List.nodup_singleton _)
  · intro name member
    rw [List.mem_singleton.mp member]
    exact vacancy.free
  · intro entity inside field declared target pointed base
    obtain rfl := List.mem_singleton.mp inside
    obtain rfl := List.mem_singleton.mp declared
    have known : target ∈ [vacancy.owner] := by
      obtain ⟨word, read⟩ := type_text_base _ _ _ vacancy.writable.typed
      exact base_text_target _ word target (some pointed) (base ▸ read)
    rw [vacancy.resolved target pointed base]
    exact ⟨_, List.mem_singleton_self _, (List.mem_singleton.mp known).symm, List.mem_singleton_self _⟩

theorem vacancy_reads (value : DefaultText) (clean : Clean clause) (said : ClauseText clause (.default value)) :
    vacancy.default? identifier clause = some value.text.toList := by
  obtain ⟨terms, read, given⟩ := vacancy_said vacancy clause value said
  have parsed := parse_of_document identifier _ _ (vacancy_document vacancy clause clean terms read)
  simp [Vacancy.default?, parsed, Schema.isValid, entity?, Entity.field?, given]

theorem vacancy_default (value : List Char) (read : vacancy.default? identifier clause = some value) :
    (Schema.parse identifier (vacancy.text clause)).errors = [] ∧ isRenderable value = true ∧ Unbroken value := by
  rw [Vacancy.default?] at read
  split at read
  · rename_i valid
    obtain ⟨field, found, given⟩ := Option.bind_eq_some_iff.mp read
    obtain ⟨entity, present, declared⟩ := Option.bind_eq_some_iff.mp found
    obtain ⟨text, set, rfl⟩ := Option.map_eq_some_iff.mp given
    have inside := (entity_found _ _ _ present).1
    have intact := (parse_intact identifier _ entity inside).fields field (List.mem_of_find?_eq_some declared)
    exact ⟨List.isEmpty_iff.mp valid, intact.writable text set⟩
  · exact nomatch read

end Vacancy

theorem written_default (value : List Char) (renderable : isRenderable value = true) :
    ∃ text : DefaultText, text.text.toList = value := by
  have back : (String.ofList value).toList = value := String.toList_ofList
  exact ⟨⟨String.ofList value, by rw [back]; exact renderable⟩, back⟩

def Entity.undefaulted (entity : Entity) : Entity :=
  { entity with
    fields := entity.fields.map fun field => { field with modifiers := { field.modifiers with defaultText := none } } }

def defaults (entities : List Entity) : List (String × String × Option DefaultText) :=
  (allFields entities).map fun entry => (entry.1, entry.2.name, entry.2.modifiers.defaultText)

theorem defaults_cons (entity : Entity) (rest : List Entity) : defaults (entity :: rest) =
    entity.fields.map (fun field => (entity.name, field.name, field.modifiers.defaultText)) ++ defaults rest := by
  rw [defaults, all_fields_cons, List.map_append, List.map_map]
  rfl

theorem defaults_carried (change : Entity → Entity) (names : ∀ entity, (change entity).name = entity.name)
    (fields : ∀ entity, (change entity).fields.map (fun field => (field.name, field.modifiers.defaultText)) =
      entity.fields.map fun field => (field.name, field.modifiers.defaultText)) (entities : List Entity) :
    defaults (entities.map change) = defaults entities := by
  induction entities with
  | nil => rfl
  | cons entity rest ih =>
      have here := congrArg (List.map fun pair => (entity.name, pair)) (fields entity)
      simp only [List.map_map, Function.comp_def] at here
      rw [List.map_cons, defaults_cons, defaults_cons, ih, names, here]

theorem defaults_unplaced (entities : List Entity) : defaults (entities.map Entity.unplaced) = defaults entities :=
  defaults_carried Entity.unplaced (fun _ => rfl) (fun entity => by rw [Entity.unplaced, List.map_map]; rfl) entities

theorem defaults_settled (entities : List Entity) : defaults (entities.map Entity.settled) = defaults entities :=
  defaults_carried Entity.settled (fun _ => rfl) (fun entity => by rw [Entity.settled, List.map_map]; rfl) entities

theorem mem_defaults (entities : List Entity) (value : DefaultText) :
    (∃ owner name, (owner, name, some value) ∈ defaults entities) ↔
      ∃ entity ∈ entities, ∃ field ∈ entity.fields, field.modifiers.defaultText = some value := by
  constructor
  · rintro ⟨owner, name, member⟩
    obtain ⟨⟨_, field⟩, among, same⟩ := List.mem_map.mp member
    obtain ⟨entity, inside, -, declared⟩ := (mem_all_fields _ _ _).mp among
    exact ⟨entity, inside, field, declared, (Prod.mk.inj (Prod.mk.inj same).2).2⟩
  · rintro ⟨entity, inside, field, declared, given⟩
    have among := (mem_all_fields entities _ field).mpr ⟨entity, inside, rfl, declared⟩
    exact ⟨entity.name, field.name, List.mem_map.mpr ⟨_, among, by rw [given]⟩⟩

theorem undefaulted_built (entities : List Entity) (built : Built (entities.map Entity.undefaulted))
    (unbroken : ∀ entity ∈ entities, ∀ field ∈ entity.fields, ∀ value, field.modifiers.defaultText = some value →
      Unbroken value.text.toList) : Built entities := by
  have names : entityNames (entities.map Entity.undefaulted) = entityNames entities := by
    rw [entityNames, List.map_map]
    rfl
  have fieldNames : ∀ entity : Entity, entity.undefaulted.fields.map Field.name = entity.fields.map Field.name := by
    intro entity
    rw [Entity.undefaulted, List.map_map]
    rfl
  refine ⟨names ▸ built.distinct, fun entity inside => ?_⟩
  obtain ⟨named, free, distinct, fields⟩ := built.entities _ (List.mem_map_of_mem inside)
  refine ⟨named, free, fieldNames entity ▸ distinct, fun field declared => ?_⟩
  obtain ⟨spelled, targeted, listed, -⟩ := fields _ (List.mem_map_of_mem declared)
  refine ⟨spelled, fun target named base => ?_, listed, unbroken entity inside field declared⟩
  obtain ⟨_, present, same, has⟩ := targeted target named base
  obtain ⟨other, among, rfl⟩ := List.mem_map.mp present
  refine ⟨other, among, same, fun name told => ?_⟩
  obtain ⟨_, member, pointed⟩ := has name told
  obtain ⟨candidate, known, rfl⟩ := List.mem_map.mp member
  exact ⟨candidate, known, pointed⟩

-- A default is read back from between its parentheses just where it can be written there and holds no line break. So it is for
-- the defaults of every graph whose fields stand closed in their lines.
theorem default_read_back_iff (identifier : String) :
    (∀ (vacancy : Vacancy) (value : List Char),
      vacancy.default? identifier (enclosed value) = some value ↔ isRenderable value = true ∧ Unbroken value) ∧
    ∀ entities : List Entity, Built (entities.map Entity.undefaulted) →
      (∀ entity ∈ entities, ∀ field ∈ entity.fields, field.Closed) →
      ((writtenAndRead identifier entities).errors = [] ∧
        defaults (writtenAndRead identifier entities).entities = defaults entities ↔
        ∀ entity ∈ entities, ∀ field ∈ entity.fields, ∀ value, field.modifiers.defaultText = some value →
          Unbroken value.text.toList) := by
  refine ⟨fun vacancy value => ⟨fun read => ?_, fun apt => ?_⟩, fun entities built closed => ⟨fun read => ?_, fun whole => ?_⟩⟩
  · exact (vacancy_default identifier vacancy (enclosed value) value read).2
  · obtain ⟨text, rfl⟩ := written_default value apt.1
    exact vacancy_reads identifier vacancy _ text (default_clean text apt.2) (default_said text)
  · intro entity inside field declared value given
    obtain ⟨owner, name, member⟩ := (mem_defaults entities value).mpr ⟨entity, inside, field, declared, given⟩
    rw [← read.2] at member
    obtain ⟨other, among, twin, there, set⟩ := (mem_defaults _ value).mp ⟨owner, name, member⟩
    exact (((parse_intact identifier _ other among).fields twin there).writable value set).2
  · have upright := undefaulted_built entities built whole
    obtain ⟨placed, document, same⟩ := render_document { entities := entities.map Entity.settled, identifier }
      (built_coherent entities upright closed) (built_resolved entities upright)
    rw [settled_render] at document
    have read : writtenAndRead identifier entities = ⟨placed, [], identifier⟩ := parse_of_document identifier _ placed document
    rw [read]
    refine ⟨rfl, ?_⟩
    rw [← defaults_unplaced placed, same, defaults_unplaced, defaults_settled]

def textField (modifiers : Modifiers) : Field := { name := "x", type := ⟨.scalar .string, false⟩, modifiers }

theorem text_field_built (modifiers : Modifiers)
    (unbroken : ∀ value, modifiers.defaultText = some value → Unbroken value.text.toList) : Built (alone (textField modifiers)) :=
  alone_built _ (name_identifier "x" (by decide)) (by simp [textField]) (by simp [textField]) unbroken

def textVacancy : Vacancy where
  owner := "A"
  name := "x"
  type := ⟨.scalar .string, false⟩
  before := []
  after := []
  named := by decide
  free := by decide
  writable :=
    built_writable (alone (textField {})) (text_field_built {} (by simp)) (textField {})
      (((text_field_built {} (by simp)).entities _ (List.mem_singleton_self _)).fields _ (List.mem_singleton_self _)) (.inl rfl)
  closed := by decide
  resolved := by simp
  others := by simp

def callDefault : DefaultText := ⟨"f(a, b)", by decide⟩

theorem call_default_reads_back :
    textVacancy.default? "id" (enclosed "f(a, b)".toList) = some "f(a, b)".toList ∧
      Built ((alone (textField { defaultText := some callDefault })).map Entity.undefaulted) ∧
      (writtenAndRead "id" (alone (textField { defaultText := some callDefault }))).errors = [] ∧
      defaults (writtenAndRead "id" (alone (textField { defaultText := some callDefault }))).entities =
        [("A", "x", some callDefault)] := by
  obtain ⟨fields, graphs⟩ := default_read_back_iff "id"
  have built : Built ((alone (textField { defaultText := some callDefault })).map Entity.undefaulted) :=
    text_field_built {} (by simp)
  have unbroken : Unbroken callDefault.text.toList := unbroken_literal _ (by decide)
  refine ⟨(fields textVacancy _).mpr ⟨by decide, unbroken⟩, built, (graphs _ built ?_).mpr ?_⟩
  · intro entity inside field declared
    obtain rfl := List.mem_singleton.mp inside
    obtain rfl := List.mem_singleton.mp declared
    exact .inr (by decide)
  · intro entity inside field declared value given
    obtain rfl := List.mem_singleton.mp inside
    obtain rfl := List.mem_singleton.mp declared
    obtain rfl := Option.some.inj given
    exact unbroken

-- A carriage return ends a line where a text is read, and passes for a part of one where a default is checked.
theorem accepted_default_lost :
    isRenderable "a\rb".toList = true ∧ textVacancy.default? "id" (enclosed "a\rb".toList) ≠ some "a\rb".toList := by
  refine ⟨by decide, fun read => ?_⟩
  have unbroken := (vacancy_default "id" textVacancy _ _ read).2.2
  exact absurd (unbroken '\r' (by decide)) (by decide)

end Schematic
