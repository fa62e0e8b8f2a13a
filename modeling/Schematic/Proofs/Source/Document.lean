import Schematic.Proofs.Source.ClauseGrammar
import Schematic.Proofs.Source.Depth
import Schematic.Proofs.Source.Headers
import Schematic.Proofs.Source.Sweeping

set_option autoImplicit false

namespace Schematic

open Text

-- A statement that declares a field: a name, a colon, a type expression, and clauses behind their marks.
inductive FieldText (names : List String) : Statement → Field → Prop where
  | declares (line : Nat) (before rest expression : List Char) (clauses : List (List Char)) (name : String)
      (type : FieldType) (terms : List Term) (first : ':' ∉ before) (spelled : trim before = name.toList)
      (named : isName name.toList = true) (parted : splitOutside '@' 0 rest = expression :: clauses)
      (typed : TypeText names (trim expression) type) (said : List.Forall₂ ClauseText clauses terms) :
      FieldText names ⟨line, before ++ ':' :: rest⟩ ⟨name, type, .ofTerms terms, line⟩

-- The statements of one entity: a header, its fields, and a closing brace on its own.
inductive BlockText (names : List String) : List Statement → Entity → Prop where
  | block (header close : Statement) (body : List Statement) (name : String) (fields : List Field)
      (opens : HeaderText header.text name.toList) (closes : close.text = ['}'])
      (declared : List.Forall₂ (FieldText names) body fields) (distinct : (fields.map Field.name).Nodup) :
      BlockText names (header :: (body ++ [close])) ⟨name, fields, header.line⟩

-- A sequence of complete blocks whose types may name any of the blocks, earlier or later.
structure Document (statements : List Statement) (entities : List Entity) : Prop where
  blocks : ∃ parts, parts.flatten = statements ∧ List.Forall₂ (BlockText (entityNames entities)) parts entities
  distinct : (entityNames entities).Nodup
  unreserved : Unreserved (entityNames entities)
  resolved : Resolved entities

structure Declared (names : List String) (statement : Statement) (field : Field) (problems : List Problem) : Prop where
  parts : ∃ before rest expression clauses, statement.text = before ++ ':' :: rest ∧ ':' ∉ before ∧
    trim before = field.name.toList ∧ splitOutside '@' 0 rest = expression :: clauses ∧
    TypeText names (trim expression) field.type ∧ readClauses clauses = (field.modifiers, problems)
  named : isName field.name.toList = true
  line : field.line = statement.line

theorem take_until_colon (before rest : List Char) (absent : ':' ∉ before) :
    (before ++ ':' :: rest).takeWhile (· ≠ ':') = before ∧ (before ++ ':' :: rest).dropWhile (· ≠ ':') = ':' :: rest := by
  have passes : ∀ c ∈ before, decide (c ≠ ':') = true := by
    intro c member
    rw [decide_eq_true_iff]
    rintro rfl
    exact absent member
  rw [List.takeWhile_append_of_pos passes, List.dropWhile_append_of_pos passes]
  simp

theorem split_at_colon (text : List Char) (colon : ':' ∈ text) : ∃ before rest, text = before ++ ':' :: rest ∧ ':' ∉ before := by
  obtain ⟨before, rest, same, absent⟩ := List.eq_append_cons_of_mem colon
  exact ⟨before, rest, same, absent⟩

theorem read_field_cases (state : ReadState) (owner : String) (statement : Statement) (colon : ':' ∈ statement.text) :
    (∃ problem, state.readField owner statement = state.report statement.line problem) ∨
      ∃ field problems, Declared (entityNames state.entities) statement field problems ∧
        (entity? state.entities owner).bind (·.field? field.name) = none ∧
        state.readField owner statement =
          { state with
            entities := updateEntity state.entities owner fun entity => { entity with fields := entity.fields ++ [field] }
            errors := state.errors ++ problems.map (⟨statement.line, ·⟩) } := by
  obtain ⟨before, rest, whole, absent⟩ := split_at_colon statement.text colon
  obtain ⟨taken, dropped⟩ := take_until_colon before rest absent
  obtain ⟨expression, clauses, parted⟩ := split_outside_cons '@' 0 rest
  have back : (String.ofList (trim before)).toList = trim before := String.toList_ofList
  rw [ReadState.readField]
  simp only [whole, taken, dropped, List.drop_one, List.tail_cons, parted, List.headD_cons, back]
  by_cases named : isName (trim before) = true
  · simp only [named, Bool.not_true, Bool.false_eq_true, if_false]
    cases found : (entity? state.entities owner).bind (·.field? (String.ofList (trim before))) with
    | some first => exact .inl ⟨_, rfl⟩
    | none =>
        cases read : resolveType (state.entities.map (·.name)) expression with
        | error fault => exact .inl ⟨_, rfl⟩
        | ok type =>
            cases said : readClauses clauses with
            | mk modifiers problems =>
                refine .inr ⟨⟨String.ofList (trim before), type, modifiers, statement.line⟩, problems, ?_, found, rfl⟩
                exact ⟨⟨before, rest, expression, clauses, whole, absent, back.symm, parted,
                  resolve_type_sound _ expression type read, said⟩, by rw [back]; exact named, rfl⟩
  · simp only [named, Bool.not_false, if_true]
    exact .inl ⟨_, rfl⟩

theorem declared_clean (names : List String) (statement : Statement) (field : Field)
    (declared : Declared names statement field []) : FieldText names statement field := by
  obtain ⟨line, text⟩ := statement
  obtain ⟨name, type, modifiers, fieldLine⟩ := field
  obtain ⟨⟨before, rest, expression, clauses, whole, absent, spelled, parted, typed, read⟩, named, same⟩ := declared
  obtain ⟨terms, said, final⟩ := read_clauses_sound clauses modifiers read
  simp only at whole same
  subst whole same final
  exact .declares _ before rest expression clauses name type terms absent spelled named parted typed said

theorem field_text_colon (names : List String) (statement : Statement) (field : Field)
    (text : FieldText names statement field) : ':' ∈ statement.text := by
  cases text
  simp

theorem read_field_complete (state : ReadState) (before after : List Entity) (entity : Entity) (statement : Statement)
    (field : Field) (here : state.entities = before ++ entity :: after)
    (distinct : (entityNames state.entities).Nodup) (free : Unreserved (entityNames state.entities))
    (fresh : field.name ∉ entity.fields.map Field.name)
    (text : FieldText (entityNames state.entities) statement field) :
    state.readField entity.name statement =
      { state with entities := before ++ { entity with fields := entity.fields ++ [field] } :: after } := by
  have found : (entity? state.entities entity.name).bind (·.field? field.name) = none := by
    rw [entity_member state.entities entity (by rw [here]; simp) distinct, Option.bind_some]
    exact (field_missing entity field.name).mpr fresh
  have changed := update_entity_at before after entity
    (fun entity => { entity with fields := entity.fields ++ [field] }) (here ▸ distinct)
  cases text with
  | declares line before rest expression clauses name type terms first spelled named parted typed said =>
      obtain ⟨taken, dropped⟩ := take_until_colon before rest first
      have spell : String.ofList (trim before) = name := by rw [spelled, String.ofList_toList]
      have read := resolve_type_complete (entityNames state.entities) expression type free typed
      rw [ReadState.readField]
      simp only [taken, dropped, List.drop_one, List.tail_cons, parted, List.headD_cons, spell, named, Bool.not_true,
        Bool.false_eq_true, if_false, found]
      rw [← entityNames.eq_def, read]
      simp only [read_clauses_complete clauses terms said, List.map_nil, List.append_nil]
      rw [here, changed]

end Schematic
