import Schematic.Proofs.Source.Acceptance
import Schematic.Proofs.Source.TypeWriting

set_option autoImplicit false

namespace Schematic

open Text

-- A field that keeps its meaning when it is written back.
structure Writable (names : List String) (field : Field) : Prop where
  named : isName field.name.toList = true
  typed : TypeText names field.type.render field.type
  unbroken : Unbroken field.type.render
  uncommented : ∀ spot : Spot, spot.depth = 0 → Uncommented spot field.type.render
  sheltered : Sheltered fieldMarks 0 field.type.render
  closed : field.modifiers = {} ∨ depthOver 0 field.type.render = 0
  settled : field.modifiers.isPrimary = true → field.modifiers.isNullable = false
  whole : ∀ value, field.modifiers.defaultText = some value → Unbroken value.text.toList

structure WellFormed (names : List String) (entity : Entity) : Prop where
  named : isName entity.name.toList = true
  distinct : (entity.fields.map Field.name).Nodup
  writable : ∀ field ∈ entity.fields, Writable names field

-- Entities as the reader finds them in any text, valid or not.
structure Coherent (entities : List Entity) : Prop where
  distinct : (entityNames entities).Nodup
  unreserved : Unreserved (entityNames entities)
  formed : ∀ entity ∈ entities, WellFormed (entityNames entities) entity

theorem mem_split_outside (separator : Char) (depth : Nat) (text piece : List Char) (c : Char)
    (member : piece ∈ splitOutside separator depth text) (inside : c ∈ piece) : c ∈ text := by
  induction text generalizing depth piece with
  | nil =>
      obtain rfl : piece = [] := by simpa [splitOutside] using member
      exact inside
  | cons d text ih =>
      rw [splitOutside] at member
      split at member
      · rcases List.mem_cons.mp member with rfl | later
        · simp at inside
        · exact List.mem_cons_of_mem _ (ih _ piece later inside)
      · rcases mem_cons_first d c _ piece member inside with rfl | ⟨other, among, within⟩
        · exact List.mem_cons_self
        · exact List.mem_cons_of_mem _ (ih _ other among within)

theorem clause_default_chars (text : List Char) (value : DefaultText) (said : ClauseText text (.default value)) (c : Char)
    (member : c ∈ value.text.toList) : c ∈ text := by
  obtain ⟨word, tail, given, whole, read, known⟩ := said
  cases known with
  | default value =>
      have inside : c ∈ tail := by
        generalize same : some value.text.toList = given at read
        cases read with
        | bare => simp at same
        | enclosed gap inner blank =>
            rw [Option.some.inj same] at member
            simp [mem_of_mem_trim c inner member]
        | assigned gap inner blank =>
            rw [Option.some.inj same] at member
            simp [mem_of_mem_trim c inner member]
      exact mem_of_mem_trim c text (by rw [whole]; exact List.mem_append_right _ inside)

theorem clause_step_default (state : ClauseState) (text : List Char) :
    (state.step text).modifiers.defaultText = state.modifiers.defaultText ∨
      ∃ value, (state.step text).modifiers.defaultText = some value ∧ ∀ c ∈ value.text.toList, c ∈ text := by
  rcases clause_step_cases state text with ⟨term, said⟩ | ⟨modifiers, problem, step, same⟩
  · rw [clause_step_complete state text term said]
    cases term with
    | default value => exact .inr ⟨value, rfl, clause_default_chars text value said⟩
    | primary => exact .inl rfl
    | unique => exact .inl rfl
    | index => exact .inl rfl
    | nullable value => exact .inl rfl
  · exact .inl (by rw [step, same])

theorem clauses_default (clauses : List (List Char)) (state : ClauseState) (value : DefaultText)
    (given : (clauses.foldl ClauseState.step state).modifiers.defaultText = some value) :
    state.modifiers.defaultText = some value ∨ ∃ clause ∈ clauses, ∀ c ∈ value.text.toList, c ∈ clause := by
  induction clauses generalizing state with
  | nil => exact .inl given
  | cons clause clauses ih =>
      rcases ih (state.step clause) given with here | ⟨other, among, within⟩
      · rcases clause_step_default state clause with same | ⟨found, set, within⟩
        · exact .inl (same ▸ here)
        · obtain rfl := Option.some.inj (set.symm.trans here)
          exact .inr ⟨clause, List.mem_cons_self, within⟩
      · exact .inr ⟨other, List.mem_cons_of_mem _ among, within⟩

theorem read_clauses_default (clauses : List (List Char)) (value : DefaultText)
    (given : (readClauses clauses).1.defaultText = some value) : ∃ clause ∈ clauses, ∀ c ∈ value.text.toList, c ∈ clause := by
  rcases clauses_default clauses {} value given with none | found
  · exact nomatch none
  · exact found

theorem read_clauses_settled (clauses : List (List Char)) (primary : (readClauses clauses).1.isPrimary = true) :
    (readClauses clauses).1.isNullable = false := by
  rw [readClauses, Modifiers.settle] at primary ⊢
  simp only at primary ⊢
  rw [primary, Bool.not_true, Bool.and_false]

theorem type_text_last (names : List String) (text : List Char) (type : FieldType) (read : TypeText names text type) :
    ∃ front c, text = front ++ [c] ∧ c ∉ braces := by
  have bracket : ∀ front : List Char, front ++ ['[', ']'] = (front ++ ['[']) ++ [']'] := by simp
  cases read with
  | many text gap base read blank => exact ⟨_, ']', bracket _, by decide⟩
  | one _ base read =>
      rcases base_render_chars names text base read with ⟨gap, body, values, rfl, -, -, -⟩ | ⟨-, words⟩
      · exact ⟨_, ')', rfl, by decide⟩
      · obtain ⟨-, c, last, -, -⟩ := base_text_ends names text base read
        obtain ⟨front, whole⟩ := List.getLast?_eq_some_iff.mp last
        refine ⟨front, c, whole, ?_⟩
        have absent : ∀ mark ∈ braces, mark ∉ text := by
          intro mark member
          simp only [braces, List.mem_cons, List.not_mem_nil, or_false] at member
          rcases member with rfl | rfl <;> exact word_absent text words _ (by decide) (by decide) (by decide)
        exact fun mark => absent c mark (by rw [whole]; simp)

theorem declared_writable (names : List String) (statement : Statement) (field : Field) (problems : List Problem)
    (tame : Tame statement.text) (declared : Declared names statement field problems) : Writable names field := by
  obtain ⟨⟨before, rest, expression, clauses, whole, -, spelled, parted, typed, read⟩, named, -⟩ := declared
  obtain ⟨a, b, blankBefore, blankAfter, parts⟩ := trim_parts expression
  obtain ⟨unmarked, ending⟩ := split_outside_first '@' 0 rest expression clauses parted
  obtain ⟨tail, joined⟩ : ∃ tail, rest = expression ++ tail := by
    rcases ending with ⟨same, -⟩ | ⟨tail, same, -⟩
    · exact ⟨[], by rw [same, List.append_nil]⟩
    · exact ⟨'@' :: tail, same⟩
  have outside : depthOver 0 (before ++ ':' :: a) = 0 := by
    have start : depthOver 0 before = 0 := by rw [← depth_over_trim, spelled, depth_over_name 0 _ named]
    rw [depth_over_append, start]
    exact depth_over_blanks 0 a blankBefore
  have here : Tame (trim expression) := by
    have placed : statement.text = before ++ ':' :: a ++ trim expression ++ (b ++ tail) := by
      rw [whole, joined]
      conv_lhs => rw [parts]
      simp
    exact tame_infix _ _ _ outside (placed ▸ tame)
  have braced : Sheltered braces 0 (trim expression) := by
    obtain ⟨front, c, same, plain⟩ := type_text_last names _ _ typed
    have inner := here.sheltered
    rw [same, List.dropLast_concat] at inner
    rw [same, sheltered_append]
    exact ⟨inner, sheltered_absent _ _ _ (by simpa using plain)⟩
  have sheltered : Sheltered fieldMarks 0 (trim expression) :=
    (sheltered_union _ _ _ _).mpr ⟨braced, sheltered_trim _ _ _ unmarked⟩
  obtain ⟨spot, start, plain⟩ := here.uncommented
  obtain ⟨unbroken, uncommented, stands, depth⟩ :=
    type_render_stands names _ _ typed spot start here.unbroken plain sheltered
  have modifiers : field.modifiers = (readClauses clauses).1 := by rw [read]
  refine ⟨named, type_text_render names _ _ typed, unbroken, uncommented, stands, ?_, ?_, ?_⟩
  · rcases ending with ⟨-, rfl⟩ | ⟨-, -, closing⟩
    · exact .inl modifiers
    · right
      rw [depth, depth_over_trim]
      exact closing
  · rw [modifiers]
    exact read_clauses_settled clauses
  · intro value given c member
    rw [modifiers] at given
    obtain ⟨clause, among, within⟩ := read_clauses_default clauses value given
    have piece := mem_split_outside '@' 0 rest clause c (by rw [parted]; exact List.mem_cons_of_mem _ among) (within c member)
    exact tame.unbroken c (by rw [whole]; simp [piece])

theorem register_coherent (headers : Headers) (statement : Statement) (coherent : Coherent headers.entities)
    (bare : ∀ entity ∈ headers.entities, entity.fields = []) :
    Coherent (headers.register statement).1.entities ∧ ∀ entity ∈ (headers.register statement).1.entities, entity.fields = [] := by
  rcases register_cases headers statement with ⟨problem, registered⟩ | ⟨name, header, free, fresh, registered⟩
  · rw [registered]
    exact ⟨coherent, bare⟩
  · rw [registered]
    obtain ⟨gap, space, -, -, -, named, -⟩ := header
    have fields : ∀ entity ∈ headers.entities ++ [⟨name, [], statement.line⟩], entity.fields = [] := by
      intro entity member
      rcases List.mem_append.mp member with old | last
      · exact bare entity old
      · obtain rfl : entity = ⟨name, [], statement.line⟩ := by simpa using last
        rfl
    refine ⟨⟨?_, ?_, ?_⟩, fields⟩
    · rw [entity_names_append]
      exact nodup_append_one _ name coherent.distinct fresh
    · intro other member
      rw [entity_names_append, List.mem_append] at member
      rcases member with old | last
      · exact coherent.unreserved other old
      · obtain rfl : other = name := by simpa [entityNames] using last
        exact free
    · intro entity member
      have none := fields entity member
      refine ⟨?_, by simp [none], by simp [none]⟩
      rcases List.mem_append.mp member with old | last
      · exact (coherent.formed entity old).named
      · obtain rfl : entity = ⟨name, [], statement.line⟩ := by simpa using last
        exact named

theorem mark_headers_coherent (headers : Headers) (statements : List Statement) (coherent : Coherent headers.entities)
    (bare : ∀ entity ∈ headers.entities, entity.fields = []) :
    Coherent (markHeaders headers statements).1.entities ∧ (markHeaders headers statements).2.map Mark.statement = statements := by
  induction statements generalizing headers with
  | nil => exact ⟨coherent, rfl⟩
  | cons statement rest ih =>
      by_cases opens : isHeader statement.text = true
      · obtain ⟨kept, empty⟩ := register_coherent headers statement coherent bare
        obtain ⟨later, same⟩ := ih (headers.register statement).1 kept empty
        rw [mark_headers_header headers _ statement _ rest opens rfl]
        exact ⟨later, congrArg (statement :: ·) same⟩
      · obtain ⟨later, same⟩ := ih headers coherent bare
        rw [mark_headers_other headers statement rest (by simpa using opens)]
        exact ⟨later, by simp [same]⟩

theorem read_field_coherent (state : ReadState) (owner : String) (statement : Statement) (colon : ':' ∈ statement.text)
    (tame : Tame statement.text) (coherent : Coherent state.entities) : Coherent (state.readField owner statement).entities := by
  rcases read_field_cases state owner statement colon with ⟨problem, read⟩ | ⟨field, problems, declared, fresh, read⟩
  · rw [read]
    exact coherent
  · rw [read]
    have names := entity_names_update state.entities owner (fun entity => { entity with fields := entity.fields ++ [field] })
      fun _ => rfl
    have writable := declared_writable _ statement field problems tame declared
    refine ⟨by rw [names]; exact coherent.distinct, by rw [names]; exact coherent.unreserved, ?_⟩
    intro entity member
    rw [names]
    rcases mem_update _ _ _ entity member with old | ⟨old, inside, same, rfl⟩
    · exact coherent.formed entity old
    · have formed := coherent.formed old inside
      rw [← same, entity_member state.entities old inside coherent.distinct, Option.bind_some, field_missing] at fresh
      refine ⟨formed.named, ?_, ?_⟩
      · rw [List.map_append]
        exact nodup_append_one _ field.name formed.distinct fresh
      · intro other among
        rcases List.mem_append.mp among with earlier | last
        · exact formed.writable other earlier
        · obtain rfl : other = field := by simpa using last
          exact writable

theorem step_entities (state : ReadState) (mark : Mark) :
    (state.step mark).entities = state.entities ∨
      ∃ owner, ':' ∈ mark.statement.text ∧ state.step mark = state.readField owner mark.statement := by
  have reported : state.reportOpen.entities = state.entities := by
    rw [ReadState.reportOpen.eq_def]
    split <;> rfl
  by_cases opens : isHeader mark.statement.text = true
  · rw [step_header state mark opens]
    exact .inl reported
  · by_cases close : mark.statement.text = ['}']
    · rw [step_close state mark close]
      exact .inl (by by_cases inside : state.block.isSome <;> simp [inside, ReadState.report])
    · by_cases colon : ':' ∈ mark.statement.text
      · rw [step_field state mark colon]
        split
        · exact .inl rfl
        · exact .inl rfl
        · rename_i owner _
          exact .inr ⟨owner, colon, rfl⟩
      · rw [step_other state mark (by simpa using opens) close colon]
        split
        · exact .inl rfl
        · exact .inl rfl

theorem step_coherent (state : ReadState) (mark : Mark) (tame : Tame mark.statement.text)
    (coherent : Coherent state.entities) : Coherent (state.step mark).entities := by
  rcases step_entities state mark with same | ⟨owner, colon, same⟩
  · rw [same]
    exact coherent
  · rw [same]
    exact read_field_coherent state owner mark.statement colon tame coherent

theorem finish_coherent (state : ReadState) (marks : List Mark) (tame : ∀ mark ∈ marks, Tame mark.statement.text)
    (coherent : Coherent state.entities) : Coherent (state.finish marks).entities := by
  induction marks generalizing state with
  | nil =>
      have same : (state.finish []).entities = state.entities := by
        rw [ReadState.finish, List.foldl_nil, ReadState.reportOpen.eq_def]
        split <;> rfl
      rw [same]
      exact coherent
  | cons mark marks ih =>
      rw [finish_cons]
      exact ih _ (fun other member => tame other (List.mem_cons_of_mem _ member))
        (step_coherent state mark (tame mark List.mem_cons_self) coherent)

theorem thinned_coherent (kept entities : List Entity) (thinned : Thinned kept entities) (coherent : Coherent entities) :
    Coherent kept := by
  have names := thinned_names kept entities thinned
  refine ⟨by rw [names]; exact coherent.distinct, by rw [names]; exact coherent.unreserved, ?_⟩
  intro entity member
  obtain ⟨whole, inside, same, fewer⟩ := thinned_member kept entities thinned entity member
  have formed := coherent.formed whole inside
  rw [names]
  exact ⟨by rw [same]; exact formed.named, (fewer.map Field.name).nodup formed.distinct,
    fun field among => formed.writable field (fewer.subset among)⟩

-- Whatever the text, the graph that is read from it is coherent and its references hold.
theorem parse_coherent (identifier : String) (source : List Char) :
    Coherent (Schema.parse identifier source).entities ∧ Resolved (Schema.parse identifier source).entities := by
  have none : Coherent (Headers.entities {}) := ⟨List.nodup_nil, by simp [Unreserved, entityNames], by simp⟩
  obtain ⟨registered, statements⟩ := mark_headers_coherent {} (scan source) none (by simp)
  have tame : ∀ mark ∈ (markHeaders {} (scan source)).2, Tame mark.statement.text := by
    intro mark member
    have among := List.mem_map_of_mem (f := Mark.statement) member
    rw [statements] at among
    exact scan_tame source mark.statement among
  have read := finish_coherent { entities := (markHeaders {} (scan source)).1.entities } _ tame registered
  have same : (Schema.parse identifier source).entities = (checkReferences (ReadState.finish
      { entities := (markHeaders {} (scan source)).1.entities } (markHeaders {} (scan source)).2).entities).1 := rfl
  rw [same]
  exact ⟨thinned_coherent _ _ (check_references_thinned _) read, check_references_resolved _ read.distinct⟩

end Schematic
