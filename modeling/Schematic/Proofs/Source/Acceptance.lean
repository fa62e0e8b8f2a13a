import Schematic.Proofs.Source.Document

set_option autoImplicit false

namespace Schematic

open Text

def ReadState.finish (state : ReadState) (marks : List Mark) : ReadState := (marks.foldl ReadState.step state).reportOpen

theorem finish_cons (state : ReadState) (mark : Mark) (marks : List Mark) :
    state.finish (mark :: marks) = (state.step mark).finish marks := rfl

theorem report_open_grow (state : ReadState) : ∃ more, state.reportOpen.errors = state.errors ++ more := by
  rw [ReadState.reportOpen.eq_def]
  split
  · exact ⟨[], by simp⟩
  · exact ⟨_, rfl⟩
  · exact ⟨_, rfl⟩

theorem step_header (state : ReadState) (mark : Mark) (opens : isHeader mark.statement.text = true) :
    state.step mark = { state.reportOpen with block := some ⟨mark.statement.line, mark.entity⟩ } := by
  rw [ReadState.step, if_pos opens]

theorem step_close (state : ReadState) (mark : Mark) (close : mark.statement.text = ['}']) :
    state.step mark =
      { (if state.block.isSome then state else state.report mark.statement.line .strayClose) with block := none } := by
  rw [ReadState.step, close, if_neg (by decide), if_pos rfl]

theorem step_field (state : ReadState) (mark : Mark) (colon : ':' ∈ mark.statement.text) :
    state.step mark =
      match state.block with
      | none => state.report mark.statement.line .fieldOutsideBlock
      | some ⟨_, none⟩ => state
      | some ⟨_, some owner⟩ => state.readField owner mark.statement := by
  have open_brace : mark.statement.text ≠ ['}'] := by
    intro same
    rw [same] at colon
    exact absurd colon (by decide)
  have plain : ¬ isHeader mark.statement.text = true := by simp [colon_not_header _ colon]
  exact (if_neg plain).trans ((if_neg open_brace).trans (if_pos (by simpa using colon)))

theorem step_other (state : ReadState) (mark : Mark) (plain : isHeader mark.statement.text = false)
    (inner : mark.statement.text ≠ ['}']) (colon : ':' ∉ mark.statement.text) :
    state.step mark =
      match state.block with
      | some ⟨_, none⟩ => state
      | _ => state.report mark.statement.line (.unrecognized (String.ofList mark.statement.text)) := by
  exact (if_neg (by simp [plain])).trans ((if_neg inner).trans (if_neg (by simpa using colon)))

theorem read_field_grow (state : ReadState) (owner : String) (statement : Statement) (colon : ':' ∈ statement.text) :
    ∃ more, (state.readField owner statement).errors = state.errors ++ more := by
  rcases read_field_cases state owner statement colon with ⟨problem, same⟩ | ⟨field, problems, -, -, same⟩
  · exact ⟨[⟨statement.line, problem⟩], by rw [same]; rfl⟩
  · exact ⟨problems.map (⟨statement.line, ·⟩), by rw [same]⟩

theorem step_grow (state : ReadState) (mark : Mark) : ∃ more, (state.step mark).errors = state.errors ++ more := by
  by_cases opens : isHeader mark.statement.text = true
  · rw [step_header state mark opens]
    exact report_open_grow state
  · by_cases close : mark.statement.text = ['}']
    · rw [step_close state mark close]
      by_cases inside : state.block.isSome
      · exact ⟨[], by simp [inside]⟩
      · exact ⟨[⟨mark.statement.line, .strayClose⟩], by simp [inside, ReadState.report]⟩
    · by_cases colon : ':' ∈ mark.statement.text
      · rw [step_field state mark colon]
        split
        · exact ⟨_, rfl⟩
        · exact ⟨[], by simp⟩
        · exact read_field_grow state _ _ colon
      · rw [step_other state mark (by simpa using opens) close colon]
        split
        · exact ⟨[], by simp⟩
        · exact ⟨_, rfl⟩

theorem finish_grow (state : ReadState) (marks : List Mark) :
    ∃ more, (state.finish marks).errors = state.errors ++ more := by
  induction marks generalizing state with
  | nil => exact report_open_grow state
  | cons mark marks ih =>
      obtain ⟨more, here⟩ := step_grow state mark
      obtain ⟨others, later⟩ := ih (state.step mark)
      exact ⟨more ++ others, by rw [finish_cons, later, here, List.append_assoc]⟩

theorem finish_clean (state : ReadState) (marks : List Mark) (clean : (state.finish marks).errors = []) :
    state.errors = [] := by
  obtain ⟨more, same⟩ := finish_grow state marks
  rw [same] at clean
  exact (List.append_eq_nil_iff.mp clean).1

theorem finish_report (state : ReadState) (line : Nat) (problem : Problem) (marks : List Mark) :
    ((state.report line problem).finish marks).errors ≠ [] := by
  intro clean
  have none := finish_clean _ marks clean
  simp [ReadState.report] at none

-- What a clean reading has found from inside a block: the rest of its fields, its closing brace, and more blocks.
structure BlockRest (names : List String) (statements : List Statement) (done fresh : List Entity) (current : Entity)
    (final : List Entity) : Prop where
  parts : ∃ body close fields parts read, statements = body ++ close :: parts.flatten ∧ close.text = ['}'] ∧
    List.Forall₂ (FieldText names) body fields ∧ ((current.fields ++ fields).map Field.name).Nodup ∧
    List.Forall₂ (BlockText names) parts read ∧ entityNames read = entityNames fresh ∧
    final = done ++ { current with fields := current.fields ++ fields } :: read

structure BlocksRest (names : List String) (statements : List Statement) (done fresh final : List Entity) : Prop where
  parts : ∃ parts read, parts.flatten = statements ∧ List.Forall₂ (BlockText names) parts read ∧
    entityNames read = entityNames fresh ∧ final = done ++ read

theorem block_rest_open (names : List String) (statements : List Statement) (done fresh final : List Entity)
    (header : Statement) (name : String) (opens : HeaderText header.text name.toList)
    (rest : BlockRest names statements done fresh ⟨name, [], header.line⟩ final) :
    BlocksRest names (header :: statements) done (⟨name, [], header.line⟩ :: fresh) final := by
  obtain ⟨body, close, fields, parts, read, rfl, closes, declared, distinct, blocks, same, rfl⟩ := rest.parts
  refine ⟨(header :: (body ++ [close])) :: parts, ⟨name, fields, header.line⟩ :: read, by simp, ?_, ?_, rfl⟩
  · exact .cons (.block header close body name fields opens closes declared distinct) blocks
  · rw [entity_names_cons, entity_names_cons, same]

theorem block_rest_field (names : List String) (statements : List Statement) (done fresh final : List Entity)
    (current : Entity) (statement : Statement) (field : Field) (text : FieldText names statement field)
    (rest : BlockRest names statements done fresh { current with fields := current.fields ++ [field] } final) :
    BlockRest names (statement :: statements) done fresh current final := by
  obtain ⟨body, close, fields, parts, read, rfl, closes, declared, distinct, blocks, same, rfl⟩ := rest.parts
  refine ⟨statement :: body, close, field :: fields, parts, read, by simp, closes, .cons text declared, ?_, blocks, same, ?_⟩
  · simpa using distinct
  · simp

theorem block_rest_close (names : List String) (statements : List Statement) (done fresh final : List Entity)
    (current : Entity) (close : Statement) (closes : close.text = ['}'])
    (distinct : (current.fields.map Field.name).Nodup)
    (rest : BlocksRest names statements (done ++ [current]) fresh final) :
    BlockRest names (close :: statements) done fresh current final := by
  obtain ⟨parts, read, rfl, blocks, same, rfl⟩ := rest.parts
  exact ⟨[], close, [], parts, read, rfl, closes, .nil, by simpa using distinct, blocks, same, by simp⟩

-- A statement with a colon in an open block is reported, or it declares one more field of the block.
theorem step_in_block (done rest : List Entity) (current : Entity) (line : Nat) (mark : Mark)
    (colon : ':' ∈ mark.statement.text) (distinct : (entityNames (done ++ current :: rest)).Nodup)
    (fields : (current.fields.map Field.name).Nodup) :
    (∃ problem, ReadState.step ⟨done ++ current :: rest, some ⟨line, some current.name⟩, []⟩ mark =
      ReadState.report ⟨done ++ current :: rest, some ⟨line, some current.name⟩, []⟩ mark.statement.line problem) ∨
    ∃ field problems, Declared (entityNames (done ++ current :: rest)) mark.statement field problems ∧
      ((current.fields ++ [field]).map Field.name).Nodup ∧
      ReadState.step ⟨done ++ current :: rest, some ⟨line, some current.name⟩, []⟩ mark =
        ⟨done ++ { current with fields := current.fields ++ [field] } :: rest, some ⟨line, some current.name⟩,
          problems.map (⟨mark.statement.line, ·⟩)⟩ := by
  rw [step_field _ mark colon]
  rcases read_field_cases ⟨done ++ current :: rest, some ⟨line, some current.name⟩, []⟩ current.name mark.statement colon with
    ⟨problem, read⟩ | ⟨field, problems, text, fresh, read⟩
  · exact .inl ⟨problem, read⟩
  · refine .inr ⟨field, problems, text, ?_, ?_⟩
    · rw [entity_member _ current (by simp) distinct, Option.bind_some, field_missing] at fresh
      rw [List.map_append]
      exact nodup_append_one _ field.name fields fresh
    · refine read.trans ?_
      rw [update_entity_at done rest current _ distinct, List.nil_append]

-- What remains to be read, from between two blocks: where it is clean, whole blocks.
def BlocksSound (marks : List Mark) (fresh : List Entity) : Prop :=
  ∀ done : List Entity, (entityNames (done ++ fresh)).Nodup →
    (ReadState.finish ⟨done ++ fresh, none, []⟩ marks).errors = [] →
    BlocksRest (entityNames (done ++ fresh)) (marks.map Mark.statement) done fresh
      (ReadState.finish ⟨done ++ fresh, none, []⟩ marks).entities

def BlockSound (marks : List Mark) (fresh : List Entity) : Prop :=
  ∀ (done : List Entity) (current : Entity) (line : Nat), (entityNames (done ++ current :: fresh)).Nodup →
    (current.fields.map Field.name).Nodup →
    (ReadState.finish ⟨done ++ current :: fresh, some ⟨line, some current.name⟩, []⟩ marks).errors = [] →
    BlockRest (entityNames (done ++ current :: fresh)) (marks.map Mark.statement) done fresh current
      (ReadState.finish ⟨done ++ current :: fresh, some ⟨line, some current.name⟩, []⟩ marks).entities

theorem blocks_header (statement : Statement) (name : String) (marks : List Mark) (entities : List Entity)
    (opens : HeaderText statement.text name.toList) (later : BlockSound marks entities) :
    BlocksSound (⟨statement, some name⟩ :: marks) (⟨name, [], statement.line⟩ :: entities) := by
  intro done distinct clean
  rw [finish_cons, step_header _ _ (header_text_opens _ _ opens)] at clean ⊢
  exact block_rest_open _ _ done entities _ statement name opens
    (later done ⟨name, [], statement.line⟩ statement.line distinct (by simp) clean)

theorem block_header (statement : Statement) (name : String) (marks : List Mark) (fresh : List Entity)
    (opens : HeaderText statement.text name.toList) : BlockSound (⟨statement, some name⟩ :: marks) fresh := by
  intro done current line _ _ clean
  have reported := finish_clean _ marks (by rwa [finish_cons] at clean)
  rw [step_header _ _ (header_text_opens _ _ opens)] at reported
  simp [ReadState.reportOpen, ReadState.report] at reported

theorem blocks_other (statement : Statement) (marks : List Mark) (fresh : List Entity)
    (plain : isHeader statement.text = false) : BlocksSound (⟨statement, none⟩ :: marks) fresh := by
  intro done _ clean
  rw [finish_cons] at clean
  by_cases close : statement.text = ['}']
  · have reported := finish_clean _ marks clean
    rw [step_close _ _ close] at reported
    simp [ReadState.report] at reported
  · by_cases colon : ':' ∈ statement.text
    · rw [step_field _ _ colon] at clean
      exact absurd clean (finish_report _ _ _ marks)
    · rw [step_other _ _ plain close colon] at clean
      exact absurd clean (finish_report _ _ _ marks)

theorem block_close (statement : Statement) (marks : List Mark) (fresh : List Entity) (close : statement.text = ['}'])
    (later : BlocksSound marks fresh) : BlockSound (⟨statement, none⟩ :: marks) fresh := by
  intro done current line distinct fields clean
  rw [finish_cons, step_close _ _ close] at clean ⊢
  have whole : done ++ current :: fresh = done ++ [current] ++ fresh := by simp
  rw [whole] at distinct clean ⊢
  exact block_rest_close _ _ done fresh _ current statement close fields (later (done ++ [current]) distinct clean)

theorem block_field (statement : Statement) (marks : List Mark) (fresh : List Entity) (colon : ':' ∈ statement.text)
    (later : BlockSound marks fresh) : BlockSound (⟨statement, none⟩ :: marks) fresh := by
  intro done current line distinct fields clean
  rw [finish_cons] at clean ⊢
  rcases step_in_block done fresh current line ⟨statement, none⟩ colon distinct fields with
    ⟨problem, read⟩ | ⟨field, problems, text, more, read⟩
  · rw [read] at clean
    exact absurd clean (finish_report _ _ _ marks)
  · rw [read] at clean ⊢
    obtain rfl : problems = [] := by simpa using finish_clean _ marks clean
    have names : entityNames (done ++ { current with fields := current.fields ++ [field] } :: fresh) =
        entityNames (done ++ current :: fresh) := by simp [entityNames]
    have rest := later done { current with fields := current.fields ++ [field] } line (by rw [names]; exact distinct) more clean
    rw [names] at rest
    exact block_rest_field _ _ done fresh _ current statement field (declared_clean _ _ _ text) rest

theorem block_stray (statement : Statement) (marks : List Mark) (fresh : List Entity)
    (plain : isHeader statement.text = false) (inner : statement.text ≠ ['}']) (colon : ':' ∉ statement.text) :
    BlockSound (⟨statement, none⟩ :: marks) fresh := by
  intro done current line _ _ clean
  rw [finish_cons, step_other _ _ plain inner colon] at clean
  exact absurd clean (finish_report _ _ _ marks)

-- Induction on the marks carries both places that a clean reading can be in.
theorem finish_sound (marks : List Mark) (fresh : List Entity) (marked : Marked marks fresh) :
    BlocksSound marks fresh ∧ BlockSound marks fresh := by
  induction marked with
  | nil =>
      refine ⟨fun done _ _ => ⟨[], [], rfl, .nil, rfl, rfl⟩, ?_⟩
      intro done current line _ _ clean
      simp [ReadState.finish, ReadState.reportOpen, ReadState.report] at clean
  | header statement name marks entities opens _ ih =>
      exact ⟨blocks_header statement name marks entities opens ih.2, block_header statement name marks _ opens⟩
  | other statement marks entities plain _ ih =>
      refine ⟨blocks_other statement marks entities plain, ?_⟩
      by_cases close : statement.text = ['}']
      · exact block_close statement marks entities close ih.1
      · by_cases colon : ':' ∈ statement.text
        · exact block_field statement marks entities colon ih.2
        · exact block_stray statement marks entities plain close colon

def Entity.bare (entity : Entity) : Entity := { entity with fields := [] }

theorem bare_names (entities : List Entity) : entityNames (entities.map Entity.bare) = entityNames entities := by
  rw [entityNames, List.map_map]
  rfl

theorem fields_complete (names : List String) (body : List Statement) (fields : List Field)
    (declared : List.Forall₂ (FieldText names) body fields) (before after : List Entity) (current : Entity) (line : Nat)
    (same : entityNames (before ++ current :: after) = names) (distinct : names.Nodup) (free : Unreserved names)
    (fresh : ((current.fields ++ fields).map Field.name).Nodup) :
    (body.map (⟨·, none⟩)).foldl ReadState.step ⟨before ++ current :: after, some ⟨line, some current.name⟩, []⟩ =
      ⟨before ++ { current with fields := current.fields ++ fields } :: after, some ⟨line, some current.name⟩, []⟩ := by
  induction declared generalizing current with
  | nil => simp
  | @cons statement field body fields text _ ih =>
      have absent : field.name ∉ current.fields.map Field.name := by
        rw [List.map_append, List.nodup_append] at fresh
        exact fun member => fresh.2.2 _ member _ List.mem_cons_self rfl
      have read := read_field_complete ⟨before ++ current :: after, some ⟨line, some current.name⟩, []⟩ before after current
        statement field rfl (same ▸ distinct) (same ▸ free) absent (same ▸ text)
      have here : ReadState.step ⟨before ++ current :: after, some ⟨line, some current.name⟩, []⟩ ⟨statement, none⟩ =
          ⟨before ++ { current with fields := current.fields ++ [field] } :: after, some ⟨line, some current.name⟩, []⟩ :=
        (step_field _ ⟨statement, none⟩ (field_text_colon names statement field text)).trans read
      have later := ih { current with fields := current.fields ++ [field] }
        (by rw [← same]; simp [entityNames]) (by simpa using fresh)
      rw [List.map_cons, List.foldl_cons, here, later]
      simp

theorem block_complete (names : List String) (part : List Statement) (entity : Entity) (text : BlockText names part entity) :
    ∃ marks : List Mark, marks.map Mark.statement = part ∧
      (∀ later fresh, Marked later fresh → Marked (marks ++ later) (entity.bare :: fresh)) ∧
      ∀ before after, entityNames (before ++ entity.bare :: after) = names → names.Nodup → Unreserved names →
        marks.foldl ReadState.step ⟨before ++ entity.bare :: after, none, []⟩ = ⟨before ++ entity :: after, none, []⟩ := by
  cases text with
  | block header close body name fields opens closes declared distinct =>
      refine ⟨⟨header, some name⟩ :: (body.map (⟨·, none⟩) ++ [⟨close, none⟩]), by simp [Function.comp_def], ?_, ?_⟩
      · intro later fresh marked
        have closed : Marked (⟨close, none⟩ :: later) fresh :=
          .other close later fresh (by rw [closes]; exact brace_not_header) marked
        have inner : Marked (body.map (⟨·, none⟩) ++ ⟨close, none⟩ :: later) fresh := by
          induction declared with
          | nil => exact closed
          | cons here _ ih =>
              exact .other _ _ _ (colon_not_header _ (field_text_colon _ _ _ here)) (ih (List.nodup_cons.mp distinct).2)
        have whole := Marked.header header name _ _ opens inner
        rw [List.cons_append, List.append_assoc]
        exact whole
      · intro before after same nodup free
        have opened := step_header ⟨before ++ ⟨name, [], header.line⟩ :: after, none, []⟩ ⟨header, some name⟩
          (header_text_opens _ _ opens)
        have filled := fields_complete names body fields declared before after ⟨name, [], header.line⟩ header.line
          same nodup free distinct
        have closed := step_close ⟨before ++ ⟨name, fields, header.line⟩ :: after, some ⟨header.line, some name⟩, []⟩
          ⟨close, none⟩ closes
        rw [Entity.bare, List.foldl_cons, opened, List.foldl_append]
        exact (congrArg (List.foldl ReadState.step · [⟨close, none⟩]) filled).trans closed

theorem blocks_complete (names : List String) (parts : List (List Statement)) (entities : List Entity)
    (blocks : List.Forall₂ (BlockText names) parts entities) :
    ∃ marks : List Mark, marks.map Mark.statement = parts.flatten ∧ Marked marks (entities.map Entity.bare) ∧
      ∀ before, entityNames (before ++ entities) = names → names.Nodup → Unreserved names →
        marks.foldl ReadState.step ⟨before ++ entities.map Entity.bare, none, []⟩ = ⟨before ++ entities, none, []⟩ := by
  induction blocks with
  | nil => exact ⟨[], rfl, .nil, fun before _ _ _ => by simp⟩
  | @cons part entity parts entities text _ ih =>
      obtain ⟨marks, same, marked, folded⟩ := block_complete names part entity text
      obtain ⟨later, others, markedLater, foldedLater⟩ := ih
      refine ⟨marks ++ later, by simp [same, others], marked later _ markedLater, ?_⟩
      intro before whole distinct free
      have here := folded before (entities.map Entity.bare)
        (by rw [← whole, entity_names_append, entity_names_append, entity_names_cons, bare_names]; rfl) distinct free
      have rest := foldedLater (before ++ [entity]) (by rw [← whole]; simp) distinct free
      rw [List.map_cons, List.foldl_append, here]
      simpa using rest

theorem parse_of_document (identifier : String) (source : List Char) (entities : List Entity)
    (document : Document (scan source) entities) : Schema.parse identifier source = ⟨entities, [], identifier⟩ := by
  obtain ⟨parts, whole, blocks⟩ := document.blocks
  obtain ⟨marks, statements, marked, folded⟩ := blocks_complete _ parts entities blocks
  have registered := mark_headers_complete {} marks (entities.map Entity.bare) marked
    (by rw [List.nil_append, bare_names]; exact document.distinct) (by rw [bare_names]; exact document.unreserved)
  have read := folded [] rfl document.distinct document.unreserved
  rw [statements, whole] at registered
  rw [Schema.parse, registered]
  simp only [List.nil_append] at read ⊢
  rw [read, ReadState.reportOpen, check_references_quiet entities document.distinct document.resolved]
  simp

theorem document_of_parse (identifier : String) (source : List Char)
    (clean : (Schema.parse identifier source).errors = []) : ∃ entities, Document (scan source) entities := by
  rw [Schema.parse] at clean
  have marking := mark_headers_sound {} (scan source) (by simp [entityNames])
  cases registered : markHeaders {} (scan source) with
  | mk headers marks =>
      rw [registered] at marking
      have none := congrArg List.length (clean)
      simp only [registered, List.length_mergeSort, List.length_nil, List.length_eq_zero_iff, List.append_eq_nil_iff] at none
      obtain ⟨⟨headersClean, readClean⟩, referencesClean⟩ := none
      obtain ⟨fresh, entities, marked, statements, distinct, free⟩ := marking headersClean
      obtain rfl : headers.entities = fresh := entities
      have reading := (finish_sound marks headers.entities marked).1 [] distinct readClean
      obtain ⟨parts, read, whole, blocks, names, final⟩ := reading.parts
      simp only [List.nil_append, ReadState.finish] at names final distinct blocks
      rw [final] at referencesClean
      rw [← names] at blocks distinct free
      exact ⟨read, ⟨parts, by rw [whole, statements], blocks⟩, distinct, free,
        check_references_clean read distinct referencesClean⟩

-- A text is accepted exactly when its statements are a document, and then the graph is that document.
theorem parse_accepts_documents (identifier : String) (source : List Char) :
    ((Schema.parse identifier source).errors = [] ↔ ∃ entities, Document (scan source) entities) ∧
      ∀ entities, Document (scan source) entities → (Schema.parse identifier source).entities = entities := by
  refine ⟨⟨document_of_parse identifier source, ?_⟩, ?_⟩
  · rintro ⟨entities, document⟩
    rw [parse_of_document identifier source entities document]
  · intro entities document
    rw [parse_of_document identifier source entities document]

end Schematic
