import Schematic.Proofs.Source.RoundTrip
import Schematic.Proofs.Source.Stages

set_option autoImplicit false

namespace Schematic

open Text

section Moved

variable (place : Nat → Nat) (earlier : List Diagnostic)

def Statement.moved (statement : Statement) : Statement := { statement with line := place statement.line }

def Field.moved (field : Field) : Field := { field with line := place field.line }

def Entity.moved (entity : Entity) : Entity :=
  { entity with fields := entity.fields.map (Field.moved place), line := place entity.line }

-- Two messages name the line of a first declaration.
def Problem.moved : Problem → Problem
  | .repeatedEntity entity first => .repeatedEntity entity (place first)
  | .repeatedField field entity first => .repeatedField field entity (place first)
  | problem => problem

def Problem.Placeless (problem : Problem) : Prop := problem.moved place = problem

def Diagnostic.moved (diagnostic : Diagnostic) : Diagnostic := ⟨place diagnostic.line, diagnostic.problem.moved place⟩

def Headers.moved (headers : Headers) : Headers :=
  ⟨headers.entities.map (Entity.moved place), earlier ++ headers.errors.map (Diagnostic.moved place)⟩

def Mark.moved (mark : Mark) : Mark := { mark with statement := mark.statement.moved place }

def Block.moved (block : Block) : Block := { block with line := place block.line }

def ReadState.moved (state : ReadState) : ReadState :=
  ⟨state.entities.map (Entity.moved place), state.block.map (Block.moved place),
    earlier ++ state.errors.map (Diagnostic.moved place)⟩

theorem entity_moved (entities : List Entity) (name : String) :
    entity? (entities.map (Entity.moved place)) name = (entity? entities name).map (Entity.moved place) := by
  rw [entity?, List.find?_map]
  rfl

theorem field_moved (entity : Entity) (name : String) :
    (entity.moved place).field? name = (entity.field? name).map (Field.moved place) := by
  rw [Entity.field?, Entity.moved, List.find?_map]
  rfl

theorem names_moved (entities : List Entity) : entityNames (entities.map (Entity.moved place)) = entityNames entities := by
  rw [entityNames, List.map_map]
  rfl

theorem update_moved (entities : List Entity) (name : String) (change other : Entity → Entity)
    (same : ∀ entity, other (entity.moved place) = (change entity).moved place) :
    updateEntity (entities.map (Entity.moved place)) name other = (updateEntity entities name change).map (Entity.moved place) := by
  rw [updateEntity, updateEntity, List.map_map, List.map_map]
  apply List.map_congr_left
  intro entity _
  have names : (entity.moved place).name = entity.name := rfl
  by_cases here : entity.name = name
  · simp only [Function.comp_apply, names, if_pos here, same]
  · simp only [Function.comp_apply, names, if_neg here]

theorem register_moved (headers : Headers) (statement : Statement) :
    (headers.moved place earlier).register (statement.moved place) =
      ((headers.register statement).1.moved place earlier, (headers.register statement).2) := by
  have text : (statement.moved place).text = statement.text := rfl
  rw [Headers.register, Headers.register, text]
  cases headerName? statement.text with
  | none => simp [Headers.moved, Diagnostic.moved, Problem.moved, Statement.moved]
  | some name =>
      by_cases reserved : String.ofList name ∈ reservedNames
      · simp [reserved, Headers.moved, Diagnostic.moved, Problem.moved, Statement.moved]
      · have found : entity? (headers.moved place earlier).entities (String.ofList name) =
            (entity? headers.entities (String.ofList name)).map (Entity.moved place) := entity_moved place _ _
        simp only [if_neg reserved, found]
        cases entity? headers.entities (String.ofList name) with
        | none => simp [Headers.moved, Entity.moved, Statement.moved]
        | some first => simp [Headers.moved, Diagnostic.moved, Problem.moved, Statement.moved, Entity.moved]

theorem mark_headers_moved (headers : Headers) (statements : List Statement) :
    markHeaders (headers.moved place earlier) (statements.map (Statement.moved place)) =
      ((markHeaders headers statements).1.moved place earlier, (markHeaders headers statements).2.map (Mark.moved place)) := by
  induction statements generalizing headers with
  | nil => rfl
  | cons statement rest ih =>
      rw [List.map_cons]
      by_cases opens : isHeader statement.text = true
      · rw [mark_headers_header _ _ (statement.moved place) _ _ opens (register_moved place earlier headers statement),
          mark_headers_header headers _ statement _ rest opens rfl, ih]
        rfl
      · have plain : isHeader statement.text = false := by simpa using opens
        rw [mark_headers_other _ (statement.moved place) _ plain, mark_headers_other headers statement rest plain, ih]
        rfl

theorem report_moved (state : ReadState) (line : Nat) (problem : Problem) :
    (state.moved place earlier).report (place line) (problem.moved place) = (state.report line problem).moved place earlier := by
  simp [ReadState.report, ReadState.moved, Diagnostic.moved]

theorem report_open_moved (state : ReadState) : (state.moved place earlier).reportOpen = state.reportOpen.moved place earlier := by
  obtain ⟨entities, block, errors⟩ := state
  cases block with
  | none => rfl
  | some block =>
      obtain ⟨line, entity⟩ := block
      cases entity with
      | none => exact report_moved place earlier ⟨entities, some ⟨line, none⟩, errors⟩ line .unclosedBlock
      | some entity => exact report_moved place earlier ⟨entities, some ⟨line, some entity⟩, errors⟩ line (.unclosedEntity entity)

theorem clause_report_placeless (state : ClauseState) (problem : Problem)
    (before : ∀ told ∈ state.problems, told.Placeless place) (fresh : problem.Placeless place) :
    ∀ told ∈ (state.report problem).problems, told.Placeless place := by
  intro told member
  rcases List.mem_append.mp member with old | last
  · exact before told old
  · obtain rfl : told = problem := by simpa using last
    exact fresh

theorem clause_step_placeless (state : ClauseState) (text : List Char)
    (before : ∀ told ∈ state.problems, told.Placeless place) : ∀ told ∈ (state.step text).problems, told.Placeless place := by
  have flag : ∀ (word : String) (value : Option (List Char)) (set : Modifiers → Modifiers),
      ∀ told ∈ (state.flag word value set).problems, told.Placeless place := by
    intro word value set
    rw [ClauseState.flag]
    split
    · exact before
    · exact clause_report_placeless place _ _ before rfl
  rw [ClauseState.step]
  split
  · exact clause_report_placeless place _ _ before rfl
  · rename_i clause _
    split
    · exact flag _ _ _
    · exact flag _ _ _
    · exact flag _ _ _
    · rw [ClauseState.nullable.eq_def]
      split
      · exact before
      · split
        · exact before
        · exact before
        · exact clause_report_placeless place _ _ before rfl
    · rw [ClauseState.default]
      split
      · exact clause_report_placeless place _ _ before rfl
      · split
        · exact before
        · exact clause_report_placeless place _ _ before rfl
    · exact clause_report_placeless place _ _ before rfl

theorem clause_problems_moved (clauses : List (List Char)) (modifiers : Modifiers) (problems : List Problem)
    (read : readClauses clauses = (modifiers, problems)) : problems.map (Problem.moved place) = problems := by
  have folded : ∀ state : ClauseState, (∀ told ∈ state.problems, told.Placeless place) →
      ∀ told ∈ (clauses.foldl ClauseState.step state).problems, told.Placeless place := by
    clear read
    induction clauses with
    | nil => exact fun _ before => before
    | cons text clauses ih => exact fun state before => ih _ (clause_step_placeless place state text before)
  obtain ⟨-, rfl⟩ := Prod.mk.inj read
  exact (List.map_congr_left (folded {} (by simp))).trans (List.map_id' _)

theorem read_field_moved (state : ReadState) (owner : String) (statement : Statement) :
    (state.moved place earlier).readField owner (statement.moved place) = (state.readField owner statement).moved place earlier := by
  have text : (statement.moved place).text = statement.text := rfl
  have line : (statement.moved place).line = place statement.line := rfl
  have names : (state.moved place earlier).entities.map (·.name) = state.entities.map (·.name) := names_moved place state.entities
  rw [ReadState.readField, ReadState.readField, text, line, names]
  generalize String.ofList (trim (statement.text.takeWhile (· ≠ ':'))) = name
  generalize splitOutside '@' 0 ((statement.text.dropWhile (· ≠ ':')).drop 1) = clauses
  have found : (entity? (state.moved place earlier).entities owner).bind (·.field? name) =
      ((entity? state.entities owner).bind (·.field? name)).map (Field.moved place) := by
    rw [show (state.moved place earlier).entities = state.entities.map (Entity.moved place) from rfl, entity_moved]
    cases entity? state.entities owner with
    | none => rfl
    | some entity => exact field_moved place entity name
  by_cases named : isName name.toList = true
  · simp only [named, Bool.not_true, Bool.false_eq_true, if_false, found]
    cases (entity? state.entities owner).bind (·.field? name) with
    | some first => exact report_moved place earlier state statement.line (.repeatedField name owner first.line)
    | none =>
        simp only [Option.map_none]
        cases resolveType (state.entities.map (·.name)) (clauses.headD []) with
        | error fault => exact report_moved place earlier state statement.line (.badType fault)
        | ok type =>
            cases said : readClauses clauses.tail with
            | mk modifiers problems =>
                have told : problems.map (⟨place statement.line, ·⟩) =
                    (problems.map (⟨statement.line, ·⟩)).map (Diagnostic.moved place) := by
                  conv_lhs => rw [← clause_problems_moved place _ modifiers problems said]
                  rw [List.map_map, List.map_map]
                  rfl
                have declared := update_moved place state.entities owner
                  (fun entity => { entity with fields := entity.fields ++ [⟨name, type, modifiers, statement.line⟩] })
                  (fun entity => { entity with fields := entity.fields ++ [⟨name, type, modifiers, place statement.line⟩] })
                  (fun entity => by simp [Entity.moved, Field.moved])
                simp only [ReadState.moved, told, declared, List.map_append, List.append_assoc]
  · simp only [named, Bool.not_false, if_true]
    exact report_moved place earlier state statement.line (.badFieldName name)

theorem step_moved (state : ReadState) (mark : Mark) :
    (state.moved place earlier).step (mark.moved place) = (state.step mark).moved place earlier := by
  have text : (mark.moved place).statement.text = mark.statement.text := rfl
  obtain ⟨entities, block, errors⟩ := state
  by_cases opens : isHeader mark.statement.text = true
  · rw [step_header _ (mark.moved place) opens, step_header _ mark opens, report_open_moved]
    rfl
  · by_cases close : mark.statement.text = ['}']
    · rw [step_close _ (mark.moved place) close, step_close _ mark close]
      cases block with
      | none =>
          have reported := report_moved place earlier ⟨entities, none, errors⟩ mark.statement.line .strayClose
          exact congrArg ({ · with block := none }) reported
      | some block => rfl
    · by_cases colon : ':' ∈ mark.statement.text
      · rw [step_field _ (mark.moved place) colon, step_field _ mark colon]
        cases block with
        | none => exact report_moved place earlier ⟨entities, none, errors⟩ mark.statement.line .fieldOutsideBlock
        | some block =>
            obtain ⟨line, entity⟩ := block
            cases entity with
            | none => rfl
            | some owner => exact read_field_moved place earlier ⟨entities, some ⟨line, some owner⟩, errors⟩ owner mark.statement
      · have plain : isHeader mark.statement.text = false := by simpa using opens
        rw [step_other _ (mark.moved place) plain close colon, step_other _ mark plain close colon]
        cases block with
        | none => exact report_moved place earlier ⟨entities, none, errors⟩ _ (.unrecognized _)
        | some block =>
            obtain ⟨line, entity⟩ := block
            cases entity with
            | none => rfl
            | some owner => exact report_moved place earlier ⟨entities, some ⟨line, some owner⟩, errors⟩ _ (.unrecognized _)

theorem finish_moved (state : ReadState) (marks : List Mark) :
    (state.moved place earlier).finish (marks.map (Mark.moved place)) = (state.finish marks).moved place earlier := by
  induction marks generalizing state with
  | nil => exact report_open_moved place earlier state
  | cons mark marks ih => rw [List.map_cons, finish_cons, finish_cons, step_moved, ih]

theorem has_field_moved (entity : Entity) (name : String) : (entity.moved place).hasField name = entity.hasField name := by
  rw [Entity.hasField, Entity.moved, List.any_map]
  rfl

theorem broken_target_moved (entities : List Entity) (field : Field) :
    brokenTarget? (entities.map (Entity.moved place)) (field.moved place) = brokenTarget? entities field := by
  have known : ∀ target named, (entity? (entities.map (Entity.moved place)) target).any (·.hasField named) =
      (entity? entities target).any (·.hasField named) := by
    intro target named
    rw [entity_moved]
    cases entity? entities target with
    | none => rfl
    | some entity => exact has_field_moved place entity named
  have base : (field.moved place).type.base = field.type.base := rfl
  rw [brokenTarget?.eq_def, brokenTarget?.eq_def, base]
  simp only [known]

theorem all_fields_moved (entities : List Entity) :
    allFields (entities.map (Entity.moved place)) = (allFields entities).map (Prod.map id (Field.moved place)) := by
  rw [allFields, allFields, List.flatMap_map, List.map_flatMap]
  simp only [Entity.moved, List.map_map]
  rfl

theorem erase_moved (entity : Entity) (name : String) :
    (entity.moved place).eraseField name = (entity.eraseField name).moved place := by
  rw [Entity.eraseField, Entity.eraseField, Entity.moved, Entity.moved, List.filter_map]
  rfl

theorem sweep_moved (entities : List Entity) (entries : List (String × Field)) :
    sweep (entities.map (Entity.moved place)) (entries.map (Prod.map id (Field.moved place))) =
      ((sweep entities entries).1.map (Entity.moved place), (sweep entities entries).2.map (Diagnostic.moved place)) := by
  induction entries generalizing entities with
  | nil => rfl
  | cons entry entries ih =>
      obtain ⟨owner, field⟩ := entry
      have erased := update_moved place entities owner (·.eraseField field.name) (·.eraseField field.name)
        (fun entity => erase_moved place entity field.name)
      have name : (field.moved place).name = field.name := rfl
      rw [List.map_cons, Prod.map_apply, id_eq, sweep, sweep, broken_target_moved, name, erased, ih, ih]
      cases brokenTarget? entities field with
      | none => rfl
      | some missing => rfl

theorem sweeps_moved (fuel : Nat) (entities : List Entity) :
    sweeps fuel (entities.map (Entity.moved place)) =
      ((sweeps fuel entities).1.map (Entity.moved place), (sweeps fuel entities).2.map (Diagnostic.moved place)) := by
  induction fuel generalizing entities with
  | zero => rfl
  | succ fuel ih =>
      have pass := sweep_moved place entities (allFields entities)
      rw [← all_fields_moved] at pass
      by_cases quiet : (sweep entities (allFields entities)).2 = []
      · rw [sweeps_quiet fuel entities quiet, sweeps_quiet fuel _ (by rw [pass, quiet]; rfl)]
        rfl
      · rw [sweeps_again fuel entities quiet, sweeps_again fuel _ (by rw [pass]; simpa using quiet), pass, ih]
        simp

theorem check_references_moved (entities : List Entity) :
    checkReferences (entities.map (Entity.moved place)) =
      ((checkReferences entities).1.map (Entity.moved place), (checkReferences entities).2.map (Diagnostic.moved place)) := by
  rw [checkReferences, checkReferences, all_fields_moved, List.length_map, sweeps_moved]

theorem registered_moved (statements : List Statement) :
    registered (statements.map (Statement.moved place)) = (registered statements).moved place [] :=
  congrArg Prod.fst (mark_headers_moved place [] {} statements)

theorem declared_moved (statements : List Statement) :
    declared (statements.map (Statement.moved place)) = (declared statements).moved place [] := by
  have marks : marksOf (statements.map (Statement.moved place)) = (marksOf statements).map (Mark.moved place) :=
    congrArg Prod.snd (mark_headers_moved place [] {} statements)
  rw [declared, readUpTo, registered_moved, marks]
  exact finish_moved place [] { entities := (registered statements).entities } (marksOf statements)

theorem read_moved (statements : List Statement) :
    readStatements (statements.map (Statement.moved place)) =
      ((readStatements statements).1.map (Entity.moved place), (readStatements statements).2.map (Diagnostic.moved place)) := by
  rw [readStatements, readStatements, registered_moved, declared_moved, ReadState.moved, Headers.moved, check_references_moved]
  simp only [List.map_append, List.nil_append]

theorem unplaced_moved (entities : List Entity) :
    (entities.map (Entity.moved place)).map Entity.unplaced = entities.map Entity.unplaced := by
  rw [List.map_map]
  apply List.map_congr_left
  intro entity _
  simp [Entity.moved, Entity.unplaced, Field.moved, Field.unplaced, Function.comp_def]

theorem relations_moved (entities : List Entity) (identifier : String) :
    relationsOf (entities.map (Entity.moved place)) identifier = relationsOf entities identifier := by
  rw [← relations_unplaced, unplaced_moved, relations_unplaced]

end Moved

theorem entities_unmoved (entities : List Entity) : entities.map (Entity.moved id) = entities := by
  refine (List.map_congr_left fun entity _ => ?_).trans (List.map_id' _)
  exact congrArg (Entity.mk entity.name · entity.line) ((List.map_congr_left fun _ _ => rfl).trans (List.map_id' _))

theorem errors_unmoved (errors : List Diagnostic) : errors.map (Diagnostic.moved id) = errors := by
  refine (List.map_congr_left fun told _ => ?_).trans (List.map_id' _)
  obtain ⟨line, problem⟩ := told
  cases problem <;> rfl

theorem block_unmoved (block : Option Block) : block.map (Block.moved id) = block := by
  cases block <;> rfl

theorem mark_headers_after (earlier errors : List Diagnostic) (entities : List Entity) (statements : List Statement) :
    markHeaders ⟨entities, earlier ++ errors⟩ statements =
      (⟨(markHeaders ⟨entities, errors⟩ statements).1.entities, earlier ++ (markHeaders ⟨entities, errors⟩ statements).1.errors⟩,
        (markHeaders ⟨entities, errors⟩ statements).2) := by
  have later := mark_headers_moved id earlier ⟨entities, errors⟩ statements
  have marks : (markHeaders ⟨entities, errors⟩ statements).2.map (Mark.moved id) = (markHeaders ⟨entities, errors⟩ statements).2 :=
    (List.map_congr_left fun _ _ => rfl).trans (List.map_id' _)
  have same : statements.map (Statement.moved id) = statements := (List.map_congr_left fun _ _ => rfl).trans (List.map_id' _)
  rwa [same, marks, Headers.moved, Headers.moved, entities_unmoved, errors_unmoved, entities_unmoved, errors_unmoved] at later

theorem finish_after (earlier errors : List Diagnostic) (entities : List Entity) (block : Option Block) (marks : List Mark) :
    ReadState.finish ⟨entities, block, earlier ++ errors⟩ marks =
      ⟨(ReadState.finish ⟨entities, block, errors⟩ marks).entities, (ReadState.finish ⟨entities, block, errors⟩ marks).block,
        earlier ++ (ReadState.finish ⟨entities, block, errors⟩ marks).errors⟩ := by
  have later := finish_moved id earlier ⟨entities, block, errors⟩ marks
  have same : marks.map (Mark.moved id) = marks := (List.map_congr_left fun _ _ => rfl).trans (List.map_id' _)
  rwa [same, ReadState.moved, ReadState.moved, entities_unmoved, errors_unmoved, block_unmoved, entities_unmoved, errors_unmoved,
    block_unmoved] at later

end Schematic
