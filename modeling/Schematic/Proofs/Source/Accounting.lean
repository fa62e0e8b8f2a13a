import Schematic.Proofs.Related
import Schematic.Proofs.Source.Bodies
import Schematic.Proofs.Source.Pruning
import Schematic.Proofs.Source.Sorting

set_option autoImplicit false

namespace Schematic

open Text

def Mentioned (errors : List Diagnostic) (statement : Statement) : Prop := ∃ diagnostic ∈ errors, diagnostic.line = statement.line

def OnLine (source : List Char) (statement : Statement) : Prop :=
  1 ≤ statement.line ∧ ∃ row, (lines source)[statement.line - 1]? = some row ∧ statement.text ∈ piecesOfLine row

def onLines (rows : List (List Char)) : List Char := rows.flatMap (· ++ ['\n'])

def Kept (entities : List Entity) (header : Statement) (name : String) (statement : Statement) : Prop :=
  ∃ entity ∈ entities, entity.name = name ∧ entity.line = header.line ∧
    ∃ field ∈ entity.fields, field.name.toList = statement.fieldName ∧ field.line = statement.line

-- What becomes of a statement, by what stands in front of it: it is in the graph, or something is said of its line.
structure Answered (entities : List Entity) (errors : List Diagnostic) (before : List Statement) (statement : Statement) :
    Prop where
  header : isHeader statement.text = true →
    (∃ entity ∈ entities, HeaderText statement.text entity.name.toList ∧ entity.line = statement.line) ∨ Mentioned errors statement
  field : ∀ front header body name, Inside before front header body → Introduces front header name →
    ':' ∈ statement.text → Kept entities header name statement ∨ Mentioned errors statement
  other : Plain statement → (∀ front header body, Inside before front header body → ¬ RejectedHeader front header) →
    (∀ front header body name, Inside before front header body → Introduces front header name → ':' ∉ statement.text) →
    Mentioned errors statement

structure ReadState.Within (held : Nat → Prop) (state : ReadState) : Prop where
  told : ∀ diagnostic ∈ state.errors, held diagnostic.line
  filled : ∀ entity ∈ state.entities, ∀ field ∈ entity.fields, held field.line
  opened : ∀ block, state.block = some block → held block.line

theorem scan_lines_stand (number : Nat) (rows : List (List Char)) (statement : Statement)
    (member : statement ∈ scanLines number rows) :
    number ≤ statement.line ∧ ∃ row, rows[statement.line - number]? = some row ∧ statement.text ∈ piecesOfLine row := by
  induction rows generalizing number with
  | nil => simp [scanLines] at member
  | cons row rows ih =>
      rw [scanLines, List.mem_append, List.mem_map] at member
      rcases member with ⟨piece, among, rfl⟩ | later
      · exact ⟨Nat.le_refl _, row, by simp, among⟩
      · obtain ⟨bound, other, found, piece⟩ := ih (number + 1) later
        refine ⟨by omega, other, ?_, piece⟩
        rw [show statement.line - number = statement.line - (number + 1) + 1 by omega, List.getElem?_cons_succ]
        exact found

theorem scan_lines_append (number : Nat) (a b : List (List Char)) :
    scanLines number (a ++ b) = scanLines number a ++ scanLines (number + a.length) b := by
  induction a generalizing number with
  | nil => rfl
  | cons row rows ih =>
      rw [List.cons_append, scanLines, scanLines, ih, List.append_assoc, List.length_cons, Nat.add_assoc, Nat.add_comm 1]

theorem scan_lines_range (number : Nat) (rows : List (List Char)) (statement : Statement)
    (member : statement ∈ scanLines number rows) : number ≤ statement.line ∧ statement.line < number + rows.length := by
  obtain ⟨least, row, found, -⟩ := scan_lines_stand number rows statement member
  have most := (List.getElem?_eq_some_iff.mp found).choose
  exact ⟨least, by omega⟩

theorem scan_stands (source : List Char) (statement : Statement) (member : statement ∈ scan source) : OnLine source statement :=
  scan_lines_stand 1 (lines source) statement member

section Lines

variable (held : Nat → Prop)

theorem report_within (state : ReadState) (line : Nat) (problem : Problem) (within : state.Within held) (here : held line) :
    (state.report line problem).Within held := by
  refine ⟨fun diagnostic member => ?_, within.filled, within.opened⟩
  rcases List.mem_append.mp member with old | last
  · exact within.told diagnostic old
  · obtain rfl : diagnostic = ⟨line, problem⟩ := by simpa using last
    exact here

theorem report_open_within (state : ReadState) (within : state.Within held) : state.reportOpen.Within held := by
  rw [ReadState.reportOpen.eq_def]
  split
  · exact within
  · rename_i line same
    exact report_within held state line _ within (within.opened _ same)
  · rename_i line entity same
    exact report_within held state line _ within (within.opened _ same)

theorem read_field_within (state : ReadState) (owner : String) (statement : Statement) (colon : ':' ∈ statement.text)
    (within : state.Within held) (here : held statement.line) : (state.readField owner statement).Within held := by
  rcases read_field_cases state owner statement colon with ⟨problem, read⟩ | ⟨field, problems, declared, -, read⟩
  · rw [read]
    exact report_within held state _ problem within here
  · rw [read]
    refine ⟨fun diagnostic member => ?_, fun entity inside other among => ?_, within.opened⟩
    · rcases List.mem_append.mp member with old | fresh
      · exact within.told diagnostic old
      · obtain ⟨problem, -, rfl⟩ := List.mem_map.mp fresh
        exact here
    · rcases mem_update _ _ _ entity inside with old | ⟨old, known, -, rfl⟩
      · exact within.filled entity old other among
      · rcases List.mem_append.mp among with earlier | last
        · exact within.filled old known other earlier
        · obtain rfl : other = field := by simpa using last
          exact declared.line ▸ here

theorem step_within (state : ReadState) (mark : Mark) (within : state.Within held) (here : held mark.statement.line) :
    (state.step mark).Within held := by
  by_cases opens : isHeader mark.statement.text = true
  · rw [step_header state mark opens]
    have reported := report_open_within held state within
    refine ⟨reported.told, reported.filled, fun block same => ?_⟩
    rw [← Option.some.inj same]
    exact here
  · by_cases close : mark.statement.text = ['}']
    · rw [step_close state mark close]
      have reported : (if state.block.isSome then state else state.report mark.statement.line .strayClose).Within held := by
        split
        · exact within
        · exact report_within held state _ _ within here
      exact ⟨reported.told, reported.filled, fun block same => nomatch same⟩
    · by_cases colon : ':' ∈ mark.statement.text
      · rw [step_field state mark colon]
        split
        · exact report_within held state _ _ within here
        · exact within
        · exact read_field_within held state _ _ colon within here
      · rw [step_other state mark (by simpa using opens) close colon]
        split
        · exact within
        · exact report_within held state _ _ within here

theorem read_within (known : List Entity) (bare : ∀ entity ∈ known, entity.fields = []) (statements : List Statement)
    (all : ∀ statement ∈ statements, held statement.line) : (readUpTo known statements).Within held := by
  induction statements using List.reverseRecOn with
  | nil =>
      refine ⟨fun diagnostic member => (nomatch member), fun entity inside field among => ?_, fun block same => nomatch same⟩
      rw [bare entity inside] at among
      exact nomatch among
  | append_singleton before statement ih =>
      rw [read_last]
      exact step_within held _ _ (ih fun other member => all other (by simp [member])) (all statement (by simp))

end Lines

theorem registered_bare (statements : List Statement) : ∀ entity ∈ (registered statements).entities, entity.fields = [] := by
  induction statements using List.reverseRecOn with
  | nil => exact fun entity member => nomatch member
  | append_singleton before statement ih =>
      rcases registered_cases before statement with same | ⟨problem, same⟩ | ⟨name, same⟩
      · rw [same]
        exact ih
      · rw [same]
        exact ih
      · rw [same]
        intro entity member
        rcases List.mem_append.mp member with old | last
        · exact ih entity old
        · obtain rfl : entity = ⟨name, [], statement.line⟩ := by simpa using last
          rfl

theorem registered_lines (statements : List Statement) (diagnostic : Diagnostic)
    (member : diagnostic ∈ (registered statements).errors) : ∃ statement ∈ statements, statement.line = diagnostic.line := by
  induction statements using List.reverseRecOn with
  | nil => exact nomatch member
  | append_singleton before statement ih =>
      have earlier : diagnostic ∈ (registered before).errors → ∃ other ∈ before ++ [statement], other.line = diagnostic.line :=
        fun old => (ih old).imp fun other found => ⟨List.mem_append_left _ found.1, found.2⟩
      rcases registered_cases before statement with same | ⟨problem, same⟩ | ⟨name, same⟩
      · rw [same] at member
        exact earlier member
      · rw [same] at member
        rcases List.mem_append.mp member with old | last
        · exact earlier old
        · obtain rfl : diagnostic = ⟨statement.line, problem⟩ := by simpa using last
          exact ⟨statement, by simp, rfl⟩
      · rw [same] at member
        exact earlier member

theorem registered_grow (a b : List Statement) :
    (registered a).entities ⊆ (registered (a ++ b)).entities ∧ (registered a).errors ⊆ (registered (a ++ b)).errors := by
  induction b using List.reverseRecOn with
  | nil => simp
  | append_singleton before statement ih =>
      rw [← List.append_assoc]
      rcases registered_cases (a ++ before) statement with same | ⟨problem, same⟩ | ⟨name, same⟩
      · rw [same]
        exact ih
      · rw [same]
        exact ⟨ih.1, List.subset_append_of_subset_left _ ih.2⟩
      · rw [same]
        exact ⟨List.subset_append_of_subset_left _ ih.1, ih.2⟩

theorem declared_grow (before after : List Statement) (statement : Statement) (diagnostic : Diagnostic)
    (member : diagnostic ∈ ((readUpTo (registered (before ++ statement :: after)).entities before).step
      ⟨statement, brings before statement⟩).errors) : diagnostic ∈ (declared (before ++ statement :: after)).errors := by
  obtain ⟨more, later⟩ := finish_grow ((readUpTo (registered (before ++ statement :: after)).entities before).step
    ⟨statement, brings before statement⟩) (markHeaders (registered (before ++ [statement])) after).2
  rw [List.append_cons] at member later ⊢
  rw [declared_append, read_last, later]
  exact List.mem_append_left _ member

theorem declared_kept (before after : List Statement) (statement : Statement) :
    Thinned ((readUpTo (registered (before ++ statement :: after)).entities before).step
      ⟨statement, brings before statement⟩).entities (declared (before ++ statement :: after)).entities := by
  rw [List.append_cons, declared_append, read_last, ReadState.finish, report_open_entities]
  exact fold_thinned _ _

theorem declared_coherent (statements : List Statement) (tame : ∀ statement ∈ statements, Tame statement.text) :
    Coherent (declared statements).entities := by
  refine finish_coherent { entities := (registered statements).entities } (marksOf statements) (fun mark member => ?_)
    (registered_coherent statements)
  have among : mark.statement ∈ (marksOf statements).map Mark.statement := List.mem_map_of_mem member
  rw [marks_statements] at among
  exact tame mark.statement among

theorem coherent_keyed (entities : List Entity) (coherent : Coherent entities) : WellKeyed entities :=
  ⟨coherent.distinct, fun entity inside => (coherent.formed entity inside).distinct⟩

theorem checked_fields (entities : List Entity) (keyed : WellKeyed entities) (entry : String × Field)
    (member : entry ∈ allFields entities) :
    entry ∈ allFields (checkReferences entities).1 ∨ ∃ diagnostic ∈ (checkReferences entities).2, diagnostic.line = entry.2.line := by
  have run : Prunes allFields entities (checkReferences entities).1 (checkReferences entities).2 :=
    sweeps_prune _ entities (Nat.lt_succ_self _)
  obtain ⟨gone, dropped⟩ := prunes_dropped allFields (fun _ => .refl _) entities _ _ keyed run
  by_cases among : entry ∈ gone
  · obtain ⟨diagnostic, told, target, named, -, line, -⟩ := related_right _ _ _ dropped.reported.flip entry among
    exact .inr ⟨diagnostic, told, line⟩
  · exact .inl ((dropped_fields _ _ _ _ dropped entry).mpr ⟨member, among⟩)

theorem checked_lines (entities : List Entity) (keyed : WellKeyed entities) (diagnostic : Diagnostic)
    (member : diagnostic ∈ (checkReferences entities).2) : ∃ entity ∈ entities, ∃ field ∈ entity.fields, field.line = diagnostic.line := by
  have run : Prunes allFields entities (checkReferences entities).1 (checkReferences entities).2 :=
    sweeps_prune _ entities (Nat.lt_succ_self _)
  obtain ⟨gone, dropped⟩ := prunes_dropped allFields (fun _ => .refl _) entities _ _ keyed run
  obtain ⟨⟨owner, field⟩, among, target, named, -, line, -⟩ := related_right _ _ _ dropped.reported diagnostic member
  obtain ⟨entity, inside, -, filled⟩ := (mem_all_fields entities owner field).mp (dropped.declared _ among)
  exact ⟨entity, inside, field, filled, line.symm⟩

theorem thinned_bare (kept entities : List Entity) (thinned : Thinned kept entities) :
    kept.map Entity.bare = entities.map Entity.bare := by
  induction thinned with
  | nil => rfl
  | cons here _ ih =>
      obtain ⟨names, lines, -⟩ := here
      rw [List.map_cons, List.map_cons, ih, Entity.bare, Entity.bare, names, lines]

theorem graph_headers (statements : List Statement) :
    (readStatements statements).1.map Entity.bare = (registered statements).entities := by
  have bare : (registered statements).entities.map Entity.bare = (registered statements).entities := by
    refine (List.map_congr_left fun entity inside => ?_).trans (List.map_id' _)
    rw [Entity.bare, ← registered_bare statements entity inside]
  rw [readStatements, thinned_bare _ _ (check_references_thinned _), ← thinned_bare _ _ (declared_thinned statements), bare]

theorem introduced_known (before after : List Statement) (header : Statement) (name : String)
    (introduces : Introduces before header name) :
    ⟨name, [], header.line⟩ ∈ (registered (before ++ header :: after)).entities := by
  rw [List.append_cons]
  apply (registered_grow (before ++ [header]) after).1
  rw [registered_last, if_pos (introduces_opens before header name introduces), introduces_registers before header name introduces]
  simp

theorem graph_line (statements : List Statement) (distinct : (entityNames (registered statements).entities).Nodup)
    (entity : Entity) (inside : entity ∈ (readStatements statements).1) (line : Nat)
    (known : ⟨entity.name, [], line⟩ ∈ (registered statements).entities) : entity.line = line := by
  have bare : entity.bare ∈ (registered statements).entities := by
    rw [← graph_headers]
    exact List.mem_map_of_mem inside
  have first := entity_member _ _ known distinct
  have second := entity_member _ _ bare distinct
  have same := Option.some.inj (second.symm.trans first)
  exact congrArg Entity.line same

theorem declared_name (names : List String) (statement : Statement) (field : Field) (problems : List Problem)
    (declares : Declared names statement field problems) : field.name.toList = statement.fieldName := by
  obtain ⟨⟨before, rest, -, -, whole, absent, spelled, -⟩, -, -⟩ := declares
  rw [Statement.fieldName, whole, (take_until_colon before rest absent).1, spelled]

section Statements

variable (before after : List Statement) (statement : Statement)

theorem mentioned_rejected (rejected : RejectedHeader before statement) :
    Mentioned (registered (before ++ statement :: after)).errors statement := by
  obtain ⟨problem, refused⟩ := rejected_registers before statement rejected
  refine ⟨⟨statement.line, problem⟩, ?_, rfl⟩
  rw [List.append_cons]
  apply (registered_grow (before ++ [statement]) after).2
  rw [registered_last, if_pos (rejected_opens before statement rejected), refused]
  simp

theorem mentioned_step (problem : Problem)
    (told : (readUpTo (registered (before ++ statement :: after)).entities before).step ⟨statement, brings before statement⟩ =
      (readUpTo (registered (before ++ statement :: after)).entities before).report statement.line problem) :
    Mentioned (declared (before ++ statement :: after)).errors statement := by
  refine ⟨⟨statement.line, problem⟩, declared_grow before after statement _ ?_, rfl⟩
  rw [told]
  simp [ReadState.report]

theorem header_answered (opens : isHeader statement.text = true) :
    (∃ entity ∈ (readStatements (before ++ statement :: after)).1,
      HeaderText statement.text entity.name.toList ∧ entity.line = statement.line) ∨
      Mentioned (readStatements (before ++ statement :: after)).2 statement := by
  rcases header_cases before statement opens with ⟨name, introduces⟩ | rejected
  · left
    have known := introduced_known before after statement name introduces
    rw [← graph_headers] at known
    obtain ⟨entity, inside, same⟩ := List.mem_map.mp known
    obtain ⟨names, -, lines⟩ := Entity.mk.inj same
    exact ⟨entity, inside, names ▸ introduces.written, lines⟩
  · right
    obtain ⟨diagnostic, member, line⟩ := mentioned_rejected before after statement rejected
    exact ⟨diagnostic, by simp [readStatements, member], line⟩

-- A declaration in the block of an entity is reported at once, or the second pass leaves its field with the entity.
theorem field_declared (front body : List Statement) (header : Statement) (name : String)
    (inside : Inside before front header body) (introduces : Introduces front header name) (colon : ':' ∈ statement.text) :
    Mentioned (declared (before ++ statement :: after)).errors statement ∨
      ∃ field, (name, field) ∈ allFields (declared (before ++ statement :: after)).entities ∧
        field.name.toList = statement.fieldName ∧ field.line = statement.line := by
  have block := block_inside (registered (before ++ statement :: after)).entities before front body header inside
  rw [brings_introduced front header name introduces] at block
  have step : (readUpTo (registered (before ++ statement :: after)).entities before).step ⟨statement, brings before statement⟩ =
      (readUpTo (registered (before ++ statement :: after)).entities before).readField name statement := by
    rw [step_field _ _ colon, block]
  rcases read_field_cases (readUpTo (registered (before ++ statement :: after)).entities before) name statement colon with
    ⟨problem, read⟩ | ⟨field, problems, declares, -, read⟩
  · exact .inl (mentioned_step before after statement problem (step.trans read))
  · have whole : before ++ statement :: after = front ++ header :: (body ++ statement :: after) := by simp [inside.whole]
    have known : name ∈ entityNames (registered (before ++ statement :: after)).entities := by
      rw [whole]
      exact List.mem_map_of_mem (introduced_known front _ header name introduces)
    rw [thinned_names _ _ (fold_thinned { entities := (registered (before ++ statement :: after)).entities } (marksOf before))] at known
    obtain ⟨entity, among, named⟩ := List.mem_map.mp known
    have filled : { entity with fields := entity.fields ++ [field] } ∈ ((readUpTo (registered (before ++ statement :: after)).entities
        before).step ⟨statement, brings before statement⟩).entities := by
      rw [step, read]
      refine List.mem_map.mpr ⟨entity, among, ?_⟩
      rw [if_pos named]
    obtain ⟨later, there, called, fields⟩ := thinned_member _ _ (declared_kept before after statement) _ filled
    exact .inr ⟨field, (mem_all_fields _ name field).mpr ⟨later, there, called.symm.trans named, fields.subset (by simp)⟩,
      declared_name _ _ _ _ declares, declares.line⟩

theorem field_answered (tame : ∀ other ∈ before ++ statement :: after, Tame other.text) (front body : List Statement)
    (header : Statement) (name : String) (inside : Inside before front header body) (introduces : Introduces front header name)
    (colon : ':' ∈ statement.text) :
    Kept (readStatements (before ++ statement :: after)).1 header name statement ∨
      Mentioned (readStatements (before ++ statement :: after)).2 statement := by
  rcases field_declared before after statement front body header name inside introduces colon with
    ⟨diagnostic, member, line⟩ | ⟨field, entry, named, line⟩
  · exact .inr ⟨diagnostic, by simp [readStatements, member], line⟩
  · rcases checked_fields _ (coherent_keyed _ (declared_coherent _ tame)) _ entry with left | ⟨diagnostic, member, told⟩
    · obtain ⟨final, inGraph, called, filled⟩ := (mem_all_fields _ name field).mp left
      have whole : before ++ statement :: after = front ++ header :: (body ++ statement :: after) := by simp [inside.whole]
      have known : ⟨name, [], header.line⟩ ∈ (registered (before ++ statement :: after)).entities := by
        rw [whole]
        exact introduced_known front _ header name introduces
      have placed := graph_line _ (registered_coherent _).distinct final inGraph header.line (called.symm ▸ known)
      exact .inl ⟨final, inGraph, called, placed, field, filled, named, line⟩
    · exact .inr ⟨diagnostic, by simp [readStatements, member], told.trans line⟩

theorem other_answered (plain : Plain statement)
    (accepted : ∀ front header body, Inside before front header body → ¬ RejectedHeader front header)
    (other : ∀ front header body name, Inside before front header body → Introduces front header name → ':' ∉ statement.text) :
    Mentioned (declared (before ++ statement :: after)).errors statement := by
  have block : (readUpTo (registered (before ++ statement :: after)).entities before).block = none ∨
      ':' ∉ statement.text ∧ ∃ line name,
        (readUpTo (registered (before ++ statement :: after)).entities before).block = some ⟨line, some name⟩ := by
    rcases block_cases (registered (before ++ statement :: after)).entities before with none | ⟨front, header, body, inside⟩
    · exact .inl none
    · right
      rcases header_cases front header inside.opens with ⟨name, introduces⟩ | rejected
      · refine ⟨other front header body name inside introduces, header.line, name, ?_⟩
        rw [block_inside _ before front body header inside, brings_introduced front header name introduces]
      · exact absurd rejected (accepted front header body inside)
  by_cases colon : ':' ∈ statement.text
  · rcases block with none | ⟨absent, -⟩
    · refine mentioned_step before after statement .fieldOutsideBlock ?_
      rw [step_field _ _ colon, none]
    · exact absurd colon absent
  · refine mentioned_step before after statement (.unrecognized (String.ofList statement.text)) ?_
    rw [step_other _ _ plain.1 plain.2 colon]
    rcases block with none | ⟨-, line, name, block⟩
    · rw [none]
    · rw [block]

end Statements

theorem read_lines (statements : List Statement) (tame : ∀ statement ∈ statements, Tame statement.text) (diagnostic : Diagnostic)
    (member : diagnostic ∈ (readStatements statements).2) : ∃ statement ∈ statements, statement.line = diagnostic.line := by
  have within := report_open_within _ _ (read_within (fun line => ∃ statement ∈ statements, statement.line = line)
    (registered statements).entities (registered_bare statements) statements fun other among => ⟨other, among, rfl⟩)
  rw [readStatements, List.mem_append, List.mem_append] at member
  rcases member with (first | second) | third
  · exact registered_lines statements diagnostic first
  · exact within.told diagnostic second
  · obtain ⟨entity, inside, field, filled, line⟩ :=
      checked_lines _ (coherent_keyed _ (declared_coherent statements tame)) diagnostic third
    rw [← line]
    exact within.filled entity inside field filled

-- Diagnostics come in order of their lines, each on a line that holds a statement, and no statement is lost without one:
-- a declaration in the block of an entity is a field of it or reported, a header has its entity or is reported, and all else
-- is reported that neither closes a block nor stands in that of a rejected header.
theorem statements_accounted (identifier : String) (source : List Char) :
    (Schema.parse identifier source).errors.Pairwise (fun a b => a.line ≤ b.line) ∧
      (∀ diagnostic ∈ (Schema.parse identifier source).errors,
        ∃ statement ∈ scan source, statement.line = diagnostic.line ∧ OnLine source statement) ∧
      ∀ before statement after, scan source = before ++ statement :: after →
        Answered (Schema.parse identifier source).entities (Schema.parse identifier source).errors before statement := by
  have sorted := by_line_perm (readStatements (scan source)).2
  rw [parse_statements]
  refine ⟨by_line_ascending _, fun diagnostic member => ?_, fun before statement after whole => ?_⟩
  · obtain ⟨statement, among, line⟩ := read_lines _ (scan_tame source) diagnostic (sorted.mem_iff.mp member)
    exact ⟨statement, among, line, scan_stands source statement among⟩
  · have mentioned : Mentioned (readStatements (scan source)).2 statement →
        Mentioned (byLine (readStatements (scan source)).2) statement :=
      fun ⟨diagnostic, member, line⟩ => ⟨diagnostic, sorted.mem_iff.mpr member, line⟩
    have tame := scan_tame source
    rw [whole] at mentioned tame ⊢
    constructor
    · exact fun opens => (header_answered before after statement opens).imp_right mentioned
    · intro front header body name inside introduces colon
      exact (field_answered before after statement tame front body header name inside introduces colon).imp_right mentioned
    · intro plain accepted other
      obtain ⟨diagnostic, member, line⟩ := other_answered before after statement plain accepted other
      exact mentioned ⟨diagnostic, by simp [readStatements, member], line⟩

end Schematic
