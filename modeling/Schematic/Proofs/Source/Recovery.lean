import Schematic.Proofs.Source.Accounting

set_option autoImplicit false

namespace Schematic

open Text

-- Statements that say nothing of the graph: they leave both passes as they find them, but for some diagnostics.
structure Idle (known : List Entity) (before inserted : List Statement) (first second : List Diagnostic) : Prop where
  headers : registered (before ++ inserted) = ⟨(registered before).entities, (registered before).errors ++ first⟩
  fields : readUpTo known (before ++ inserted) =
    ⟨(readUpTo known before).entities, (readUpTo known before).block, (readUpTo known before).errors ++ second⟩

-- What may be put into a text without any effect on its graph: a declaration that is refused, in the block of an entity, or
-- a complete block with a rejected header, between two blocks. The line is that of the declaration, or of the header.
inductive Disregarded (names : List String) (before : List Statement) : List Statement → Nat → Prop where
  | field (front body : List Statement) (header statement : Statement) (name : String)
      (inside : Inside before front header body) (introduces : Introduces front header name) (colon : ':' ∈ statement.text)
      (refused : RefusedField names body statement) : Disregarded names before [statement] statement.line
  | block (header close : Statement) (body : List Statement) (outside : Outside before)
      (rejected : RejectedHeader before header) (plain : ∀ statement ∈ body, Plain statement) (closes : close.text = ['}']) :
      Disregarded names before (header :: (body ++ [close])) header.line

def shifted (front count line : Nat) : Nat := if line ≤ front then line else line + count

section Inserted

variable (before inserted after : List Statement) (first second : List Diagnostic)

theorem registered_idle (known : List Entity) (idle : Idle known before inserted first second) :
    ∃ later, (registered (before ++ after)).errors = (registered before).errors ++ later ∧
      (registered (before ++ inserted ++ after)).errors = (registered before).errors ++ first ++ later ∧
      (registered (before ++ inserted ++ after)).entities = (registered (before ++ after)).entities ∧
      (markHeaders (registered (before ++ inserted)) after).2 = (markHeaders (registered before) after).2 := by
  have without := mark_headers_after (registered before).errors [] (registered before).entities after
  have present := mark_headers_after ((registered before).errors ++ first) [] (registered before).entities after
  rw [List.append_nil] at without present
  have short : registered (before ++ after) = (markHeaders (registered before) after).1 := by
    rw [registered, mark_headers_append]
    rfl
  have long : registered (before ++ inserted ++ after) = (markHeaders (registered (before ++ inserted)) after).1 := by
    rw [registered, mark_headers_append]
    rfl
  rw [short, long, idle.headers, present]
  rw [show (registered before) = ⟨(registered before).entities, (registered before).errors⟩ from rfl, without]
  exact ⟨_, rfl, rfl, rfl, rfl⟩

theorem declared_idle (idle : Idle (registered (before ++ after)).entities before inserted first second) :
    ∃ early later, (declared (before ++ after)).errors = early ++ later ∧
      (declared (before ++ inserted ++ after)).errors = early ++ second ++ later ∧
      (declared (before ++ inserted ++ after)).entities = (declared (before ++ after)).entities := by
  obtain ⟨-, -, -, same, marks⟩ := registered_idle before inserted after first second _ idle
  rw [declared_append, declared_append, same, marks, idle.fields]
  generalize readUpTo (registered (before ++ after)).entities before = state
  have without := finish_after state.errors [] state.entities state.block (markHeaders (registered before) after).2
  have present := finish_after (state.errors ++ second) [] state.entities state.block (markHeaders (registered before) after).2
  rw [List.append_nil] at without present
  rw [present, show state = ⟨state.entities, state.block, state.errors⟩ from rfl, without]
  exact ⟨_, _, rfl, rfl, rfl⟩

-- A run over statements that say nothing goes on behind them as it would without them.
theorem read_idle (fresh : Diagnostic) (idle : Idle (registered (before ++ after)).entities before inserted first second)
    (one : first = [fresh] ∧ second = [] ∨ first = [] ∧ second = [fresh]) :
    (readStatements (before ++ inserted ++ after)).1 = (readStatements (before ++ after)).1 ∧
      ∃ early late, (readStatements (before ++ after)).2 = early ++ late ∧
        (readStatements (before ++ inserted ++ after)).2 = early ++ fresh :: late := by
  obtain ⟨later, without, present, -, -⟩ := registered_idle before inserted after first second _ idle
  obtain ⟨early, late, lacking, having, entities⟩ := declared_idle before inserted after first second idle
  rw [readStatements, readStatements, without, present, lacking, having, entities]
  refine ⟨rfl, ?_⟩
  rcases one with ⟨rfl, rfl⟩ | ⟨rfl, rfl⟩
  · exact ⟨(registered before).errors, later ++ (early ++ late) ++ (checkReferences (declared (before ++ after)).entities).2,
      by simp, by simp⟩
  · exact ⟨(registered before).errors ++ later ++ early, late ++ (checkReferences (declared (before ++ after)).entities).2,
      by simp, by simp⟩

end Inserted

section Idle

variable (known : List Entity) (before : List Statement)

theorem field_idle (distinct : (entityNames known).Nodup) (free : Unreserved (entityNames known)) (front body : List Statement)
    (header statement : Statement) (name : String) (inside : Inside before front header body)
    (introduces : Introduces front header name) (present : name ∈ entityNames known) (colon : ':' ∈ statement.text)
    (refused : RefusedField (entityNames known) body statement) :
    ∃ problem, Idle known before [statement] [] [⟨statement.line, problem⟩] := by
  obtain ⟨early, entity, late, errors, names, rfl, read⟩ := block_read known distinct before front body header name inside
    (brings_introduced front header name introduces) present
  have plain := colon_not_header statement.text colon
  have inner : Plain statement := ⟨plain, fun same => by rw [same] at colon; exact absurd colon (by decide)⟩
  obtain ⟨problem, follow⟩ := refused_follow (entityNames known) entity body statement free colon refused
  have name := (read_body_keeps (entityNames known) entity body).1
  have same := (entity_names_replaced early late entity _ name).trans names
  have step := step_follow (entityNames known) early late _ same distinct errors header.line ⟨statement, none⟩ inner
  rw [name, follow] at step
  refine ⟨problem, ?_, ?_⟩
  · rw [registered_plain before [statement] (by simpa using plain), List.append_nil]
  · rw [read_last, brings_plain before statement plain, read, step]

theorem block_idle (header close : Statement) (body : List Statement) (outside : Outside before)
    (rejected : RejectedHeader before header) (plain : ∀ statement ∈ body, Plain statement) (closes : close.text = ['}']) :
    ∃ problem, Idle known before (header :: (body ++ [close])) [⟨header.line, problem⟩] [] := by
  have opens := rejected_opens before header rejected
  obtain ⟨problem, refused⟩ := rejected_registers before header rejected
  have whole : before ++ header :: (body ++ [close]) = before ++ [header] ++ body ++ [close] := by simp
  have closing : isHeader close.text = false := by rw [closes]; exact brace_not_header
  have outer := block_outside known before outside
  refine ⟨problem, ?_, ?_⟩
  · rw [whole, registered_plain _ [close] (by simpa using closing), registered_plain _ body fun other member => (plain other member).1,
      registered_last, if_pos opens, refused]
  · have opened : readUpTo known (before ++ [header]) =
        ⟨(readUpTo known before).entities, some ⟨header.line, none⟩, (readUpTo known before).errors⟩ := by
      rw [read_last, brings_rejected before header rejected, step_header _ _ opens, ReadState.reportOpen, outer]
    have skipped : readUpTo known (before ++ [header] ++ body) = readUpTo known (before ++ [header]) := by
      rw [read_plain known _ body fun other member => (plain other member).1]
      exact fold_skipped _ header.line (by rw [opened]) body plain
    rw [whole, read_last, brings_plain _ close closing, step_close _ _ closes, skipped, opened, outer, List.append_nil]
    rfl

theorem disregarded_idle (distinct : (entityNames known).Nodup) (free : Unreserved (entityNames known))
    (inserted after : List Statement) (line : Nat) (present : entityNames known = entityNames (registered (before ++ after)).entities)
    (disregarded : Disregarded (entityNames known) before inserted line) :
    ∃ problem first second, Idle known before inserted first second ∧
      (first = [⟨line, problem⟩] ∧ second = [] ∨ first = [] ∧ second = [⟨line, problem⟩]) := by
  cases disregarded with
  | field front body header statement name inside introduces colon refused =>
      have among : name ∈ entityNames known := by
        rw [present, registered_iff]
        exact ⟨introduces.free, header, by simp [inside.whole], introduces.written⟩
      obtain ⟨problem, idle⟩ := field_idle known before distinct free front body header statement name inside introduces among
        colon refused
      exact ⟨problem, _, _, idle, .inr ⟨rfl, rfl⟩⟩
  | block header close body outside rejected plain closes =>
      obtain ⟨problem, idle⟩ := block_idle known before header close body outside rejected plain closes
      exact ⟨problem, _, _, idle, .inl ⟨rfl, rfl⟩⟩

theorem disregarded_line (names : List String) (inserted : List Statement) (line : Nat)
    (disregarded : Disregarded names before inserted line) : ∃ statement ∈ inserted, statement.line = line := by
  cases disregarded with
  | field => exact ⟨_, List.mem_singleton_self _, rfl⟩
  | block => exact ⟨_, List.mem_cons_self, rfl⟩

end Idle

theorem shifted_keeps (front count a b : Nat) : shifted front count a ≤ shifted front count b ↔ a ≤ b := by
  rw [shifted, shifted]
  split <;> split <;> omega

theorem scan_lines_shifted (front back : List (List Char)) (count : Nat) :
    (scanLines 1 (front ++ back)).map (Statement.moved (shifted front.length count)) =
      scanLines 1 front ++ scanLines (1 + front.length + count) back := by
  have further : ∀ number rows, front.length < number →
      (scanLines number rows).map (Statement.moved (shifted front.length count)) = scanLines (number + count) rows := by
    intro number rows beyond
    induction rows generalizing number with
    | nil => rfl
    | cons row rows ih =>
        rw [scanLines, scanLines, List.map_append, ih (number + 1) (by omega), Nat.add_right_comm, List.map_map]
        have place : shifted front.length count number = number + count := if_neg (by omega)
        refine congrArg (· ++ _) (List.map_congr_left fun piece _ => ?_)
        rw [Function.comp_apply, Statement.moved, place]
  rw [scan_lines_append, List.map_append, further (1 + front.length) back (by omega)]
  refine congrArg (· ++ _) ((List.map_congr_left fun statement member => ?_).trans (List.map_id' _))
  have range := scan_lines_range 1 front statement member
  rw [Statement.moved, shifted, if_pos (by omega)]

theorem disregarded_read (before inserted after : List Statement) (line : Nat)
    (disregarded : Disregarded (entityNames (registered (before ++ after)).entities) before inserted line)
    (tame : ∀ statement ∈ before ++ after, Tame statement.text) (alone : ∀ statement ∈ before ++ after, statement.line ≠ line) :
    (readStatements (before ++ inserted ++ after)).1 = (readStatements (before ++ after)).1 ∧
      ∃ problem early late, byLine (readStatements (before ++ after)).2 = early ++ late ∧
        byLine (readStatements (before ++ inserted ++ after)).2 = early ++ ⟨line, problem⟩ :: late := by
  have coherent := registered_coherent (before ++ after)
  obtain ⟨problem, first, second, idle, one⟩ := disregarded_idle _ _ coherent.distinct coherent.unreserved _ _ _ rfl disregarded
  obtain ⟨kept, early, late, without, present⟩ := read_idle _ _ _ first second ⟨line, problem⟩ idle one
  have apart : ∀ told ∈ early ++ late, told.line ≠ line := by
    intro told member
    rw [← without] at member
    obtain ⟨statement, inside, same⟩ := read_lines _ tame told member
    exact same ▸ alone statement inside
  obtain ⟨sooner, later, sorted, inserted, -, -⟩ := by_line_insert early late ⟨line, problem⟩ apart
  exact ⟨kept, problem, sooner, later, without ▸ sorted, present ▸ inserted⟩

-- Recovery is local: a declaration that is refused, or a block with a rejected header, that comes into a text leaves the graph
-- as it was but for the lines, and adds one diagnostic, on its own line, to those that there were.
theorem recovery_local (identifier : String) (source edited : List Char) (front rows back : List (List Char))
    (whole : lines source = front ++ back) (changed : lines edited = front ++ rows ++ back) (line : Nat)
    (disregarded : Disregarded (entityNames (Schema.parse identifier source).entities) (scanLines 1 front)
      (scanLines (1 + front.length) rows) line) :
    (Schema.parse identifier edited).entities =
        (Schema.parse identifier source).entities.map (Entity.moved (shifted front.length rows.length)) ∧
      (Schema.parse identifier edited).relations = (Schema.parse identifier source).relations ∧
      ∃ problem early late, (Schema.parse identifier source).errors = early ++ late ∧
        (Schema.parse identifier edited).errors =
          early.map (Diagnostic.moved (shifted front.length rows.length)) ++
            ⟨line, problem⟩ :: late.map (Diagnostic.moved (shifted front.length rows.length)) := by
  have placed : (scan source).map (Statement.moved (shifted front.length rows.length)) =
      scanLines 1 front ++ scanLines (1 + front.length + rows.length) back := by
    rw [scan, whole]
    exact scan_lines_shifted front back rows.length
  have parts : scan edited =
      scanLines 1 front ++ scanLines (1 + front.length) rows ++ scanLines (1 + front.length + rows.length) back := by
    rw [scan, changed, scan_lines_append, scan_lines_append, List.length_append, Nat.add_assoc]
  have names : entityNames (Schema.parse identifier source).entities =
      entityNames (registered (scanLines 1 front ++ scanLines (1 + front.length + rows.length) back)).entities := by
    rw [← placed, registered_moved, Headers.moved, names_moved, ← graph_headers, bare_names]
    rfl
  have tame : ∀ statement ∈ scanLines 1 front ++ scanLines (1 + front.length + rows.length) back, Tame statement.text := by
    intro statement member
    refine scan_tame edited statement ?_
    rw [parts]
    simp only [List.mem_append] at member ⊢
    exact member.imp_left .inl
  have alone : ∀ statement ∈ scanLines 1 front ++ scanLines (1 + front.length + rows.length) back, statement.line ≠ line := by
    intro statement member
    obtain ⟨fresh, among, rfl⟩ := disregarded_line _ _ _ _ disregarded
    have range := scan_lines_range _ _ fresh among
    rcases List.mem_append.mp member with above | below
    · have := scan_lines_range _ _ statement above
      omega
    · have := scan_lines_range _ _ statement below
      omega
  rw [names] at disregarded
  obtain ⟨kept, problem, early, late, sorted, inserted⟩ := disregarded_read _ _ _ line disregarded tame alone
  rw [← placed, read_moved] at kept sorted
  rw [parse_statements, parse_statements, parts]
  rw [by_line_moved _ (shifted_keeps _ _)] at sorted
  obtain ⟨a, b, split, rfl, rfl⟩ := List.map_eq_append_iff.mp sorted
  refine ⟨kept, ?_, problem, a, b, split, inserted⟩
  rw [Schema.relations, Schema.relations, kept, relations_moved]

def twoBlocks : List (List Char) := ["entity A \x7b", "  a: string", "\x7d", "entity B \x7b", "  b: A", "\x7d"].map String.toList

def secondField : List (List Char) := ["  a: integer"].map String.toList

def reservedBlock : List (List Char) := ["entity string \x7b", "  b: A", "\x7d"].map String.toList

theorem second_field_disregarded : Disregarded ["A", "B"] (scanLines 1 (twoBlocks.take 2)) (scanLines 3 secondField) 3 := by
  have header : Introduces [] ⟨1, "entity A \x7b".toList⟩ "A" :=
    ⟨(header_name_iff _ _).mp (by decide +kernel), by decide +kernel, by simp⟩
  have inside : Inside (scanLines 1 (twoBlocks.take 2)) [] ⟨1, "entity A \x7b".toList⟩ [⟨2, "a: string".toList⟩] :=
    ⟨by decide +kernel, by decide +kernel, by simp only [List.forall_mem_singleton]; exact ⟨by decide +kernel, by decide +kernel⟩⟩
  have declares : Declares ["A", "B"] ⟨2, "a: string".toList⟩ :=
    ⟨by decide +kernel, by decide +kernel, ⟨.scalar .string, false⟩, resolve_type_sound _ _ _ (by decide +kernel)⟩
  have rows : scanLines 3 secondField = [⟨3, "a: integer".toList⟩] := by decide +kernel
  rw [rows]
  exact .field [] _ _ _ "A" inside header (by decide +kernel) (.repeated _ (List.mem_singleton_self _) declares (by decide +kernel))

theorem reserved_block_disregarded : Disregarded ["A", "B"] (scanLines 1 (twoBlocks.take 3)) (scanLines 4 reservedBlock) 4 := by
  have rows : scanLines 4 reservedBlock =
      ⟨4, "entity string \x7b".toList⟩ :: ([⟨5, "b: A".toList⟩] ++ [⟨6, ['}']⟩]) := by decide +kernel
  have closed : scanLines 1 (twoBlocks.take 3) = [⟨1, "entity A \x7b".toList⟩, ⟨2, "a: string".toList⟩] ++ [⟨3, ['}']⟩] := by
    decide +kernel
  rw [rows, closed]
  refine .block _ _ _ (outside_closed _ _ rfl) (.reserved "string" ((header_name_iff _ _).mp ?_) ?_) ?_ rfl
  · decide +kernel
  · decide +kernel
  · simp only [List.forall_mem_singleton]
    exact ⟨by decide +kernel, by decide +kernel⟩

theorem faults_disregarded :
    Disregarded ["A", "B"] (scanLines 1 (twoBlocks.take 2)) (scanLines 3 secondField) 3 ∧
      Disregarded ["A", "B"] (scanLines 1 (twoBlocks.take 3)) (scanLines 4 reservedBlock) 4 ∧
      (Schema.parse "id" (onLines (twoBlocks.take 2 ++ secondField ++ twoBlocks.drop 2))).entities =
        (Schema.parse "id" (onLines twoBlocks)).entities.map (Entity.moved (shifted 2 1)) ∧
      (Schema.parse "id" (onLines (twoBlocks.take 3 ++ reservedBlock ++ twoBlocks.drop 3))).entities =
        (Schema.parse "id" (onLines twoBlocks)).entities.map (Entity.moved (shifted 3 3)) := by
  have names : entityNames (Schema.parse "id" (onLines twoBlocks)).entities = ["A", "B"] := by decide +kernel
  have field := second_field_disregarded
  have block := reserved_block_disregarded
  refine ⟨field, block, ?_, ?_⟩
  · rw [← names] at field
    exact (recovery_local "id" (onLines twoBlocks) (onLines (twoBlocks.take 2 ++ secondField ++ twoBlocks.drop 2)) (twoBlocks.take 2)
      secondField (twoBlocks.drop 2) (by decide +kernel) (by decide +kernel) 3 field).1
  · rw [← names] at block
    exact (recovery_local "id" (onLines twoBlocks) (onLines (twoBlocks.take 3 ++ reservedBlock ++ twoBlocks.drop 3)) (twoBlocks.take 3)
      reservedBlock (twoBlocks.drop 3) (by decide +kernel) (by decide +kernel) 4 block).1

end Schematic
