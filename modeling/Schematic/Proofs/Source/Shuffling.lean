import Schematic.Proofs.Source.Accounting
import Schematic.Proofs.Source.Reordering

set_option autoImplicit false

namespace Schematic

open Text

-- A complete block on lines of its own: they hold a header, statements that neither open nor close a block, and a brace.
structure CompleteBlock where
  rows : List (List Char)
  header : List Char
  body : List (List Char)
  scanned : rows.flatMap piecesOfLine = header :: (body ++ [['}']])
  opens : isHeader header = true
  plain : ∀ text ∈ body, isHeader text = false ∧ text ≠ ['}']

namespace CompleteBlock

def Apart (a b : CompleteBlock) : Prop := ∀ name : String, HeaderText a.header name.toList → ¬ HeaderText b.header name.toList

theorem apart_symmetric {a b : CompleteBlock} (apart : a.Apart b) : b.Apart a := fun name there here => apart name here there

variable (block : CompleteBlock)

def opening : Statement := ⟨0, block.header⟩

def inner : List Statement := block.body.map (⟨0, ·⟩)

def statements : List Statement := block.opening :: (block.inner ++ [⟨0, ['}']⟩])

def alone : Headers := (Headers.register {} block.opening).1

def name? : Option String := (Headers.register {} block.opening).2

def marks : List Mark := ⟨block.opening, block.name?⟩ :: (block.inner.map (⟨·, none⟩) ++ [⟨⟨0, ['}']⟩, none⟩])

def read (names : List String) : List Entity × List Diagnostic :=
  match block.name? with
  | none => ([], [])
  | some name => ([((⟨name, [], 0⟩ : Entity).readBody names block.inner).1], ((⟨name, [], 0⟩ : Entity).readBody names block.inner).2)

theorem inner_plain : ∀ statement ∈ block.inner, Plain statement := by
  intro statement member
  obtain ⟨text, among, rfl⟩ := List.mem_map.mp member
  exact block.plain text among

theorem alone_entities : block.alone.entities = (block.name?.map fun name => (⟨name, [], 0⟩ : Entity)).toList := by
  rw [alone, name?]
  rcases register_cases {} block.opening with ⟨problem, refused⟩ | ⟨name, -, -, -, kept⟩
  · rw [refused]
    rfl
  · rw [kept]
    rfl

theorem read_names (names : List String) : entityNames (block.read names).1 = entityNames block.alone.entities := by
  rw [alone_entities, read]
  cases block.name? with
  | none => rfl
  | some name => exact congrArg (fun name => [name]) (read_body_keeps names ⟨name, [], 0⟩ block.inner).1

theorem read_same (a b : List String) (same : ∀ name, name ∈ a ↔ name ∈ b) : block.read a = block.read b := by
  rw [read, read]
  simp only [read_body_names a b same]

theorem register_alone (headers : Headers)
    (fresh : ∀ name : String, HeaderText block.header name.toList → name ∉ entityNames headers.entities) :
    headers.register block.opening =
      (⟨headers.entities ++ block.alone.entities, headers.errors ++ block.alone.errors⟩, block.name?) := by
  rw [alone, name?, Headers.register, Headers.register]
  have text : block.opening.text = block.header := rfl
  rw [text]
  cases read : headerName? block.header with
  | none => simp
  | some name =>
      by_cases reserved : String.ofList name ∈ reservedNames
      · simp [reserved]
      · have written : HeaderText block.header (String.ofList name).toList := by
          rw [String.toList_ofList]
          exact (header_name_iff _ _).mp read
        have absent := (entity_missing headers.entities _).mpr (fresh _ written)
        have none : entity? [] (String.ofList name) = none := rfl
        simp [reserved, absent, none]

theorem mark_alone (headers : Headers)
    (fresh : ∀ name : String, HeaderText block.header name.toList → name ∉ entityNames headers.entities) :
    markHeaders headers block.statements =
      (⟨headers.entities ++ block.alone.entities, headers.errors ++ block.alone.errors⟩, block.marks) := by
  have closing : isHeader (⟨0, ['}']⟩ : Statement).text = false := brace_not_header
  have inner : ∀ statement ∈ block.inner ++ [⟨0, ['}']⟩], isHeader statement.text = false := by
    intro statement member
    rcases List.mem_append.mp member with among | last
    · exact (block.inner_plain statement among).1
    · rw [List.mem_singleton.mp last, closing]
  rw [statements, mark_headers_header headers _ block.opening _ _ block.opens (block.register_alone headers fresh),
    mark_headers_plain _ _ inner, List.map_append]
  rfl

theorem fold_alone (names : List String) (done later : List Entity) (errors : List Diagnostic)
    (known : entityNames (done ++ (block.alone.entities ++ later)) = names) (distinct : names.Nodup) :
    block.marks.foldl ReadState.step ⟨done ++ (block.alone.entities ++ later), none, errors⟩ =
      ⟨done ++ ((block.read names).1 ++ later), none, errors ++ (block.read names).2⟩ := by
  have opened : ReadState.step ⟨done ++ (block.alone.entities ++ later), none, errors⟩ ⟨block.opening, block.name?⟩ =
      ⟨done ++ (block.alone.entities ++ later), some ⟨0, block.name?⟩, errors⟩ := step_header _ _ block.opens
  rw [marks, List.foldl_cons, opened, List.foldl_append, List.foldl_cons, List.foldl_nil, step_close _ _ rfl]
  rw [alone_entities] at known ⊢
  rw [read]
  generalize block.name? = found at known ⊢
  cases found with
  | none =>
      rw [fold_skipped _ 0 rfl block.inner block.inner_plain]
      simp
  | some name =>
      have body := fold_body names done later ⟨name, [], 0⟩ known distinct errors 0 block.inner block.inner_plain
      rw [show done ++ ((Option.map (fun name => (⟨name, [], 0⟩ : Entity)) (some name)).toList ++ later) =
        done ++ ⟨name, [], 0⟩ :: later from rfl, body]
      rfl

theorem alone_named (name : String) (known : name ∈ entityNames block.alone.entities) : HeaderText block.header name.toList := by
  rw [alone] at known
  rcases register_cases {} block.opening with ⟨problem, refused⟩ | ⟨fresh, written, -, -, kept⟩
  · rw [refused] at known
    exact nomatch known
  · rw [kept] at known
    obtain rfl : name = fresh := by simpa [entityNames] using known
    exact written

end CompleteBlock

section Blocks

variable (blocks : List CompleteBlock)

def blockEntities : List Entity := blocks.flatMap (·.alone.entities)

theorem mark_blocks (apart : blocks.Pairwise CompleteBlock.Apart) (headers : Headers)
    (fresh : ∀ block ∈ blocks, ∀ name : String, HeaderText block.header name.toList → name ∉ entityNames headers.entities) :
    markHeaders headers (blocks.flatMap CompleteBlock.statements) =
      (⟨headers.entities ++ blockEntities blocks, headers.errors ++ blocks.flatMap (·.alone.errors)⟩,
        blocks.flatMap CompleteBlock.marks) := by
  induction blocks generalizing headers with
  | nil => simp [blockEntities, markHeaders]
  | cons block rest ih =>
      obtain ⟨first, others⟩ := List.pairwise_cons.mp apart
      have later : ∀ other ∈ rest, ∀ name : String, HeaderText other.header name.toList →
          name ∉ entityNames (headers.entities ++ block.alone.entities) := by
        intro other member name written
        rw [entity_names_append, List.mem_append, not_or]
        exact ⟨fresh other (List.mem_cons_of_mem _ member) name written,
          fun known => first other member name (block.alone_named name known) written⟩
      rw [List.flatMap_cons, mark_headers_append, block.mark_alone headers (fresh block List.mem_cons_self),
        ih others ⟨headers.entities ++ block.alone.entities, headers.errors ++ block.alone.errors⟩ later]
      simp [blockEntities]

-- From between two blocks the second pass takes them one by one.
theorem fold_blocks (names : List String) (done : List Entity) (errors : List Diagnostic)
    (known : entityNames (done ++ blockEntities blocks) = names) (distinct : names.Nodup) :
    (blocks.flatMap CompleteBlock.marks).foldl ReadState.step ⟨done ++ blockEntities blocks, none, errors⟩ =
      ⟨done ++ blocks.flatMap fun block => (block.read names).1, none, errors ++ blocks.flatMap fun block => (block.read names).2⟩ := by
  induction blocks generalizing done errors with
  | nil => simp [blockEntities]
  | cons block rest ih =>
      have whole : blockEntities (block :: rest) = block.alone.entities ++ blockEntities rest := List.flatMap_cons
      rw [whole] at known ⊢
      have later : entityNames (done ++ (block.read names).1 ++ blockEntities rest) = names := by
        rw [← known]
        simp only [entity_names_append, CompleteBlock.read_names, List.append_assoc]
      rw [List.flatMap_cons, List.foldl_append, block.fold_alone names done _ errors known distinct, ← List.append_assoc,
        ih _ _ later]
      simp

variable (apart : blocks.Pairwise CompleteBlock.Apart)

include apart

theorem registered_blocks :
    registered (blocks.flatMap CompleteBlock.statements) = ⟨blockEntities blocks, blocks.flatMap (·.alone.errors)⟩ :=
  congrArg Prod.fst (mark_blocks blocks apart {} (by simp [entityNames]))

theorem blocks_distinct : (entityNames (blockEntities blocks)).Nodup := by
  have coherent := registered_coherent (blocks.flatMap CompleteBlock.statements)
  rw [registered_blocks blocks apart] at coherent
  exact coherent.distinct

theorem declared_blocks :
    declared (blocks.flatMap CompleteBlock.statements) =
      ⟨blocks.flatMap fun block => (block.read (entityNames (blockEntities blocks))).1, none,
        blocks.flatMap fun block => (block.read (entityNames (blockEntities blocks))).2⟩ := by
  have marks : marksOf (blocks.flatMap CompleteBlock.statements) = blocks.flatMap CompleteBlock.marks :=
    congrArg Prod.snd (mark_blocks blocks apart {} (by simp [entityNames]))
  have folded := fold_blocks blocks _ [] [] rfl (blocks_distinct blocks apart)
  rw [declared, readUpTo, registered_blocks blocks apart, marks]
  exact congrArg ReadState.reportOpen folded

theorem blocks_permuted (others : List CompleteBlock) (permuted : others.Perm blocks)
    (tame : ∀ statement ∈ blocks.flatMap CompleteBlock.statements, Tame statement.text) :
    (readStatements (others.flatMap CompleteBlock.statements)).1.Perm (readStatements (blocks.flatMap CompleteBlock.statements)).1 ∧
      (readStatements (others.flatMap CompleteBlock.statements)).2.Perm
        (readStatements (blocks.flatMap CompleteBlock.statements)).2 := by
  have other : others.Pairwise CompleteBlock.Apart := permuted.symm.pairwise apart CompleteBlock.apart_symmetric
  have names : ∀ name, name ∈ entityNames (blockEntities others) ↔ name ∈ entityNames (blockEntities blocks) := fun name =>
    (names_permuted _ _ (permuted.flatMap_right _)).mem_iff
  have same : ∀ block : CompleteBlock, block.read (entityNames (blockEntities others)) =
      block.read (entityNames (blockEntities blocks)) := fun block => block.read_same _ _ names
  have keyed := coherent_keyed _ (declared_coherent _ tame)
  rw [declared_blocks blocks apart] at keyed
  have entities : (declared (others.flatMap CompleteBlock.statements)).entities.Perm
      (declared (blocks.flatMap CompleteBlock.statements)).entities := by
    rw [declared_blocks blocks apart, declared_blocks others other]
    simp only [same]
    exact permuted.flatMap_right _
  have checked := check_references_permuted _ _ entities.symm (by rw [declared_blocks blocks apart]; exact keyed)
  refine ⟨checked.1.symm, List.Perm.append (List.Perm.append ?_ ?_) checked.2.symm⟩
  · rw [registered_blocks blocks apart, registered_blocks others other]
    exact permuted.flatMap_right _
  · rw [declared_blocks blocks apart, declared_blocks others other]
    simp only [same]
    exact permuted.flatMap_right _

end Blocks

theorem scan_lines_placeless (number : Nat) (rows : List (List Char)) :
    (scanLines number rows).map (Statement.moved fun _ => 0) = (rows.flatMap piecesOfLine).map (⟨0, ·⟩) := by
  induction rows generalizing number with
  | nil => rfl
  | cons row rows ih =>
      rw [scanLines, List.map_append, ih, List.map_map, List.flatMap_cons, List.map_append]
      rfl

theorem scan_blocks (source : List Char) (blocks : List CompleteBlock) (whole : lines source = blocks.flatMap CompleteBlock.rows) :
    (scan source).map (Statement.moved fun _ => 0) = blocks.flatMap CompleteBlock.statements := by
  rw [scan, scan_lines_placeless, whole, List.flatMap_assoc, List.map_flatMap]
  apply List.flatMap_congr
  intro block _
  rw [block.scanned, CompleteBlock.statements, CompleteBlock.opening, CompleteBlock.inner, List.map_cons, List.map_append]
  rfl

-- The order of complete blocks with names of their own decides nothing: references may point forward or back, and in every order
-- there are the same entities with the same fields, the same relations, and the same diagnostics, but for their lines.
theorem block_order_free (identifier : String) (source shuffled : List Char) (blocks others : List CompleteBlock)
    (whole : lines source = blocks.flatMap CompleteBlock.rows) (again : lines shuffled = others.flatMap CompleteBlock.rows)
    (apart : blocks.Pairwise CompleteBlock.Apart) (permuted : others.Perm blocks) :
    ((Schema.parse identifier shuffled).entities.map Entity.unplaced).Perm
        ((Schema.parse identifier source).entities.map Entity.unplaced) ∧
      (∀ name, (entity? (Schema.parse identifier shuffled).entities name).map Entity.unplaced =
        (entity? (Schema.parse identifier source).entities name).map Entity.unplaced) ∧
      (Schema.parse identifier shuffled).relations.Perm (Schema.parse identifier source).relations ∧
      ((Schema.parse identifier shuffled).errors.map (Diagnostic.moved fun _ => 0)).Perm
        ((Schema.parse identifier source).errors.map (Diagnostic.moved fun _ => 0)) ∧
      (Schema.parse identifier shuffled).errors.length = (Schema.parse identifier source).errors.length ∧
      (Schema.parse identifier shuffled).isValid = (Schema.parse identifier source).isValid := by
  have tame : ∀ statement ∈ blocks.flatMap CompleteBlock.statements, Tame statement.text := by
    intro statement member
    rw [← scan_blocks source blocks whole] at member
    obtain ⟨placed, among, rfl⟩ := List.mem_map.mp member
    exact scan_tame source placed among
  obtain ⟨entities, errors⟩ := blocks_permuted blocks apart others permuted tame
  rw [← scan_blocks source blocks whole, ← scan_blocks shuffled others again, read_moved, read_moved] at entities errors
  have unplaced : ∀ graph : List Entity, graph.map Entity.unplaced = graph.map (Entity.moved fun _ => 0) := fun _ => rfl
  have distinct : (entityNames ((readStatements (scan shuffled)).1.map (Entity.moved fun _ => 0))).Nodup := by
    have coherent := registered_coherent (scan shuffled)
    rw [names_moved, ← bare_names, graph_headers]
    exact coherent.distinct
  have sorted : ∀ statements : List Statement, ((byLine (readStatements statements).2).map (Diagnostic.moved fun _ => 0)).Perm
      ((readStatements statements).2.map (Diagnostic.moved fun _ => 0)) := fun _ => (by_line_perm _).map _
  have told := ((sorted (scan shuffled)).trans errors).trans (sorted (scan source)).symm
  have count := told.length_eq
  rw [List.length_map, List.length_map] at count
  rw [parse_statements, parse_statements]
  refine ⟨entities, fun name => ?_, ?_, told, count, ?_⟩
  · have found := entity_permuted _ _ entities distinct name
    rw [entity_moved, entity_moved] at found
    exact found
  · have relations := relations_permuted _ _ entities distinct identifier
    rw [relations_moved, relations_moved] at relations
    exact relations
  · rw [Schema.isValid, Schema.isValid, Bool.eq_iff_iff, List.isEmpty_iff_length_eq_zero, List.isEmpty_iff_length_eq_zero, count]

def postBlock : CompleteBlock where
  rows := ["entity Post \x7b", "  writer: User.name", "  reader: User.nobody", "  what", "\x7d"].map String.toList
  header := "entity Post \x7b".toList
  body := ["writer: User.name", "reader: User.nobody", "what"].map String.toList
  scanned := by decide +kernel
  opens := by decide +kernel
  plain := by decide +kernel

def userBlock : CompleteBlock where
  rows := ["entity User \x7b name: string", "posts: Post[]", "// all that were written", "\x7d"].map String.toList
  header := "entity User \x7b".toList
  body := ["name: string", "posts: Post[]"].map String.toList
  scanned := by decide +kernel
  opens := by decide +kernel
  plain := by decide +kernel

theorem post_apart_user : postBlock.Apart userBlock := by
  intro name here there
  have post : headerName? postBlock.header = some "Post".toList := by decide +kernel
  have user : headerName? userBlock.header = some "User".toList := by decide +kernel
  have first := (header_name_iff _ _).mpr here
  have second := (header_name_iff _ _).mpr there
  rw [post] at first
  rw [user, ← first] at second
  exact absurd second (by decide)

theorem posts_and_users_order_free :
    ((Schema.parse "id" (onLines (userBlock.rows ++ postBlock.rows))).entities.map Entity.unplaced).Perm
        ((Schema.parse "id" (onLines (postBlock.rows ++ userBlock.rows))).entities.map Entity.unplaced) ∧
      (Schema.parse "id" (onLines (userBlock.rows ++ postBlock.rows))).errors.length =
        (Schema.parse "id" (onLines (postBlock.rows ++ userBlock.rows))).errors.length := by
  have apart : [postBlock, userBlock].Pairwise CompleteBlock.Apart := by simp [post_apart_user]
  obtain ⟨entities, -, -, -, count, -⟩ := block_order_free "id" (onLines (postBlock.rows ++ userBlock.rows))
    (onLines (userBlock.rows ++ postBlock.rows)) [postBlock, userBlock] [userBlock, postBlock] (by decide +kernel) (by decide +kernel)
    apart (List.Perm.swap _ _ [])
  exact ⟨entities, count⟩

end Schematic
