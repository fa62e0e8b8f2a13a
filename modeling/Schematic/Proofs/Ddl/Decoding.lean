import Schematic.Proofs.Ddl.Definitions

set_option autoImplicit false

namespace Schematic.Ddl

-- The texts of a definition are read as they should be, and so is a block in them once it runs.
def ReadsBack (definition : Definition) (texts : List String) : Prop :=
  List.Forall₂ (fun text reading => tokens? text.toList = some reading) texts definition.readings ∧
    ∀ part ∈ definition.inner, tokens? part.1 = some part.2

theorem texts_read (statements : List Statement.Pieces) (texts : List String) (readings : List (List Token))
    (same : List.Forall₂ (fun statement text => text.toList = written statement) statements texts)
    (laid : List.Forall₂ Laid statements readings) :
    List.Forall₂ (fun text reading => tokens? text.toList = some reading) texts readings ↔
      ∀ reading ∈ readings, .name [] ∉ reading := by
  induction same generalizing readings with
  | nil =>
      cases laid
      simp
  | cons here later ih =>
      cases laid with
      | cons first others =>
          rw [List.forall₂_cons, ih _ others, here, laid_read _ _ first, List.forall_mem_cons]

def enumHead : String :=
  "DO $$ BEGIN IF NOT EXISTS (SELECT 1 FROM pg_type t JOIN pg_namespace n ON n.oid = t.typnamespace " ++ "WHERE t.typname = "

theorem enum_parts (schema name : String) (values : List String) :
    createEnum schema name values = .raw enumHead :: (making schema name values ++ [.raw "); END IF; END $$"]) := by
  unfold createEnum enumHead making
  simp only [List.cons_append, List.nil_append, List.append_assoc]

theorem enum_written (schema name : String) (values : List String) :
    written (createEnum schema name values) =
      ['D', 'O', ' ', '$', '$'] ++ (written (block schema name values) ++ ['$', '$']) := by
  have head : writtenPiece (.raw enumHead) = ['D', 'O', ' ', '$', '$'] ++ writtenPiece (.raw lookUp) := by
    show enumHead.toList = _ ++ lookUp.toList
    unfold enumHead lookUp
    rw [String.toList_append]
    repeat rw [String.toList_ofList]
    rfl
  have tail : writtenPiece (.raw "); END IF; END $$") = writtenPiece (.raw "); END IF; END ") ++ ['$', '$'] := by
    show "); END IF; END $$".toList = "); END IF; END ".toList ++ ['$', '$']
    repeat rw [String.toList_ofList]
    rfl
  rw [enum_parts, block]
  simp only [written, List.flatMap_cons, List.flatMap_append, List.flatMap_nil, List.append_nil, List.append_assoc, head, tail]

theorem block_single (schema name : String) (values : List String)
    (sound : ∀ given ∈ schema :: name :: values, '\x00' ∉ given.toList) :
    Single (written (block schema name values) ++ ['$']) ↔ ∀ given ∈ schema :: name :: values, Single given.toList := by
  have texts := quoted_texts values fun value member =>
    sound value (List.mem_cons_of_mem _ (List.mem_cons_of_mem _ member))
  have homed := Quoted.text schema (sound schema List.mem_cons_self)
  have named := Quoted.text name (sound name (List.mem_cons_of_mem _ List.mem_cons_self))
  have whole : written (block schema name values) ++ ['$'] = writtenPiece (.raw lookUp) ++
      (writtenPiece (.literal (.text name)) ++ (writtenPiece (.raw " AND n.nspname = ") ++
      (writtenPiece (.literal (.text schema)) ++ (writtenPiece (.raw ") THEN CREATE TYPE ") ++
      (writtenPiece (.name schema) ++ (writtenPiece (.raw ".") ++ (writtenPiece (.name name) ++
      (writtenPiece (.raw " AS ENUM (") ++
      (written (commaSeparated ((values.map fun value => .literal (.text value)).map ([·]))) ++
        (writtenPiece (.raw "); END IF; END ") ++ ['$'])))))))))) := by
    simp [block, making, qualified, written, List.map_map, Function.comp_def]
  have absent : ∀ text ∈ [lookUp, " AND n.nspname = ", ") THEN CREATE TYPE ", ".", " AS ENUM (", "); END IF; END "],
      '$' ∉ text.toList := by
    unfold lookUp
    simp only [List.forall_mem_cons]
    refine ⟨?_, ?_, ?_, ?_, ?_, ?_, fun _ member => absurd member List.not_mem_nil⟩
    all_goals
      rw [String.toList_ofList]
      decide
  simp only [List.forall_mem_cons] at absent
  obtain ⟨look, known, typed, dot, listed, ended, -⟩ := absent
  have dollar : Single ['$'] := by decide
  rw [whole, single_fixed lookUp _ look, single_quoted _ _ named, single_fixed _ _ known, single_quoted _ _ homed,
    single_fixed _ _ typed, single_quoted _ _ (.name schema), single_fixed _ _ dot, single_quoted _ _ (.name name),
    single_fixed _ _ listed, single_commas _ _ texts, single_fixed _ _ ended, and_iff_left dollar]
  simp only [Token.contents, List.forall_mem_cons, List.forall_mem_map]
  constructor
  · rintro ⟨apart, home, -, -, listed⟩
    exact ⟨home, apart, listed⟩
  · rintro ⟨home, apart, listed⟩
    exact ⟨apart, home, home, apart, listed⟩

theorem read_enum (schema name : String) (values : List String) :
    tokens? (written (createEnum schema name values)) = some (words "DO" ++ [.text (written (block schema name values))]) ↔
      Single (written (block schema name values) ++ ['$']) := by
  have opening : Mode.between.advance ['D', 'O', ' ', '$', '$'] = some (words "DO", .body []) := by decide
  rw [enum_written, tokens?, run_advance _ _ _ _ _ opening, ← read_body_iff, Option.map_eq_some_iff]
  constructor
  · rintro ⟨tokens, read, same⟩
    rw [read, List.append_cancel_left same]
  · exact fun read => ⟨_, read, rfl⟩

theorem enum_sound (schema name : String) (values : List String)
    (sound : ∀ given ∈ schema :: name :: values, '\x00' ∉ given.toList) :
    ∀ piece ∈ createEnum schema name values, ∃ text, renderPiece piece = .ok text := by
  have inside := laid_sound _ _ (laid_block schema name values sound)
  intro piece member
  rw [enum_parts] at member
  rcases List.mem_cons.mp member with rfl | later
  · exact ⟨enumHead, rfl⟩
  · rcases List.mem_append.mp later with made | last
    · exact inside piece (List.mem_cons_of_mem _ (List.mem_append_left _ made))
    · exact ⟨"); END IF; END $$", by rw [List.mem_singleton.mp last]; rfl⟩

section Reading

variable (definition : Definition) (texts : List String)

theorem flat_reads_back (flat : definition.Flat) (sound : ∀ given ∈ definition.givens, '\x00' ∉ given.toList)
    (same : List.Forall₂ (fun statement text => text.toList = written statement) definition.statements texts) :
    ReadsBack definition texts ↔ "" ∉ definition.names := by
  rw [ReadsBack, texts_read _ _ _ same (flat_laid definition flat sound), ← named_iff, flat]
  simp

theorem flat_enclosed (flat : definition.Flat) : definition.Enclosed := by
  cases definition with
  | enumeration schema name values => exact nomatch flat
  | _ => trivial

theorem enum_reads_back (schema name : String) (values : List String)
    (sound : ∀ given ∈ schema :: name :: values, '\x00' ∉ given.toList)
    (same : List.Forall₂ (fun statement text => text.toList = written statement) [createEnum schema name values] texts) :
    ReadsBack (.enumeration schema name values) texts ↔
      "" ∉ [schema, name] ∧ (Definition.enumeration schema name values).Enclosed := by
  obtain ⟨text, rfl⟩ : ∃ text, texts = [text] := by
    cases same with
    | cons _ others =>
        cases others
        exact ⟨_, rfl⟩
  have outer := read_enum schema name values
  rw [← (List.forall₂_cons.mp same).1, block_single schema name values sound] at outer
  have inside := laid_read _ _ (laid_block schema name values sound)
  have named : .name [] ∉ blockReading schema name values ↔ "" ∉ [schema, name] := by
    have found := named_iff (.enumeration schema name values)
    simpa [Definition.readings, Definition.inner, Definition.names] using found
  have enclosed : (Definition.enumeration schema name values).Enclosed ↔ ∀ given ∈ schema :: name :: values, Single given.toList := by
    simp only [Definition.Enclosed, single_iff]
  rw [ReadsBack, enclosed, ← named, ← inside, ← outer, and_comm]
  simp [Definition.readings, Definition.inner]

end Reading

-- A definition is read back from its statements just where no name is empty and nothing could end the block that it stands in.
-- What they should be read as are single statements, whose tokens are told apart by nothing but how much is given.
theorem definition_reads_back_iff (definition : Definition) (sound : ∀ given ∈ definition.givens, '\x00' ∉ given.toList) :
    (∃ texts, definition.statements.mapM render = .ok texts ∧
      (ReadsBack definition texts ↔ "" ∉ definition.names ∧ definition.Enclosed)) ∧
    (∀ reading ∈ definition.readings, .mark ';' ∉ reading) ∧
    definition.readings.map (·.map Token.kind) = definition.outline.readings.map (·.map Token.kind) ∧
    definition.inner.map (·.2.map Token.kind) = definition.outline.inner.map (·.2.map Token.kind) := by
  refine ⟨?_, readings_single definition, readings_kinds definition⟩
  have texts : (∀ statement ∈ definition.statements, ∀ piece ∈ statement, ∃ text, renderPiece piece = .ok text) →
      ∃ texts, definition.statements.mapM render = .ok texts ∧
        List.Forall₂ (fun statement text => text.toList = written statement) definition.statements texts := fun whole =>
    mapM_related render _ _ fun statement member => render_written statement (whole statement member)
  by_cases flat : definition.Flat
  · have laid := flat_laid definition flat sound
    obtain ⟨texts, rendered, same⟩ := texts fun statement member => by
      obtain ⟨reading, -, here⟩ := related_right (flip Laid) _ _ laid.flip statement member
      exact laid_sound statement reading here
    exact ⟨texts, rendered, (flat_reads_back definition texts flat sound same).trans
      (and_iff_left (flat_enclosed definition flat)).symm⟩
  · cases definition with
    | enumeration schema name values =>
        obtain ⟨texts, rendered, same⟩ := texts fun statement member => by
          rw [List.mem_singleton.mp member]
          exact enum_sound schema name values sound
        exact ⟨texts, rendered, enum_reads_back texts schema name values sound same⟩
    | _ => exact absurd rfl flat

def moodType : Definition := .enumeration "app" "mood" ["it\x27s", "a\\b", "\"c\"", "5$"]

theorem mood_type_reads_back : (∀ given ∈ moodType.givens, '\x00' ∉ given.toList) ∧
    ∃ texts, moodType.statements.mapM render = .ok texts ∧ ReadsBack moodType texts := by
  have sound : ∀ given ∈ moodType.givens, '\x00' ∉ given.toList := by decide
  have enclosed : moodType.Enclosed := by
    show ∀ given ∈ ["app", "mood", "it\x27s", "a\\b", "\"c\"", "5$"], ¬ ['$', '$'] <:+: given.toList
    decide
  obtain ⟨⟨texts, rendered, reads⟩, -⟩ := definition_reads_back_iff moodType sound
  exact ⟨sound, texts, rendered, reads.mpr ⟨by decide, enclosed⟩⟩

theorem opening_single : Single (written (.raw lookUp :: making "app" "mood" []) ++ ['\x27', '$']) := by
  have whole : Single (written (block "app" "mood" []) ++ ['$']) := (block_single "app" "mood" [] (by decide)).mpr (by decide)
  have inside : Single (written (.raw lookUp :: making "app" "mood" [])) := by
    rw [single_iff] at whole ⊢
    refine fun pair => whole (pair.trans (List.IsPrefix.isInfix ⟨written [.raw "); END IF; END "] ++ ['$'], ?_⟩))
    simp [block, written]
  rw [single_append _ _ (.inr (by decide))]
  exact ⟨inside, by decide⟩

-- A value that ends the block, and goes on with a statement of its own.
theorem enum_value_ends_block : ∃ text, render (createEnum "app" "mood" ["$$; DROP TABLE users; --"]) = .ok text ∧
    ∃ body, tokens? text.toList = some (words "DO" ++ .text body :: .mark ';' :: (words "DROP TABLE users" ++ [.mark ';'])) := by
  obtain ⟨text, rendered, same⟩ := render_written _ (enum_sound "app" "mood" ["$$; DROP TABLE users; --"] (by decide))
  have value : writtenPiece (.literal (.text "$$; DROP TABLE users; --")) ++ written [.raw "); END IF; END "] =
      '\x27' :: '$' :: '$' :: "; DROP TABLE users; --\x27); END IF; END ".toList := by decide +kernel
  have parts : written (block "app" "mood" ["$$; DROP TABLE users; --"]) =
      written (.raw lookUp :: making "app" "mood" []) ++ '\x27' :: '$' :: '$' :: "; DROP TABLE users; --\x27); END IF; END ".toList := by
    rw [← value]
    simp [block, making, written, commaSeparated]
  have opening : Mode.between.advance ['D', 'O', ' ', '$', '$'] = some (words "DO", .body []) := by decide
  have front := opening_single
  generalize written (.raw lookUp :: making "app" "mood" []) = before at parts front
  have rest : Mode.between.run ("; DROP TABLE users; --\x27); END IF; END ".toList ++ ['$', '$']) =
      some (.mark ';' :: (words "DROP TABLE users" ++ [.mark ';'])) := by decide +kernel
  have body := (run_body (before ++ ['\x27']) ("; DROP TABLE users; --\x27); END IF; END ".toList ++ ['$', '$'])
    (by rwa [List.append_assoc])).1 []
  refine ⟨text, rendered, before ++ ['\x27'], ?_⟩
  rw [same, enum_written, parts, tokens?, run_advance _ _ _ _ _ opening]
  rw [rest] at body
  simp only [List.append_assoc, List.cons_append, List.nil_append] at body ⊢
  rw [body]
  rfl

end Schematic.Ddl
