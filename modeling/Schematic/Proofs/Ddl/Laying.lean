import Schematic.Proofs.Ddl.Quotation
import Schematic.Proofs.Related

set_option autoImplicit false

namespace Schematic.Ddl

def writtenPiece (piece : Piece) : List Char :=
  match renderPiece piece with
  | .ok text => text.toList
  | .error _ => []

def written (pieces : Statement.Pieces) : List Char := pieces.flatMap writtenPiece

inductive Quoted : Piece → Token → Prop where
  | name (name : String) : Quoted (.name name) (.name name.toList)
  | text (text : String) (sound : '\x00' ∉ text.toList) : Quoted (.literal (.text text)) (.text text.toList)

inductive Laid : Statement.Pieces → List Token → Prop where
  | done : Laid [] []
  | fixed (letters : List Char) (tokens : List Token) (rest : Statement.Pieces) (more : List Token)
      (reads : Mode.between.advance letters = some (tokens, .between)) (later : Laid rest more) :
      Laid (.raw (String.ofList letters) :: rest) (tokens ++ more)
  | dot (name : String) (rest : Statement.Pieces) (more : List Token) (later : Laid (.name name :: rest) more) :
      Laid (.raw "." :: .name name :: rest) (.mark '.' :: more)
  | given (piece : Piece) (token : Token) (rest : Statement.Pieces) (more : List Token) (quoted : Quoted piece token)
      (apart : Apart (written rest)) (later : Laid rest more) : Laid (piece :: rest) (token :: more)

theorem render_written (pieces : Statement.Pieces) (sound : ∀ piece ∈ pieces, ∃ text, renderPiece piece = .ok text) :
    ∃ text, render pieces = .ok text ∧ text.toList = written pieces := by
  obtain ⟨texts, all, same⟩ := mapM_related renderPiece (fun piece text => renderPiece piece = .ok text) pieces
    fun piece member => (sound piece member).imp fun text rendered => ⟨rendered, rendered⟩
  refine ⟨String.join texts, by rw [render, all]; rfl, ?_⟩
  rw [String.toList_join]
  refine related_flatMap _ _ _ same writtenPiece String.toList fun piece text rendered => ?_
  rw [writtenPiece, rendered]

theorem written_fixed (letters : List Char) (rest : Statement.Pieces) :
    written (.raw (String.ofList letters) :: rest) = letters ++ written rest :=
  congrArg (· ++ written rest) String.toList_ofList

theorem written_text (text : String) (sound : '\x00' ∉ text.toList) :
    writtenPiece (.literal (.text text)) = (quoteText text).toList := by
  rw [writtenPiece, renderPiece, renderLiteral, if_neg (by simpa using sound)]

theorem quoted_sound (piece : Piece) (token : Token) (quoted : Quoted piece token) : ∃ text, renderPiece piece = .ok text := by
  cases quoted with
  | name name => exact ⟨_, rfl⟩
  | text text sound => exact ⟨quoteText text, by rw [renderPiece, renderLiteral, if_neg (by simpa using sound)]⟩

theorem laid_sound (pieces : Statement.Pieces) (tokens : List Token) (laid : Laid pieces tokens) :
    ∀ piece ∈ pieces, ∃ text, renderPiece piece = .ok text := by
  induction laid with
  | done => exact fun _ member => nomatch member
  | fixed letters tokens rest more reads later ih => exact List.forall_mem_cons.mpr ⟨⟨String.ofList letters, rfl⟩, ih⟩
  | dot name rest more later ih => exact List.forall_mem_cons.mpr ⟨⟨".", rfl⟩, ih⟩
  | given piece token rest more quoted apart later ih =>
      exact List.forall_mem_cons.mpr ⟨quoted_sound piece token quoted, ih⟩

theorem apart_name (rest : List Char) (apart : Apart rest) : rest.head? ≠ some '"' := by
  cases rest with
  | nil => exact nofun
  | cons c rest => exact fun first => apart.2.1 (Option.some.inj first)

theorem read_quoted (piece : Piece) (token : Token) (quoted : Quoted piece token) (rest : List Char) (apart : Apart rest)
    (named : token ≠ .name []) :
    Mode.between.run (writtenPiece piece ++ rest) = (Mode.between.run rest).map (token :: ·) := by
  cases quoted with
  | name name =>
      have some : name ≠ "" := by
        rintro rfl
        exact named rfl
      exact read_name rest name some (apart_name rest apart)
  | text text sound =>
      rw [written_text text sound]
      exact read_text rest text apart

theorem laid_read (pieces : Statement.Pieces) (tokens : List Token) (laid : Laid pieces tokens) :
    tokens? (written pieces) = some tokens ↔ .name [] ∉ tokens := by
  refine ⟨run_named _ _ _, fun named => ?_⟩
  rw [tokens?]
  induction laid with
  | done => rfl
  | fixed letters tokens rest more reads later ih =>
      rw [written_fixed, run_advance _ _ _ _ _ reads, ih fun member => named (List.mem_append_right _ member)]
      rfl
  | dot name rest more later ih =>
      have dot : writtenPiece (.raw ".") = ['.'] := by decide
      have whole : written (.raw "." :: .name name :: rest) = ['.'] ++ written (.name name :: rest) := by
        rw [written, List.flatMap_cons, dot, written]
      rw [whole, List.singleton_append, run_silent _ (.mark '.') _ _ rfl]
      refine (run_over _ _ (.mark '.') rfl fun c first => ?_).trans ?_
      · have opening : (written (.name name :: rest)).head? = some '"' := by simp [written, writtenPiece, renderPiece, quoteName]
        obtain rfl : '"' = c := Option.some.inj (opening.symm.trans first)
        rfl
      · rw [ih fun member => named (List.mem_cons_of_mem _ member)]
        rfl
  | given piece token rest more quoted apart later ih =>
      have whole : written (piece :: rest) = writtenPiece piece ++ written rest := rfl
      rw [whole, read_quoted piece token quoted _ apart fun same => named (same ▸ List.mem_cons_self),
        ih fun member => named (List.mem_cons_of_mem _ member)]
      rfl

theorem laid_last (letters : List Char) (tokens : List Token) (reads : Mode.between.advance letters = some (tokens, .between)) :
    Laid [.raw (String.ofList letters)] tokens := by
  have laid := Laid.fixed letters tokens [] [] reads .done
  rwa [List.append_nil] at laid

def leads (text : List Char) : Bool :=
  match text.dropWhile isSpace with
  | [] => false
  | c :: _ => c ≠ '\x27' && c ≠ '"' && c ≠ '-'

theorem leads_apart (text rest : List Char) (parts : leads text = true) : Apart (text ++ rest) := by
  induction text with
  | nil => exact nomatch parts
  | cons c text ih =>
      by_cases space : isSpace c = true
      · have later : leads text = true := by
          rwa [leads, List.dropWhile_cons_of_pos space] at parts
        refine ⟨?_, ?_, ?_, fun _ => ih later⟩
        all_goals
          rintro rfl
          exact absurd space (by decide)
      · rw [leads, List.dropWhile_cons_of_neg space] at parts
        simp only [Bool.and_eq_true, decide_eq_true_eq] at parts
        exact ⟨parts.1.1, parts.1.2, parts.2, fun other => absurd other space⟩

theorem fixed_apart (letters : List Char) (rest : Statement.Pieces) (parts : leads letters = true) :
    Apart (written (.raw (String.ofList letters) :: rest)) := by
  rw [written_fixed]
  exact leads_apart letters (written rest) parts

def commas : List Token → List Token
  | [] => []
  | [token] => [token]
  | token :: rest => token :: .mark ',' :: commas rest

theorem laid_commas (pieces : List Piece) (tokens : List Token) (quoted : List.Forall₂ Quoted pieces tokens)
    (rest : Statement.Pieces) (more : List Token) (apart : Apart (written rest)) (later : Laid rest more) :
    Laid (commaSeparated (pieces.map ([·])) ++ rest) (commas tokens ++ more) := by
  induction quoted with
  | nil => exact later
  | cons here others ih =>
      cases others with
      | nil => exact .given _ _ _ _ here apart later
      | cons next others =>
          exact .given _ _ _ _ here (fixed_apart [',', ' '] _ (by decide)) (.fixed [',', ' '] [.mark ','] _ _ (by decide) ih)

def Token.contents : Token → List Char
  | .word letters => letters
  | .number digits => digits
  | .mark sign => [sign]
  | .name letters => letters
  | .text letters => letters

theorem single_quoted (piece : Piece) (token : Token) (quoted : Quoted piece token) (rest : List Char) :
    Single (writtenPiece piece ++ rest) ↔ Single token.contents ∧ Single rest := by
  cases quoted with
  | name name =>
      have last : (quoteName name).toList.getLast? ≠ some '$' := by
        rw [quoteName, String.toList_ofList, List.getLast?_concat]
        decide
      exact (single_append (quoteName name).toList rest (.inl last)).trans (and_congr (single_quote_name name) Iff.rfl)
  | text text sound =>
      have last : (quoteText text).toList.getLast? ≠ some '$' := by
        rw [quoteText]
        split <;> (rw [String.toList_ofList, List.getLast?_concat]; decide)
      rw [written_text text sound, single_append _ rest (.inl last), single_quote_text]
      rfl

theorem single_fixed (text : String) (rest : List Char) (absent : '$' ∉ text.toList) :
    Single (writtenPiece (.raw text) ++ rest) ↔ Single rest := by
  have last : text.toList.getLast? ≠ some '$' := fun last => absent (List.mem_of_getLast? last)
  exact (single_append text.toList rest (.inl last)).trans (and_iff_right (single_absent text.toList absent))

theorem single_commas (pieces : List Piece) (tokens : List Token) (quoted : List.Forall₂ Quoted pieces tokens) (rest : List Char) :
    Single (written (commaSeparated (pieces.map ([·]))) ++ rest) ↔ (∀ token ∈ tokens, Single token.contents) ∧ Single rest := by
  induction quoted with
  | nil => simp [commaSeparated, written]
  | @cons piece token pieces tokens here others ih =>
      cases others with
      | nil =>
          have whole : written (commaSeparated [[piece]]) = writtenPiece piece := by simp [commaSeparated, written]
          rw [List.map_cons, List.map_nil, whole, single_quoted piece token here, List.forall_mem_singleton]
      | @cons next after pieces tokens there others =>
          have whole : written (commaSeparated ((piece :: next :: pieces).map ([·]))) ++ rest = writtenPiece piece ++
              (writtenPiece (.raw ", ") ++ (written (commaSeparated ((next :: pieces).map ([·]))) ++ rest)) := by
            simp [commaSeparated, written]
          rw [whole, single_quoted piece token here, single_fixed ", " _ (by decide), ih]
          simp only [List.forall_mem_cons, and_assoc]

end Schematic.Ddl
