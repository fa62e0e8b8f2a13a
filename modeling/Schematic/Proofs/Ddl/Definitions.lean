import Schematic.Proofs.Ddl.Laying
import Schematic.Proofs.Ddl.Needs

set_option autoImplicit false

namespace Schematic.Ddl

inductive Definition where
  | schema (name : String) (comment : Option String)
  | enumeration (schema name : String) (values : List String)
  | index (schema table : String) (columns : List String) (name : Option String) (isUnique : Bool)
  | comment (schema table comment : String)
  | function (schema : String)
  | trigger (schema table : String)

def words (text : String) : List Token := (Text.splitOn ' ' text.toList).map .word

def place (schema name : String) : List Token := [.name schema.toList, .mark '.', .name name.toList]

def indexName (table : String) (columns : List String) (name : Option String) : String :=
  (name.filter (· ≠ "")).getD ("_".intercalate ("idx" :: table :: columns))

def lookUp : String :=
  " BEGIN IF NOT EXISTS (SELECT 1 FROM pg_type t JOIN pg_namespace n ON n.oid = t.typnamespace WHERE t.typname = "

def making (schema name : String) (values : List String) : Statement.Pieces :=
  .literal (.text name) :: .raw " AND n.nspname = " :: .literal (.text schema) :: .raw ") THEN CREATE TYPE " ::
    (qualified schema name ++ .raw " AS ENUM (" :: commaSeparated (values.map fun value => [.literal (.text value)]))

def block (schema name : String) (values : List String) : Statement.Pieces :=
  .raw lookUp :: (making schema name values ++ [.raw "); END IF; END "])

def lookUpReading : List Token :=
  words "BEGIN IF NOT EXISTS" ++ [.mark '('] ++ words "SELECT" ++ [.number ['1']] ++
    words "FROM pg_type t JOIN pg_namespace n ON n" ++ [.mark '.'] ++ words "oid" ++ [.mark '='] ++ words "t" ++ [.mark '.'] ++
    words "typnamespace WHERE t" ++ [.mark '.'] ++ words "typname" ++ [.mark '=']

def blockReading (schema name : String) (values : List String) : List Token :=
  lookUpReading ++ .text name.toList ::
    ((words "AND n" ++ [.mark '.'] ++ words "nspname" ++ [.mark '=']) ++ .text schema.toList ::
      ((.mark ')' :: words "THEN CREATE TYPE") ++ (place schema name ++ ((words "AS ENUM" ++ [.mark '(']) ++
        (commas (values.map fun value => .text value.toList) ++
          ([.mark ')', .mark ';'] ++ words "END IF" ++ [.mark ';'] ++ words "END"))))))

namespace Definition

def statements : Definition → List Statement.Pieces
  | schema name note => createSchema name note
  | enumeration home name values => [createEnum home name values]
  | index home table columns name isUnique => [createIndex home table columns name isUnique none]
  | comment home table note => [commentOnTable home table (some note)]
  | function home => [touchFunction home]
  | trigger home table => touchTrigger home table

def givens : Definition → List String
  | schema name note => name :: note.toList
  | enumeration home name values => home :: name :: values
  | index home table columns name _ => home :: table :: (columns ++ name.toList)
  | comment home table note => [home, table, note]
  | function home => [home]
  | trigger home table => [home, table]

def names : Definition → List String
  | schema name _ => [name]
  | enumeration home name _ => [home, name]
  | index home table columns _ _ => home :: table :: columns
  | comment home table _ => [home, table]
  | function home => [home]
  | trigger home table => [home, table]

-- What the statements should be read as: each that is given is a quoted token of its own.
def readings : Definition → List (List Token)
  | schema name note =>
      (words "CREATE SCHEMA IF NOT EXISTS" ++ [.name name.toList]) ::
        (note.filter (· ≠ "")).toList.map fun note =>
          words "COMMENT ON SCHEMA" ++ .name name.toList :: (words "IS" ++ [.text note.toList])
  | enumeration home name values => [words "DO" ++ [.text (written (block home name values))]]
  | index home table columns name isUnique =>
      [words (if isUnique then "CREATE UNIQUE INDEX IF NOT EXISTS" else "CREATE INDEX IF NOT EXISTS") ++
        .name (indexName table columns name).toList :: (words "ON" ++ (place home table ++ ([.mark '('] ++
          (commas (columns.map fun column => .name column.toList) ++ [.mark ')']))))]
  | comment home table note =>
      [words "COMMENT ON TABLE" ++ (place home table ++ (words "IS" ++ [.text note.toList]))]
  | function home =>
      [words "CREATE OR REPLACE FUNCTION" ++ (place home touchFunctionName ++ ([.mark '(', .mark ')'] ++
        words "RETURNS TRIGGER LANGUAGE plpgsql AS" ++ [.text " BEGIN NEW.updated_at = NOW(); RETURN NEW; END; ".toList]))]
  | trigger home table =>
      [words "DROP TRIGGER IF EXISTS" ++ .name (triggerName table).toList :: (words "ON" ++ place home table),
        words "CREATE TRIGGER" ++ .name (triggerName table).toList :: (words "BEFORE UPDATE ON" ++ (place home table ++
          (words "FOR EACH ROW EXECUTE FUNCTION" ++ (place home touchFunctionName ++ [.mark '(', .mark ')']))))]

def inner : Definition → List (List Char × List Token)
  | enumeration home name values => [(written (block home name values), blockReading home name values)]
  | _ => []

-- The same definition of which nothing is known but how much is given.
def outline : Definition → Definition
  | schema _ note => schema "x" ((note.filter (· ≠ "")).map fun _ => "x")
  | enumeration _ _ values => enumeration "x" "x" (values.map fun _ => "x")
  | index _ _ columns _ isUnique => index "x" "x" (columns.map fun _ => "x") none isUnique
  | comment _ _ _ => comment "x" "x" "x"
  | function _ => function "x"
  | trigger _ _ => trigger "x" "x"

def Enclosed : Definition → Prop
  | enumeration home name values => ∀ given ∈ home :: name :: values, ¬ ['$', '$'] <:+: given.toList
  | _ => True

end Definition

def Token.kind : Token → Token
  | .name _ => .name []
  | .text _ => .text []
  | token => token

theorem words_spelled (letters : List Char) : words (String.ofList letters) = (Text.splitOn ' ' letters).map .word := by
  rw [words, String.toList_ofList]

theorem laid_words (spelled letters : List Char) (rest : Statement.Pieces) (more : List Token)
    (reads : Mode.between.advance letters = some ((Text.splitOn ' ' spelled).map .word, .between)) (later : Laid rest more) :
    Laid (.raw (String.ofList letters) :: rest) (words (String.ofList spelled) ++ more) := by
  rw [words_spelled]
  exact .fixed letters _ rest more reads later

theorem laid_place (schema name : String) (rest : Statement.Pieces) (more : List Token) (apart : Apart (written rest))
    (later : Laid rest more) : Laid (qualified schema name ++ rest) (place schema name ++ more) :=
  .given _ _ _ _ (.name schema) (fixed_apart ['.'] _ (by decide)) (.dot _ _ _ (.given _ _ _ _ (.name name) apart later))

def functionTail : String := "() RETURNS TRIGGER LANGUAGE plpgsql AS $$ " ++ "BEGIN NEW.updated_at = NOW(); RETURN NEW; END; $$"

theorem block_whole (schema name : String) (values : List String) : block schema name values = .raw lookUp ::
    .literal (.text name) :: .raw " AND n.nspname = " :: .literal (.text schema) :: .raw ") THEN CREATE TYPE " ::
      (qualified schema name ++ .raw " AS ENUM (" ::
        (commaSeparated ((values.map fun value => .literal (.text value)).map ([·])) ++ [.raw "); END IF; END "])) := by
  simp [block, making, List.map_map, Function.comp_def]

section Laid

variable (schema table name comment : String) (columns values : List String)

theorem laid_schema : Laid [.raw "CREATE SCHEMA IF NOT EXISTS ", .name schema]
    (words "CREATE SCHEMA IF NOT EXISTS" ++ [.name schema.toList]) := by
  refine laid_words _ _ _ _ ?_ ?_
  · decide
  exact .given _ _ _ _ (.name schema) trivial .done

theorem laid_schema_comment (sound : '\x00' ∉ comment.toList) :
    Laid [.raw "COMMENT ON SCHEMA ", .name schema, .raw " IS ", .literal (.text comment)]
      (words "COMMENT ON SCHEMA" ++ .name schema.toList :: (words "IS" ++ [.text comment.toList])) := by
  refine laid_words _ _ _ _ ?_ ?_
  · decide
  refine .given _ _ _ _ (.name schema) (fixed_apart _ _ ?_) ?_
  · decide
  refine laid_words _ _ _ _ ?_ ?_
  · decide
  exact .given _ _ _ _ (.text comment sound) trivial .done

theorem laid_comment (sound : '\x00' ∉ comment.toList) : Laid (commentOnTable schema table (some comment))
    (words "COMMENT ON TABLE" ++ (place schema table ++ (words "IS" ++ [.text comment.toList]))) := by
  refine laid_words _ _ _ _ ?_ ?_
  · decide
  refine laid_place schema table [.raw " IS ", .literal (.text comment)] _ (fixed_apart _ _ ?_) ?_
  · decide
  refine laid_words _ _ _ _ ?_ ?_
  · decide
  exact .given _ _ _ _ (.text comment sound) trivial .done

theorem laid_function : Laid (touchFunction schema) (words "CREATE OR REPLACE FUNCTION" ++
    (place schema touchFunctionName ++ ([.mark '(', .mark ')'] ++ words "RETURNS TRIGGER LANGUAGE plpgsql AS" ++
      [.text " BEGIN NEW.updated_at = NOW(); RETURN NEW; END; ".toList]))) := by
  have tail : functionTail = String.ofList
      ("() RETURNS TRIGGER LANGUAGE plpgsql AS $$ ".toList ++ "BEGIN NEW.updated_at = NOW(); RETURN NEW; END; $$".toList) := by
    rw [String.ofList_append, String.ofList_toList, String.ofList_toList]
    rfl
  have whole : touchFunction schema = .raw "CREATE OR REPLACE FUNCTION " ::
      (qualified schema touchFunctionName ++ [.raw functionTail]) := rfl
  rw [whole, tail]
  refine laid_words _ _ _ _ ?_ ?_
  · decide
  refine laid_place schema touchFunctionName _ _ (fixed_apart _ _ ?_) (laid_last _ _ ?_)
  · rw [String.toList_ofList]
    decide
  · rw [words_spelled, String.toList_ofList, String.toList_ofList, String.toList_ofList]
    decide +kernel

theorem laid_drop : Laid (.raw "DROP TRIGGER IF EXISTS " :: .name (triggerName table) :: .raw " ON " :: qualified schema table)
    (words "DROP TRIGGER IF EXISTS" ++ .name (triggerName table).toList :: (words "ON" ++ place schema table)) := by
  refine laid_words _ _ _ _ ?_ ?_
  · decide
  refine .given _ _ _ _ (.name _) (fixed_apart _ _ ?_) ?_
  · decide
  refine laid_words _ _ _ _ ?_ ?_
  · decide
  exact laid_place schema table [] [] trivial .done

theorem laid_create : Laid (.raw "CREATE TRIGGER " :: .name (triggerName table) :: .raw " BEFORE UPDATE ON " ::
      (qualified schema table ++ .raw " FOR EACH ROW EXECUTE FUNCTION " :: (qualified schema touchFunctionName ++ [.raw "()"])))
    (words "CREATE TRIGGER" ++ .name (triggerName table).toList :: (words "BEFORE UPDATE ON" ++ (place schema table ++
      (words "FOR EACH ROW EXECUTE FUNCTION" ++ (place schema touchFunctionName ++ [.mark '(', .mark ')']))))) := by
  refine laid_words _ _ _ _ ?_ ?_
  · decide
  refine .given _ _ _ _ (.name _) (fixed_apart _ _ ?_) ?_
  · decide
  refine laid_words _ _ _ _ ?_ ?_
  · decide
  refine laid_place schema table _ _ (fixed_apart _ _ ?_) ?_
  · decide
  refine laid_words _ _ _ _ ?_ ?_
  · decide
  refine laid_place schema touchFunctionName _ _ (fixed_apart _ _ ?_) (laid_last _ _ ?_)
  · decide
  · decide

theorem quoted_names : List.Forall₂ Quoted (columns.map .name) (columns.map fun column => .name column.toList) := by
  rw [List.forall₂_map_left_iff, List.forall₂_map_right_iff]
  exact List.forall₂_same.mpr fun column _ => .name column

theorem quoted_texts (sound : ∀ value ∈ values, '\x00' ∉ value.toList) :
    List.Forall₂ Quoted (values.map fun value => .literal (.text value)) (values.map fun value => .text value.toList) := by
  rw [List.forall₂_map_left_iff, List.forall₂_map_right_iff]
  exact List.forall₂_same.mpr fun value member => .text value (sound value member)

theorem laid_index (given : Option String) (isUnique : Bool) :
    Laid (createIndex schema table columns given isUnique none)
      (words (if isUnique then "CREATE UNIQUE INDEX IF NOT EXISTS" else "CREATE INDEX IF NOT EXISTS") ++
        .name (indexName table columns given).toList :: (words "ON" ++ (place schema table ++ ([.mark '('] ++
          (commas (columns.map fun column => .name column.toList) ++ [.mark ')']))))) := by
  have whole : createIndex schema table columns given isUnique none = .raw (indexHead isUnique) ::
      .name (indexName table columns given) :: .raw " ON " :: (qualified schema table ++ .raw " (" ::
        (commaSeparated ((columns.map .name).map ([·])) ++ [.raw ")"])) := by
    simp [createIndex, indexHead, indexName, names, List.map_map, Function.comp_def]
  have listed : Laid (commaSeparated ((columns.map .name).map ([·])) ++ [.raw ")"])
      (commas (columns.map fun column => .name column.toList) ++ [.mark ')']) := by
    refine laid_commas _ _ (quoted_names columns) _ _ (fixed_apart _ _ ?_) (laid_last _ _ ?_)
    · decide
    · decide
  have named : Laid (.name (indexName table columns given) :: .raw " ON " :: (qualified schema table ++ .raw " (" ::
      (commaSeparated ((columns.map .name).map ([·])) ++ [.raw ")"])))
      (.name (indexName table columns given).toList :: (words "ON" ++ (place schema table ++ ([.mark '('] ++
        (commas (columns.map fun column => .name column.toList) ++ [.mark ')']))))) := by
    refine .given _ _ _ _ (.name _) (fixed_apart _ _ ?_) ?_
    · decide
    refine laid_words _ _ _ _ ?_ ?_
    · decide
    refine laid_place schema table _ _ (fixed_apart _ _ ?_) ?_
    · decide
    refine .fixed _ _ _ _ ?_ listed
    decide
  rw [whole]
  cases isUnique with
  | true =>
      refine laid_words _ _ _ _ ?_ named
      decide
  | false =>
      refine laid_words _ _ _ _ ?_ named
      decide

theorem laid_block (sound : ∀ given ∈ schema :: name :: values, '\x00' ∉ given.toList) :
    Laid (block schema name values) (blockReading schema name values) := by
  have texts := quoted_texts values fun value member =>
    sound value (List.mem_cons_of_mem _ (List.mem_cons_of_mem _ member))
  have ending : Laid [.raw "); END IF; END "] ([.mark ')', .mark ';'] ++ words "END IF" ++ [.mark ';'] ++ words "END") := by
    refine laid_last _ _ ?_
    rw [words_spelled, words_spelled]
    decide
  have parts : Apart (written [.raw "); END IF; END "]) := by
    refine fixed_apart _ _ ?_
    decide
  have listed := laid_commas _ _ texts _ _ parts ending
  rw [block_whole]
  refine .fixed _ lookUpReading _ _ ?_ ?_
  · rw [lookUpReading]
    repeat rw [words_spelled]
    decide +kernel
  refine .given _ _ _ _ (.text name (sound name (List.mem_cons_of_mem _ List.mem_cons_self))) (fixed_apart _ _ ?_) ?_
  · decide
  refine .fixed _ (words "AND n" ++ [.mark '.'] ++ words "nspname" ++ [.mark '=']) _ _ ?_ ?_
  · rw [words_spelled, words_spelled]
    decide
  refine .given _ _ _ _ (.text schema (sound schema List.mem_cons_self)) (fixed_apart _ _ ?_) ?_
  · decide
  refine .fixed _ (.mark ')' :: words "THEN CREATE TYPE") _ _ ?_ ?_
  · rw [words_spelled]
    decide
  refine laid_place schema name _ _ (fixed_apart _ _ ?_) ?_
  · decide
  refine .fixed _ (words "AS ENUM" ++ [.mark '(']) _ _ ?_ listed
  · rw [words_spelled]
    decide

end Laid

def Definition.Flat (definition : Definition) : Prop := definition.inner = []

theorem flat_laid (definition : Definition) (flat : definition.Flat)
    (sound : ∀ given ∈ definition.givens, '\x00' ∉ given.toList) :
    List.Forall₂ Laid definition.statements definition.readings := by
  cases definition with
  | schema name comment =>
      refine .cons (laid_schema name) ?_
      cases comment with
      | none => exact .nil
      | some text =>
          by_cases empty : text = ""
          · subst empty
            exact .nil
          · have kept : (some text).filter (· ≠ "") = some text := by simp [Option.filter, empty]
            rw [kept]
            exact .cons (laid_schema_comment name text (sound text (by simp [Definition.givens]))) .nil
  | enumeration schema name values => exact nomatch flat
  | index schema table columns name isUnique => exact .cons (laid_index schema table columns name isUnique) .nil
  | comment schema table text => exact .cons (laid_comment schema table text (sound text (by simp [Definition.givens]))) .nil
  | function schema => exact .cons (laid_function schema) .nil
  | trigger schema table => exact .cons (laid_drop schema table) (.cons (laid_create schema table) .nil)

section Contents

theorem word_of_words (text : String) (token : Token) (member : token ∈ words text) : ∃ letters, token = .word letters := by
  obtain ⟨letters, -, same⟩ := List.mem_map.mp member
  exact ⟨letters, same.symm⟩

@[simp] theorem name_words (text : String) (letters : List Char) : .name letters ∉ words text := by
  intro member
  obtain ⟨_, same⟩ := word_of_words text _ member
  exact nomatch same

@[simp] theorem mark_words (text : String) (sign : Char) : .mark sign ∉ words text := by
  intro member
  obtain ⟨_, same⟩ := word_of_words text _ member
  exact nomatch same

@[simp] theorem kind_words (text : String) : (words text).map Token.kind = words text := by
  rw [words, List.map_map]
  rfl

theorem commas_cons (first second : Token) (tokens : List Token) :
    commas (first :: second :: tokens) = first :: .mark ',' :: commas (second :: tokens) := rfl

theorem mem_commas (token : Token) (apart : token ≠ .mark ',') (tokens : List Token) : token ∈ commas tokens ↔ token ∈ tokens := by
  induction tokens with
  | nil => exact Iff.rfl
  | cons first tokens ih =>
      cases tokens with
      | nil => exact Iff.rfl
      | cons second tokens =>
          rw [commas_cons, List.mem_cons, List.mem_cons, ih, or_iff_right apart]
          exact List.mem_cons.symm

theorem kind_commas (tokens : List Token) : (commas tokens).map Token.kind = commas (tokens.map Token.kind) := by
  induction tokens with
  | nil => rfl
  | cons first tokens ih =>
      cases tokens with
      | nil => rfl
      | cons second tokens =>
          rw [commas_cons, List.map_cons, List.map_cons, ih]
          rfl

theorem index_name_some (table : String) (columns : List String) (name : Option String) : indexName table columns name ≠ "" := by
  intro empty
  have letters := congrArg String.toList empty
  rw [indexName] at letters
  cases present : name.filter (· ≠ "") with
  | none =>
      rw [present, Option.getD_none, String.toList_intercalate] at letters
      cases columns <;> simp [List.intercalate] at letters
  | some given =>
      have some : given ≠ "" := by simpa using (Option.filter_eq_some_iff.mp present).2
      rw [present] at letters
      exact some (String.toList_inj.mp letters)

theorem look_up_plain (letters : List Char) : .name letters ∉ lookUpReading := by
  simp [lookUpReading]

variable (definition : Definition)

theorem named_iff : (∀ reading ∈ definition.readings ++ definition.inner.map Prod.snd, .name [] ∉ reading) ↔
    "" ∉ definition.names := by
  cases definition with
  | schema name comment =>
      simp only [Definition.readings, Definition.inner, Definition.names]
      cases comment.filter (· ≠ "") <;> simp
  | enumeration schema name values =>
      simp [Definition.readings, Definition.inner, Definition.names, blockReading, look_up_plain, place, mem_commas]
  | index schema table columns name isUnique =>
      simp [Definition.readings, Definition.inner, Definition.names, place, mem_commas, index_name_some]
  | comment schema table text => simp [Definition.readings, Definition.inner, Definition.names, place]
  | function schema => simp [Definition.readings, Definition.inner, Definition.names, place, touchFunctionName]
  | trigger schema table =>
      simp [Definition.readings, Definition.inner, Definition.names, place, touchFunctionName, triggerName]
      tauto

theorem readings_single : ∀ reading ∈ definition.readings, .mark ';' ∉ reading := by
  cases definition with
  | schema name comment =>
      simp only [Definition.readings]
      cases comment.filter (· ≠ "") <;> simp
  | enumeration schema name values => simp [Definition.readings]
  | index schema table columns name isUnique => simp [Definition.readings, place, mem_commas]
  | comment schema table text => simp [Definition.readings, place]
  | function schema => simp [Definition.readings, place]
  | trigger schema table => simp [Definition.readings, place]

theorem readings_kinds : definition.readings.map (·.map Token.kind) = definition.outline.readings.map (·.map Token.kind) ∧
    definition.inner.map (·.2.map Token.kind) = definition.outline.inner.map (·.2.map Token.kind) := by
  cases definition with
  | schema name comment =>
      simp only [Definition.readings, Definition.inner, Definition.outline]
      cases comment.filter (· ≠ "") <;> simp [Token.kind, Option.filter]
  | enumeration schema name values =>
      simp [Definition.readings, Definition.inner, Definition.outline, blockReading, kind_commas, place, Token.kind, Function.comp_def]
  | index schema table columns name isUnique =>
      simp [Definition.readings, Definition.inner, Definition.outline, kind_commas, place, Token.kind, Function.comp_def]
  | comment schema table text => simp [Definition.readings, Definition.inner, Definition.outline, place, Token.kind]
  | function schema => simp [Definition.readings, Definition.inner, Definition.outline, place, Token.kind]
  | trigger schema table => simp [Definition.readings, Definition.inner, Definition.outline, place, Token.kind]

end Contents

end Schematic.Ddl
