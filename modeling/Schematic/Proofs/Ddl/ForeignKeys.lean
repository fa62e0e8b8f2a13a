import Schematic.Proofs.Ddl.Tables
import Schematic.Proofs.Related
import Schematic.Proofs.Source.Names

set_option autoImplicit false

namespace Schematic.Ddl

def IsWord (text : String) : Prop := text ≠ "" ∧ ∀ c ∈ text.toList, Text.isWord c = true

instance (text : String) : Decidable (IsWord text) :=
  decidable_of_iff (text ≠ "" ∧ text.toList.all Text.isWord = true) (by rw [IsWord, List.all_eq_true])

def referenceText (schema table column : String) : String := schema ++ "." ++ table ++ "(" ++ column ++ ")"

-- A reference that begins as it is meant to be declared. What comes behind that is left open.
structure Begins (reference schema table column rest : String) : Prop where
  home : IsWord schema
  named : IsWord table
  pointed : IsWord column
  text : reference = referenceText schema table column ++ rest

theorem take_word_some (text rest : List Char) (word : String) :
    takeWord? text = some (word, rest) ↔
      IsWord word ∧ text = word.toList ++ rest ∧ ∀ c, rest.head? = some c → Text.isWord c = false := by
  rw [takeWord?]
  constructor
  · intro taken
    by_cases none : text.takeWhile Text.isWord = []
    · rw [if_pos none] at taken
      cases taken
    · rw [if_neg none] at taken
      obtain ⟨rfl, rfl⟩ := Prod.mk.inj (Option.some.inj taken)
      rw [IsWord, String.toList_ofList]
      refine ⟨⟨?_, fun c member => List.mem_takeWhile_imp member⟩, List.takeWhile_append_dropWhile.symm, fun c first => ?_⟩
      · intro empty
        exact none (String.ofList_inj.mp (empty.trans String.ofList_nil.symm))
      · have head := List.head?_dropWhile_not Text.isWord text
        rw [first] at head
        simpa using head
  · rintro ⟨⟨nonempty, letters⟩, rfl, stop⟩
    obtain ⟨taken, left⟩ := take_letters Text.isWord word.toList rest letters stop
    have some : word.toList ≠ [] := fun empty => nonempty (String.toList_inj.mp empty)
    rw [taken, left, if_neg some, String.ofList_toList]

theorem mark_stops (mark : Char) (rest : List Char) (other : Text.isWord mark = false) :
    ∀ c, (mark :: rest).head? = some c → Text.isWord c = false := by
  intro c first
  rw [← Option.some.inj first]
  exact other

theorem read_reference_iff (reference schema table column : String) :
    readReference? reference = some (schema, table, column) ↔ ∃ rest, Begins reference schema table column rest := by
  rw [readReference?]
  constructor
  · intro read
    simp only [Option.bind_eq_bind, Option.bind_eq_some_iff, Prod.exists, Option.some.injEq, Prod.mk.injEq] at read
    obtain ⟨_, first, home, _, dot, _, second, named, _, opening, _, third, pointed, last, closing, rfl, rfl, rfl⟩ := read
    obtain ⟨homeWord, whole, -⟩ := (take_word_some _ _ _).mp home
    obtain ⟨nameWord, second, -⟩ := (take_word_some _ _ _).mp named
    obtain ⟨pointWord, third, -⟩ := (take_word_some _ _ _).mp pointed
    refine ⟨String.ofList last, homeWord, nameWord, pointWord, String.toList_inj.mp ?_⟩
    rw [whole, drop_prefix_some _ _ _ dot, second, drop_prefix_some _ _ _ opening, third, drop_prefix_some _ _ _ closing]
    simp [referenceText, String.toList_append]
  · rintro ⟨rest, home, named, pointed, rfl⟩
    have closing := (take_word_some _ (')' :: rest.toList) column).mpr
      ⟨pointed, rfl, mark_stops ')' rest.toList (by decide)⟩
    have opening := (take_word_some _ ('(' :: (column.toList ++ ')' :: rest.toList)) table).mpr
      ⟨named, rfl, mark_stops '(' _ (by decide)⟩
    have text : (referenceText schema table column ++ rest).toList =
        schema.toList ++ '.' :: (table.toList ++ '(' :: (column.toList ++ ')' :: rest.toList)) := by
      simp [referenceText, String.toList_append]
    have dot := (take_word_some _ ('.' :: (table.toList ++ '(' :: (column.toList ++ ')' :: rest.toList))) schema).mpr
      ⟨home, rfl, mark_stops '.' _ (by decide)⟩
    rw [text, dot]
    simp [opening, closing, dropPrefix?]

def constraintOn (column schema table target : String) : Statement.Pieces :=
  [.raw "FOREIGN KEY (", .name column, .raw ") REFERENCES "] ++ qualified schema table ++
    [.raw " (", .name target, .raw ") ON DELETE CASCADE"]

theorem constraint_same (column schema table target otherSchema otherTable otherTarget : String)
    (same : constraintOn column schema table target = constraintOn column otherSchema otherTable otherTarget) :
    schema = otherSchema ∧ table = otherTable ∧ target = otherTarget := by
  simpa [constraintOn, qualified] using same

theorem foreign_key_ok (column reference : String) (item : Statement.Pieces) :
    foreignKey column reference = .ok item ↔
      ∃ schema table target rest, Begins reference schema table target rest ∧ item = constraintOn column schema table target := by
  rw [foreignKey]
  cases read : readReference? reference with
  | none =>
      refine ⟨fun failed => (nomatch failed), ?_⟩
      rintro ⟨schema, table, target, rest, begins, -⟩
      cases read.symm.trans ((read_reference_iff _ _ _ _).mpr ⟨rest, begins⟩)
  | some parts =>
      obtain ⟨schema, table, target⟩ := parts
      obtain ⟨rest, begins⟩ := (read_reference_iff _ _ _ _).mp read
      constructor
      · intro made
        exact ⟨schema, table, target, rest, begins, (Except.ok.inj made).symm⟩
      · rintro ⟨other, others, goal, last, again, rfl⟩
        obtain ⟨rfl, rfl, rfl⟩ : schema = other ∧ table = others ∧ target = goal := by
          simpa using read.symm.trans ((read_reference_iff _ _ _ _).mpr ⟨last, again⟩)
        rfl

theorem foreign_key_error (column reference : String) (fault : TableFault) (failed : foreignKey column reference = .error fault)
    (schema table target rest : String) : ¬ Begins reference schema table target rest := by
  intro begins
  cases failed.symm.trans ((foreign_key_ok column reference _).mpr ⟨schema, table, target, rest, begins, rfl⟩)

theorem constraints_hold (model : ModelSpec) (items : List Statement.Pieces) (built : constraints model = .ok items)
    (key : String × String) (declared : key ∈ model.foreignKeys) : ∃ item ∈ items, foreignKey key.1 key.2 = .ok item := by
  rw [constraints_keys] at built
  cases foreign : model.foreignKeys.mapM fun key => foreignKey key.1 key.2 with
  | error fault =>
      rw [foreign] at built
      cases built
  | ok rows =>
      obtain ⟨item, among, made⟩ := mapM_member _ _ rows foreign key declared
      rw [foreign] at built
      have whole : behindPrimary model rows = items := Except.ok.inj built
      exact ⟨item, whole ▸ behind_primary model rows item among, made⟩

theorem constraints_fail (model : ModelSpec) (fault : TableFault) (failed : constraints model = .error fault) :
    ∃ key ∈ model.foreignKeys, foreignKey key.1 key.2 = .error fault := by
  rw [constraints_keys] at failed
  cases foreign : model.foreignKeys.mapM fun key => foreignKey key.1 key.2 with
  | error other =>
      rw [foreign] at failed
      rw [← Except.error.inj failed]
      exact mapM_error _ _ other foreign
  | ok rows =>
      rw [foreign] at failed
      cases failed

-- Why no table is made: it has no name, or a key refers to nothing.
def Refused (model : ModelSpec) : Prop :=
  model.table.filter (· ≠ "") = none ∨
    ∃ key ∈ model.foreignKeys, ∀ schema table target rest, ¬ Begins key.2 schema table target rest

theorem refused_iff (model : ModelSpec) : (∃ fault, createTable model = .error fault) ↔ Refused model := by
  constructor
  · rintro ⟨fault, failed⟩
    cases present : model.table.filter (· ≠ "") with
    | none => exact .inl present
    | some table =>
        cases built : constraints model with
        | ok items =>
            rw [createTable, present, built] at failed
            cases failed
        | error other =>
            obtain ⟨key, declared, wrong⟩ := constraints_fail model other built
            exact .inr ⟨key, declared, foreign_key_error key.1 key.2 other wrong⟩
  · rintro (nameless | ⟨key, declared, astray⟩)
    · exact ⟨.noTable model.name, by rw [createTable, nameless]⟩
    · cases made : createTable model with
      | error fault => exact ⟨fault, rfl⟩
      | ok statement =>
          obtain ⟨items, built, -⟩ := constraint_stands model statement made
          obtain ⟨item, -, read⟩ := constraints_hold model items built key declared
          obtain ⟨schema, table, target, rest, begins, -⟩ := (foreign_key_ok _ _ _).mp read
          exact absurd begins (astray schema table target rest)

-- A declared reference ends in a refusal, or in a constraint of the statement that the reference can be read back from.
def Honoured (model : ModelSpec) (column reference : String) : Prop :=
  (∃ fault, createTable model = .error fault) ∨
    ∃ statement schema table target, createTable model = .ok statement ∧
      foreignKey column reference = .ok (constraintOn column schema table target) ∧
      constraintOn column schema table target <:+: statement ∧ reference = referenceText schema table target

-- Only the beginning of a reference is kept: it is honoured where no table is made, or where nothing comes behind.
theorem reference_honoured_iff (model : ModelSpec) (column reference : String)
    (declared : (column, reference) ∈ model.foreignKeys) :
    Honoured model column reference ↔ Refused model ∨ ∃ schema table target, Begins reference schema table target "" := by
  constructor
  · rintro (failed | ⟨statement, schema, table, target, -, read, -, text⟩)
    · exact .inl ((refused_iff model).mp failed)
    · obtain ⟨otherSchema, otherTable, otherTarget, rest, begins, same⟩ := (foreign_key_ok _ _ _).mp read
      obtain ⟨rfl, rfl, rfl⟩ := constraint_same column schema table target otherSchema otherTable otherTarget same
      have nothing : rest = "" := by
        have whole := congrArg String.toList (begins.text.symm.trans text)
        simpa using whole
      exact .inr ⟨schema, table, target, nothing ▸ begins⟩
  · rintro (refused | ⟨schema, table, target, begins⟩)
    · exact .inl ((refused_iff model).mpr refused)
    · cases made : createTable model with
      | error fault => exact .inl ⟨fault, made⟩
      | ok statement =>
          have read := (foreign_key_ok column reference _).mpr ⟨schema, table, target, "", begins, rfl⟩
          obtain ⟨items, built, stand⟩ := constraint_stands model statement made
          obtain ⟨item, among, found⟩ := constraints_hold model items built (column, reference) declared
          have same : item = constraintOn column schema table target := Except.ok.inj (found.symm.trans read)
          have text : reference = referenceText schema table target := by rw [begins.text, String.append_empty]
          exact .inr ⟨statement, schema, table, target, made, read, same ▸ stand item among, text⟩

def owned (reference : String) : ModelSpec :=
  { name := "Cart", fields := [{ name := "owner", shape := .int }], table := some "carts", schema := "app",
    foreignKeys := [("owner", reference)] }

theorem plain_reference_honoured :
    ("owner", "app.users(id)") ∈ (owned "app.users(id)").foreignKeys ∧
      Honoured (owned "app.users(id)") "owner" "app.users(id)" := by
  have declared : ("owner", "app.users(id)") ∈ (owned "app.users(id)").foreignKeys := List.mem_singleton.mpr rfl
  have word : ∀ text ∈ ["app", "users", "id"], IsWord text := by decide
  have begins : Begins "app.users(id)" "app" "users" "id" "" :=
    ⟨word _ (by decide), word _ (by decide), word _ (by decide), by decide⟩
  exact ⟨declared, (reference_honoured_iff _ _ _ declared).mpr (.inr ⟨"app", "users", "id", begins⟩)⟩

-- What is to happen when a user goes is given up, and another thing happens.
theorem action_not_honoured :
    ¬ ∀ (model : ModelSpec) (column reference : String), (column, reference) ∈ model.foreignKeys →
      Honoured model column reference := by
  intro honoured
  have read : foreignKey "owner" "app.users(id) ON DELETE SET NULL" = .ok (constraintOn "owner" "app" "users" "id") := by
    decide +kernel
  have made : (createTable (owned "app.users(id) ON DELETE SET NULL")).isOk = true := by decide +kernel
  rcases honoured (owned "app.users(id) ON DELETE SET NULL") "owner" _ (List.mem_singleton.mpr rfl) with
    ⟨fault, failed⟩ | ⟨statement, schema, table, target, -, found, -, text⟩
  · rw [failed] at made
    cases made
  · obtain ⟨rfl, rfl, rfl⟩ := constraint_same _ _ _ _ _ _ _ (Except.ok.inj (read.symm.trans found))
    exact absurd text (by decide)

end Schematic.Ddl
