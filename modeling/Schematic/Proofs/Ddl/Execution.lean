import Schematic.Ddl.Statement

set_option autoImplicit false

namespace Schematic.Ddl

-- What a database has: schemas, and what stands in them. A trigger stands where its table does. A name that comes where
-- no name is known to come is that of nothing.
inductive DbObject where
  | schema (name : String)
  | type (schema name : String)
  | table (schema name : String)
  | function (schema name : String)
  | index (schema name : String)
  | trigger (schema name : String)
  | unknown (schema name : String)
deriving Repr, DecidableEq

def DbObject.home : DbObject → String
  | schema name => name
  | type home _ | table home _ | function home _ | index home _ | trigger home _ | unknown home _ => home

def wanted (lead schema name : String) : DbObject :=
  match lead with
  | "CREATE TABLE IF NOT EXISTS " | "CREATE OR REPLACE FUNCTION " | ") THEN CREATE TYPE " => .schema schema
  | "COMMENT ON TABLE " | " ON " | " BEFORE UPDATE ON " | ") REFERENCES " => .table schema name
  | " " | "::" => .type schema name
  | " FOR EACH ROW EXECUTE FUNCTION " => .function schema name
  | _ => .unknown schema name

def wantedAlone (lead name : String) : List DbObject :=
  match lead with
  | "COMMENT ON SCHEMA " | "SET search_path TO " => [.schema name]
  | _ => []

def neededAt : Statement.Pieces → List DbObject
  | .raw lead :: .name first :: .raw link :: .name second :: _ =>
      if link = "." then [wanted lead first second] else wantedAlone lead first
  | .raw lead :: .name first :: _ => wantedAlone lead first
  | _ => []

-- What a statement refers to, wherever in it the names stand.
def needed : Statement.Pieces → List DbObject
  | [] => []
  | piece :: rest => neededAt (piece :: rest) ++ needed rest

def made : Statement.Pieces → List DbObject
  | [.raw lead, .name first] => if lead = "CREATE SCHEMA IF NOT EXISTS " then [.schema first] else []
  | .raw lead :: .name first :: .raw link :: .name second :: _ =>
      match lead, link with
      | "CREATE TABLE IF NOT EXISTS ", "." => [.table first second]
      | "CREATE OR REPLACE FUNCTION ", "." => [.function first second]
      | "CREATE INDEX IF NOT EXISTS ", " ON " | "CREATE UNIQUE INDEX IF NOT EXISTS ", " ON " => [.index second first]
      | "CREATE TRIGGER ", " BEFORE UPDATE ON " => [.trigger second first]
      | _, _ => []
  | .raw _ :: .literal _ :: .raw _ :: .literal _ :: .raw lead :: .name first :: .raw link :: .name second :: _ =>
      if lead = ") THEN CREATE TYPE " ∧ link = "." then [.type first second] else []
  | _ => []

def execute (there : List DbObject) (statement : Statement.Pieces) : Option (List DbObject) :=
  if ∀ object ∈ needed statement, object ∈ there then some (there ++ made statement) else none

def executeAll (there : List DbObject) (statements : List Statement.Pieces) : Option (List DbObject) :=
  statements.foldlM execute there

-- All that a statement refers to was made by one before it, or was there from the start.
def Founded (there : List DbObject) (statements : List Statement.Pieces) : Prop :=
  ∀ earlier statement later, statements = earlier ++ statement :: later →
    ∀ object ∈ needed statement, object ∈ there ++ earlier.flatMap made

theorem founded_nil (there : List DbObject) : Founded there [] := by
  intro earlier statement later split
  simp at split

theorem founded_cons (there : List DbObject) (statement : Statement.Pieces) (rest : List Statement.Pieces) :
    Founded there (statement :: rest) ↔
      (∀ object ∈ needed statement, object ∈ there) ∧ Founded (there ++ made statement) rest := by
  constructor
  · intro founded
    refine ⟨fun object member => ?_, fun earlier other later split object member => ?_⟩
    · have here := founded [] statement rest rfl object member
      rwa [List.flatMap_nil, List.append_nil] at here
    · have later := founded (statement :: earlier) other later (by rw [split]; rfl) object member
      rwa [List.flatMap_cons, ← List.append_assoc] at later
  · rintro ⟨here, founded⟩ earlier other later split object member
    cases earlier with
    | nil =>
        obtain ⟨rfl, rfl⟩ := List.cons.inj split
        exact List.mem_append_left _ (here object member)
    | cons first earlier =>
        obtain ⟨rfl, rfl⟩ := List.cons.inj split
        rw [List.flatMap_cons, ← List.append_assoc]
        exact founded earlier other later rfl object member

theorem founded_append (there : List DbObject) (first second : List Statement.Pieces) :
    Founded there (first ++ second) ↔ Founded there first ∧ Founded (there ++ first.flatMap made) second := by
  induction first generalizing there with
  | nil =>
      rw [List.nil_append, List.flatMap_nil, List.append_nil]
      exact ⟨fun founded => ⟨founded_nil there, founded⟩, And.right⟩
  | cons statement first ih =>
      rw [List.cons_append, founded_cons, founded_cons, ih, List.flatMap_cons, List.append_assoc, and_assoc]

theorem founded_all (there : List DbObject) (statements : List Statement.Pieces)
    (ready : ∀ statement ∈ statements, ∀ object ∈ needed statement, object ∈ there) : Founded there statements := by
  intro earlier statement later split object member
  exact List.mem_append_left _ (ready statement (by rw [split]; simp) object member)

theorem execute_all_iff (there final : List DbObject) (statements : List Statement.Pieces) :
    executeAll there statements = some final ↔ Founded there statements ∧ final = there ++ statements.flatMap made := by
  induction statements generalizing there with
  | nil =>
      rw [executeAll, List.foldlM_nil, List.flatMap_nil, List.append_nil]
      exact ⟨fun ended => ⟨founded_nil there, (Option.some.inj ended).symm⟩, fun ended => congrArg some ended.2.symm⟩
  | cons statement rest ih =>
      rw [founded_cons, List.flatMap_cons, ← List.append_assoc, and_assoc, ← ih]
      rw [executeAll, List.foldlM_cons, execute]
      split
      · rename_i ready
        exact ⟨fun ended => ⟨ready, ended⟩, And.right⟩
      · rename_i missing
        exact ⟨fun ended => (by cases ended), fun ended => absurd ended.1 missing⟩

theorem runs_iff (statements : List Statement.Pieces) :
    (∃ final, executeAll [] statements = some final) ↔ Founded [] statements :=
  ⟨fun ⟨final, ended⟩ => ((execute_all_iff [] final statements).mp ended).1,
    fun founded => ⟨_, (execute_all_iff [] _ statements).mpr ⟨founded, rfl⟩⟩⟩

-- A fixed text starts anew, unless it stands between the two parts of one name.
theorem needed_append (first second : Statement.Pieces) (text : String) (apart : text ≠ ".") :
    needed (first ++ .raw text :: second) = needed first ++ needed (.raw text :: second) := by
  induction first with
  | nil => rfl
  | cons piece first ih =>
      have here : neededAt (piece :: (first ++ .raw text :: second)) = neededAt (piece :: first) := by
        match piece, first with
        | .raw lead, [] | .name _, _ | .literal _, _ | .raw lead, .raw _ :: _ | .raw lead, .literal _ :: _ => rfl
        | .raw lead, [.name name] =>
            cases second with
            | nil => rfl
            | cons next second =>
                cases next with
                | name other => exact if_neg apart
                | raw _ | literal _ => rfl
        | .raw lead, .name name :: .raw _ :: [] | .raw lead, .name name :: .raw _ :: .raw _ :: _
        | .raw lead, .name name :: .raw _ :: .literal _ :: _ | .raw lead, .name name :: .raw _ :: .name _ :: _
        | .raw lead, .name name :: .name _ :: _ | .raw lead, .name name :: .literal _ :: _ => rfl
      calc needed (piece :: (first ++ .raw text :: second))
          = neededAt (piece :: first) ++ (needed first ++ needed (.raw text :: second)) := by rw [needed, here, ih]
        _ = needed (piece :: first) ++ needed (.raw text :: second) := (List.append_assoc _ _ _).symm

def Neutral (lead : String) : Prop :=
  (∀ name, wantedAlone lead name = []) ∧ ∀ schema name, wanted lead schema name = .unknown schema name

theorem needed_neutral (lead other : String) (neutral : Neutral lead) (same : Neutral other) (pieces : Statement.Pieces) :
    needed (.raw lead :: pieces) = needed (.raw other :: pieces) := by
  have here : neededAt (.raw lead :: pieces) = neededAt (.raw other :: pieces) := by
    match pieces with
    | [] | .raw _ :: _ | .literal _ :: _ => rfl
    | .name first :: .raw link :: .name second :: _ =>
        rw [neededAt, neededAt, neutral.1, neutral.2, same.1, same.2]
    | [.name first] | .name first :: .name _ :: _ | .name first :: .literal _ :: _ | .name first :: .raw _ :: []
    | .name first :: .raw _ :: .raw _ :: _ | .name first :: .raw _ :: .literal _ :: _ =>
        exact (neutral.1 first).trans (same.1 first).symm
  rw [needed, needed, here]

end Schematic.Ddl
