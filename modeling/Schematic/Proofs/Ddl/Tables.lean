import Schematic.Ddl.Model

set_option autoImplicit false

namespace Schematic.Ddl

theorem commas_cons_cons (first second : Statement.Pieces) (rest : List Statement.Pieces) :
    commaSeparated (first :: second :: rest) = first ++ .raw ", " :: commaSeparated (second :: rest) := rfl

theorem commas_cancel (before after : List Statement.Pieces) (first second : Statement.Pieces) :
    commaSeparated (before ++ first :: after) = commaSeparated (before ++ second :: after) ↔ first = second := by
  induction before with
  | nil =>
      cases after with
      | nil => exact Iff.rfl
      | cons next after =>
          rw [List.nil_append, List.nil_append, commas_cons_cons, commas_cons_cons]
          exact List.append_left_inj _
  | cons item before ih =>
      have parts : ∀ middle, commaSeparated (item :: before ++ middle :: after) =
          item ++ .raw ", " :: commaSeparated (before ++ middle :: after) := by
        intro middle
        cases before with
        | nil => rfl
        | cons next before => rfl
      rw [parts, parts, List.append_right_inj, List.cons.injEq, ih]
      exact and_iff_right rfl

theorem item_infix (items : List Statement.Pieces) (item : Statement.Pieces) (member : item ∈ items) :
    item <:+: commaSeparated items := by
  induction items with
  | nil => cases member
  | cons first items ih =>
      cases items with
      | nil =>
          obtain rfl := List.mem_singleton.mp member
          exact List.infix_rfl
      | cons second items =>
          rw [commas_cons_cons]
          rcases List.mem_cons.mp member with rfl | later
          · exact (List.prefix_append _ _).isInfix
          · have behind := (List.suffix_cons (Piece.raw ", ") (commaSeparated (second :: items))).isInfix
            exact (ih later).trans (behind.trans (List.suffix_append first _).isInfix)

def behindPrimary (model : ModelSpec) (items : List Statement.Pieces) : List Statement.Pieces :=
  if model.primaryKey = [] then items else (.raw "PRIMARY KEY (" :: names model.primaryKey ++ [.raw ")"]) :: items

theorem behind_primary (model : ModelSpec) (items : List Statement.Pieces) (item : Statement.Pieces) (member : item ∈ items) :
    item ∈ behindPrimary model items := by
  rw [behindPrimary]
  by_cases keyless : model.primaryKey = []
  · rw [if_pos keyless]
    exact member
  · rw [if_neg keyless]
    exact List.mem_cons_of_mem _ member

theorem constraints_keys (model : ModelSpec) :
    constraints model = (model.foreignKeys.mapM fun key => foreignKey key.1 key.2).map (behindPrimary model) := by
  have parts : constraints model = (model.foreignKeys.mapM fun key => foreignKey key.1 key.2) >>= fun items =>
      if model.primaryKey = [] then pure items
      else pure ((.raw "PRIMARY KEY (" :: names model.primaryKey ++ [.raw ")"]) :: items) := rfl
  rw [parts]
  cases model.foreignKeys.mapM fun key => foreignKey key.1 key.2 with
  | error fault => rfl
  | ok items => exact (apply_ite Except.ok _ _ _).symm

def tableWith (model : ModelSpec) (columns : List Statement.Pieces) : Except TableFault Statement.Pieces :=
  match model.table.filter (· ≠ "") with
  | none => .error (.noTable model.name)
  | some table =>
      (constraints model).map fun constraints =>
        .raw "CREATE TABLE IF NOT EXISTS " :: qualified model.schema table ++
          .raw " (" :: commaSeparated (columns ++ constraints) ++ [.raw ")"]

theorem create_table_columns (model : ModelSpec) : createTable model = tableWith model (model.fields.map (column model)) := rfl

theorem table_with_cancel (model : ModelSpec) (before after : List Statement.Pieces) (first second : Statement.Pieces) :
    tableWith model (before ++ first :: after) = tableWith model (before ++ second :: after) ↔
      (∃ fault, createTable model = .error fault) ∨ first = second := by
  rw [create_table_columns, tableWith, tableWith, tableWith]
  cases model.table.filter (· ≠ "") with
  | none => simp
  | some table =>
      cases constraints model with
      | error fault => simp [Except.map]
      | ok constraints =>
          simp only [Except.map, List.append_assoc, List.cons_append, Except.ok.injEq, reduceCtorEq, exists_false, false_or]
          rw [← commas_cancel before (after ++ constraints) first second]
          simp

theorem constraint_stands (model : ModelSpec) (statement : Statement.Pieces) (made : createTable model = .ok statement) :
    ∃ items, constraints model = .ok items ∧ ∀ item ∈ items, item <:+: statement := by
  rw [createTable] at made
  cases present : model.table.filter (· ≠ "") with
  | none =>
      rw [present] at made
      cases made
  | some table =>
      cases built : constraints model with
      | error fault =>
          rw [present, built] at made
          cases made
      | ok items =>
          rw [present, built] at made
          refine ⟨items, rfl, fun item member => ?_⟩
          have inside := item_infix (model.fields.map (column model) ++ items) item (List.mem_append_right _ member)
          rw [← Except.ok.inj made]
          exact inside.trans
            ⟨.raw "CREATE TABLE IF NOT EXISTS " :: qualified model.schema table ++ [.raw " ("], [.raw ")"], by simp⟩

end Schematic.Ddl
