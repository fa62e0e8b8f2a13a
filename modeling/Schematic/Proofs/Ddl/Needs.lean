import Schematic.Ddl.Catalog
import Schematic.Proofs.Ddl.Execution
import Schematic.Proofs.Ddl.Tables
import Schematic.Proofs.Related

set_option autoImplicit false

namespace Schematic.Ddl

theorem opening_neutral : Neutral " (" := ⟨fun _ => rfl, fun _ _ => rfl⟩

theorem comma_text_neutral : Neutral ", " := ⟨fun _ => rfl, fun _ _ => rfl⟩

theorem needed_items (lead : String) (neutral : Neutral lead) (items : List Statement.Pieces) :
    needed (.raw lead :: commaSeparated items) = items.flatMap fun item => needed (.raw ", " :: item) := by
  induction items generalizing lead with
  | nil => rfl
  | cons item rest ih =>
      cases rest with
      | nil =>
          rw [commaSeparated, List.flatMap_cons, List.flatMap_nil, List.append_nil]
          exact needed_neutral lead ", " neutral comma_text_neutral item
      | cons next rest =>
          have whole : .raw lead :: commaSeparated (item :: next :: rest) =
              (.raw lead :: item) ++ .raw ", " :: commaSeparated (next :: rest) := rfl
          rw [whole, needed_append _ _ ", " (by decide), ih ", " comma_text_neutral]
          rw [needed_neutral lead ", " neutral comma_text_neutral item]
          rfl

theorem needed_names (lead : String) (neutral : Neutral lead) (columns : List String) :
    needed (.raw lead :: names columns) = [] := by
  rw [names, needed_items lead neutral, List.flatMap_eq_nil_iff]
  intro item member
  obtain ⟨column, -, rfl⟩ := List.mem_map.mp member
  rfl

theorem needed_enum (schema name : String) (values : List String) : needed (createEnum schema name values) = [.schema schema] := by
  have whole : createEnum schema name values = [.raw ("DO $$ BEGIN IF NOT EXISTS (SELECT 1 FROM pg_type t " ++
      "JOIN pg_namespace n ON n.oid = t.typnamespace " ++ "WHERE t.typname = "), .literal (.text name),
      .raw " AND n.nspname = ", .literal (.text schema), .raw ") THEN CREATE TYPE ", .name schema, .raw ".", .name name] ++
        .raw " AS ENUM (" :: (commaSeparated (values.map fun value => [.literal (.text value)]) ++
          .raw "); END IF; END $$" :: []) := by
    simp [createEnum, qualified]
  have items : needed (.raw " AS ENUM (" :: commaSeparated (values.map fun value => [.literal (.text value)])) = [] := by
    rw [needed_items _ ⟨fun _ => rfl, fun _ _ => rfl⟩, List.flatMap_eq_nil_iff]
    intro item member
    obtain ⟨value, -, rfl⟩ := List.mem_map.mp member
    rfl
  rw [whole, needed_append _ _ " AS ENUM (" (by decide), ← List.cons_append, needed_append _ _ _ (by decide), items]
  rfl

def indexHead (unique : Bool) : String := if unique then "CREATE UNIQUE INDEX IF NOT EXISTS " else "CREATE INDEX IF NOT EXISTS "

def indexRows (predicate : Option String) : Statement.Pieces :=
  match predicate.filter (· ≠ "") with
  | some predicate => [.raw " WHERE ", .raw predicate]
  | none => []

theorem needed_index (schema table name : String) (columns : List String) (unique : Bool) (predicate : Option String)
    (named : name ≠ "") :
    needed (createIndex schema table columns (some name) unique predicate) = [.table schema table] ∧
      made (createIndex schema table columns (some name) unique predicate) = [.index schema name] := by
  have called : ((some name).filter (· ≠ "")).getD ("_".intercalate ("idx" :: table :: columns)) = name := by
    simp [Option.filter, named]
  constructor
  · have whole : createIndex schema table columns (some name) unique predicate =
        [.raw (indexHead unique), .name name, .raw " ON ", .name schema, .raw ".", .name table] ++
          .raw " (" :: (names columns ++ .raw ")" :: indexRows predicate) := by
      rw [createIndex, called]
      rfl
    rw [whole, needed_append _ _ " (" (by decide), ← List.cons_append, needed_append _ _ ")" (by decide),
      needed_names " (" opening_neutral, indexRows]
    cases unique <;> cases predicate.filter (· ≠ "") <;> rfl
  · rw [createIndex, called]
    cases unique <;> rfl

theorem needed_comment (schema table : String) (comment : Option String) :
    needed (commentOnTable schema table comment) = [.table schema table] ∧ made (commentOnTable schema table comment) = [] :=
  ⟨rfl, rfl⟩

theorem needed_function (schema : String) :
    needed (touchFunction schema) = [.schema schema] ∧ made (touchFunction schema) = [.function schema touchFunctionName] :=
  ⟨rfl, rfl⟩

def triggerName (table : String) : String := "trg_" ++ table ++ "_touch"

theorem needed_trigger (schema table : String) (statement : Statement.Pieces) (member : statement ∈ touchTrigger schema table) :
    ∀ object ∈ needed statement, object = .table schema table ∨ object = .function schema touchFunctionName := by
  have forms : statement = [.raw "DROP TRIGGER IF EXISTS ", .name (triggerName table), .raw " ON ", .name schema, .raw ".",
        .name table] ∨ statement = [.raw "CREATE TRIGGER ", .name (triggerName table), .raw " BEFORE UPDATE ON ", .name schema,
        .raw ".", .name table, .raw " FOR EACH ROW EXECUTE FUNCTION ", .name schema, .raw ".", .name touchFunctionName,
        .raw "()"] := by
    simpa [touchTrigger, qualified, triggerName] using member
  rcases forms with rfl | rfl
  · intro object member
    exact .inl (List.mem_singleton.mp member)
  · intro object member
    have among : object ∈ [.table schema table, .function schema touchFunctionName] := member
    simpa using among

def columnNeeds (model : ModelSpec) (field : FieldSpec) : List DbObject :=
  if field.name ∈ model.serialColumns then []
  else
    (match columnType field with
      | .plain _ => []
      | .enum name _ => [.type model.schema name]) ++
    match field.default with
    | .word _ => [.type model.schema (columnType field).name]
    | _ => []

def referenceNeeds (reference : String) : List DbObject :=
  match readReference? reference with
  | some (schema, table, _) => [.table schema table]
  | none => []

def Detached : Statement.Pieces → Prop
  | [] => True
  | .raw text :: _ => text ≠ "."
  | _ => False

theorem fixed_detached (text : String) (rest : Statement.Pieces) (apart : text ≠ ".") : Detached (.raw text :: rest) := apart

theorem needed_join (first second : Statement.Pieces) (detached : Detached second) :
    needed (first ++ second) = needed first ++ needed second := by
  match second with
  | [] => rw [List.append_nil, needed, List.append_nil]
  | .raw text :: rest => exact needed_append first rest text detached
  | .name _ :: _ | .literal _ :: _ => exact detached.elim

theorem needed_default (schema : String) (field : FieldSpec) (type : ColumnType) :
    Detached (columnDefault schema field type) ∧ needed (columnDefault schema field type) =
      match field.default with
      | .word _ => [.type schema type.name]
      | _ => [] := by
  have derived : Detached (derivedDefault field type) ∧ needed (derivedDefault field type) = [] := by
    rw [derivedDefault]
    split
    · exact ⟨fixed_detached _ _ (by decide), rfl⟩
    · split
      · split
        · refine ⟨fixed_detached _ _ ?_, rfl⟩
          rw [emptyContainer]
          split <;> decide
        · exact ⟨trivial, rfl⟩
      · exact ⟨trivial, rfl⟩
  rw [columnDefault]
  cases field.default with
  | word value => exact ⟨fixed_detached _ _ (by decide), rfl⟩
  | required | made => exact derived
  | value given =>
      cases given with
      | null | loose _ | arr _ | obj _ => exact derived
      | bool _ | str _ | int _ | float _ => exact ⟨fixed_detached _ _ (by decide), rfl⟩

theorem needed_presence (demanded : Bool) : Detached (if demanded then [.raw " NOT NULL"] else []) ∧
    needed (if demanded then [.raw " NOT NULL"] else []) = [] := by
  cases demanded with
  | false => exact ⟨trivial, rfl⟩
  | true => exact ⟨fixed_detached _ _ (by decide), rfl⟩

theorem needed_column (model : ModelSpec) (field : FieldSpec) :
    needed (.raw ", " :: column model field) = columnNeeds model field := by
  obtain ⟨apart, default⟩ := needed_default model.schema field (columnType field)
  obtain ⟨detached, presence⟩ := needed_presence (!field.isOptional && !model.primaryKey.contains field.name)
  rw [column, columnNeeds]
  split
  · rfl
  · rw [← List.cons_append, ← List.cons_append, needed_join _ _ apart, default, needed_join _ _ detached, presence]
    cases columnType field <;> rfl

def Refers (key : String × String) (item : Statement.Pieces) : Prop := needed (.raw ", " :: item) = referenceNeeds key.2

theorem needed_foreign (key : String × String) (read : (readReference? key.2).isSome = true) :
    ∃ item, foreignKey key.1 key.2 = .ok item ∧ Refers key item := by
  obtain ⟨⟨schema, table, target⟩, known⟩ := Option.isSome_iff_exists.mp read
  rw [foreignKey, known]
  refine ⟨_, rfl, ?_⟩
  rw [Refers, referenceNeeds, known]
  rfl

theorem needed_constraints (model : ModelSpec) (read : ∀ key ∈ model.foreignKeys, (readReference? key.2).isSome = true) :
    ∃ items, constraints model = .ok items ∧
      (items.flatMap fun item => needed (.raw ", " :: item)) = model.foreignKeys.flatMap fun key => referenceNeeds key.2 := by
  obtain ⟨foreign, built, related⟩ := mapM_related (fun key : String × String => foreignKey key.1 key.2) Refers
    model.foreignKeys fun key member => needed_foreign key (read key member)
  have whole := related_flatMap _ _ _ related (fun key => referenceNeeds key.2) (fun item => needed (.raw ", " :: item))
    fun _ _ => id
  have parts : constraints model = .ok (behindPrimary model foreign) := by
    rw [constraints_keys, built]
    rfl
  refine ⟨_, parts, ?_⟩
  rw [behindPrimary]
  split
  · exact whole
  · have primary : needed (.raw ", " :: (.raw "PRIMARY KEY (" :: names model.primaryKey ++ [.raw ")"])) = [] := by
      have key := needed_names "PRIMARY KEY (" ⟨fun _ => rfl, fun _ _ => rfl⟩ model.primaryKey
      rw [← List.cons_append, needed_append _ _ ")" (by decide), needed, key]
      rfl
    rw [List.flatMap_cons, primary, whole, List.nil_append]

def tableName (model : ModelSpec) : String := model.table.getD ""

def tableNeeds (model : ModelSpec) : List DbObject :=
  .schema model.schema :: (model.fields.flatMap (columnNeeds model) ++
    model.foreignKeys.flatMap fun key => referenceNeeds key.2)

theorem needed_table (model : ModelSpec) (named : (model.table.filter (· ≠ "")).isSome = true)
    (read : ∀ key ∈ model.foreignKeys, (readReference? key.2).isSome = true) :
    ∃ statement, createTable model = .ok statement ∧ needed statement = tableNeeds model ∧
      made statement = [.table model.schema (tableName model)] := by
  obtain ⟨items, built, foreign⟩ := needed_constraints model read
  obtain ⟨table, present⟩ := Option.isSome_iff_exists.mp named
  have called : tableName model = table := by
    rw [tableName, (Option.filter_eq_some_iff.mp present).1]
    rfl
  have form : createTable model = .ok ([.raw "CREATE TABLE IF NOT EXISTS ", .name model.schema, .raw ".", .name table] ++
      .raw " (" :: (commaSeparated (model.fields.map (column model) ++ items) ++ .raw ")" :: [])) := by
    rw [createTable, present, built]
    simp [qualified, Except.map]
  refine ⟨_, form, ?_, by rw [called]; rfl⟩
  rw [needed_append _ _ " (" (by decide), ← List.cons_append, needed_append _ _ ")" (by decide),
    needed_items " (" opening_neutral, List.flatMap_append, foreign, List.flatMap_map, tableNeeds]
  have columns : (model.fields.flatMap fun field => needed (.raw ", " :: column model field)) =
      model.fields.flatMap (columnNeeds model) := by
    congr 1
    exact funext (needed_column model)
  rw [columns]
  simp [needed, neededAt, wanted, wantedAlone]

end Schematic.Ddl
