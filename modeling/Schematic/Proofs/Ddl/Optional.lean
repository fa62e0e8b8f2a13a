import Schematic.Proofs.Ddl.Tables

set_option autoImplicit false

namespace Schematic

def FieldSpec.optional (field : FieldSpec) : FieldSpec := { field with isOptional := true }

namespace Ddl

-- A column that may be empty, and is else as it was.
def loosened (column : Statement.Pieces) : Statement.Pieces := column.erase (.raw " NOT NULL")

def OnlyLoosens (model : ModelSpec) (before : List FieldSpec) (field : FieldSpec) (after : List FieldSpec) : Prop :=
  createTable { model with fields := before ++ field.optional :: after } =
    tableWith model (before.map (column model) ++ loosened (column model field) :: after.map (column model))

-- What is stored in another way once the field may be empty: one of several shapes of which the first is no document, or a
-- shape with remarks that is none.
inductive Opened (field : FieldSpec) : Prop where
  | choice (first : FieldShape) (rest : List FieldShape) (shape : field.shape = .either (first :: rest))
      (differs : shapeType first field.maxLength ≠ .plain "JSONB") : Opened field
  | remarks (inner : FieldShape) (limit : Option Nat) (shape : field.shape = .annotated inner limit)
      (differs : shapeType inner (field.maxLength.or limit) ≠ .plain "JSONB") : Opened field

-- A list that declares its items and is made anew for each record.
def Emptied (field : FieldSpec) : Prop :=
  (storedShape field).1 = .list true ∧ field.default = .made ∧ field.name ∉ timestampColumns

def typePieces (schema : String) : ColumnType → Statement.Pieces
  | .plain text => [.raw text]
  | .enum name _ => qualified schema name

theorem type_kept_iff (field : FieldSpec) (demanded : field.isOptional = false) :
    columnType field.optional = columnType field ↔ ¬ Opened field := by
  rw [columnType, columnType, storedShape, storedShape, FieldSpec.optional, demanded]
  cases shape : field.shape with
  | either shapes =>
      cases shapes with
      | nil => exact iff_of_true rfl fun opened => by cases opened <;> simp_all
      | cons first rest =>
          show shapeType first field.maxLength = .plain "JSONB" ↔ _
          constructor
          · intro same opened
            cases opened with
            | choice head tail again differs =>
                cases shape.symm.trans again
                exact differs same
            | remarks inner limit again => cases shape.symm.trans again
          · exact fun closed => Decidable.byContradiction fun differs => closed (.choice first rest shape differs)
  | annotated inner limit =>
      show .plain "JSONB" = shapeType inner (field.maxLength.or limit) ↔ _
      constructor
      · intro same opened
        cases opened with
        | choice first rest again => cases shape.symm.trans again
        | remarks within length again differs =>
            cases shape.symm.trans again
            exact differs same.symm
      · exact fun closed => Decidable.byContradiction fun differs => closed (.remarks inner limit shape (Ne.symm differs))
  | _ =>
      refine iff_of_true rfl fun opened => ?_
      cases opened with
      | choice first rest again => cases shape.symm.trans again
      | remarks inner limit again => cases shape.symm.trans again

theorem opened_document (field : FieldSpec) (demanded : field.isOptional = false) (opens : Opened field) :
    columnType field = .plain "JSONB" ∨ columnType field.optional = .plain "JSONB" := by
  rw [columnType, columnType, storedShape, storedShape, FieldSpec.optional, demanded]
  cases opens with
  | choice first rest shape =>
      rw [shape]
      exact .inl rfl
  | remarks inner limit shape =>
      rw [shape]
      exact .inr rfl

theorem container_kept_iff (field : FieldSpec) (demanded : field.isOptional = false) :
    emptyContainer field.optional = emptyContainer field ↔ (storedShape field).1 ≠ .list true := by
  rw [emptyContainer, emptyContainer, FieldSpec.optional, demanded]
  cases (storedShape field).1 with
  | list ofItems => cases ofItems <;> simp
  | _ => simp

theorem list_is_document (field : FieldSpec) (shape : (storedShape field).1 = .list true) :
    columnType field = .plain "JSONB" := by
  rw [columnType, shape]
  rfl

theorem derived_unmade (field : FieldSpec) (type : ColumnType) (unmade : field.default ≠ .made) :
    derivedDefault field type = if field.name ∈ timestampColumns then [.raw " DEFAULT NOW()"] else [] := by
  rw [derivedDefault]
  cases default : field.default with
  | made => exact absurd default unmade
  | _ => rfl

theorem default_unmade (schema : String) (field : FieldSpec) (type : ColumnType) (unmade : field.default ≠ .made) :
    columnDefault schema field.optional type = columnDefault schema field type := by
  rw [columnDefault, columnDefault, derived_unmade field.optional type unmade, derived_unmade field type unmade]
  rfl

theorem default_made (schema : String) (field : FieldSpec) (type : ColumnType) (made : field.default = .made) :
    columnDefault schema field type =
      if field.name ∈ timestampColumns then [.raw " DEFAULT NOW()"]
      else if type.name = "JSONB" then [.raw (" DEFAULT " ++ emptyContainer field)] else [] := by
  rw [columnDefault, made, derivedDefault, made]

theorem default_kept_iff (schema : String) (field : FieldSpec) (demanded : field.isOptional = false) :
    columnDefault schema field.optional (columnType field) = columnDefault schema field (columnType field) ↔ ¬ Emptied field := by
  by_cases made : field.default = .made
  · rw [default_made schema field.optional _ made, default_made schema field _ made]
    by_cases stamped : field.name ∈ timestampColumns
    · rw [if_pos stamped, if_pos (show field.optional.name ∈ timestampColumns from stamped)]
      exact ⟨fun _ empties => empties.2.2 stamped, fun _ => rfl⟩
    · rw [if_neg stamped, if_neg (show field.optional.name ∉ timestampColumns from stamped)]
      by_cases shape : (storedShape field).1 = .list true
      · have differs : emptyContainer field.optional ≠ emptyContainer field :=
          fun same => (container_kept_iff field demanded).mp same shape
        have empties : Emptied field := ⟨shape, made, stamped⟩
        simp [list_is_document field shape, ColumnType.name, differs, empties]
      · rw [(container_kept_iff field demanded).mpr shape]
        exact ⟨fun _ empties => shape empties.1, fun _ => rfl⟩
  · exact ⟨fun _ empties => made empties.2.1, fun _ => default_unmade schema field _ made⟩

theorem default_demands_nothing (schema : String) (field : FieldSpec) (type : ColumnType) :
    Piece.raw " NOT NULL" ∉ columnDefault schema field type := by
  have derived : Piece.raw " NOT NULL" ∉ derivedDefault field type := by
    rw [derivedDefault]
    split
    · decide
    · split
      · split
        · rw [emptyContainer]
          split <;> decide
        · exact List.not_mem_nil
      · exact List.not_mem_nil
  rw [columnDefault]
  cases field.default with
  | word value => simp [qualified]
  | required | made => exact derived
  | value given =>
      cases given with
      | null | loose _ | arr _ | obj _ => exact derived
      | bool truth => cases truth <;> simp
      | str _ | int _ | float _ => simp

theorem type_demands_nothing (schema : String) (field : FieldSpec) :
    Piece.raw " NOT NULL" ∉ typePieces schema (columnType field) := by
  have plain : ∀ text, columnType field = .plain text → text ≠ " NOT NULL" := by
    rintro _ known rfl
    rw [columnType, shapeType.eq_def] at known
    split at known
    · split at known
      · have head := congrArg (fun text => text.toList.head?) (ColumnType.plain.inj known)
        simp at head
      · simp at known
    all_goals simp at known
  cases type : columnType field with
  | plain text => simpa [typePieces] using (plain text type).symm
  | enum name values => simp [typePieces, qualified]

theorem column_parts (model : ModelSpec) (field : FieldSpec) (apart : field.name ∉ model.serialColumns) :
    column model field = .name field.name :: .raw " " :: (typePieces model.schema (columnType field) ++
      (if !field.isOptional && !model.primaryKey.contains field.name then [.raw " NOT NULL"] else []) ++
      columnDefault model.schema field (columnType field)) := by
  rw [column, if_neg apart]
  cases columnType field <;> simp [typePieces]

theorem column_loosened (model : ModelSpec) (field : FieldSpec) (apart : field.name ∉ model.serialColumns) :
    loosened (column model field) = .name field.name :: .raw " " :: (typePieces model.schema (columnType field) ++
      columnDefault model.schema field (columnType field)) := by
  have type := type_demands_nothing model.schema field
  have default := default_demands_nothing model.schema field (columnType field)
  rw [loosened, column_parts model field apart, List.erase_cons_tail (by simp), List.erase_cons_tail (by simp), List.append_assoc,
    List.erase_append_right _ type]
  by_cases demands : (!field.isOptional && !model.primaryKey.contains field.name) = true
  · rw [if_pos demands]
    rfl
  · rw [if_neg demands, List.nil_append, List.erase_of_not_mem default]

theorem column_optional (model : ModelSpec) (field : FieldSpec) (apart : field.name ∉ model.serialColumns) :
    column model field.optional = .name field.name :: .raw " " :: (typePieces model.schema (columnType field.optional) ++
      columnDefault model.schema field.optional (columnType field.optional)) := by
  rw [column_parts model field.optional apart]
  simp [FieldSpec.optional]

theorem types_apart (schema : String) (type : ColumnType) (first second : Statement.Pieces) (differs : type ≠ .plain "JSONB") :
    typePieces schema type ++ first ≠ typePieces schema (.plain "JSONB") ++ second := by
  cases type with
  | plain text =>
      intro same
      have text : text = "JSONB" := Piece.raw.inj (List.cons.inj same).1
      exact differs (congrArg ColumnType.plain text)
  | enum name values => exact fun same => nomatch (List.cons.inj same).1

theorem column_kept_iff (model : ModelSpec) (field : FieldSpec) (demanded : field.isOptional = false)
    (apart : field.name ∉ model.serialColumns) :
    column model field.optional = loosened (column model field) ↔ ¬ Opened field ∧ ¬ Emptied field := by
  rw [column_optional model field apart, column_loosened model field apart]
  by_cases opens : Opened field
  · have other : columnType field.optional ≠ columnType field := fun same => (type_kept_iff field demanded).mp same opens
    refine iff_of_false (fun same => ?_) fun closed => closed.1 opens
    have rest := (List.cons.inj (List.cons.inj same).2).2
    cases opened_document field demanded opens with
    | inl document =>
        rw [document] at other rest
        exact types_apart model.schema _ _ _ other rest
    | inr document =>
        rw [document] at other rest
        exact types_apart model.schema _ _ _ other.symm rest.symm
  · rw [(type_kept_iff field demanded).mpr opens]
    constructor
    · intro same
      have rest := List.append_cancel_left (List.cons.inj (List.cons.inj same).2).2
      exact ⟨opens, (default_kept_iff model.schema field demanded).mp rest⟩
    · intro kept
      rw [(default_kept_iff model.schema field demanded).mpr kept.2]

-- A field that may be empty has the column that it had, but for the demand, unless its shape is opened by this or it is a list
-- that is empty at first. The columns of other fields and the constraints stay.
theorem only_loosens_iff (model : ModelSpec) (before : List FieldSpec) (field : FieldSpec) (after : List FieldSpec)
    (demanded : field.isOptional = false) :
    OnlyLoosens model before field after ↔
      (∃ fault, createTable model = .error fault) ∨ field.name ∈ model.serialColumns ∨ ¬ Opened field ∧ ¬ Emptied field := by
  have whole : createTable { model with fields := before ++ field.optional :: after } =
      tableWith model (before.map (column model) ++ column model field.optional :: after.map (column model)) := by
    rw [create_table_columns, List.map_append, List.map_cons]
    rfl
  rw [OnlyLoosens, whole, table_with_cancel]
  by_cases serial : field.name ∈ model.serialColumns
  · have same : column model field.optional = loosened (column model field) := by
      rw [loosened, column, column, if_pos serial, if_pos (show field.optional.name ∈ model.serialColumns from serial)]
      rfl
    simp [same, serial]
  · rw [column_kept_iff model field demanded serial]
    simp [serial]

def text? (statement : Except TableFault Statement.Pieces) : Option String :=
  statement.toOption.bind fun pieces => (render pieces).toOption

def carts : ModelSpec := { name := "Cart", fields := [], table := some "carts", schema := "app" }

def tags : FieldSpec := { name := "tags", shape := .list true, default := .made }

def note : FieldSpec := { name := "note", shape := .text, default := .value (.str ""), maxLength := some 80 }

theorem optional_note_only_loosens : note.isOptional = false ∧ OnlyLoosens carts [tags] note [] := by
  have whole : ¬ Opened note := by
    intro opens
    cases opens with
    | choice _ _ shape | remarks _ _ shape => cases shape
  have filled : ¬ Emptied note := fun empties => nomatch empties.1
  exact ⟨rfl, (only_loosens_iff carts [tags] note [] rfl).mpr (.inr (.inr ⟨whole, filled⟩))⟩

-- Tags that may be missing are an empty object at first, where tags that may not are an empty list.
theorem optional_tags_change_more :
    ¬ ∀ (model : ModelSpec) (before : List FieldSpec) (field : FieldSpec) (after : List FieldSpec),
      field.isOptional = false → OnlyLoosens model before field after := by
  intro kept
  have before : text? (createTable { carts with fields := [tags.optional] }) =
      some "CREATE TABLE IF NOT EXISTS \"app\".\"carts\" (\"tags\" JSONB DEFAULT '\x7b\x7d')" := by decide +kernel
  have after : text? (tableWith carts [loosened (column carts tags)]) =
      some "CREATE TABLE IF NOT EXISTS \"app\".\"carts\" (\"tags\" JSONB DEFAULT '[]')" := by decide +kernel
  have same := congrArg text? (kept carts [] tags [] rfl)
  have texts := before.symm.trans (same.trans after)
  exact absurd texts (by decide)

end Ddl

end Schematic
