import Schematic.Proofs.Ddl.Needs

set_option autoImplicit false

namespace Schematic.Ddl

-- What the set-up runs for these records, of which those of the store are one list.
def statementsOf (schema : String) (models : List ModelSpec) : Except TableFault (List Statement.Pieces) :=
  (models.mapM (describedTable schema)).map fun tables =>
    createSchema schema (some "Data model schemas authored in SDL") ++
    [setSearchPath schema] ++
    (models.foldl addEnums []).map (fun (name, type) => createEnum schema name type.values) ++
    tables.flatten ++
    models.flatMap createIndexes ++
    [touchFunction schema] ++
    (models.filter fun model => model.fields.any (·.name = "updated_at")).flatMap
      fun model => touchTrigger schema (model.table.getD "")

def tableOf (model : ModelSpec) : DbObject := .table model.schema (tableName model)

-- A model with a table, which refers to tables of earlier models, and gives a word as a default only where it is of a type.
structure Placed (earlier : List ModelSpec) (model : ModelSpec) : Prop where
  named : (model.table.filter (· ≠ "")).isSome = true
  keyed : ∀ key ∈ model.foreignKeys, ∃ target ∈ earlier, referenceNeeds key.2 = [tableOf target]
  typed : ∀ field ∈ model.fields, ∀ word, field.default = .word word → ∃ name type, columnType field = .enum name type

inductive Arranged : List ModelSpec → List ModelSpec → Prop
  | nil (earlier : List ModelSpec) : Arranged earlier []
  | cons (earlier : List ModelSpec) (model : ModelSpec) (later : List ModelSpec) (placed : Placed earlier model)
      (rest : Arranged (earlier ++ [model]) later) : Arranged earlier (model :: later)

def isPlaced (earlier : List ModelSpec) (model : ModelSpec) : Bool :=
  (model.table.filter (· ≠ "")).isSome &&
    (model.foreignKeys.all fun key => earlier.any fun target => referenceNeeds key.2 = [tableOf target]) &&
    model.fields.all fun field =>
      match field.default, columnType field with
      | .word _, .plain _ => false
      | _, _ => true

def isArranged (earlier : List ModelSpec) : List ModelSpec → Bool
  | [] => true
  | model :: later => isPlaced earlier model && isArranged (earlier ++ [model]) later

theorem placed_of (earlier : List ModelSpec) (model : ModelSpec) (checked : isPlaced earlier model = true) :
    Placed earlier model := by
  simp only [isPlaced, Bool.and_eq_true, List.all_eq_true, List.any_eq_true, decide_eq_true_eq] at checked
  obtain ⟨⟨named, keyed⟩, typed⟩ := checked
  refine ⟨named, keyed, fun field member word given => ?_⟩
  have checked := typed field member
  rw [given] at checked
  cases shown : columnType field with
  | plain text => rw [shown] at checked; cases checked
  | enum name type => exact ⟨name, type, rfl⟩

theorem arranged_of (earlier models : List ModelSpec) (checked : isArranged earlier models = true) : Arranged earlier models := by
  induction models generalizing earlier with
  | nil => exact .nil earlier
  | cons model models ih =>
      rw [isArranged, Bool.and_eq_true] at checked
      exact .cons earlier model models (placed_of earlier model checked.1) (ih _ checked.2)

theorem arranged_placed (earlier models : List ModelSpec) (arranged : Arranged earlier models) :
    ∀ model ∈ models, ∃ before, Placed before model := by
  induction arranged with
  | nil => simp
  | cons earlier model later placed rest ih =>
      intro other member
      rcases List.mem_cons.mp member with rfl | among
      · exact ⟨earlier, placed⟩
      · exact ih other among

structure Described (schema : String) (model : ModelSpec) (statements : List Statement.Pieces) : Prop where
  makes : statements.flatMap made = [tableOf model]
  needs : ∀ there, Founded there statements → ∀ object ∈ tableNeeds model, object ∈ there
  founded : model.schema = schema → ∀ there, (∀ object ∈ tableNeeds model, object ∈ there) → Founded there statements

theorem described_table (schema : String) (earlier : List ModelSpec) (model : ModelSpec) (placed : Placed earlier model) :
    ∃ statements, describedTable schema model = .ok statements ∧ Described schema model statements := by
  have read : ∀ key ∈ model.foreignKeys, (readReference? key.2).isSome = true := by
    intro key member
    obtain ⟨target, -, same⟩ := placed.keyed key member
    rw [referenceNeeds] at same
    split at same
    · rename_i found
      rw [found]
      rfl
    · cases same
  obtain ⟨table, built, needs, makes⟩ := needed_table model placed.named read
  refine ⟨_, by rw [describedTable, built]; rfl, ?_⟩
  cases model.summary with
  | none =>
      refine ⟨?_, fun there founded => ?_, fun _ there ready => ?_⟩
      · exact (List.append_nil _).trans makes
      · exact needs ▸ ((founded_cons _ _ _).mp founded).1
      · exact (founded_cons _ _ _).mpr ⟨needs ▸ ready, founded_nil _⟩
  | some summary =>
      obtain ⟨commented, silent⟩ := needed_comment schema (tableName model) (some summary)
      refine ⟨?_, fun there founded => ?_, fun same there ready => ?_⟩
      · show made table ++ (made (commentOnTable schema (tableName model) (some summary)) ++ []) = _
        rw [makes, silent]
        rfl
      · exact needs ▸ ((founded_cons _ _ _).mp founded).1
      · refine (founded_cons _ _ _).mpr ⟨needs ▸ ready, founded_all _ _ ?_⟩
        intro statement member object wanted
        obtain rfl := List.mem_singleton.mp member
        have among : object ∈ [DbObject.table schema (tableName model)] := commented ▸ wanted
        obtain rfl := List.mem_singleton.mp among
        rw [makes, same]
        exact List.mem_append_right _ List.mem_cons_self

def Typed (names : List String) (model : ModelSpec) : Prop :=
  ∀ field ∈ model.fields, field.name ∉ model.serialColumns → ∀ name type, columnType field = .enum name type → name ∈ names

theorem column_needs_typed (names : List String) (earlier : List ModelSpec) (model : ModelSpec) (placed : Placed earlier model)
    (typed : Typed names model) (field : FieldSpec) (member : field ∈ model.fields) :
    ∀ object ∈ columnNeeds model field, ∃ name ∈ names, object = .type model.schema name := by
  intro object needed
  rw [columnNeeds] at needed
  split at needed
  · cases needed
  · rename_i other
    rcases List.mem_append.mp needed with column | default
    · split at column
      · cases column
      · rename_i name type shown
        exact ⟨name, typed field member other name type shown, List.mem_singleton.mp column⟩
    · split at default
      · rename_i word given
        obtain ⟨name, type, shown⟩ := placed.typed field member word given
        rw [shown] at default
        exact ⟨name, typed field member other name type shown, List.mem_singleton.mp default⟩
      · cases default

theorem tables_founded (schema : String) (names : List String) (earlier models : List ModelSpec)
    (arranged : Arranged earlier models) (tables : List (List Statement.Pieces))
    (described : List.Forall₂ (Described schema) models tables) (there : List DbObject)
    (same : ∀ model ∈ models, model.schema = schema) (typed : ∀ model ∈ models, Typed names model)
    (home : .schema schema ∈ there) (types : ∀ name ∈ names, .type schema name ∈ there)
    (before : ∀ model ∈ earlier, tableOf model ∈ there) : Founded there tables.flatten := by
  induction arranged generalizing tables there with
  | nil =>
      cases described
      exact founded_nil there
  | cons earlier model later placed rest ih =>
      cases described with
      | @cons _ statements _ tables here others =>
          have settled := same model List.mem_cons_self
          refine (founded_append there statements tables.flatten).mpr ⟨here.founded settled there ?_, ?_⟩
          · intro object needed
            rcases List.mem_cons.mp needed with rfl | inside
            · exact settled ▸ home
            · rcases List.mem_append.mp inside with column | reference
              · obtain ⟨field, member, found⟩ := List.mem_flatMap.mp column
                obtain ⟨name, known, rfl⟩ :=
                  column_needs_typed names earlier model placed (typed model List.mem_cons_self) field member object found
                exact settled ▸ types name known
              · obtain ⟨key, member, found⟩ := List.mem_flatMap.mp reference
                obtain ⟨target, among, only⟩ := placed.keyed key member
                rw [only] at found
                obtain rfl := List.mem_singleton.mp found
                exact before target among
          · rw [here.makes]
            refine ih tables others _ (fun other member => same other (List.mem_cons_of_mem _ member))
              (fun other member => typed other (List.mem_cons_of_mem _ member)) (List.mem_append_left _ home)
              (fun name known => List.mem_append_left _ (types name known)) ?_
            intro other member
            rcases List.mem_append.mp member with old | last
            · exact List.mem_append_left _ (before other old)
            · obtain rfl := List.mem_singleton.mp last
              exact List.mem_append_right _ List.mem_cons_self

-- A table is made where its model says, and no other table brings that schema along.
theorem tables_homes (schema : String) (models : List ModelSpec) (tables : List (List Statement.Pieces))
    (described : List.Forall₂ (Described schema) models tables) (there : List DbObject) (founded : Founded there tables.flatten) :
    ∀ model ∈ models, .schema model.schema ∈ there := by
  induction described generalizing there with
  | nil => simp
  | @cons model statements models tables here others ih =>
      obtain ⟨first, later⟩ := (founded_append there statements tables.flatten).mp founded
      intro other member
      rcases List.mem_cons.mp member with rfl | among
      · exact here.needs there first _ List.mem_cons_self
      · rw [here.makes] at later
        rcases List.mem_append.mp (ih _ later other among) with old | fresh
        · exact old
        · cases List.mem_singleton.mp fresh

theorem tables_made (schema : String) (models : List ModelSpec) (tables : List (List Statement.Pieces))
    (described : List.Forall₂ (Described schema) models tables) : tables.flatten.flatMap made = models.map tableOf := by
  induction described with
  | nil => rfl
  | cons here others ih => rw [List.flatten_cons, List.flatMap_append, here.makes, ih]; rfl

theorem index_named (entry : IndexEntry) (spec : IndexSpec) (read : entry.spec? = some spec) : spec.name ≠ "" := by
  have named : ∀ name columns predicate unique, IndexEntry.specOf name columns predicate unique = some spec → spec.name ≠ "" := by
    intro name columns predicate unique made
    rw [IndexEntry.specOf] at made
    split at made
    · rename_i called first rest given _
      obtain rfl := Option.some.inj made
      simpa using (Option.filter_eq_some_iff.mp given).2
    · cases made
  cases entry with
  | positional items => exact named _ _ _ _ read
  | keyed members => exact named _ _ _ _ read
  | other value => cases read

def indexesOf (model : ModelSpec) : List DbObject :=
  (model.indexes.filterMap (·.spec?)).map fun spec => .index model.schema spec.name

theorem indexes_needed (model : ModelSpec) :
    (∀ statement ∈ createIndexes model, needed statement = [tableOf model]) ∧ (createIndexes model).flatMap made = indexesOf model := by
  have each : ∀ spec ∈ model.indexes.filterMap (·.spec?), spec.name ≠ "" := by
    intro spec member
    obtain ⟨entry, -, read⟩ := List.mem_filterMap.mp member
    exact index_named entry spec read
  constructor
  · intro statement member
    obtain ⟨spec, inside, rfl⟩ := List.mem_map.mp member
    exact (needed_index _ _ _ _ _ _ (each spec inside)).1
  · rw [createIndexes, indexesOf, List.flatMap_map, ← List.flatMap_singleton' (List.map _ _), List.flatMap_map]
    refine List.flatMap_congr fun spec inside => ?_
    exact (needed_index _ _ _ _ _ _ (each spec inside)).2

theorem put_names (fresh : String × EnumType) (enums : Enums) (name : String) :
    name ∈ (putBy Prod.fst fresh enums).map Prod.fst ↔ name ∈ enums.map Prod.fst ∨ name = fresh.1 := by
  induction enums with
  | nil => simp [putBy]
  | cons first rest ih =>
      rw [putBy]
      split
      · rename_i same
        rw [List.map_cons, List.map_cons, List.mem_cons, List.mem_cons, same]
        tauto
      · rw [List.map_cons, List.map_cons, List.mem_cons, List.mem_cons, ih]
        tauto

def addEnum (serial : List String) (enums : Enums) (field : FieldSpec) : Enums :=
  if field.name ∈ serial then enums
  else
    match columnType field with
    | .enum name type => putBy Prod.fst (name, type) enums
    | .plain _ => enums

theorem add_enum_grows (serial : List String) (enums : Enums) (field : FieldSpec) (name : String)
    (known : name ∈ enums.map Prod.fst) : name ∈ (addEnum serial enums field).map Prod.fst := by
  rw [addEnum]
  split
  · exact known
  · split
    · exact (put_names _ _ _).mpr (.inl known)
    · exact known

theorem add_enums_grow (serial : List String) (fields : List FieldSpec) (enums : Enums) (name : String)
    (known : name ∈ enums.map Prod.fst) : name ∈ (fields.foldl (addEnum serial) enums).map Prod.fst := by
  induction fields generalizing enums with
  | nil => exact known
  | cons field fields ih => exact ih _ (add_enum_grows serial enums field name known)

theorem add_enums_typed (model : ModelSpec) (enums : Enums) : Typed ((addEnums enums model).map Prod.fst) model := by
  intro field member column name type shown
  show name ∈ (model.fields.foldl (addEnum model.serialColumns) enums).map Prod.fst
  obtain ⟨before, after, split⟩ := List.append_of_mem member
  rw [split, List.foldl_append, List.foldl_cons]
  apply add_enums_grow
  rw [addEnum, if_neg column, shown]
  exact (put_names _ _ _).mpr (.inr rfl)

theorem models_typed (models : List ModelSpec) (enums : Enums) :
    (∀ name ∈ enums.map Prod.fst, name ∈ (models.foldl addEnums enums).map Prod.fst) ∧
      ∀ model ∈ models, Typed ((models.foldl addEnums enums).map Prod.fst) model := by
  induction models generalizing enums with
  | nil => exact ⟨fun _ known => known, by simp⟩
  | cons first models ih =>
      obtain ⟨kept, typed⟩ := ih (addEnums enums first)
      refine ⟨fun name known => kept name (add_enums_grow _ first.fields enums name known), fun model member => ?_⟩
      rcases List.mem_cons.mp member with rfl | later
      · exact fun field inside column name type shown => kept name (add_enums_typed model enums field inside column name type shown)
      · exact typed model later

theorem schema_founded (schema comment : String) (filled : comment ≠ "") :
    Founded [] (createSchema schema (some comment)) ∧ (createSchema schema (some comment)).flatMap made = [.schema schema] := by
  have form : createSchema schema (some comment) = [[.raw "CREATE SCHEMA IF NOT EXISTS ", .name schema],
      [.raw "COMMENT ON SCHEMA ", .name schema, .raw " IS ", .literal (.text comment)]] := by
    simp [createSchema, Option.filter, filled]
  rw [form]
  refine ⟨?_, rfl⟩
  rw [founded_cons, founded_cons]
  exact ⟨fun object needed => (by cases needed), fun object needed => needed, founded_nil _⟩

theorem enums_founded (schema : String) (enums : Enums) (there : List DbObject) (home : .schema schema ∈ there) :
    Founded there (enums.map fun (name, type) => createEnum schema name type.values) ∧
      (enums.map fun (name, type) => createEnum schema name type.values).flatMap made =
        enums.map fun entry => .type schema entry.1 := by
  constructor
  · apply founded_all
    intro statement member object wanted
    obtain ⟨entry, -, rfl⟩ := List.mem_map.mp member
    rw [needed_enum] at wanted
    obtain rfl := List.mem_singleton.mp wanted
    exact home
  · rw [List.flatMap_map, ← List.flatMap_singleton' (List.map _ _), List.flatMap_map]
    rfl

def isTouched (model : ModelSpec) : Bool := model.fields.any (·.name = "updated_at")

-- All that is made for some record types, in order. Tables and indexes go where the models say, the rest where it is told.
def madeFor (schema : String) (models : List ModelSpec) : List DbObject :=
  .schema schema :: (((models.foldl addEnums []).map fun entry => .type schema entry.1) ++ models.map tableOf ++
    models.flatMap indexesOf ++ [.function schema touchFunctionName] ++
    (models.filter isTouched).map fun model => .trigger schema (triggerName (tableName model)))

theorem triggers_made (schema : String) (models : List ModelSpec) :
    (models.flatMap fun model => touchTrigger schema (model.table.getD "")).flatMap made =
      models.map fun model => .trigger schema (triggerName (tableName model)) := by
  rw [List.flatMap_assoc, ← List.flatMap_singleton' (List.map _ _), List.flatMap_map]
  rfl

theorem indexes_made (models : List ModelSpec) : (models.flatMap createIndexes).flatMap made = models.flatMap indexesOf := by
  rw [List.flatMap_assoc]
  exact List.flatMap_congr fun model _ => (indexes_needed model).2

theorem path_founded (schema : String) (there : List DbObject) (home : .schema schema ∈ there) :
    Founded there [setSearchPath schema] ∧ [setSearchPath schema].flatMap made = [] := by
  refine ⟨founded_all _ _ fun statement member object wanted => ?_, rfl⟩
  obtain rfl := List.mem_singleton.mp member
  have among : object ∈ [DbObject.schema schema] := wanted
  exact List.mem_singleton.mp among ▸ home

theorem function_founded (schema : String) (there : List DbObject) (home : .schema schema ∈ there) :
    Founded there [touchFunction schema] ∧ [touchFunction schema].flatMap made = [.function schema touchFunctionName] := by
  refine ⟨founded_all _ _ fun statement member object wanted => ?_, rfl⟩
  obtain rfl := List.mem_singleton.mp member
  rw [(needed_function schema).1] at wanted
  exact List.mem_singleton.mp wanted ▸ home

theorem indexes_founded (models : List ModelSpec) (there : List DbObject) (tables : ∀ model ∈ models, tableOf model ∈ there) :
    Founded there (models.flatMap createIndexes) := by
  apply founded_all
  intro statement member object wanted
  obtain ⟨model, inside, made⟩ := List.mem_flatMap.mp member
  rw [(indexes_needed model).1 statement made] at wanted
  exact List.mem_singleton.mp wanted ▸ tables model inside

theorem triggers_founded (schema : String) (models : List ModelSpec) (there : List DbObject)
    (same : ∀ model ∈ models, model.schema = schema) (tables : ∀ model ∈ models, tableOf model ∈ there)
    (function : .function schema touchFunctionName ∈ there) :
    Founded there (models.flatMap fun model => touchTrigger schema (model.table.getD "")) := by
  apply founded_all
  intro statement member object wanted
  obtain ⟨model, inside, made⟩ := List.mem_flatMap.mp member
  rcases needed_trigger schema _ statement made object wanted with rfl | rfl
  · exact same model inside ▸ tables model inside
  · exact function

theorem statements_founded_iff (schema : String) (models : List ModelSpec) (arranged : Arranged [] models) :
    ∃ statements, statementsOf schema models = .ok statements ∧ statements.flatMap made = madeFor schema models ∧
      (Founded [] statements ↔ ∀ model ∈ models, model.schema = schema) := by
  obtain ⟨tables, built, described⟩ := mapM_related (describedTable schema) (Described schema) models (by
    intro model member
    obtain ⟨earlier, placed⟩ := arranged_placed [] models arranged model member
    exact described_table schema earlier model placed)
  have home : DbObject.schema schema ∈ [DbObject.schema schema] := List.mem_cons_self
  obtain ⟨schemaFounded, schemaMade⟩ := schema_founded schema "Data model schemas authored in SDL" (by decide)
  obtain ⟨pathFounded, pathMade⟩ := path_founded schema _ home
  obtain ⟨enumsFounded, enumsMade⟩ := enums_founded schema (models.foldl addEnums []) _ home
  have tablesMade := tables_made schema models tables described
  have whole : statementsOf schema models = .ok (createSchema schema (some "Data model schemas authored in SDL") ++
      [setSearchPath schema] ++ (models.foldl addEnums []).map (fun (name, type) => createEnum schema name type.values) ++
      tables.flatten ++ models.flatMap createIndexes ++ [touchFunction schema] ++
      (models.filter isTouched).flatMap fun model => touchTrigger schema (model.table.getD "")) := by
    rw [statementsOf, built]
    rfl
  refine ⟨_, whole, ?_, ?_⟩
  · simp only [List.flatMap_append, schemaMade, pathMade, enumsMade, tablesMade, indexes_made, triggers_made,
      (function_founded schema _ home).2]
    rfl
  · simp only [founded_append, List.flatMap_append, schemaMade, pathMade, enumsMade, tablesMade, indexes_made,
      (function_founded schema _ home).2, List.nil_append, List.append_nil]
    constructor
    · rintro ⟨⟨⟨⟨-, founded⟩, -⟩, -⟩, -⟩ model member
      rcases List.mem_append.mp (tables_homes schema models tables described _ founded model member) with only | type
      · exact DbObject.schema.inj (List.mem_singleton.mp only)
      · obtain ⟨entry, -, other⟩ := List.mem_map.mp type
        cases other
    · intro same
      have typed := (models_typed models []).2
      have types : ∀ name ∈ (models.foldl addEnums []).map Prod.fst, DbObject.type schema name ∈
          [DbObject.schema schema] ++ (models.foldl addEnums []).map fun entry => .type schema entry.1 := by
        intro name known
        obtain ⟨entry, inside, rfl⟩ := List.mem_map.mp known
        exact List.mem_append_right _ (List.mem_map.mpr ⟨entry, inside, rfl⟩)
      refine ⟨⟨⟨⟨⟨⟨schemaFounded, pathFounded⟩, enumsFounded⟩, ?_⟩, ?_⟩, ?_⟩, ?_⟩
      · exact tables_founded schema _ [] models arranged tables described _ same typed (by simp) types (by simp)
      · exact indexes_founded models _ fun model member => List.mem_append_right _ (List.mem_map_of_mem member)
      · exact (function_founded schema _ (by simp)).1
      · refine triggers_founded schema _ _ (fun model member => same model (List.mem_filter.mp member).1) ?_ (by simp)
        intro model member
        have made := List.mem_map_of_mem (f := tableOf) (List.mem_filter.mp member).1
        simp only [List.mem_append]
        exact .inl (.inl (.inr made))

theorem store_founded_iff (schema : String) :
    ∃ statements, setupStatements schema = .ok statements ∧ statements.flatMap made = madeFor schema storeModels ∧
      (Founded [] statements ↔ schema = "sdlapp") := by
  have arranged : Arranged [] storeModels := arranged_of [] storeModels (by decide +kernel)
  have own : (∀ model ∈ storeModels, model.schema = schema) ↔ schema = "sdlapp" := by
    constructor
    · exact fun same => (same dataModels List.mem_cons_self).symm
    · rintro rfl
      decide
  rw [← own]
  exact statements_founded_iff schema storeModels arranged

def placeOf (schema : String) : DbObject → String
  | .table _ _ | .index _ _ => "sdlapp"
  | _ => schema

theorem store_places (schema : String) : ∀ object ∈ madeFor schema storeModels, object.home = placeOf schema object := by
  have own : ∀ model ∈ storeModels, model.schema = "sdlapp" := by decide
  intro object member
  simp only [madeFor, List.mem_cons, List.mem_append, List.mem_map, List.mem_flatMap, List.not_mem_nil, or_false] at member
  rcases member with rfl | (((⟨_, _, rfl⟩ | ⟨model, inside, rfl⟩) | ⟨model, inside, index⟩) | rfl) | ⟨_, _, rfl⟩
  · rfl
  · rfl
  · exact own model inside
  · obtain ⟨spec, -, rfl⟩ := List.mem_map.mp index
    exact own model inside
  · rfl
  · rfl

-- The store is set up from nothing in the schema that its own records name, and in no other.
theorem setup_runs_iff (schema : String) :
    ∃ statements, setupStatements schema = .ok statements ∧
      ((∃ final, executeAll [] statements = some final) ↔ schema = "sdlapp") ∧
      ((∀ object ∈ statements.flatMap made, object.home = schema) ↔ schema = "sdlapp") ∧
      ∀ object ∈ statements.flatMap made, object.home = placeOf schema object := by
  obtain ⟨statements, built, makes, founded⟩ := store_founded_iff schema
  refine ⟨statements, built, (runs_iff statements).trans founded, ?_, ?_⟩
  · rw [makes]
    constructor
    · exact fun homes => (homes (tableOf dataModels) (by simp [madeFor, storeModels])).symm
    · rintro rfl object member
      rw [store_places "sdlapp" object member]
      cases object <;> rfl
  · rw [makes]
    exact store_places schema

theorem setup_elsewhere_fails :
    ∃ statements, setupStatements "other" = .ok statements ∧ executeAll [] statements = none ∧
      ∃ object ∈ statements.flatMap made, object.home ≠ "other" := by
  obtain ⟨statements, built, makes, founded⟩ := store_founded_iff "other"
  refine ⟨statements, built, ?_, ?_⟩
  · cases ended : executeAll [] statements with
    | none => rfl
    | some final => exact absurd (founded.mp ((runs_iff statements).mp ⟨final, ended⟩)) (by decide)
  · rw [makes]
    exact ⟨tableOf dataModels, by simp [madeFor, storeModels], by decide⟩

end Schematic.Ddl
