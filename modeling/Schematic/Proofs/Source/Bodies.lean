import Schematic.Proofs.Source.Stages

set_option autoImplicit false

namespace Schematic

open Text

def Statement.fieldName (statement : Statement) : List Char := trim (statement.text.takeWhile (· ≠ ':'))

def Statement.pieces (statement : Statement) : List (List Char) :=
  splitOutside '@' 0 ((statement.text.dropWhile (· ≠ ':')).drop 1)

def Statement.typeText (statement : Statement) : List Char := trim (statement.pieces.headD [])

-- What a declaration makes of its entity, and what is said of it, where all that is known of others is their names.
def Entity.declare (names : List String) (entity : Entity) (statement : Statement) : Entity × List Diagnostic :=
  if !isName statement.fieldName then (entity, [⟨statement.line, .badFieldName (String.ofList statement.fieldName)⟩])
  else
    match entity.field? (String.ofList statement.fieldName) with
    | some first => (entity, [⟨statement.line, .repeatedField (String.ofList statement.fieldName) entity.name first.line⟩])
    | none =>
        match resolveType names (statement.pieces.headD []) with
        | .error fault => (entity, [⟨statement.line, .badType fault⟩])
        | .ok type =>
            ({ entity with
                fields := entity.fields ++
                  [⟨String.ofList statement.fieldName, type, (readClauses statement.pieces.tail).1, statement.line⟩] },
              (readClauses statement.pieces.tail).2.map (⟨statement.line, ·⟩))

def Entity.follow (names : List String) (entity : Entity) (statement : Statement) : Entity × List Diagnostic :=
  if statement.text.contains ':' then entity.declare names statement
  else (entity, [⟨statement.line, .unrecognized (String.ofList statement.text)⟩])

def Entity.readBody (names : List String) (entity : Entity) : List Statement → Entity × List Diagnostic
  | [] => (entity, [])
  | statement :: rest =>
      let (next, told) := entity.follow names statement
      let (final, later) := next.readBody names rest
      (final, told ++ later)

-- A statement that declares a field unless an earlier one has its name: it has a name, and a type that is known.
structure Declares (names : List String) (statement : Statement) : Prop where
  colon : ':' ∈ statement.text
  named : isName statement.fieldName = true
  typed : ∃ type, TypeText names statement.typeText type

-- A declaration that no field comes of, behind some other statements of its block.
inductive RefusedField (names : List String) (body : List Statement) (statement : Statement) : Prop where
  | misnamed (shapeless : isName statement.fieldName = false)
  | repeated (earlier : Statement) (among : earlier ∈ body) (declares : Declares names earlier)
      (same : earlier.fieldName = statement.fieldName)
  | untyped (unknown : ∀ type, ¬ TypeText names statement.typeText type)

section Names

variable (names : List String) (entity : Entity)

theorem declare_cases (statement : Statement) :
    (∃ problem, entity.declare names statement = (entity, [⟨statement.line, problem⟩])) ∨
      ∃ (field : Field) (problems : List Problem), entity.declare names statement =
        ({ entity with fields := entity.fields ++ [field] }, problems.map (⟨statement.line, ·⟩)) := by
  rw [Entity.declare]
  split
  · exact .inl ⟨_, rfl⟩
  · split
    · exact .inl ⟨_, rfl⟩
    · split
      · exact .inl ⟨_, rfl⟩
      · exact .inr ⟨_, _, rfl⟩

theorem follow_cases (statement : Statement) :
    (∃ problem, entity.follow names statement = (entity, [⟨statement.line, problem⟩])) ∨
      ∃ (field : Field) (problems : List Problem), entity.follow names statement =
        ({ entity with fields := entity.fields ++ [field] }, problems.map (⟨statement.line, ·⟩)) := by
  rw [Entity.follow]
  split
  · exact declare_cases names entity statement
  · exact .inl ⟨_, rfl⟩

theorem follow_keeps (statement : Statement) :
    (entity.follow names statement).1.name = entity.name ∧ entity.fields ⊆ (entity.follow names statement).1.fields := by
  rcases follow_cases names entity statement with ⟨problem, same⟩ | ⟨field, problems, same⟩
  · rw [same]
    exact ⟨rfl, List.Subset.refl _⟩
  · rw [same]
    exact ⟨rfl, List.subset_append_left _ _⟩

theorem read_body_cons (statement : Statement) (rest : List Statement) :
    entity.readBody names (statement :: rest) =
      (((entity.follow names statement).1.readBody names rest).1,
        (entity.follow names statement).2 ++ ((entity.follow names statement).1.readBody names rest).2) := rfl

theorem read_body_append (a b : List Statement) :
    entity.readBody names (a ++ b) =
      (((entity.readBody names a).1.readBody names b).1,
        (entity.readBody names a).2 ++ ((entity.readBody names a).1.readBody names b).2) := by
  induction a generalizing entity with
  | nil => rfl
  | cons statement rest ih => rw [List.cons_append, read_body_cons, read_body_cons, ih, List.append_assoc]

theorem read_body_keeps (body : List Statement) :
    (entity.readBody names body).1.name = entity.name ∧ entity.fields ⊆ (entity.readBody names body).1.fields := by
  induction body generalizing entity with
  | nil => exact ⟨rfl, List.Subset.refl _⟩
  | cons statement rest ih =>
      obtain ⟨name, fields⟩ := follow_keeps names entity statement
      obtain ⟨later, more⟩ := ih (entity.follow names statement).1
      exact ⟨later.trans name, List.Subset.trans fields more⟩

theorem declares_present (statement : Statement) (free : Unreserved names) (declares : Declares names statement) :
    String.ofList statement.fieldName ∈ (entity.follow names statement).1.fields.map Field.name := by
  obtain ⟨type, typed⟩ := declares.typed
  have resolved := resolve_type_complete names (statement.pieces.headD []) type free typed
  have named : (!isName statement.fieldName) = false := by rw [declares.named, Bool.not_true]
  rw [Entity.follow, if_pos (by simpa using declares.colon), Entity.declare, if_neg (by simp [named])]
  cases found : entity.field? (String.ofList statement.fieldName) with
  | some first =>
      by_contra absent
      rw [(field_missing entity _).mpr absent] at found
      exact nomatch found
  | none =>
      rw [resolved]
      simp

theorem declared_present (body : List Statement) (statement : Statement) (free : Unreserved names) (among : statement ∈ body)
    (declares : Declares names statement) :
    String.ofList statement.fieldName ∈ (entity.readBody names body).1.fields.map Field.name := by
  obtain ⟨before, after, rfl⟩ := List.append_of_mem among
  rw [read_body_append, read_body_cons]
  exact List.map_subset _ (read_body_keeps names _ after).2 (declares_present names _ statement free declares)

theorem refused_follow (body : List Statement) (statement : Statement) (free : Unreserved names) (colon : ':' ∈ statement.text)
    (refused : RefusedField names body statement) :
    ∃ problem, (entity.readBody names body).1.follow names statement =
      ((entity.readBody names body).1, [⟨statement.line, problem⟩]) := by
  have here : (entity.readBody names body).1.follow names statement = (entity.readBody names body).1.declare names statement :=
    if_pos (by simpa using colon)
  rw [here, Entity.declare]
  by_cases named : isName statement.fieldName = true
  · rw [if_neg (by simp [named])]
    cases found : (entity.readBody names body).1.field? (String.ofList statement.fieldName) with
    | some first => exact ⟨_, rfl⟩
    | none =>
        have absent := (field_missing _ _).mp found
        cases resolved : resolveType names (statement.pieces.headD []) with
        | error fault => exact ⟨_, rfl⟩
        | ok type =>
            exfalso
            cases refused with
            | misnamed shapeless => simp [shapeless] at named
            | repeated earlier among declares same =>
                exact absent (same ▸ declared_present names entity body earlier free among declares)
            | untyped unknown => exact unknown type (resolve_type_sound names _ type resolved)
  · rw [if_pos (by simp [named])]
    exact ⟨_, rfl⟩

end Names

theorem entity_names_replaced (before after : List Entity) (entity other : Entity) (same : other.name = entity.name) :
    entityNames (before ++ other :: after) = entityNames (before ++ entity :: after) := by
  rw [entity_names_append, entity_names_append, entity_names_cons, entity_names_cons, same]

section Reading

variable (names : List String) (before after : List Entity) (entity : Entity)
  (known : entityNames (before ++ entity :: after) = names) (distinct : names.Nodup) (errors : List Diagnostic)

include known distinct

theorem read_field_declare (block : Option Block) (statement : Statement) :
    ReadState.readField ⟨before ++ entity :: after, block, errors⟩ entity.name statement =
      ⟨before ++ (entity.declare names statement).1 :: after, block, errors ++ (entity.declare names statement).2⟩ := by
  subst known
  have found : (entity? (before ++ entity :: after) entity.name).bind (·.field? (String.ofList statement.fieldName)) =
      entity.field? (String.ofList statement.fieldName) := by
    rw [entity_member _ entity (by simp) distinct, Option.bind_some]
  have changed := fun change => update_entity_at before after entity change distinct
  rw [ReadState.readField, Entity.declare]
  simp only [← Statement.fieldName.eq_1, ← Statement.pieces.eq_1, ← entityNames.eq_1, String.toList_ofList, found]
  by_cases named : isName statement.fieldName = true
  · simp only [named, Bool.not_true, Bool.false_eq_true, if_false]
    cases entity.field? (String.ofList statement.fieldName) with
    | some first => rfl
    | none =>
        cases resolveType (entityNames (before ++ entity :: after)) (statement.pieces.headD []) with
        | error fault => rfl
        | ok type => simp only [changed]
  · simp only [named, Bool.not_false, if_true]
    rfl

theorem step_follow (line : Nat) (mark : Mark) (plain : Plain mark.statement) :
    ReadState.step ⟨before ++ entity :: after, some ⟨line, some entity.name⟩, errors⟩ mark =
      ⟨before ++ (entity.follow names mark.statement).1 :: after, some ⟨line, some entity.name⟩,
        errors ++ (entity.follow names mark.statement).2⟩ := by
  rw [Entity.follow]
  by_cases colon : ':' ∈ mark.statement.text
  · rw [step_field _ mark colon, if_pos (by simpa using colon)]
    exact read_field_declare names before after entity known distinct errors _ mark.statement
  · rw [step_other _ mark plain.1 plain.2 colon, if_neg (by simpa using colon)]
    rfl

-- The second pass takes a block by itself: it changes one entity, by the names of all.
theorem fold_body (line : Nat) (body : List Statement) (plain : ∀ statement ∈ body, Plain statement) :
    (body.map (⟨·, none⟩)).foldl ReadState.step ⟨before ++ entity :: after, some ⟨line, some entity.name⟩, errors⟩ =
      ⟨before ++ (entity.readBody names body).1 :: after, some ⟨line, some entity.name⟩,
        errors ++ (entity.readBody names body).2⟩ := by
  induction body generalizing entity errors with
  | nil => simp [Entity.readBody]
  | cons statement rest ih =>
      have name := (follow_keeps names entity statement).1
      have same := (entity_names_replaced before after entity _ name).trans known
      have later := ih (entity.follow names statement).1 same (errors ++ (entity.follow names statement).2)
        fun other member => plain other (List.mem_cons_of_mem _ member)
      rw [name] at later
      rw [List.map_cons, List.foldl_cons, step_follow names before after entity known distinct errors line ⟨statement, none⟩
        (plain statement List.mem_cons_self), read_body_cons, ← List.append_assoc]
      exact later

end Reading

theorem step_skipped (state : ReadState) (mark : Mark) (line : Nat) (skipped : state.block = some ⟨line, none⟩)
    (plain : Plain mark.statement) : state.step mark = state := by
  by_cases colon : ':' ∈ mark.statement.text
  · rw [step_field state mark colon, skipped]
  · rw [step_other state mark plain.1 plain.2 colon, skipped]

theorem fold_skipped (state : ReadState) (line : Nat) (skipped : state.block = some ⟨line, none⟩) (body : List Statement)
    (plain : ∀ statement ∈ body, Plain statement) : (body.map (⟨·, none⟩)).foldl ReadState.step state = state := by
  induction body with
  | nil => rfl
  | cons statement rest ih =>
      rw [List.map_cons, List.foldl_cons, step_skipped state ⟨statement, none⟩ line skipped (plain statement List.mem_cons_self)]
      exact ih fun other member => plain other (List.mem_cons_of_mem _ member)

theorem mark_headers_plain (headers : Headers) (body : List Statement)
    (plain : ∀ statement ∈ body, isHeader statement.text = false) :
    markHeaders headers body = (headers, body.map (⟨·, none⟩)) := by
  induction body with
  | nil => rfl
  | cons statement rest ih =>
      rw [mark_headers_other headers statement rest (plain statement List.mem_cons_self),
        ih fun other member => plain other (List.mem_cons_of_mem _ member)]
      rfl

theorem registered_plain (before body : List Statement) (plain : ∀ statement ∈ body, isHeader statement.text = false) :
    registered (before ++ body) = registered before := by
  rw [registered, mark_headers_append, mark_headers_plain _ body plain]
  rfl

theorem read_plain (known : List Entity) (before body : List Statement)
    (plain : ∀ statement ∈ body, isHeader statement.text = false) :
    readUpTo known (before ++ body) = (body.map (⟨·, none⟩)).foldl ReadState.step (readUpTo known before) := by
  rw [readUpTo, marks_append, mark_headers_plain _ body plain, List.foldl_append]
  rfl

-- From inside a block, what was read of it so far stands in its entity.
theorem block_read (known : List Entity) (distinct : (entityNames known).Nodup) (before front body : List Statement)
    (header : Statement) (name : String) (inside : Inside before front header body) (opens : brings front header = some name)
    (present : name ∈ entityNames known) :
    ∃ early entity late errors, entityNames (early ++ entity :: late) = entityNames known ∧ entity.name = name ∧
      readUpTo known before =
        ⟨early ++ (entity.readBody (entityNames known) body).1 :: late, some ⟨header.line, some name⟩, errors⟩ := by
  have names : entityNames (readUpTo known (front ++ [header])).entities = entityNames known :=
    (thinned_names _ _ (fold_thinned { entities := known } (marksOf (front ++ [header])))).symm
  rw [← names] at present
  obtain ⟨entity, among, rfl⟩ := List.mem_map.mp present
  obtain ⟨early, late, whole⟩ := List.append_of_mem among
  have block : (readUpTo known (front ++ [header])).block = some ⟨header.line, some entity.name⟩ := by
    rw [← opens]
    exact block_inside known _ front [] header ⟨rfl, inside.opens, by simp⟩
  rw [whole] at names
  refine ⟨early, entity, late, (readUpTo known (front ++ [header])).errors ++ (entity.readBody (entityNames known) body).2,
    names, rfl, ?_⟩
  have filled := fold_body (entityNames known) early late entity names distinct (readUpTo known (front ++ [header])).errors
    header.line body inside.plain
  rw [inside.whole, show front ++ header :: body = front ++ [header] ++ body by simp, read_plain known _ body fun other member => (inside.plain other member).1, ← filled,
    ← whole, ← block]

end Schematic
