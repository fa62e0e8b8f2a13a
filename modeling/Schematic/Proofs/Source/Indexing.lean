import Schematic.Proofs.Source.Strict

set_option autoImplicit false

namespace Schematic

open Text

namespace Strict

-- The marks of some statements, where the names of those that bring an entity are found by their places.
def marksAt (accepted : List (Nat × String)) (statements : List Statement) : List Mark :=
  statements.zipIdx.map fun entry => ⟨entry.1, accepted.lookup entry.2⟩

theorem marks_at_last (accepted : List (Nat × String)) (before : List Statement) (statement : Statement) :
    marksAt accepted (before ++ [statement]) = marksAt accepted before ++ [⟨statement, accepted.lookup before.length⟩] := by
  rw [marksAt, List.zipIdx_append, List.map_append, List.zipIdx_cons, List.zipIdx_nil, Nat.zero_add]
  rfl

theorem marks_at_more (accepted : List (Nat × String)) (statements : List Statement) (name : Option String) :
    marksAt (accepted ++ (name.map (statements.length, ·)).toList) statements = marksAt accepted statements := by
  refine List.map_congr_left fun entry member => ?_
  have early := List.snd_lt_of_mem_zipIdx member
  have apart : (entry.2 == statements.length) = false := by
    simp only [beq_eq_false_iff_ne, ne_eq]
    omega
  rw [List.lookup_append]
  cases name <;> simp [List.lookup_cons, apart]

namespace Walk

variable (walk : Walk)

-- The same place, as the reading keeps it: with an open block instead of a flag, a header and a name.
def state : ReadState where
  entities := walk.entities
  block := if walk.inBlock then walk.opened.map fun header => ⟨header.line, walk.current⟩ else none
  errors := walk.errors

structure Sound : Prop where
  recorded : walk.inBlock = true → ∃ header, walk.opened = some header
  known : ∀ name, walk.current = some name → name ∈ entityNames walk.entities

def follow (state : ReadState) : Walk := { walk with entities := state.entities, errors := state.errors }

theorem report_open_reports (sound : walk.Sound) : walk.reportOpen = .ok (walk.follow walk.state.reportOpen) := by
  rw [reportOpen, ReadState.reportOpen.eq_def, state]
  cases inside : walk.inBlock with
  | false => rfl
  | true =>
      obtain ⟨header, opened⟩ := sound.recorded inside
      rw [opened]
      cases walk.current <;> rfl

theorem read_field_reads (owner : String) (known : owner ∈ entityNames walk.entities) (statement : Statement) :
    walk.readField owner statement = .ok (walk.follow (walk.state.readField owner statement)) := by
  obtain ⟨entity, found, -⟩ := entity_known walk.entities owner known
  obtain ⟨expression, rest, parted⟩ := split_outside_cons '@' 0 ((statement.text.dropWhile (· ≠ ':')).drop 1)
  rw [readField, ReadState.readField]
  simp only [state, found, parted, List.getElem?_cons_zero, List.headD_cons, List.tail_cons, demand_some, ok_bind, Option.bind_some,
    resolve_resolves, clauses_read]
  split
  · rfl
  · by_cases present : entity.hasField (String.ofList (trim (statement.text.takeWhile (· ≠ ':')))) = true
    · rw [if_pos present]
      cases first : entity.field? (String.ofList (trim (statement.text.takeWhile (· ≠ ':')))) with
      | some first => rfl
      | none => exact absurd ((has_field_iff _ _).mp present) ((field_missing _ _).mp first)
    · rw [if_neg present, (field_missing _ _).mpr fun member => present ((has_field_iff _ _).mpr member)]
      simp only
      cases resolveType (walk.entities.map (·.name)) expression <;> rfl

theorem follow_state (state : ReadState) (same : state.block = walk.state.block) : (walk.follow state).state = state := by
  obtain ⟨entities, block, errors⟩ := state
  obtain rfl : block = _ := same
  rfl

theorem header_follows (sound : walk.Sound) (accepted : List (Nat × String))
    (known : ∀ place name, accepted.lookup place = some name → name ∈ entityNames walk.entities) (entry : Statement × Nat) :
    ∃ next, walk.header accepted entry = .ok next ∧ next.Sound ∧
      next.state = { walk.state.reportOpen with block := some ⟨entry.1.line, accepted.lookup entry.2⟩ } := by
  have kept : walk.state.reportOpen.entities = walk.entities := report_open_entities walk.state
  rw [header, report_open_reports walk sound]
  cases found : accepted.lookup entry.2 with
  | none => exact ⟨_, rfl, ⟨fun _ => ⟨entry.1, rfl⟩, fun _ nowhere => nomatch nowhere⟩, rfl⟩
  | some name =>
      have among := known entry.2 name found
      obtain ⟨entity, there, rfl⟩ := entity_known walk.entities name among
      simp only [ok_bind, follow, kept, there, demand_some]
      refine ⟨_, rfl, ⟨fun _ => ⟨entry.1, rfl⟩, ?_⟩, ?_⟩
      · rintro _ ⟨⟩
        exact among
      · rw [state, ← kept]
        rfl

theorem sound_report (sound : walk.Sound) (line : Nat) (problem : Problem) : (walk.report line problem).Sound :=
  ⟨sound.recorded, sound.known⟩

theorem state_inside (sound : walk.Sound) (inside : walk.inBlock = true) :
    ∃ line, walk.state.block = some ⟨line, walk.current⟩ := by
  obtain ⟨header, opened⟩ := sound.recorded inside
  exact ⟨header.line, by rw [state, if_pos inside, opened]; rfl⟩

theorem state_outside (outside : walk.inBlock = false) : walk.state.block = none := by
  rw [state, if_neg (by simp [outside])]

theorem read_field_keeps (state : ReadState) (owner : String) (statement : Statement) (colon : ':' ∈ statement.text) :
    (state.readField owner statement).block = state.block ∧
      entityNames (state.readField owner statement).entities = entityNames state.entities := by
  rcases read_field_cases state owner statement colon with ⟨problem, read⟩ | ⟨field, problems, -, -, read⟩
  · rw [read]
    exact ⟨rfl, rfl⟩
  · rw [read]
    exact ⟨rfl, entity_names_update _ _ _ fun _ => rfl⟩

theorem step_follows (sound : walk.Sound) (accepted : List (Nat × String))
    (known : ∀ place name, accepted.lookup place = some name → name ∈ entityNames walk.entities) (entry : Statement × Nat) :
    ∃ next, walk.step accepted entry = .ok next ∧ next.Sound ∧
      next.state = walk.state.step ⟨entry.1, accepted.lookup entry.2⟩ := by
  by_cases opens : isHeader entry.1.text = true
  · rw [step, if_pos opens, step_header _ _ opens]
    exact header_follows walk sound accepted known entry
  · by_cases close : entry.1.text = ['}']
    · rw [step, if_neg opens, if_pos close, step_close _ _ close]
      refine ⟨_, rfl, ⟨fun inside => (nomatch inside), fun _ nowhere => nomatch nowhere⟩, ?_⟩
      cases inside : walk.inBlock with
      | false =>
          rw [state_outside walk inside]
          rfl
      | true =>
          obtain ⟨line, block⟩ := state_inside walk sound inside
          rw [block]
          rfl
    · by_cases colon : ':' ∈ entry.1.text
      · rw [step, if_neg opens, if_neg close, if_pos (by simpa using colon), step_field _ _ colon]
        cases inside : walk.inBlock with
        | false =>
            rw [state_outside walk inside]
            exact ⟨_, rfl, sound_report walk sound _ _, rfl⟩
        | true =>
            obtain ⟨line, block⟩ := state_inside walk sound inside
            rw [block]
            cases current : walk.current with
            | none => exact ⟨walk, rfl, sound, rfl⟩
            | some owner =>
                have kept := read_field_keeps walk.state owner entry.1 colon
                refine ⟨_, read_field_reads walk owner (sound.known owner current) entry.1, ⟨sound.recorded, ?_⟩,
                  follow_state walk _ kept.1⟩
                intro name reading
                exact kept.2 ▸ sound.known name reading
      · rw [step, if_neg opens, if_neg close, if_neg (by simpa using colon), step_other _ _ (by simpa using opens) close colon]
        cases inside : walk.inBlock with
        | false =>
            rw [state_outside walk inside]
            exact ⟨_, rfl, sound_report walk sound _ _, rfl⟩
        | true =>
            obtain ⟨line, block⟩ := state_inside walk sound inside
            rw [block]
            cases current : walk.current with
            | none => exact ⟨walk, rfl, sound, rfl⟩
            | some owner => exact ⟨_, rfl, sound_report walk sound _ _, rfl⟩

-- Steps keep the names of the entities, so what was known before the first of them is known before each.
theorem walk_follows (sound : walk.Sound) (accepted : List (Nat × String))
    (known : ∀ place name, accepted.lookup place = some name → name ∈ entityNames walk.entities)
    (entries : List (Statement × Nat)) :
    ∃ next, entries.foldlM (step accepted) walk = .ok next ∧ next.Sound ∧
      next.state = (entries.map fun entry => ⟨entry.1, accepted.lookup entry.2⟩ : List Mark).foldl ReadState.step walk.state := by
  induction entries generalizing walk with
  | nil => exact ⟨walk, rfl, sound, rfl⟩
  | cons entry entries ih =>
      obtain ⟨next, stepped, still, same⟩ := step_follows walk sound accepted known entry
      have names : entityNames next.entities = entityNames walk.entities := by
        have thinned := step_thinned walk.state ⟨entry.1, accepted.lookup entry.2⟩
        rw [← same] at thinned
        exact (thinned_names _ _ thinned).symm
      obtain ⟨last, walked, sounds, ends⟩ := ih next still fun place name found => names ▸ known place name found
      refine ⟨last, ?_, sounds, ?_⟩
      · rw [List.foldlM_cons, stepped, ok_bind, walked]
      · rw [ends, same, List.map_cons, List.foldl_cons]

end Walk

namespace Index

variable (index : Index)

def headers : Headers := ⟨index.entities, index.errors⟩

theorem step_registers (entry : Statement × Nat) :
    ∃ next, index.step entry = .ok next ∧
      next.headers = (if isHeader entry.1.text then (index.headers.register entry.1).1 else index.headers) ∧
      next.accepted = index.accepted ++
        ((if isHeader entry.1.text then (index.headers.register entry.1).2 else none).map (entry.2, ·)).toList := by
  rw [step]
  by_cases opens : isHeader entry.1.text = true
  · simp only [opens, if_true, Headers.register]
    cases headerName? entry.1.text with
    | none => exact ⟨_, rfl, rfl, (List.append_nil _).symm⟩
    | some name =>
        simp only
        by_cases reserved : String.ofList name ∈ reservedNames
        · rw [if_pos reserved, if_pos reserved]
          exact ⟨_, rfl, rfl, (List.append_nil _).symm⟩
        · rw [if_neg reserved, if_neg reserved]
          cases found : entity? index.headers.entities (String.ofList name) with
          | some first =>
              obtain ⟨member, same⟩ := entity_found _ _ _ found
              have here : entity? index.entities (String.ofList name) = some first := found
              rw [if_pos ((has_entity_iff _ _).mpr (same ▸ List.mem_map_of_mem member)), here]
              exact ⟨_, rfl, rfl, (List.append_nil _).symm⟩
          | none =>
              have missing : String.ofList name ∉ entityNames index.entities := (entity_missing _ _).mp found
              rw [if_neg fun present => missing ((has_entity_iff _ _).mp present)]
              exact ⟨_, rfl, rfl, rfl⟩
  · simp only [opens, Bool.false_eq_true, if_false]
    exact ⟨index, rfl, rfl, (List.append_nil _).symm⟩

structure Gathers (statements : List Statement) : Prop where
  headers : index.headers = registered statements
  places : ∀ accepted ∈ index.accepted, accepted.1 < statements.length ∧ accepted.2 ∈ entityNames (registered statements).entities
  marks : marksAt index.accepted statements = marksOf statements

theorem brings_known (before : List Statement) (statement : Statement) (name : String) (fresh : brings before statement = some name) :
    name ∈ entityNames (registered (before ++ [statement])).entities := by
  rw [brings] at fresh
  split at fresh
  · rcases register_cases (registered before) statement with ⟨problem, refused⟩ | ⟨other, written, free, -, kept⟩
    · rw [refused] at fresh
      cases fresh
    · rw [kept] at fresh
      obtain rfl := Option.some.inj fresh
      exact (registered_iff _ _).mpr ⟨free, statement, by simp, written⟩
  · cases fresh

theorem gathers_last (before : List Statement) (gathers : index.Gathers before) (statement : Statement) :
    ∃ next, index.step (statement, before.length) = .ok next ∧ next.Gathers (before ++ [statement]) := by
  obtain ⟨headers, places, marks⟩ := gathers
  obtain ⟨next, stepped, follows, adds⟩ := step_registers index (statement, before.length)
  have fresh : next.accepted = index.accepted ++ ((brings before statement).map (before.length, ·)).toList := by
    rw [adds, headers, brings]
  refine ⟨next, stepped, ?_, ?_, ?_⟩
  · rw [follows, headers, registered_last]
  · intro accepted member
    rw [fresh, List.mem_append] at member
    rw [List.length_append]
    rcases member with old | last
    · obtain ⟨early, known⟩ := places accepted old
      obtain ⟨free, header, among, written⟩ := (registered_iff _ _).mp known
      refine ⟨by omega, (registered_iff _ _).mpr ⟨free, header, by simp [among], written⟩⟩
    · obtain ⟨name, brought, rfl⟩ : ∃ name, brings before statement = some name ∧ (before.length, name) = accepted := by
        simpa using last
      exact ⟨by simp, brings_known before statement name brought⟩
  · have unplaced : index.accepted.lookup before.length = none := by
      rw [List.lookup_eq_none_iff]
      intro accepted member
      have early := (places accepted member).1
      simp only [bne_iff_ne, ne_eq]
      omega
    rw [fresh, marks_at_last, marks_at_more, marks, marks_last, List.lookup_append, unplaced]
    cases brings before statement <;> simp

-- By induction on the statements from behind, where the place of the last one is the number of those in front of it.
theorem index_gathers (statements : List Statement) :
    ∃ index, statements.zipIdx.foldlM step {} = .ok index ∧ index.Gathers statements := by
  induction statements using List.reverseRecOn with
  | nil => exact ⟨{}, rfl, rfl, by simp, rfl⟩
  | append_singleton before statement ih =>
      obtain ⟨index, gathered, gathers⟩ := ih
      obtain ⟨next, stepped, more⟩ := gathers_last index before gathers statement
      refine ⟨next, ?_, more⟩
      rw [List.zipIdx_append, List.foldlM_append, gathered, ok_bind, List.zipIdx_cons, List.zipIdx_nil, Nat.zero_add,
        List.foldlM_cons, stepped, ok_bind]
      rfl

end Index

end Strict

end Schematic
