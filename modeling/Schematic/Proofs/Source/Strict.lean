import Schematic.Proofs.Source.Integrity
import Schematic.Proofs.Source.Stages

set_option autoImplicit false

namespace Schematic

open Text

-- What the reading would break off with where it finds nothing under a key, or takes a part, a header or a default for granted.
inductive Slip where
  | entity (name : String)
  | field (name : String)
  | flag (word : String)
  | part
  | header
  | refused (value : String)
  | endless

def demand {α : Type} (slip : Slip) : Option α → Except Slip α
  | some value => .ok value
  | none => .error slip

-- The reading of a text in which each lookup may fail, each block may lack its header, each default may be refused, and the
-- loop over the references may run out of turns.
namespace Strict

def flagWords : List String := ["primary", "unique", "index"]

def modifierWords : List String := flagWords ++ ["nullable", "default"]

structure Said where
  flags : List (String × Bool) := flagWords.map (·, false)
  isNullable : Bool := true
  text : Option String := none
  problems : List Problem := []

namespace Said

def report (said : Said) (problem : Problem) : Said := { said with problems := said.problems ++ [problem] }

def flag (said : Said) (word : String) (value : List Char) : Said :=
  let said := { said with flags := said.flags.map fun flag => if flag.1 = word then (word, true) else flag }
  if value = [] then said else said.report (.flagWithValue word)

def nullable (said : Said) : Option (List Char) → Said
  | none => { said with isNullable := true }
  | some value =>
      let lower := String.ofList (value.map Char.toLower)
      if lower = "true" ∨ lower = "false" then { said with isNullable := lower = "true" }
      else said.report (.badNullable (String.ofList value))

def default (said : Said) (value : List Char) : Said :=
  if value = [] then said.report .defaultWithoutValue
  else if isRenderable value then { said with text := some (String.ofList value) }
  else said.report (.unbalancedDefault (String.ofList value))

def step (said : Said) (text : List Char) : Said :=
  match Clause.read? (trim text) with
  | none => said.report (.badModifier (String.ofList (trim text)))
  | some clause =>
      let word := String.ofList clause.word
      if word ∉ modifierWords then said.report (.unknownModifier word)
      else if word ∈ flagWords then said.flag word (clause.value.getD [])
      else if word = "nullable" then said.nullable clause.value
      else said.default (clause.value.getD [])

def modifiers (said : Said) : Except Slip Modifiers := do
  let isPrimary ← demand (.flag "primary") (said.flags.lookup "primary")
  let isUnique ← demand (.flag "unique") (said.flags.lookup "unique")
  let isIndex ← demand (.flag "index") (said.flags.lookup "index")
  let isNullable := said.isNullable && !isPrimary
  match said.text with
  | none => return { isPrimary, isUnique, isIndex, isNullable }
  | some value =>
      let text ← demand (.refused value) (DefaultText.ofString? value)
      return { isPrimary, isUnique, isIndex, isNullable, defaultText := some text }

end Said

def clauses (texts : List (List Char)) : Except Slip (Modifiers × List Problem) := do
  let said := texts.foldl Said.step {}
  let modifiers ← said.modifiers
  return (modifiers, said.problems)

def resolve (names : List String) (expression : List Char) : Except Slip (Except TypeFault FieldType) :=
  let text := trim expression
  if text = [] then .ok (.error .missing)
  else
    let (word, isArray) := splitArrayMark text
    if (enumBody? word).isSome then .ok (classify names word none isArray)
    else
      let parts := splitOn '.' word
      if 2 < parts.length then .ok (.error (.tooManyParts (String.ofList word)))
      else do
        let base ← demand .part parts[0]?
        let field ← if parts.length = 2 then some <$> demand .part parts[1]? else .ok none
        let base := trim base
        let field := field.map trim
        if field.any (!isName ·) then .ok (.error (.badQualifier (String.ofList word) (String.ofList (field.getD []))))
        else if !isName base then .ok (.error (.unknown (String.ofList base)))
        else .ok (classify names base (field.map String.ofList) isArray)

-- What the first pass gathers: the entities, and for each header that brings one its place among the statements.
structure Index where
  entities : List Entity := []
  accepted : List (Nat × String) := []
  errors : List Diagnostic := []

namespace Index

def step (index : Index) (entry : Statement × Nat) : Except Slip Index :=
  let (statement, place) := entry
  let refuse (problem : Problem) : Index := { index with errors := index.errors ++ [⟨statement.line, problem⟩] }
  if isHeader statement.text then
    match headerName? statement.text with
    | none => .ok (refuse .badHeader)
    | some name =>
        let name := String.ofList name
        if name ∈ reservedNames then .ok (refuse (.reservedName name))
        else if hasEntity index.entities name then do
          let first ← demand (.entity name) (entity? index.entities name)
          .ok (refuse (.repeatedEntity name first.line))
        else
          .ok
            { index with
              entities := index.entities ++ [⟨name, [], statement.line⟩]
              accepted := index.accepted ++ [(place, name)] }
  else .ok index

end Index

-- Where the second pass stands. The header that was read last is recorded also when its block has been closed.
structure Walk where
  entities : List Entity
  current : Option String := none
  inBlock : Bool := false
  opened : Option Statement := none
  errors : List Diagnostic := []

namespace Walk

def report (walk : Walk) (line : Nat) (problem : Problem) : Walk :=
  { walk with errors := walk.errors ++ [⟨line, problem⟩] }

def reportOpen (walk : Walk) : Except Slip Walk :=
  if walk.inBlock then do
    let header ← demand .header walk.opened
    match walk.current with
    | none => .ok (walk.report header.line .unclosedBlock)
    | some name => .ok (walk.report header.line (.unclosedEntity name))
  else .ok walk

def readField (walk : Walk) (owner : String) (statement : Statement) : Except Slip Walk :=
  let line := statement.line
  let name := String.ofList (trim (statement.text.takeWhile (· ≠ ':')))
  if !isName name.toList then .ok (walk.report line (.badFieldName name))
  else do
    let entity ← demand (.entity owner) (entity? walk.entities owner)
    if entity.hasField name then do
      let first ← demand (.field name) (entity.field? name)
      .ok (walk.report line (.repeatedField name owner first.line))
    else do
      let parts := splitOutside '@' 0 ((statement.text.dropWhile (· ≠ ':')).drop 1)
      let expression ← demand .part parts[0]?
      match ← resolve (walk.entities.map (·.name)) expression with
      | .error fault => .ok (walk.report line (.badType fault))
      | .ok type => do
          let (modifiers, problems) ← clauses parts.tail
          .ok
            { walk with
              entities := updateEntity walk.entities owner
                fun entity => { entity with fields := entity.fields ++ [⟨name, type, modifiers, line⟩] }
              errors := walk.errors ++ problems.map (⟨line, ·⟩) }

def header (accepted : List (Nat × String)) (walk : Walk) (entry : Statement × Nat) : Except Slip Walk := do
  let walk ← walk.reportOpen
  match accepted.lookup entry.2 with
  | none => .ok { walk with opened := some entry.1, current := none, inBlock := true }
  | some name => do
      let entity ← demand (.entity name) (entity? walk.entities name)
      .ok { walk with opened := some entry.1, current := some entity.name, inBlock := true }

def step (accepted : List (Nat × String)) (walk : Walk) (entry : Statement × Nat) : Except Slip Walk :=
  let text := entry.1.text
  let line := entry.1.line
  if isHeader text then walk.header accepted entry
  else if text = ['}'] then
    let walk := if walk.inBlock then walk else walk.report line .strayClose
    .ok { walk with current := none, inBlock := false }
  else if text.contains ':' then
    if !walk.inBlock then .ok (walk.report line .fieldOutsideBlock)
    else
      match walk.current with
      | none => .ok walk
      | some owner => walk.readField owner entry.1
  else if walk.inBlock && walk.current.isNone then .ok walk
  else .ok (walk.report line (.unrecognized (String.ofList text)))

end Walk

structure Checked where
  entities : List Entity
  errors : List Diagnostic := []

namespace Checked

def field (owner : String) (checked : Checked) (field : Field) : Except Slip Checked :=
  match field.type.base with
  | .ref target (some named) => do
      let pointed ← demand (.entity target) (entity? checked.entities target)
      if pointed.hasField named then .ok checked
      else do
        let home ← demand (.entity owner) (entity? checked.entities owner)
        let _ ← demand (.field field.name) (home.field? field.name)
        .ok
          { entities := updateEntity checked.entities owner (·.eraseField field.name)
            errors := checked.errors ++ [⟨field.line, .missingTarget named target⟩] }
  | _ => .ok checked

def entity (checked : Checked) (name : String) : Except Slip Checked := do
  let entity ← demand (.entity name) (entity? checked.entities name)
  entity.fields.foldlM (field name) checked

def pass (entities : List Entity) : Except Slip Checked := (entityNames entities).foldlM entity { entities }

def passes : Nat → List Entity → Except Slip (Checked × Nat)
  | 0, _ => .error .endless
  | budget + 1, entities => do
      let checked ← pass entities
      if checked.errors = [] then .ok (checked, 1)
      else do
        let (stable, more) ← passes budget checked.entities
        .ok ({ stable with errors := checked.errors ++ stable.errors }, more + 1)

end Checked

structure Outcome where
  schema : Schema
  fields : Nat
  passes : Nat

def parse (budget : Nat) (identifier : String) (source : List Char) : Except Slip Outcome := do
  let statements := (scan source).zipIdx
  let index ← statements.foldlM Index.step {}
  let walk ← statements.foldlM (Walk.step index.accepted) { entities := index.entities }
  let walk ← walk.reportOpen
  let (checked, passes) ← Checked.passes budget walk.entities
  return {
    schema :=
      { entities := checked.entities
        errors := (index.errors ++ walk.errors ++ checked.errors).mergeSort (·.line ≤ ·.line)
        identifier }
    fields := fieldCount walk.entities
    passes }

@[simp] theorem demand_some {α : Type} (slip : Slip) (value : α) : demand slip (some value) = .ok value := rfl

@[simp] theorem ok_bind {ε α β : Type} (value : α) (next : α → Except ε β) : (Except.ok value >>= next) = next value := rfl

namespace Said

structure Stands (said : Said) (state : ClauseState) : Prop where
  flags : said.flags =
    [("primary", state.modifiers.isPrimary), ("unique", state.modifiers.isUnique), ("index", state.modifiers.isIndex)]
  nullable : said.isNullable = state.modifiers.isNullable
  text : said.text = state.modifiers.defaultText.map DefaultText.text
  problems : said.problems = state.problems

variable (said : Said) (state : ClauseState)

theorem stands_report (stands : said.Stands state) (problem : Problem) :
    (said.report problem).Stands (state.report problem) :=
  ⟨stands.flags, stands.nullable, stands.text, congrArg (· ++ [problem]) stands.problems⟩

theorem stands_flag (word : String) (value : Option (List Char)) (set : Modifiers → Modifiers)
    (raised : Stands { said with flags := said.flags.map fun flag => if flag.1 = word then (word, true) else flag }
      { state with modifiers := set state.modifiers }) :
    (said.flag word (value.getD [])).Stands (state.flag word value set) := by
  rw [flag, ClauseState.flag]
  by_cases empty : value.getD [] = []
  · rw [if_pos empty, if_pos empty]
    exact raised
  · rw [if_neg empty, if_neg empty]
    exact stands_report _ _ raised _

theorem nullable_words (value : List Char) :
    state.nullable (some value) =
      if String.ofList (value.map Char.toLower) = "true" then { state with modifiers := { state.modifiers with isNullable := true } }
      else if String.ofList (value.map Char.toLower) = "false" then
        { state with modifiers := { state.modifiers with isNullable := false } }
      else state.report (.badNullable (String.ofList value)) := by
  rw [ClauseState.nullable.eq_def]
  simp only
  split
  · rename_i lower
    rw [if_pos lower]
  · rename_i lower
    rw [if_neg (by rw [lower]; decide), if_pos lower]
  · rename_i yes no
    rw [if_neg yes, if_neg no]

theorem stands_nullable (stands : said.Stands state) (value : Option (List Char)) :
    (said.nullable value).Stands (state.nullable value) := by
  cases value with
  | none => exact ⟨stands.flags, rfl, stands.text, stands.problems⟩
  | some value =>
      rw [nullable, nullable_words]
      generalize String.ofList (value.map Char.toLower) = lower
      by_cases yes : lower = "true"
      · rw [if_pos (.inl yes), if_pos yes]
        exact ⟨stands.flags, decide_eq_true yes, stands.text, stands.problems⟩
      · by_cases no : lower = "false"
        · rw [if_pos (.inr no), if_neg yes, if_pos no]
          exact ⟨stands.flags, decide_eq_false yes, stands.text, stands.problems⟩
        · rw [if_neg (not_or.mpr ⟨yes, no⟩), if_neg yes, if_neg no]
          exact stands_report said state stands _

theorem stands_default (stands : said.Stands state) (value : Option (List Char)) :
    (said.default (value.getD [])).Stands (state.default value) := by
  rw [default, ClauseState.default]
  cases value.getD [] with
  | nil => exact stands_report said state stands _
  | cons c rest =>
      have back : (String.ofList (c :: rest)).toList = c :: rest := String.toList_ofList
      simp only [List.cons_ne_nil, if_false, DefaultText.ofString?]
      by_cases renderable : isRenderable (c :: rest) = true
      · rw [if_pos renderable, dif_pos (by rw [back]; exact renderable)]
        exact ⟨stands.flags, stands.nullable, rfl, stands.problems⟩
      · rw [if_neg renderable, dif_neg (by rw [back]; exact renderable)]
        exact stands_report said state stands _

theorem stands_step (stands : said.Stands state) (text : List Char) : (said.step text).Stands (state.step text) := by
  rw [step, ClauseState.step]
  cases Clause.read? (trim text) with
  | none => exact stands_report said state stands _
  | some clause =>
      simp only
      by_cases known : String.ofList clause.word ∈ modifierWords
      · simp only [modifierWords, flagWords, List.cons_append, List.nil_append, List.mem_cons, List.not_mem_nil, or_false] at known
        rcases known with word | word | word | word | word
        · simp only [word]
          refine stands_flag said state "primary" clause.value ({ · with isPrimary := true }) ?_
          exact ⟨by simp [stands.flags], stands.nullable, stands.text, stands.problems⟩
        · simp only [word]
          refine stands_flag said state "unique" clause.value ({ · with isUnique := true }) ?_
          exact ⟨by simp [stands.flags], stands.nullable, stands.text, stands.problems⟩
        · simp only [word]
          refine stands_flag said state "index" clause.value ({ · with isIndex := true }) ?_
          exact ⟨by simp [stands.flags], stands.nullable, stands.text, stands.problems⟩
        · simp only [word]
          exact stands_nullable said state stands clause.value
        · simp only [word]
          exact stands_default said state stands clause.value
      · have apart : ∀ other ∈ modifierWords, String.ofList clause.word ≠ other := fun other member same => known (same ▸ member)
        rw [if_pos known]
        split
        any_goals exact absurd ‹_› (apart _ (by decide))
        exact stands_report said state stands _

theorem stands_modifiers (stands : said.Stands state) : said.modifiers = .ok state.modifiers.settle := by
  rw [modifiers, stands.flags, stands.nullable, stands.text, Modifiers.settle]
  cases given : state.modifiers.defaultText with
  | none => rfl
  | some value =>
      have accepted : DefaultText.ofString? value.text = some value := by rw [DefaultText.ofString?, dif_pos value.renderable]
      simp only [Option.map_some, accepted]
      rfl

end Said

theorem clauses_read (texts : List (List Char)) : clauses texts = .ok (readClauses texts) := by
  have stands : (texts.foldl Said.step {}).Stands (texts.foldl ClauseState.step {}) := by
    have all : ∀ (said : Said) (state : ClauseState), said.Stands state →
        (texts.foldl Said.step said).Stands (texts.foldl ClauseState.step state) := by
      induction texts with
      | nil => exact fun _ _ stands => stands
      | cons text texts ih => exact fun said state stands => ih _ _ (Said.stands_step said state stands text)
    exact all {} {} ⟨rfl, rfl, rfl, rfl⟩
  rw [clauses, Said.stands_modifiers _ _ stands, stands.problems]
  rfl

theorem resolve_resolves (names : List String) (expression : List Char) :
    resolve names expression = .ok (resolveType names expression) := by
  rw [resolve, resolveType]
  simp only
  split
  · rfl
  · split
    · rfl
    · obtain ⟨first, rest, parts⟩ := split_on_cons '.' (splitArrayMark (trim expression)).1
      rw [parts]
      cases rest with
      | nil => cases named : isName (trim first) <;> simp [named]
      | cons second rest =>
          cases rest with
          | nil => cases fieldNamed : isName (trim second) <;> cases named : isName (trim first) <;> simp [named, fieldNamed]
          | cons third rest => simp

end Strict

end Schematic
