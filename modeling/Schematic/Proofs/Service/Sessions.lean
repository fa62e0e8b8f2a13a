import Schematic.Proofs.Service.Drafting
import Schematic.Proofs.Service.Keys

set_option autoImplicit false

namespace Schematic

open Schematic.Action

-- One step of a session: a call of the service, a breakdown that is to come, or other settings.
inductive Turn where
  | create (principal : Option String) (given : List (String × Json))
  | replace (principal : Option String) (id : Int) (text : String)
  | draft (principal : Option String) (id : Int) (drafter : Drafter) (instructions : String)
  | get (principal : Option String) (id : Int)
  | list (principal : Option String)
  | schema (principal : Option String) (id : Int)
  | validate (text : String)
  | format (text : String)
  | preview (drafter : Drafter) (instructions : String) (current : Option String)
  | chat (principal : Option String) (id : Int)
  | fault (breakdown : Breakdown)
  | configure (known : Except NumberFault Settings)

def Turn.work (known : Except NumberFault Settings) : Turn → Action Unit
  | .create principal given => discard (Service.createModel principal given)
  | .replace principal id text => discard (Service.replaceSchema known id text principal)
  | .draft principal id drafter instructions => discard (Service.applyDraft known id drafter instructions principal)
  | .get principal id => discard (Service.getModel id principal)
  | .list principal => discard (Service.listModels principal)
  | .schema principal id => discard (Service.getSchema known id principal)
  | .validate text => discard ((Schematic.validate · text) <$> settings known)
  | .format text => discard ((formatted · text) <$> settings known)
  | .preview drafter instructions current => discard (Service.draftSchema known drafter instructions current)
  | .chat principal id => discard (Service.chatHistory known id principal)
  | .fault breakdown => modify fun world => { world with breakdowns := world.breakdowns ++ [breakdown] }
  | .configure _ => return

-- The events since an earlier world, the newest first.
def events (before after : World) : List StoreEvent :=
  (after.happenings.take (after.happenings.length - before.happenings.length)).map Happening.event

-- A replacement is committed right after it has stamped its data model.
def replaces (id : Int) : List StoreEvent → Bool
  | [] => false
  | event :: earlier => (event = .committed && earlier.head? = some (.ran (.touchModel id))) || replaces id earlier

def answer? (drafter : Drafter) (world : World) : Option String :=
  world.asked.head?.bind fun (instructions, current) =>
    match (drafter instructions current).outcome with
    | .ok given => some (given.getD "")
    | .error _ => none

def Turn.saved? (before after : World) : Turn → Option (Int × String)
  | .replace _ id text => if replaces id (events before after) then some (id, text) else none
  | .draft _ id drafter _ => if replaces id (events before after) then (answer? drafter after).map (id, ·) else none
  | _ => none

-- A store in use, the settings, and the replacements that were committed, the newest first.
structure Session where
  world : World
  known : Except NumberFault Settings
  replaced : List (Int × String) := []

def Session.after (session : Session) (turn : Turn) : Session :=
  let world := (outcome (turn.work session.known) session.world).2
  { world
    known :=
      match turn with
      | .configure known => known
      | _ => session.known
    replaced := (turn.saved? session.world world).toList ++ session.replaced }

theorem session_world (session : Session) (turn : Turn) :
    (session.after turn).world = (outcome (turn.work session.known) session.world).2 := rfl

-- Sessions begin with a store that holds no schema.
inductive Reachable : Session → Prop where
  | start (world : World) (known : Except NumberFault Settings) (entities : world.tables.entities.rows = [])
      (fields : world.tables.fields.rows = []) (relations : world.tables.relations.rows = []) :
      Reachable { world, known }
  | turn (session : Session) (turn : Turn) (earlier : Reachable session) : Reachable (session.after turn)

theorem events_since (before after : World) (fresh : List Happening) (since : after.happenings = fresh ++ before.happenings) :
    events before after = fresh.map Happening.event := by
  rw [events, since, List.length_append, Nat.add_sub_cancel, List.take_left]

theorem replaces_later (id : Int) (later earlier : List StoreEvent) (uncommitted : ∀ event ∈ later, event ≠ .committed) :
    replaces id (later ++ earlier) = replaces id earlier := by
  induction later with
  | nil => rfl
  | cons event later ih =>
      have other : event ≠ .committed := uncommitted event List.mem_cons_self
      rw [List.cons_append, replaces, ih fun event member => uncommitted event (List.mem_cons_of_mem _ member)]
      simp [other]

theorem replaces_earlier (id : Int) (later earlier : List StoreEvent)
    (untouched : ∀ event ∈ earlier, Service.Untouched event) : replaces id (later ++ earlier) = replaces id later := by
  have stamp : earlier.head? ≠ some (.ran (.touchModel id)) := by
    intro first
    exact untouched _ (List.mem_of_head? first) id rfl
  induction later with
  | nil =>
      induction earlier with
      | nil => rfl
      | cons event earlier ih =>
          have next : earlier.head? ≠ some (.ran (.touchModel id)) := by
            intro first
            exact untouched _ (List.mem_cons_of_mem _ (List.mem_of_head? first)) id rfl
          have rest : replaces id earlier = false :=
            ih (fun event member => untouched event (List.mem_cons_of_mem _ member)) next
          change replaces id (event :: earlier) = false
          rw [replaces, rest]
          simp [next]
  | cons event later ih =>
      rw [List.cons_append, replaces, replaces, ih]
      cases later with
      | nil => simp [stamp]
      | cons first later => rfl

theorem quiet_replaces (id : Int) (before start after : World) (happenings : start.happenings = before.happenings)
    (quiet : Quiet Service.Untouched start none after) : replaces id (events before after) = false := by
  obtain ⟨fresh, whole, each⟩ := quiet.events
  rw [events_since before after fresh (happenings ▸ whole)]
  exact replaces_earlier id [] _ (by simpa using each)

theorem replaces_between (id : Int) (before middle settled after : World) (fresh : List Happening)
    (begun : Since Service.Untouched before middle) (whole : settled.happenings = fresh ++ middle.happenings)
    (ended : Since (· ≠ .committed) settled after) :
    replaces id (events before after) = replaces id (events middle settled) := by
  obtain ⟨earlier, early, untouched⟩ := begun
  obtain ⟨later, late, uncommitted⟩ := ended
  have all : after.happenings = (later ++ (fresh ++ earlier)) ++ before.happenings := by
    rw [late, whole, early, List.append_assoc, List.append_assoc]
  rw [events_since before after _ all, events_since middle settled fresh whole, List.map_append, List.map_append,
    replaces_later id _ _ (by simpa using uncommitted), replaces_earlier id _ _ (by simpa using untouched)]

inductive Effect (before after : World) : Option (Int × String) → Prop where
  | kept (entities : after.tables.entities.rows = before.tables.entities.rows)
      (fields : after.tables.fields.rows = before.tables.fields.rows)
      (grown : before.tables.entities.lastId ≤ after.tables.entities.lastId) : Effect before after none
  | saved (id : Int) (text : String) (settings : Settings) (valid : (validate settings text).isValid = true)
      (stored : Rewritten id (validate settings text).entities before.tables after.tables) :
      Effect before after (some (id, text))

theorem quiet_effect (kind : StoreEvent → Prop) (before start after : World) (failure : Option Failure)
    (tables : start.tables = before.tables) (quiet : Quiet kind start failure after) : Effect before after none := by
  have entities : after.tables.entities = before.tables.entities := quiet.entities.trans (congrArg Tables.entities tables)
  refine .kept (congrArg Table.rows entities) ?_ (Int.le_of_eq (congrArg Table.lastId entities.symm))
  rw [quiet.fields, tables]

theorem outcome_discard {α : Type} (work : Action α) (before : World) :
    (outcome (discard work) before).2 = (outcome work before).2 := by
  have parts : (discard work : Action PUnit) = work >>= fun _ => pure PUnit.unit := map_eq_pure_bind _ work
  rw [parts]
  rcases outcome_cases work before with ⟨value, after, yields⟩ | ⟨failure, after, fails⟩
  · rw [outcome_after _ _ _ _ _ yields, yields]
    rfl
  · rw [outcome_failed _ _ _ _ _ fails, fails]

theorem rewritten_between (id : Int) (entities : List Entity) (early late : StoreEvent → Prop) (a b c d : World)
    (first last : Option Failure) (begun : Quiet early a first b) (rewritten : Rewritten id entities b.tables c.tables)
    (ended : Quiet late c last d) : Rewritten id entities a.tables d.tables := by
  obtain ⟨rows, fields, relations, written, parents, tables⟩ := rewritten
  rw [begun.entities] at written
  refine ⟨rows, fields, relations, written, parents, ?_, ?_, ?_, ?_⟩
  · rw [ended.entities, tables.entities, cleared_entities, begun.entities, cleared_entities]
  · rw [ended.entities, tables.last, begun.entities]
  · rw [ended.fields, tables.fields, cleared_fields, Tables.entityIds, begun.entities, begun.fields, cleared_fields, Tables.entityIds]
  · rw [ended.relations, tables.relations, cleared_relations, begun.relations, cleared_relations]

theorem replaces_returned (known : Except NumberFault Settings) (id : Int) (text : String) (principal : Option String)
    (before after : World) (result : Except Failure Saved)
    (ends : outcome (Service.replaceSchema known id text principal) before = (result, after)) :
    replaces id (events before after) = result.isOk := by
  cases result with
  | ok saved =>
      obtain ⟨settings, -, valid, -, committed⟩ := Service.replace_yields _ _ _ _ _ _ _ ends
      obtain ⟨tables, fresh, whole, each⟩ := committed.ended
      rw [events_since before after (⟨.committed, after.tables⟩ :: ⟨.ran (.touchModel id), tables⟩ :: fresh) whole]
      simp [replaces, Except.isOk, Except.toBool]
  | error failure =>
      obtain ⟨fresh, whole, each⟩ := (Service.replace_fails _ _ _ _ _ _ _ ends).uncommitted
      rw [events_since before after fresh whole, ← List.append_nil (fresh.map Happening.event), replaces_later]
      · rfl
      · simpa using each

theorem effect_outside (start before after : World) (saved : Option (Int × String)) (tables : start.tables = before.tables)
    (effect : Effect start after saved) : Effect before after saved := by
  cases effect with
  | kept entities fields grown =>
      rw [tables] at entities fields grown
      exact .kept entities fields grown
  | saved id text settings valid stored => exact .saved id text settings valid (tables ▸ stored)

theorem replacement_effect (known : Except NumberFault Settings) (id : Int) (text : String) (principal : Option String)
    (before middle settled after : World) (result : Except Failure Saved)
    (begun : Quiet Service.Untouched before none middle)
    (ends : outcome (Service.replaceSchema known id text principal) middle = (result, settled))
    (ended : Quiet (· ≠ .committed) settled none after) :
    replaces id (events before after) = result.isOk ∧
      Effect before after (if result.isOk then some (id, text) else none) := by
  have returned := replaces_returned known id text principal middle settled result ends
  cases result with
  | ok saved =>
      obtain ⟨settings, -, valid, -, committed⟩ := Service.replace_yields _ _ _ _ _ _ _ ends
      obtain ⟨tables, fresh, whole, -⟩ := committed.ended
      rw [replaces_between id before middle settled after (_ :: _ :: fresh) begun.events whole ended.events]
      refine ⟨returned, .saved id text settings valid ?_⟩
      exact rewritten_between id _ _ _ before middle settled after none none begun committed.stored ended
  | error failure =>
      have refused := Service.replace_fails _ _ _ _ _ _ _ ends
      obtain ⟨fresh, whole, -⟩ := refused.uncommitted
      rw [replaces_between id before middle settled after fresh begun.events whole ended.events]
      refine ⟨returned, .kept ?_ ?_ ?_⟩
      · rw [ended.entities, refused.rows.entities, begun.entities]
      · rw [ended.fields, refused.rows.fields, begun.fields]
      · rw [ended.entities, ← begun.entities]
        exact refused.grown

theorem replace_effect (known : Except NumberFault Settings) (id : Int) (text : String) (principal : Option String)
    (before after : World) (result : Except Failure Saved)
    (ends : outcome (Service.replaceSchema known id text principal) before = (result, after)) :
    Effect before after (if replaces id (events before after) then some (id, text) else none) := by
  have still : ∀ kind world, Quiet kind world none world := fun kind world => (quiet_chains kind).still world none
  obtain ⟨returned, effect⟩ :=
    replacement_effect known id text principal before before after after result (still _ _) ends (still _ _)
  rw [returned]
  exact effect

theorem replace_asks_nobody (known : Except NumberFault Settings) (id : Int) (text : String) (principal : Option String)
    (before after : World) (result : Except Failure Saved)
    (ends : outcome (Service.replaceSchema known id text principal) before = (result, after)) : after.asked = before.asked := by
  cases result with
  | ok saved =>
      obtain ⟨settings, -, -, -, committed⟩ := Service.replace_yields _ _ _ _ _ _ _ ends
      exact committed.asked
  | error failure => exact (Service.replace_fails _ _ _ _ _ _ _ ends).asked

theorem asked_answer (drafter : Drafter) (instructions : String) (current given : Option String) (before after : World)
    (asked : after.asked = (instructions, current) :: before.asked) (answer : (drafter instructions current).outcome = .ok given) :
    answer? drafter after = some (given.getD "") := by
  simp [answer?, asked, answer]

theorem draft_effect (known : Except NumberFault Settings) (id : Int) (drafter : Drafter) (instructions : String)
    (principal : Option String) (before after : World) (result : Except Failure Saved)
    (ends : outcome (Service.applyDraft known id drafter instructions principal) before = (result, after)) :
    Effect before after
      (if replaces id (events before after) then (answer? drafter after).map (id, ·) else none) := by
  have quietly : ∀ start, start.happenings = before.happenings → start.tables = before.tables →
      Quiet Service.Untouched start none after →
      Effect before after (if replaces id (events before after) then (answer? drafter after).map (id, ·) else none) := by
    intro start happenings tables quiet
    rw [if_neg (by simp [quiet_replaces id before start after happenings quiet])]
    exact quiet_effect _ before start after none tables quiet
  rcases Service.draft_course known id drafter instructions principal before after result ends with
    ⟨still, -⟩ | ⟨stored, ready, -, ⟨still, -⟩ | ⟨given, middle, saved, settled, answer, begun, replaced, ended, -⟩⟩
  · exact quietly before rfl rfl still
  · exact quietly (Service.asking instructions (Service.told stored.1) before) rfl rfl still
  · obtain ⟨returned, effect⟩ := replacement_effect known id (given.getD "") principal _ middle settled after saved begun
      replaced ended
    have same : events (Service.asking instructions (Service.told stored.1) before) after = events before after := rfl
    have asked : after.asked = (instructions, Service.told stored.1) :: before.asked :=
      ended.asked.trans ((replace_asks_nobody _ _ _ _ _ _ _ replaced).trans begun.asked)
    rw [← same, returned, asked_answer drafter instructions _ given before after asked answer, Option.map_some]
    exact effect_outside (Service.asking instructions (Service.told stored.1) before) before after _ rfl effect

theorem turn_effect (known : Except NumberFault Settings) (turn : Turn) (before : World) :
    Effect before (outcome (turn.work known) before).2 (turn.saved? before (outcome (turn.work known) before).2) := by
  have quietly : ∀ (α : Type) (work : Action α), Takes (Quiet Service.Untouched) work →
      Effect before (outcome (discard work) before).2 none := by
    intro α work quiet
    rw [outcome_discard]
    exact quiet_effect _ _ _ _ _ rfl (quiet_outcome _ work quiet _ _ _ rfl)
  have hosts := Service.untouched_lasts.toHosts
  cases turn with
  | create principal given => exact quietly _ _ (Service.create_takes _ hosts principal given)
  | replace principal id text =>
      rw [Turn.work, outcome_discard]
      exact replace_effect known id text principal before _ _ rfl
  | draft principal id drafter instructions =>
      rw [Turn.work, outcome_discard]
      exact draft_effect known id drafter instructions principal before _ _ rfl
  | get principal id => exact quietly _ _ (Service.get_takes _ hosts id principal)
  | list principal => exact quietly _ _ (Service.list_takes _ hosts principal)
  | schema principal id => exact quietly _ _ (Service.get_schema_takes _ Service.untouched_lasts known id principal)
  | validate text => exact quietly _ _ (Service.settled_takes _ hosts known _)
  | format text => exact quietly _ _ (Service.settled_takes _ hosts known _)
  | preview drafter instructions current =>
      rw [Turn.work, outcome_discard, Service.outcome_draft]
      have quiet := Service.received_takes _ hosts.chains hosts.note known (drafter instructions current)
      exact quiet_effect _ before (Service.asking instructions current before) _ none rfl (quiet_outcome _ _ quiet _ _ _ rfl)
  | chat principal id => exact quietly _ _ (Service.chat_takes _ hosts known id principal)
  | fault breakdown => exact .kept rfl rfl (Int.le_refl _)
  | configure known => exact .kept rfl rfl (Int.le_refl _)

theorem reachable_keyed (session : Session) (reachable : Reachable session) : Keyed session.world.tables := by
  induction reachable with
  | start world known entities fields relations =>
      constructor
      · rw [entities]
        exact List.nodup_nil
      · simp [entities]
      · simp [fields]
  | turn session turn earlier ih =>
      have effect := turn_effect session.known turn session.world
      generalize turn.saved? session.world (outcome (turn.work session.known) session.world).2 = saved at effect
      cases effect with
      | kept entities fields grown => exact keyed_rows _ _ entities fields grown ih
      | saved id text settings valid stored => exact rewritten_keyed id _ _ _ stored ih

end Schematic
