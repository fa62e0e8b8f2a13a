import Schematic.Proofs.Service.Reporting

set_option autoImplicit false

namespace Schematic

open Schematic.Action Schematic.Service

-- The draft of a step, if it is one that the actor may ask for and whose stored schema was loaded.
def Session.exchange? (session : Session) : Turn → Option Exchange
  | .draft principal id drafter instructions =>
      match (outcome (getSchema session.known id principal) session.world).1 with
      | .error _ => none
      | .ok stored =>
          let ended := outcome (applyDraft session.known id drafter instructions principal) session.world
          some
            { id, instructions
              verdict := verdictOf id ended.2.tables ended.1
              text := drafted? (drafter instructions (told stored.1)) }
  | _ => none

def exchanges : Session → List Turn → List Exchange
  | _, [] => []
  | session, turn :: turns => (session.exchange? turn).toList ++ exchanges (session.after turn) turns

-- No breakdown strikes the events of storing a message, neither before a draft is asked for nor after it was judged.
def Session.undisturbed (session : Session) : Turn → Bool
  | .draft principal id drafter instructions =>
      let read := outcome (getSchema session.known id principal) session.world
      match read.1 with
      | .error _ => true
      | .ok stored =>
          let kept := outcome (recordMessage id .user instructions none) read.2
          let settled := outcome (deliberate session.known id drafter instructions (told stored.1) principal) kept.2
          clear read.2 && clear settled.2
  | _ => true

def undisturbed : Session → List Turn → Bool
  | _, [] => true
  | session, turn :: turns => session.undisturbed turn && undisturbed (session.after turn) turns

section Session

variable (session : Session) (principal : Option String) (id : Int) (drafter : Drafter) (instructions : String)

theorem missed_draft (failure : Failure) (read : World)
    (missed : Fails (getSchema session.known id principal) session.world failure read) :
    session.exchange? (.draft principal id drafter instructions) = none ∧
      (session.after (.draft principal id drafter instructions)).world.tables.messages = session.world.tables.messages := by
  constructor
  · rw [Session.exchange?, missed]
  · have ended : outcome (applyDraft session.known id drafter instructions principal) session.world = (.error failure, read) := by
      rw [apply_draft_deliberates]
      exact outcome_failed _ _ _ _ _ missed
    rw [session_world, Turn.work, outcome_discard, ended]
    exact (get_schema_takes _ silent_spans session.known id principal).2 _ _ _ missed

theorem loaded_draft (stored : String × Projection) (read : World)
    (loads : Yields (getSchema session.known id principal) session.world stored read)
    (free : session.undisturbed (.draft principal id drafter instructions) = true) :
    ∃ settings kept settled after judgement, session.known = .ok settings ∧
      Converses settings id drafter instructions principal session.world read kept settled after stored judgement ∧
      session.exchange? (.draft principal id drafter instructions) =
        some { id, instructions, verdict := judgement.verdict, text := judgement.text? } := by
  obtain ⟨settings, known⟩ := get_schema_known _ _ _ _ _ _ loads
  rw [Session.undisturbed, loads] at free
  obtain ⟨first, last⟩ := Bool.and_eq_true_iff.mp free
  rw [known] at loads last
  obtain ⟨kept, settled, after, judgement, converses⟩ := draft_converses settings id drafter instructions principal session.world
    read stored loads first last
  refine ⟨settings, kept, settled, after, judgement, known, converses, ?_⟩
  rw [Session.exchange?, known, loads, converses.ended, converses.tells_verdict,
    converses.tells_text]

end Session

theorem turn_messages (session : Session) (turn : Turn) (free : session.undisturbed turn = true) :
    (session.after turn).world.tables.messages =
      (session.world.tables.tell ((session.exchange? turn).toList.flatMap Exchange.messages)).messages := by
  have silently : ∀ (α : Type) (work : Action α), Takes Silent work →
      (outcome (discard work) session.world).2.tables.messages = session.world.tables.messages := by
    intro α work silent
    rw [outcome_discard]
    exact silent_outcome work silent session.world
  have serves := silent_spans.toServes
  cases turn with
  | create principal given => exact silently _ _ (create_takes _ serves principal given)
  | replace principal id text => exact silently _ _ (replace_silent session.known id text principal)
  | draft principal id drafter instructions =>
      rcases outcome_cases (getSchema session.known id principal) session.world with
        ⟨stored, read, loads⟩ | ⟨failure, read, missed⟩
      · obtain ⟨settings, kept, settled, after, judgement, known, converses, shown⟩ :=
          loaded_draft session principal id drafter instructions stored read loads free
        rw [shown, session_world, Turn.work, outcome_discard, known, converses.ended]
        exact converses.tells_two
      · obtain ⟨none, same⟩ := missed_draft session principal id drafter instructions failure read missed
        rw [none, same]
        rfl
  | get principal id => exact silently _ _ (get_takes _ serves id principal)
  | list principal => exact silently _ _ (list_takes _ serves principal)
  | schema principal id => exact silently _ _ (get_schema_takes _ silent_spans session.known id principal)
  | validate text => exact silently _ _ (settled_takes _ serves session.known _)
  | format text => exact silently _ _ (settled_takes _ serves session.known _)
  | preview drafter instructions current =>
      rw [session_world, Turn.work, outcome_discard, outcome_draft]
      have silent := received_takes Silent silent_chains silent_note session.known (drafter instructions current)
      exact silent_outcome _ silent (asking instructions current session.world)
  | chat principal id => exact silently _ _ (chat_takes _ serves session.known id principal)
  | fault breakdown => rfl
  | configure known => rfl

theorem run_messages (session : Session) (turns : List Turn) (free : undisturbed session turns = true) :
    (turns.foldl Session.after session).world.tables.messages =
      (session.world.tables.tell ((exchanges session turns).flatMap Exchange.messages)).messages := by
  induction turns generalizing session with
  | nil => rfl
  | cons turn turns ih =>
      obtain ⟨here, later⟩ := Bool.and_eq_true_iff.mp free
      rw [List.foldl_cons, ih _ later, exchanges, List.flatMap_append, tell_append]
      exact tell_same _ _ _ (turn_messages session turn here)

theorem exchange_now (exchange : Exchange) : ∀ message ∈ exchange.messages, message.createdAt = .clock := by
  intro message member
  rcases List.mem_pair.mp member with rfl | rfl
  · rfl
  · rfl

theorem filed_run (session : Session) (turns : List Turn) (free : undisturbed session turns = true)
    (filed : Filed session.world.tables) : Filed (turns.foldl Session.after session).world.tables := by
  apply filed_same _ _ (run_messages session turns free)
  apply filed_tell _ _ _ filed
  intro message member
  obtain ⟨exchange, -, among⟩ := List.mem_flatMap.mp member
  exact exchange_now exchange message among

theorem clock_run (session : Session) (turns : List Turn) (free : undisturbed session turns = true) :
    (turns.foldl Session.after session).world.tables.messages.clock = session.world.tables.messages.clock := by
  rw [run_messages session turns free, clock_tell]

theorem exchanges_said (told : List Exchange) (about : Int) :
    ((told.flatMap Exchange.messages).filter (·.dataModelId = about)).map ChatMessage.said =
      (told.flatMap Exchange.messages).filter (·.dataModelId = about) := by
  rw [List.map_congr_left (g := id), List.map_id]
  intro message member
  obtain ⟨exchange, -, among⟩ := List.mem_flatMap.mp (List.mem_filter.mp member).1
  rcases List.mem_pair.mp among with rfl | rfl
  · rfl
  · rfl

structure ReadsBack (known : Except NumberFault Settings) (world : World) (id : Int) (principal : String) : Prop where
  begins : ∀ messages after, Yields (chatHistory known id (some principal)) world messages after →
    Owns world.tables principal id ∧ ∃ settings, known = .ok settings ∧ 0 ≤ settings.drafting.historyLimit ∧
      messages = (world.tables.history id).take (min settings.drafting.historyLimit.toNat (world.tables.history id).length)
  answers : ∀ settings, known = .ok settings → 0 ≤ settings.drafting.historyLimit → Calm world →
    Owns world.tables principal id → principal ≠ "" →
    ∃ messages after, Yields (chatHistory known id (some principal)) world messages after

theorem filed_reads_back (known : Except NumberFault Settings) (world : World) (filed : Filed world.tables)
    (onward : Onward world.tables.messages.clock) (id : Int) (principal : String) : ReadsBack known world id principal := by
  constructor
  · intro messages after yields
    obtain ⟨owns, settings, given, room, same⟩ := chat_reads known id principal world after messages filed onward yields
    refine ⟨owns, settings, given, room, ?_⟩
    rw [same, ← List.take_eq_take_min]
  · intro settings given room calm owns named
    rw [given]
    exact chat_answers settings id principal world filed calm owns named room

-- The history of a data model is made of the messages about its drafts, two for each that was asked for, and of no others. It is
-- read by the times of the messages, in the order in which they were stored if the clock does not go back between them.
theorem history_follows_drafts (session : Session) (turns : List Turn) (free : undisturbed session turns = true) :
    let last := turns.foldl Session.after session
    (∀ id, (last.world.tables.history id).map ChatMessage.said = (session.world.tables.history id).map ChatMessage.said ++
      ((exchanges session turns).flatMap Exchange.messages).filter (·.dataModelId = id)) ∧
    (∀ principal id drafter instructions,
      let turn := Turn.draft principal id drafter instructions
      let ended := outcome (applyDraft last.known id drafter instructions principal) last.world
      (∀ failure read, Fails (getSchema last.known id principal) last.world failure read → last.exchange? turn = none) ∧
      (∀ stored read, Yields (getSchema last.known id principal) last.world stored read → last.undisturbed turn = true →
        ∃ exchange, last.exchange? turn = some exchange ∧
          Reported last.known id drafter instructions principal last.world ended.1 ended.2 exchange)) ∧
    ∀ (_filed : Filed session.world.tables) (_onward : Onward session.world.tables.messages.clock) (id : Int)
      (principal : String), ReadsBack last.known last.world id principal := by
  intro last
  refine ⟨fun id => ?_, fun principal id drafter instructions => ⟨?_, ?_⟩, fun filed onward id principal => ?_⟩
  · rw [Tables.history, run_messages session turns free, ← Tables.history, history_tell, exchanges_said]
  · intro failure read missed
    exact (missed_draft last principal id drafter instructions failure read missed).1
  · intro stored read loads untouched
    obtain ⟨settings, kept, settled, after, judgement, known, converses, shown⟩ :=
      loaded_draft last principal id drafter instructions stored read loads untouched
    refine ⟨_, shown, ?_⟩
    rw [known, converses.ended]
    exact converses.reports
  · rw [← clock_run session turns free] at onward
    exact filed_reads_back last.known last.world (filed_run session turns free filed) onward id principal

-- Of two data models, and of drafts that are stored, refused by the store, no schema, asked for by another and not given.
def conversation : List Turn :=
  let cart (_ : String) (_ : Option String) : Draft := ⟨.ok (some "entity Cart \x7b\n  id: ID\n\x7d\n"), []⟩
  [.create (some "ann") [("name", .str "Shop")], .create (some "bob") [("name", .str "Bank")],
    .draft (some "ann") 1 cart "a cart", .fault ⟨"commit", 2, "disk full"⟩, .draft (some "ann") 1 cart "again",
    .draft (some "bob") 2 (fun _ _ => ⟨.ok (some "a table"), []⟩) "an account", .draft (some "bob") 1 cart "mine",
    .draft (some "ann") 1 (fun _ _ => ⟨.error (.answered 503), []⟩) "a basket"]

def quietStart : Session := { world := {}, known := .ok {} }

theorem conversation_told :
    undisturbed quietStart conversation = true ∧ Filed quietStart.world.tables ∧
      Onward quietStart.world.tables.messages.clock ∧
      (exchanges quietStart conversation).map (fun exchange => (exchange.id, exchange.verdict)) =
        [(1, .applied 1 0), (1, .unsaved), (2, .rejected 1), (1, .failed "Schema drafter answered 503")] ∧
      ∃ messages after,
        Yields (chatHistory (.ok {}) 1 (some "ann")) (conversation.foldl Session.after quietStart).world messages after ∧
        messages.map (fun message => (message.sender, message.content)) =
          [(.user, "a cart"), (.ai, "Draft applied: 1 entities, 0 relations"), (.user, "again"),
            (.ai, "Draft could not be saved"), (.user, "a basket"), (.ai, "Draft failed: Schema drafter answered 503")] := by
  have filed : Filed quietStart.world.tables := filed_empty _ rfl
  have onward : Onward quietStart.world.tables.messages.clock := fun _ _ later => Int.add_le_add_left later _
  have free : undisturbed quietStart conversation = true := by decide +kernel
  obtain ⟨histories, -, reads⟩ := history_follows_drafts quietStart conversation free
  have told : (exchanges quietStart conversation).map (fun exchange => (exchange.id, exchange.verdict)) =
      [(1, .applied 1 0), (1, .unsaved), (2, .rejected 1), (1, .failed "Schema drafter answered 503")] := by decide +kernel
  have calm : Calm (conversation.foldl Session.after quietStart).world := List.isEmpty_iff.mp (by decide +kernel)
  have owner : ((conversation.foldl Session.after quietStart).world.tables.modelOf? 1).map DataModel.ownerId = some "ann" := by
    decide +kernel
  have owns : Owns (conversation.foldl Session.after quietStart).world.tables "ann" 1 := by
    obtain ⟨model, found, named⟩ := Option.map_eq_some_iff.mp owner
    exact (owns_model _ _ _).mpr ⟨model, found, named⟩
  have known : (conversation.foldl Session.after quietStart).known = .ok {} := by decide +kernel
  have read := reads filed onward 1 "ann"
  rw [known] at read
  obtain ⟨messages, after, yields⟩ := read.answers {} rfl (by decide) calm owns (by decide)
  refine ⟨free, filed, onward, told, messages, after, yields, ?_⟩
  obtain ⟨-, settings, given, -, limited⟩ := read.begins messages after yields
  obtain rfl := Except.ok.inj given
  rw [limited]
  decide +kernel

end Schematic
