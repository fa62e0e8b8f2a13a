import Schematic.Proofs.Service.Deliberation
import Schematic.Proofs.Service.History
import Schematic.Proofs.Service.Sessions

set_option autoImplicit false

namespace Schematic

open Schematic.Action Schematic.Service

structure Exchange where
  id : Int
  instructions : String
  verdict : Verdict
  text : Option String
deriving DecidableEq

def Exchange.messages (exchange : Exchange) : List ChatMessage :=
  [{ dataModelId := exchange.id, sender := .user, content := exchange.instructions },
    { dataModelId := exchange.id, sender := .ai, content := exchange.verdict.words, schemaText := exchange.text }]

def drafted? (draft : Draft) : Option String :=
  match draft.outcome with
  | .ok given => some (given.getD "")
  | .error _ => none

def verdictOf (id : Int) (tables : Tables) : Except Failure Saved → Verdict
  | .ok _ => .applied (tables.entities.belonging id).length (tables.relations.belonging id).length
  | .error (.invalid true errors) => .rejected errors.length
  | .error (.undrafted cause) => .failed cause.message
  | .error _ => .unsaved

def prompted (known : Except NumberFault Settings) (id : Int) (drafter : Drafter) (instructions : String)
    (principal : Option String) : Action (String × Schema) := do
  let stored ← getSchema known id principal
  recordMessage id .user instructions none
  draftSchema known drafter instructions (told stored.1)

-- The second message about a draft tells what was done: each of its forms stands for one course of things.
structure Reported (known : Except NumberFault Settings) (id : Int) (drafter : Drafter) (instructions : String)
    (principal : Option String) (before : World) (result : Except Failure Saved) (after : World) (exchange : Exchange) :
    Prop where
  about : exchange.id = id
  asked : exchange.instructions = instructions
  verdict : exchange.verdict = verdictOf id after.tables result
  applied : (∃ entities relations, exchange.verdict.words = (Verdict.applied entities relations).words) ↔
    replaces id (events before after) = true ∧ result.isOk = true
  rejected : (∃ errors, exchange.verdict.words = (Verdict.rejected errors).words) ↔
    ∃ errors, result = .error (.invalid true errors)
  failed : (∃ reason, exchange.verdict.words = (Verdict.failed reason).words) ↔ ∃ cause, result = .error (.undrafted cause)
  unsaved : exchange.verdict.words = Verdict.unsaved.words ↔ ∃ draft middle failure settled,
    Yields (prompted known id drafter instructions principal) before draft middle ∧ draft.2.isValid = true ∧
      Fails (replaceSchema known id draft.1 principal) middle failure settled ∧ result = .error failure
  text : ∀ text, exchange.text = some text ↔ ∃ schema middle,
    Yields (prompted known id drafter instructions principal) before (text, schema) middle

theorem drafted_iff (settings : Settings) (drafter : Drafter) (instructions : String) (current : Option String) (before : World)
    (text : String) :
    drafted? (drafter instructions current) = some text ↔ ∃ schema middle,
      Yields (draftSchema (.ok settings) drafter instructions current) before (text, schema) middle := by
  constructor
  · intro gives
    rcases outcome_cases (draftSchema (.ok settings) drafter instructions current) before with
      ⟨⟨given, schema⟩, middle, yields⟩ | ⟨failure, middle, fails⟩
    · obtain ⟨⟨draft, gave, same⟩, -⟩ := draft_yields settings drafter instructions current before middle given schema yields
      rw [drafted?, gave] at gives
      rw [← Option.some.inj gives, ← same]
      exact ⟨schema, middle, yields⟩
    · obtain ⟨⟨fault, gave, -⟩, -⟩ := draft_fails settings drafter instructions current before middle failure fails
      rw [drafted?, gave] at gives
      cases gives
  · intro drafts
    obtain ⟨schema, middle, yields⟩ := drafts
    obtain ⟨⟨draft, gave, same⟩, -⟩ := draft_yields settings drafter instructions current before middle text schema yields
    rw [drafted?, gave, same]

theorem get_schema_known (known : Except NumberFault Settings) (id : Int) (principal : Option String) (before after : World)
    (stored : String × Projection) (yields : Yields (getSchema known id principal) before stored after) :
    ∃ settings, known = .ok settings := by
  cases known with
  | ok settings => exact ⟨settings, rfl⟩
  | error fault =>
      obtain ⟨_, first, -, got⟩ := (yields_bind _ _ _ _ _).mp yields
      obtain ⟨projection, second, -, rendered⟩ := (yields_bind _ _ _ _ _).mp got
      cases meant : projection.toEntities with
      | error value =>
          simp only [meant] at rendered
          exact absurd rendered (yields_throw _ _ _ _)
      | ok entities =>
          simp only [meant] at rendered
          obtain ⟨_, third, read, -⟩ := (yields_bind _ _ _ _ _).mp rendered
          cases (Prod.mk.inj read).1

-- Whether a draft replaced the schema shows in its result, unless a message about it was lost.
theorem draft_replaces (known : Except NumberFault Settings) (id : Int) (drafter : Drafter) (instructions : String)
    (principal : Option String) (before after : World) (result : Except Failure Saved)
    (ends : outcome (applyDraft known id drafter instructions principal) before = (result, after)) :
    replaces id (events before after) = result.isOk ∨ ∃ message, result = .error (unannounced id message) := by
  cases draft_course known id drafter instructions principal before after result ends with
  | inl still =>
      obtain ⟨quiet, failure, rfl, -⟩ := still
      exact .inl (quiet_replaces id before before after rfl quiet)
  | inr asked =>
      obtain ⟨stored, ready, -, course⟩ := asked
      cases course with
      | inl still =>
          obtain ⟨quiet, failure, rfl⟩ := still
          exact .inl (quiet_replaces id before (asking instructions (told stored.1) before) after rfl quiet)
      | inr replaced =>
          obtain ⟨given, middle, saved, settled, -, begun, replaced, ended, announced⟩ := replaced
          obtain ⟨returned, -⟩ := replacement_effect known id (given.getD "") principal _ middle settled after saved begun
            replaced ended
          have same : events (asking instructions (told stored.1) before) after = events before after := rfl
          rw [same] at returned
          cases announced with
          | applied saved => exact .inl returned
          | lost saved message => exact .inr ⟨message, rfl⟩
          | unsaved failure told => exact .inl returned

section Loaded

variable (settings : Settings) (id : Int) (drafter : Drafter) (instructions : String) (principal : Option String)
variable (before read kept settled after : World) (stored : String × Projection) (judgement : Judgement)

structure Converses : Prop where
  loads : Yields (getSchema (.ok settings) id principal) before stored read
  asks : Yields (recordMessage id .user instructions none) read () kept
  reached : Reached settings id drafter instructions (told stored.1) principal kept judgement settled
  asked : kept.tables = read.tables.tell [{ dataModelId := id, sender := .user, content := instructions }]
  told : after.tables = settled.tables.tell
    [{ dataModelId := id, sender := .ai, content := judgement.verdict.words, schemaText := judgement.text? }]
  ended : outcome (applyDraft (.ok settings) id drafter instructions principal) before = (judgement.result, after)

end Loaded

theorem draft_converses (settings : Settings) (id : Int) (drafter : Drafter) (instructions : String) (principal : Option String)
    (before read : World) (stored : String × Projection)
    (loads : Yields (getSchema (.ok settings) id principal) before stored read) (first : clear read = true)
    (last : clear (outcome (deliberate (.ok settings) id drafter instructions (Service.told stored.1) principal)
      (outcome (recordMessage id .user instructions none) read).2).2 = true) :
    ∃ kept settled after judgement,
      Converses settings id drafter instructions principal before read kept settled after stored judgement := by
  obtain ⟨kept, asks, asked⟩ := record_message_stores id .user instructions none read first
  obtain ⟨judgement, settled, deliberates, reached⟩ :=
    deliberate_reaches settings id drafter instructions (Service.told stored.1) principal kept
  have still : clear settled = true := by
    rw [asks, deliberates] at last
    exact last
  obtain ⟨after, tells, told⟩ := record_message_stores id .ai judgement.verdict.words judgement.text? settled still
  refine ⟨kept, settled, after, judgement, loads, asks, reached, asked, told, ?_⟩
  rw [apply_draft_deliberates, outcome_after _ _ _ _ _ loads, outcome_after _ _ _ _ _ asks, outcome_after _ _ _ _ _ deliberates,
    announce, outcome_after _ _ _ _ _ tells]
  cases judgement.result with
  | ok saved => rfl
  | error failure => rfl

namespace Converses

variable {settings : Settings} {id : Int} {drafter : Drafter} {instructions : String} {principal : Option String}
variable {before read kept settled after : World} {stored : String × Projection} {judgement : Judgement}
variable (converses : Converses settings id drafter instructions principal before read kept settled after stored judgement)

include converses

theorem tells_two :
    after.tables.messages = (before.tables.tell
      [{ dataModelId := id, sender := .user, content := instructions },
        { dataModelId := id, sender := .ai, content := judgement.verdict.words, schemaText := judgement.text? }]).messages := by
  have loaded : read.tables.messages = before.tables.messages :=
    (get_schema_takes _ silent_spans (.ok settings) id principal).1 _ _ _ converses.loads
  have judged := reached_silent settings id drafter instructions (Service.told stored.1) principal kept settled judgement
    converses.reached
  rw [converses.told]
  apply tell_same
  rw [judged, converses.asked]
  exact tell_same _ _ _ loaded

theorem tells_verdict : judgement.verdict = verdictOf id after.tables judgement.result := by
  have tables := converses.told
  cases converses.reached with
  | failed fault middle _ same fails => rfl
  | rejected text schema _ wrong drafts => rfl
  | unsaved text schema cause middle _ valid drafts reason fails =>
      cases reason with
      | inl denies => rcases denies with rfl | rfl | rfl <;> rfl
      | inr unsaved =>
          obtain ⟨failure, rfl⟩ := unsaved
          rfl
  | applied text schema saved middle _ valid drafts yields =>
      obtain ⟨entities, relations⟩ := replaced_counts (.ok settings) id text principal middle settled saved yields
      have counted : after.tables.entities.belonging id = settled.tables.entities.belonging id ∧
          after.tables.relations.belonging id = settled.tables.relations.belonging id := by
        rw [tables]
        exact ⟨rfl, rfl⟩
      rw [Judgement.result, verdictOf, counted.1, counted.2, entities, relations]
      rfl

theorem tells_text : judgement.text? = drafted? (drafter instructions (Service.told stored.1)) := by
  have delivered : ∀ text schema middle,
      Yields (draftSchema (.ok settings) drafter instructions (Service.told stored.1)) kept (text, schema) middle →
      some text = drafted? (drafter instructions (Service.told stored.1)) := by
    intro text schema middle drafts
    exact ((drafted_iff settings drafter instructions _ kept text).mpr ⟨schema, middle, drafts⟩).symm
  cases converses.reached with
  | failed fault middle _ same fails =>
      obtain ⟨⟨fault, gave, -⟩, -⟩ := draft_fails settings drafter instructions _ kept middle _ fails
      rw [drafted?, gave]
      rfl
  | rejected text schema _ wrong drafts => exact delivered text schema settled drafts
  | unsaved text schema cause middle _ valid drafts reason fails => exact delivered text schema middle drafts
  | applied text schema saved middle _ valid drafts yields => exact delivered text schema middle drafts

theorem prompts (draft : String × Schema) (middle : World) :
    Yields (prompted (.ok settings) id drafter instructions principal) before draft middle ↔
      Yields (draftSchema (.ok settings) drafter instructions (Service.told stored.1)) kept draft middle := by
  rw [prompted, Yields, outcome_after _ _ _ _ _ converses.loads, outcome_after _ _ _ _ _ converses.asks]
  exact Iff.rfl

theorem shows : replaces id (events before after) = judgement.result.isOk := by
  cases draft_replaces (.ok settings) id drafter instructions principal before after judgement.result converses.ended with
  | inl shown => exact shown
  | inr lost =>
      obtain ⟨message, told⟩ := lost
      cases converses.reached with
      | failed fault middle _ same fails => cases told
      | rejected text schema _ wrong drafts => cases told
      | unsaved text schema cause middle _ valid drafts reason fails =>
          obtain rfl := Except.error.inj told
          cases reason with
          | inl denies => rcases denies with same | same | same <;> cases same
          | inr unsaved =>
              obtain ⟨failure, same⟩ := unsaved
              cases same
      | applied text schema saved middle _ valid drafts yields => cases told

theorem tells_applied :
    (∃ entities relations, judgement.verdict.words = (Verdict.applied entities relations).words) ↔
      replaces id (events before after) = true ∧ judgement.result.isOk = true := by
  rw [converses.shows, and_self]
  constructor
  · intro tells
    obtain ⟨entities, relations, same⟩ := tells
    have marks := words_apart _ _ same
    cases judgement with
    | applied text saved => rfl
    | _ => simp [Judgement.verdict, Verdict.mark] at marks
  · intro succeeds
    cases judgement with
    | applied text saved => exact ⟨_, _, rfl⟩
    | _ => cases succeeds

theorem tells_rejected :
    (∃ errors, judgement.verdict.words = (Verdict.rejected errors).words) ↔
      ∃ errors, judgement.result = .error (.invalid true errors) := by
  constructor
  · intro tells
    obtain ⟨errors, same⟩ := tells
    have marks := words_apart _ _ same
    cases judgement with
    | rejected text errors => exact ⟨errors, rfl⟩
    | _ => simp [Judgement.verdict, Verdict.mark] at marks
  · intro raises
    obtain ⟨errors, same⟩ := raises
    rw [converses.tells_verdict, same]
    exact ⟨errors.length, rfl⟩

theorem tells_failed :
    (∃ reason, judgement.verdict.words = (Verdict.failed reason).words) ↔
      ∃ cause, judgement.result = .error (.undrafted cause) := by
  constructor
  · intro tells
    obtain ⟨reason, same⟩ := tells
    have marks := words_apart _ _ same
    cases judgement with
    | failed cause => exact ⟨cause, rfl⟩
    | _ => simp [Judgement.verdict, Verdict.mark] at marks
  · intro raises
    obtain ⟨cause, same⟩ := raises
    rw [converses.tells_verdict, same]
    exact ⟨cause.message, rfl⟩

theorem tells_unsaved :
    judgement.verdict.words = Verdict.unsaved.words ↔ ∃ draft middle failure settled,
      Yields (prompted (.ok settings) id drafter instructions principal) before draft middle ∧ draft.2.isValid = true ∧
        Fails (replaceSchema (.ok settings) id draft.1 principal) middle failure settled ∧
        judgement.result = .error failure := by
  have delivers := converses.prompts
  have reached := converses.reached
  constructor
  · intro same
    have marks := words_apart _ _ same
    cases reached with
    | unsaved text schema cause middle _ valid drafts reason fails =>
        exact ⟨(text, schema), middle, cause, settled, (delivers _ _).mpr drafts, valid, fails, rfl⟩
    | _ => simp [Judgement.verdict, Verdict.mark] at marks
  · intro refuses
    obtain ⟨draft, middle, failure, _, prompts, valid, fails, told⟩ := refuses
    have given := (delivers draft middle).mp prompts
    cases reached with
    | failed fault _ _ _ lost => cases given.symm.trans lost
    | rejected text schema _ wrong drafts =>
        have same := Except.ok.inj (Prod.mk.inj (given.symm.trans drafts)).1
        rw [same] at valid
        cases wrong.symm.trans valid
    | unsaved text schema cause _ _ _ drafts reason again => rfl
    | applied text schema saved _ _ _ drafts yields => cases told

theorem gives (text : String) :
    judgement.text? = some text ↔ ∃ schema middle,
      Yields (prompted (.ok settings) id drafter instructions principal) before (text, schema) middle := by
  rw [converses.tells_text, drafted_iff settings drafter instructions _ kept text]
  simp only [converses.prompts]

theorem reports :
    Reported (.ok settings) id drafter instructions principal before judgement.result after
      { id, instructions, verdict := judgement.verdict, text := judgement.text? } where
  about := rfl
  asked := rfl
  verdict := converses.tells_verdict
  applied := converses.tells_applied
  rejected := converses.tells_rejected
  failed := converses.tells_failed
  unsaved := converses.tells_unsaved
  text := converses.gives

end Converses

end Schematic
