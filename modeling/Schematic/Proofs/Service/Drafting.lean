import Schematic.Proofs.Service.Reading

set_option autoImplicit false

namespace Schematic

namespace Service

open Schematic.Action

def asking (instructions : String) (current : Option String) (world : World) : World :=
  { world with asked := (instructions, current) :: world.asked }

def received (known : Except NumberFault Settings) (draft : Draft) : Action (String × Schema) := do
  draft.log.forM Action.note
  match draft.outcome with
  | .error fault => throw (.drafter fault)
  | .ok given => do
      let settings ← Action.settings known
      let schema := validate settings (given.getD "")
      note {} Log.info
        ("Drafted schema: " ++ toString schema.entities.length ++ " entities, " ++ toString schema.errors.length ++ " errors")
      return (given.getD "", schema)

theorem outcome_draft (known : Except NumberFault Settings) (drafter : Drafter) (instructions : String)
    (current : Option String) (before : World) :
    outcome (draftSchema known drafter instructions current) before =
      outcome (received known (drafter instructions current)) (asking instructions current before) := by
  have parts : draftSchema known drafter instructions current =
      modify (asking instructions current) >>= fun _ => received known (drafter instructions current) := by
    rw [draftSchema, consult, received]
    simp only [bind_assoc]
    refine bind_congr fun _ => bind_congr fun _ => ?_
    cases (drafter instructions current).outcome with
    | error fault => rfl
    | ok given => simp only [pure_bind]
  rw [parts, outcome_bind, outcome_modify]

theorem received_takes (course : Course) (chains : Chains course) (logs : ∀ entry, Takes course (Action.note entry))
    (known : Except NumberFault Settings) (draft : Draft) : Takes course (received known draft) := by
  refine takes_bind _ chains _ _ ?_ fun _ => ?_
  · induction draft.log with
    | nil => exact takes_pure _ chains _
    | cons entry log ih => exact takes_bind _ chains _ _ (logs entry) fun _ => ih
  · cases draft.outcome with
    | error fault => exact takes_throw _ chains _
    | ok given =>
        refine takes_bind _ chains _ _ (takes_settings _ chains known) fun settings => ?_
        exact takes_bind _ chains _ _ (logs _) fun _ => takes_pure _ chains _

theorem received_yields (known : Except NumberFault Settings) (draft : Draft) (before after : World) (text : String)
    (schema : Schema) (yields : Yields (received known draft) before (text, schema) after) :
    ∃ given settings, draft.outcome = .ok given ∧ known = .ok settings ∧ text = given.getD "" ∧
      schema = validate settings text := by
  obtain ⟨_, middle, -, answered⟩ := (yields_bind _ _ _ _ _).mp yields
  cases outcome : draft.outcome with
  | error fault =>
      simp only [outcome] at answered
      exact absurd answered (yields_throw _ _ _ _)
  | ok given =>
      simp only [outcome] at answered
      obtain ⟨settings, second, found, read⟩ := (yields_bind _ _ _ _ _).mp answered
      obtain ⟨_, third, -, returned⟩ := (yields_bind _ _ _ _ _).mp read
      obtain ⟨same, -⟩ := (yields_pure _ _ _ _).mp returned
      obtain ⟨rfl, rfl⟩ := Prod.mk.inj same
      cases known with
      | error fault => cases (Prod.mk.inj found).1
      | ok known =>
          obtain rfl := Except.ok.inj (Prod.mk.inj found).1
          exact ⟨given, known, rfl, rfl, rfl, rfl⟩

theorem quiet_asking (kind : StoreEvent → Prop) (instructions : String) (current : Option String) (before after : World)
    (failure : Option Failure) (quiet : Quiet kind before failure after) :
    Quiet kind (asking instructions current before) failure (asking instructions current after) :=
  ⟨quiet.entities, quiet.fields, quiet.relations, congrArg (List.cons _) quiet.asked, quiet.events⟩

def told (text : String) : Option String := if text = "" then none else some text

def undrafted (id : Int) (failure : Failure) : Action (String × Schema) := do
  note {} Log.error ("Schema drafter failed for data model " ++ toString id ++ ": " ++ failure.message)
  recordMessage id .ai ("Draft failed: " ++ failure.message) none
  throw (.undrafted failure)

def unapplied (id : Int) (text : String) (failure : Failure) : Action Saved :=
  if failure.isService then do
    recordMessage id .ai "Draft could not be saved" (some text)
    throw failure
  else throw failure

def applied (known : Except NumberFault Settings) (id : Int) (principal : Option String) (text : String) (schema : Schema) :
    Action Saved :=
  if schema.isValid then do
    let saved ← tryCatch (replaceSchema known id text principal) (unapplied id text)
    let count (records : Nat) : String := toString records
    recordMessage id .ai
      ("Draft applied: " ++ count saved.projection.entities.length ++ " entities, " ++
        count saved.projection.relations.length ++ " relations") (some text)
    return saved
  else do
    recordMessage id .ai ("Draft rejected: " ++ toString schema.errors.length ++ " errors") (some text)
    throw (.invalid true schema.errors)

theorem apply_draft_parts (known : Except NumberFault Settings) (id : Int) (drafter : Drafter) (instructions : String)
    (principal : Option String) :
    applyDraft known id drafter instructions principal =
      getSchema known id principal >>= fun stored =>
        recordMessage id .user instructions none >>= fun _ =>
          tryCatch (draftSchema known drafter instructions (told stored.1)) (undrafted id) >>= fun draft =>
            applied known id principal draft.1 draft.2 := by
  refine bind_congr fun stored => bind_congr fun _ => bind_congr fun draft => ?_
  obtain ⟨text, schema⟩ := draft
  have recovery : (fun failure : Failure => do
      if failure.isService then recordMessage id .ai "Draft could not be saved" (some text)
      throw failure : Failure → Action Saved) = unapplied id text := rfl
  cases valid : schema.isValid with
  | true =>
      rw [applied, if_pos valid, ← recovery]
      simp only [valid]
      rfl
  | false =>
      rw [applied, if_neg (by simp [valid])]
      simp only [valid]
      rfl

theorem undrafted_takes (course : Course) (hosts : Hosts course) (id : Int) (failure : Failure) :
    Takes course (undrafted id failure) := by
  refine takes_bind _ hosts.chains _ _ (hosts.note _) fun _ => ?_
  exact takes_bind _ hosts.chains _ _ (record_message_takes course hosts _ _ _ _) fun _ => takes_throw _ hosts.chains _

theorem undrafted_yields (id : Int) (failure : Failure) (before after : World) (draft : String × Schema) :
    ¬ Yields (undrafted id failure) before draft after := by
  intro yields
  obtain ⟨_, first, -, yieldsRecord⟩ := (yields_bind _ _ _ _ _).mp yields
  obtain ⟨_, second, -, thrown⟩ := (yields_bind _ _ _ _ _).mp yieldsRecord
  exact yields_throw _ _ _ _ thrown

theorem unapplied_takes (course : Course) (hosts : Hosts course) (id : Int) (text : String) (failure : Failure) :
    Takes course (unapplied id text failure) := by
  rw [unapplied]
  split
  · exact takes_bind _ hosts.chains _ _ (record_message_takes course hosts _ _ _ _) fun _ => takes_throw _ hosts.chains _
  · exact takes_throw _ hosts.chains _

def unannounced (id : Int) (message : String) : Failure :=
  .unpersisted .addMessage (.operation "chat message insert" (some (toString id)) (.storage "RuntimeError" message))

theorem record_message_fails (id : Int) (sender : Sender) (content : String) (schemaText : Option String) (before after : World)
    (failure : Failure) (fails : Fails (recordMessage id sender content schemaText) before failure after) :
    ∃ message, failure = unannounced id message := by
  have persisted := fails_discard _ _ _ _ fails
  rw [persisting, fails_try] at persisted
  obtain ⟨cause, middle, lost, told⟩ := persisted
  rw [Messages.add, Messages.naming] at lost
  obtain ⟨first, last, broken, named⟩ := fails_naming _ _ _ _ _ _ _ lost
  have struck : ∃ message, first = .storage "RuntimeError" message := by
    cases (fails_bind _ _ _ _ _).mp broken with
    | inl risked =>
        obtain ⟨message, -, same, -⟩ := fails_risk _ _ _ _ risked
        exact ⟨message, same⟩
    | inr ran =>
        obtain ⟨_, _, -, sent⟩ := ran
        obtain ⟨message, -, same, -⟩ := fails_run _ _ _ _ _ sent
        exact ⟨message, same⟩
  obtain ⟨message, rfl⟩ := struck
  refine ⟨message, ?_⟩
  cases named with
  | inl already =>
      obtain ⟨-, -, name, about, cause, other⟩ := already
      cases other
  | inr named =>
      obtain ⟨entry, -, rfl, -⟩ := named
      obtain ⟨_, _, -, thrown⟩ := ((fails_bind _ _ _ _ _).mp told).resolve_left fun noted => nomatch (Prod.mk.inj noted).1
      exact ((fails_throw _ _ _ _).mp thrown).1

theorem unapplied_fails (id : Int) (text : String) (failure : Failure) (before after : World) (saved : Saved) :
    ¬ Yields (unapplied id text failure) before saved after := by
  intro yields
  rw [unapplied] at yields
  split at yields
  · obtain ⟨_, middle, -, thrown⟩ := (yields_bind _ _ _ _ _).mp yields
    exact yields_throw _ _ _ _ thrown
  · exact yields_throw _ _ _ _ yields

-- What a draft comes to after its replacement: all that can still fail of one that was saved is the message about it.
inductive Announced (id : Int) : Except Failure Saved → Except Failure Saved → Prop where
  | applied (saved : Saved) : Announced id (.ok saved) (.ok saved)
  | lost (saved : Saved) (message : String) : Announced id (.ok saved) (.error (unannounced id message))
  | unsaved (failure told : Failure) : Announced id (.error failure) (.error told)

theorem saved_announced (id : Int) (content text : String) (saved : Saved) (before after : World)
    (result : Except Failure Saved)
    (ends : outcome (recordMessage id .ai content (some text) >>= fun _ => pure saved) before = (result, after)) :
    Quiet (· ≠ .committed) before none after ∧ Announced id (.ok saved) result := by
  have takes : Takes (Quiet (· ≠ .committed)) (recordMessage id .ai content (some text) >>= fun _ => pure saved) :=
    takes_bind _ (quiet_chains _) _ _ (record_message_takes _ uncommitted_hosts _ _ _ _) fun _ => takes_pure _ (quiet_chains _) _
  refine ⟨quiet_outcome _ _ takes _ _ _ ends, ?_⟩
  cases result with
  | ok told =>
      obtain ⟨_, middle, -, returned⟩ := (yields_bind _ _ _ _ _).mp ends
      obtain ⟨rfl, -⟩ := (yields_pure _ _ _ _).mp returned
      exact .applied told
  | error failure =>
      cases (fails_bind _ _ _ _ _).mp ends with
      | inl lost =>
          obtain ⟨message, rfl⟩ := record_message_fails _ _ _ _ _ _ _ lost
          exact .lost saved message
      | inr returned =>
          obtain ⟨_, middle, -, impossible⟩ := returned
          exact absurd impossible (fails_pure _ _ _ _)

theorem unsaved_announced (id : Int) (text : String) (failure : Failure) (later : Saved → Action Saved) (before after : World)
    (result : Except Failure Saved) (ends : outcome (unapplied id text failure >>= later) before = (result, after)) :
    Quiet (· ≠ .committed) before none after ∧ Announced id (.error failure) result := by
  rcases outcome_cases (unapplied id text failure) before with ⟨saved, middle, recovered⟩ | ⟨told, middle, fails⟩
  · exact absurd recovered (unapplied_fails id text failure _ _ _)
  · have quiet := quiet_outcome _ _ (unapplied_takes _ uncommitted_hosts id text failure) _ _ _ fails
    rw [outcome_failed _ _ _ _ _ fails] at ends
    obtain ⟨rfl, rfl⟩ := Prod.mk.inj ends
    exact ⟨quiet, .unsaved failure told⟩

-- A draft that is no schema is not saved; else it is replaced as any other text, and messages tell the outcome.
theorem applied_course (known : Except NumberFault Settings) (id : Int) (principal : Option String) (text : String)
    (schema : Schema) (before after : World) (result : Except Failure Saved)
    (ends : outcome (applied known id principal text schema) before = (result, after)) :
    (Quiet Untouched before none after ∧ ∃ failure, result = .error failure) ∨
      ∃ saved settled, outcome (replaceSchema known id text principal) before = (saved, settled) ∧
        Quiet (· ≠ .committed) settled none after ∧ Announced id saved result := by
  rw [applied] at ends
  split at ends
  · refine .inr ?_
    rcases outcome_cases (replaceSchema known id text principal) before with ⟨saved, settled, done⟩ | ⟨failure, settled, failed⟩
    · rw [outcome_after _ _ _ _ _ (outcome_kept _ _ _ _ _ done)] at ends
      exact ⟨.ok saved, settled, done, saved_announced id _ text saved settled after result ends⟩
    · rw [outcome_bind, outcome_recovered _ _ _ _ _ failed, ← outcome_bind] at ends
      exact ⟨.error failure, settled, failed, unsaved_announced id text failure _ settled after result ends⟩
  · refine .inl ⟨quiet_outcome _ _ ?_ _ _ _ ends, ?_⟩
    · exact takes_bind _ (quiet_chains _) _ _ (record_message_takes _ untouched_lasts.toHosts _ _ _ _) fun _ =>
        takes_throw _ (quiet_chains _) _
    · cases result with
      | ok told =>
          obtain ⟨_, middle, -, thrown⟩ := (yields_bind _ _ _ _ _).mp ends
          exact absurd thrown (yields_throw _ _ _ _)
      | error failure => exact ⟨failure, rfl⟩

def prepared (known : Except NumberFault Settings) (id : Int) (instructions : String) (principal : Option String) :
    Action (String × Projection) := do
  let stored ← getSchema known id principal
  recordMessage id .user instructions none
  return stored

theorem prepared_yields (known : Except NumberFault Settings) (id : Int) (instructions : String) (principal : Option String)
    (before after : World) (stored : String × Projection)
    (yields : Yields (prepared known id instructions principal) before stored after) :
    ∃ read, Yields (getSchema known id principal) before stored read ∧
      Yields (recordMessage id .user instructions none) read () after := by
  obtain ⟨found, read, got, yieldsNoted⟩ := (yields_bind _ _ _ _ _).mp yields
  obtain ⟨_, kept, noted, ended⟩ := (yields_bind _ _ _ _ _).mp yieldsNoted
  obtain ⟨rfl, rfl⟩ := (yields_pure _ _ _ _).mp ended
  exact ⟨read, got, noted⟩

theorem prepared_takes (known : Except NumberFault Settings) (id : Int) (instructions : String) (principal : Option String) :
    Takes (Quiet Untouched) (prepared known id instructions principal) := by
  refine takes_bind _ (quiet_chains _) _ _ (get_schema_takes _ untouched_lasts known id principal) fun stored => ?_
  exact takes_bind _ (quiet_chains _) _ _ (record_message_takes _ untouched_lasts.toHosts _ _ _ _) fun _ =>
    takes_pure _ (quiet_chains _) _

theorem apply_draft_prepared (known : Except NumberFault Settings) (id : Int) (drafter : Drafter) (instructions : String)
    (principal : Option String) :
    applyDraft known id drafter instructions principal =
      prepared known id instructions principal >>= fun stored =>
        tryCatch (draftSchema known drafter instructions (told stored.1)) (undrafted id) >>= fun draft =>
          applied known id principal draft.1 draft.2 := by
  rw [apply_draft_parts, prepared]
  simp only [bind_assoc, pure_bind]

-- What comes of an answer: it is no schema text and nothing is changed, or it is replaced as any other text.
theorem answered_course (known : Except NumberFault Settings) (id : Int) (draft : Draft) (principal : Option String)
    (before after : World) (result : Except Failure Saved)
    (ends : outcome (tryCatch (received known draft) (undrafted id) >>= fun found =>
      applied known id principal found.1 found.2) before = (result, after)) :
    (Quiet Untouched before none after ∧ ∃ failure, result = .error failure) ∨
      ∃ given middle saved settled, draft.outcome = .ok given ∧ Quiet Untouched before none middle ∧
        outcome (replaceSchema known id (given.getD "") principal) middle = (saved, settled) ∧
        Quiet (· ≠ .committed) settled none after ∧ Announced id saved result := by
  have answers : Takes (Quiet Untouched) (tryCatch (received known draft) (undrafted id)) :=
    serves_try _ untouched_lasts.toHosts _ _ (received_takes _ (quiet_chains _) untouched_lasts.note known _)
      (undrafted_takes _ untouched_lasts.toHosts id)
  rcases outcome_cases (tryCatch (received known draft) (undrafted id)) before with
    ⟨⟨text, schema⟩, middle, found⟩ | ⟨failure, middle, refused⟩
  · have answered := answers.1 _ _ _ found
    rw [outcome_after _ _ _ _ _ found] at ends
    rcases (yields_try _ _ _ _ _).mp found with yields | ⟨failure, last, -, recovered⟩
    · obtain ⟨given, settings, answer, -, rfl, -⟩ := received_yields _ _ _ _ _ _ yields
      rcases applied_course _ _ _ _ _ _ _ _ ends with ⟨still, refused⟩ | ⟨saved, settled, replaced, rest⟩
      · exact .inl ⟨quiet_trans _ _ _ _ _ _ none answered still, refused⟩
      · exact .inr ⟨given, middle, saved, settled, answer, answered, replaced, rest⟩
    · exact absurd recovered (undrafted_yields id failure _ _ _)
  · rw [outcome_failed _ _ _ _ _ refused] at ends
    obtain ⟨rfl, rfl⟩ := Prod.mk.inj ends
    exact .inl ⟨quiet_outcome _ _ answers _ _ _ refused, failure, rfl⟩

-- Nobody is asked unless the stored text was read and the instructions were stored, and then about that text.
theorem draft_course (known : Except NumberFault Settings) (id : Int) (drafter : Drafter) (instructions : String)
    (principal : Option String) (before after : World) (result : Except Failure Saved)
    (ends : outcome (applyDraft known id drafter instructions principal) before = (result, after)) :
    (Quiet Untouched before none after ∧
        ∃ failure, result = .error failure ∧ Fails (prepared known id instructions principal) before failure after) ∨
      ∃ stored ready, Yields (prepared known id instructions principal) before stored ready ∧
        ((Quiet Untouched (asking instructions (told stored.1) before) none after ∧ ∃ failure, result = .error failure) ∨
          ∃ given middle saved settled, (drafter instructions (told stored.1)).outcome = .ok given ∧
            Quiet Untouched (asking instructions (told stored.1) before) none middle ∧
            outcome (replaceSchema known id (given.getD "") principal) middle = (saved, settled) ∧
            Quiet (· ≠ .committed) settled none after ∧ Announced id saved result) := by
  have prepares := prepared_takes known id instructions principal
  rw [apply_draft_prepared] at ends
  rcases outcome_cases (prepared known id instructions principal) before with ⟨stored, ready, yields⟩ | ⟨failure, last, fails⟩
  · rw [outcome_after _ _ _ _ _ yields] at ends
    refine .inr ⟨stored, ready, yields, ?_⟩
    have begun := quiet_asking _ instructions (told stored.1) _ _ _ (prepares.1 _ _ _ yields)
    have asked : outcome (tryCatch (draftSchema known drafter instructions (told stored.1)) (undrafted id)) ready =
        outcome (tryCatch (received known (drafter instructions (told stored.1))) (undrafted id))
          (asking instructions (told stored.1) ready) := by
      rw [outcome_try, outcome_try, outcome_draft]
    rw [outcome_bind, asked, ← outcome_bind] at ends
    rcases answered_course _ _ _ _ _ _ _ ends with ⟨still, refused⟩ | ⟨given, middle, saved, settled, answer, answered, rest⟩
    · exact .inl ⟨quiet_trans _ _ _ _ _ _ none begun still, refused⟩
    · exact .inr ⟨given, middle, saved, settled, answer, quiet_trans _ _ _ _ _ _ none begun answered, rest⟩
  · rw [outcome_failed _ _ _ _ _ fails] at ends
    obtain ⟨rfl, rfl⟩ := Prod.mk.inj ends
    exact .inl ⟨quiet_outcome _ _ prepares _ _ _ fails, failure, rfl, fails⟩

end Service

end Schematic
