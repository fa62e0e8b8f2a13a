import Schematic.Proofs.Service.Retrieval
import Schematic.Proofs.Service.Silence
import Schematic.Proofs.Service.Telling

set_option autoImplicit false

namespace Schematic

namespace Service

open Schematic.Action

inductive Judgement where
  | failed (cause : Failure)
  | rejected (text : String) (errors : List Diagnostic)
  | unsaved (text : String) (cause : Failure)
  | applied (text : String) (saved : Saved)

inductive Verdict where
  | applied (entities relations : Nat)
  | rejected (errors : Nat)
  | failed (reason : String)
  | unsaved
deriving DecidableEq

def Verdict.words : Verdict → String
  | applied entities relations => "Draft applied: " ++ toString entities ++ " entities, " ++ toString relations ++ " relations"
  | rejected errors => "Draft rejected: " ++ toString errors ++ " errors"
  | failed reason => "Draft failed: " ++ reason
  | unsaved => "Draft could not be saved"

def Verdict.mark : Verdict → Char
  | .applied _ _ => 'a'
  | .rejected _ => 'r'
  | .failed _ => 'f'
  | .unsaved => 'c'

theorem begins_mark (start rest : String) (mark : Char) (begins : start.toList[6]? = some mark) :
    (start ++ rest).toList[6]? = some mark := by
  obtain ⟨long, -⟩ := List.getElem?_eq_some_iff.mp begins
  rw [String.toList_append, List.getElem?_append_left long, begins]

theorem words_mark (verdict : Verdict) : verdict.words.toList[6]? = some verdict.mark := by
  cases verdict with
  | applied entities relations =>
      have begins : "Draft applied: ".toList[6]? = some 'a' := by decide
      exact begins_mark _ _ _ (begins_mark _ _ _ (begins_mark _ _ _ (begins_mark _ _ _ begins)))
  | rejected errors =>
      have begins : "Draft rejected: ".toList[6]? = some 'r' := by decide
      exact begins_mark _ _ _ (begins_mark _ _ _ begins)
  | failed reason =>
      have begins : "Draft failed: ".toList[6]? = some 'f' := by decide
      exact begins_mark _ _ _ begins
  | unsaved =>
      have begins : "Draft could not be saved".toList[6]? = some 'c' := by decide
      exact begins

theorem words_apart (first second : Verdict) (same : first.words = second.words) : first.mark = second.mark := by
  have marks := congrArg (fun words => words.toList[6]?) same
  simp only [words_mark] at marks
  exact Option.some.inj marks

namespace Judgement

def verdict : Judgement → Verdict
  | failed cause => .failed cause.message
  | rejected _ errors => .rejected errors.length
  | unsaved _ _ => .unsaved
  | applied _ saved => .applied saved.projection.entities.length saved.projection.relations.length

def text? : Judgement → Option String
  | failed _ => none
  | rejected text _ | unsaved text _ | applied text _ => some text

def result : Judgement → Except Failure Saved
  | failed cause => .error (.undrafted cause)
  | rejected _ errors => .error (.invalid true errors)
  | unsaved _ cause => .error cause
  | applied _ saved => .ok saved

end Judgement

def refused (text : String) (failure : Failure) : Action Judgement :=
  if failure.isService then return .unsaved text failure else throw failure

def judged (known : Except NumberFault Settings) (id : Int) (principal : Option String) (text : String) (schema : Schema) :
    Action Judgement :=
  if schema.isValid then
    tryCatch (Judgement.applied text <$> replaceSchema known id text principal) (refused text)
  else return .rejected text schema.errors

def undelivered (id : Int) (failure : Failure) : Action (Except Failure (String × Schema)) := do
  note {} Log.error ("Schema drafter failed for data model " ++ toString id ++ ": " ++ failure.message)
  return .error failure

def deliberate (known : Except NumberFault Settings) (id : Int) (drafter : Drafter) (instructions : String)
    (current : Option String) (principal : Option String) : Action Judgement := do
  let drafted ← tryCatch (Except.ok <$> draftSchema known drafter instructions current) (undelivered id)
  match drafted with
  | .error failure => return .failed failure
  | .ok draft => judged known id principal draft.1 draft.2

def announce (id : Int) (judgement : Judgement) : Action Saved := do
  recordMessage id .ai judgement.verdict.words judgement.text?
  match judgement.result with
  | .ok saved => return saved
  | .error failure => throw failure

theorem same_outcomes {α : Type} (first second : Action α) (same : ∀ world, outcome first world = outcome second world) :
    first = second := funext same

theorem throw_bind {α β : Type} (failure : Failure) (next : α → Action β) :
    ((throw failure : Action α) >>= next) = throw failure := rfl

theorem applied_judged (known : Except NumberFault Settings) (id : Int) (principal : Option String) (text : String)
    (schema : Schema) : applied known id principal text schema = judged known id principal text schema >>= announce id := by
  rw [applied, judged]
  split
  · apply same_outcomes
    intro before
    rcases outcome_cases (replaceSchema known id text principal) before with ⟨saved, middle, yields⟩ | ⟨failure, middle, fails⟩
    · have mapped : Yields (Judgement.applied text <$> replaceSchema known id text principal) before
          (.applied text saved) middle := (yields_map _ _ _ _ _).mpr ⟨saved, yields, rfl⟩
      rw [outcome_after _ _ _ _ _ (outcome_kept _ _ _ _ _ yields), outcome_after _ _ _ _ _ (outcome_kept _ _ _ _ _ mapped)]
      rfl
    · have mapped : Fails (Judgement.applied text <$> replaceSchema known id text principal) before failure middle :=
        fails_map _ _ _ _ _ fails
      rw [outcome_bind, outcome_recovered _ _ _ _ _ fails, ← outcome_bind, outcome_bind _ (announce id),
        outcome_recovered _ _ _ _ _ mapped, ← outcome_bind, unapplied, refused]
      cases failure.isService with
      | true =>
          simp only [if_true, bind_assoc, throw_bind, pure_bind]
          rfl
      | false => rfl
  · rfl

theorem apply_draft_deliberates (known : Except NumberFault Settings) (id : Int) (drafter : Drafter) (instructions : String)
    (principal : Option String) :
    applyDraft known id drafter instructions principal =
      getSchema known id principal >>= fun stored =>
        recordMessage id .user instructions none >>= fun _ =>
          deliberate known id drafter instructions (told stored.1) principal >>= announce id := by
  rw [apply_draft_parts]
  refine bind_congr fun stored => bind_congr fun _ => ?_
  apply same_outcomes
  intro before
  rw [deliberate, bind_assoc]
  rcases outcome_cases (draftSchema known drafter instructions (told stored.1)) before with
    ⟨draft, middle, yields⟩ | ⟨failure, middle, fails⟩
  · have mapped : Yields (Except.ok <$> draftSchema known drafter instructions (told stored.1)) before
        (Except.ok draft : Except Failure (String × Schema)) middle := (yields_map _ _ _ _ _).mpr ⟨draft, yields, rfl⟩
    rw [outcome_after _ _ _ _ _ (outcome_kept _ _ _ _ _ yields), outcome_after _ _ _ _ _ (outcome_kept _ _ _ _ _ mapped),
      applied_judged]
  · have mapped : Fails ((Except.ok : _ → Except Failure (String × Schema)) <$>
        draftSchema known drafter instructions (told stored.1)) before failure middle := fails_map _ _ _ _ _ fails
    rw [outcome_bind, outcome_recovered _ _ _ _ _ fails, ← outcome_bind, outcome_bind (tryCatch _ _) _ before,
      outcome_recovered _ _ _ _ _ mapped, ← outcome_bind, undrafted, undelivered]
    simp only [bind_assoc, throw_bind, pure_bind]
    rfl

inductive Reached (settings : Settings) (id : Int) (drafter : Drafter) (instructions : String) (current : Option String)
    (principal : Option String) (before : World) : Judgement → World → Prop where
  | failed (fault : DrafterFault) (middle after : World) (tables : after.tables = middle.tables)
      (fails : Fails (draftSchema (.ok settings) drafter instructions current) before (.drafter fault) middle) :
      Reached settings id drafter instructions current principal before (.failed (.drafter fault)) after
  | rejected (text : String) (schema : Schema) (after : World) (wrong : schema.isValid = false)
      (drafts : Yields (draftSchema (.ok settings) drafter instructions current) before (text, schema) after) :
      Reached settings id drafter instructions current principal before (.rejected text schema.errors) after
  | unsaved (text : String) (schema : Schema) (cause : Failure) (middle after : World) (valid : schema.isValid = true)
      (drafts : Yields (draftSchema (.ok settings) drafter instructions current) before (text, schema) middle)
      (reason : Unsaved id cause) (fails : Fails (replaceSchema (.ok settings) id text principal) middle cause after) :
      Reached settings id drafter instructions current principal before (.unsaved text cause) after
  | applied (text : String) (schema : Schema) (saved : Saved) (middle after : World) (valid : schema.isValid = true)
      (drafts : Yields (draftSchema (.ok settings) drafter instructions current) before (text, schema) middle)
      (yields : Yields (replaceSchema (.ok settings) id text principal) middle saved after) :
      Reached settings id drafter instructions current principal before (.applied text saved) after

def Storeless : Course := fun before _ after => after.tables = before.tables

theorem storeless_chains : Chains Storeless where
  still _ _ := rfl
  after _ _ _ _ first second := second.trans first

theorem storeless_note (entry : LogEntry) : Takes Storeless (Action.note entry) := by
  constructor
  · intro before value after yields
    obtain ⟨-, rfl⟩ := Prod.mk.inj yields
    rfl
  · intro before failure after fails
    cases (Prod.mk.inj fails).1

theorem received_tells (settings : Settings) (draft : Draft) :
    Tells (fun failure => ∃ fault, draft.outcome = .error fault ∧ failure = .drafter fault) (received (.ok settings) draft) := by
  rw [received]
  refine tells_bind _ _ _ ?_ fun _ => ?_
  · induction draft.log with
    | nil => exact tells_pure _ _
    | cons entry log ih => exact tells_bind _ _ _ (tells_note _ entry) fun _ => ih
  · cases draft.outcome with
    | error fault => exact tells_throw _ _ ⟨fault, rfl, rfl⟩
    | ok given =>
        refine tells_bind _ _ _ (tells_pure _ settings) fun found => ?_
        exact tells_bind _ _ _ (tells_note _ _) fun _ => tells_pure _ _

theorem draft_yields (settings : Settings) (drafter : Drafter) (instructions : String) (current : Option String)
    (before after : World) (text : String) (schema : Schema)
    (yields : Yields (draftSchema (.ok settings) drafter instructions current) before (text, schema) after) :
    (∃ given, (drafter instructions current).outcome = .ok given ∧ text = given.getD "") ∧ schema = validate settings text ∧
      after.tables = before.tables := by
  rw [Yields, outcome_draft] at yields
  obtain ⟨given, other, gave, known, rfl, rfl⟩ := received_yields _ _ _ _ _ _ yields
  obtain rfl := Except.ok.inj known
  have kept : after.tables = (asking instructions current before).tables :=
    (received_takes Storeless storeless_chains storeless_note _ _).1 _ _ _ yields
  exact ⟨⟨given, gave, rfl⟩, rfl, kept⟩

theorem draft_fails (settings : Settings) (drafter : Drafter) (instructions : String) (current : Option String)
    (before after : World) (failure : Failure)
    (fails : Fails (draftSchema (.ok settings) drafter instructions current) before failure after) :
    (∃ fault, (drafter instructions current).outcome = .error fault ∧ failure = .drafter fault) ∧
      after.tables = before.tables := by
  rw [Fails, outcome_draft] at fails
  have kept : after.tables = (asking instructions current before).tables :=
    (received_takes Storeless storeless_chains storeless_note _ _).2 _ _ _ fails
  exact ⟨received_tells settings _ _ _ _ fails, kept⟩

theorem deliberate_reaches (settings : Settings) (id : Int) (drafter : Drafter) (instructions : String) (current : Option String)
    (principal : Option String) (before : World) :
    ∃ judgement after, Yields (deliberate (.ok settings) id drafter instructions current principal) before judgement after ∧
      Reached settings id drafter instructions current principal before judgement after := by
  rcases outcome_cases (draftSchema (.ok settings) drafter instructions current) before with
    ⟨⟨text, schema⟩, middle, drafts⟩ | ⟨failure, middle, fails⟩
  · obtain ⟨-, rfl, -⟩ := draft_yields settings drafter instructions current before middle text schema drafts
    have delivered : ∀ judgement after,
        Yields (judged (.ok settings) id principal text (validate settings text)) middle judgement after →
        Yields (deliberate (.ok settings) id drafter instructions current principal) before judgement after := by
      intro judgement after judges
      refine (yields_bind _ _ _ _ _).mpr ⟨.ok (text, validate settings text), middle, ?_, judges⟩
      exact (yields_try _ _ _ _ _).mpr (.inl ((yields_map _ _ _ _ _).mpr ⟨_, drafts, rfl⟩))
    cases valid : (validate settings text).isValid with
    | false =>
        refine ⟨_, middle, delivered _ _ ?_, .rejected text _ middle valid drafts⟩
        rw [judged, if_neg (by simp [valid])]
        rfl
    | true =>
        have judges : judged (.ok settings) id principal text (validate settings text) =
            tryCatch (Judgement.applied text <$> replaceSchema (.ok settings) id text principal) (refused text) := by
          rw [judged, if_pos valid]
        rw [judges] at delivered
        rcases outcome_cases (replaceSchema (.ok settings) id text principal) middle with
          ⟨saved, after, yields⟩ | ⟨cause, after, fails⟩
        · refine ⟨_, after, delivered _ _ ?_, .applied text _ saved middle after valid drafts yields⟩
          exact (yields_try _ _ _ _ _).mpr (.inl ((yields_map _ _ _ _ _).mpr ⟨saved, yields, rfl⟩))
        · have reason : Unsaved id cause := by
            cases replace_tells settings id text principal middle cause after fails with
            | inl unsaved => exact unsaved
            | inr invalid => cases valid.symm.trans invalid.1
          have service : cause.isService = true := unsaved_spoken id cause reason
          refine ⟨_, after, delivered _ _ ?_, .unsaved text _ cause middle after valid drafts reason fails⟩
          refine (yields_try _ _ _ _ _).mpr (.inr ⟨cause, after, fails_map _ _ _ _ _ fails, ?_⟩)
          rw [refused, if_pos service]
          rfl
  · obtain ⟨⟨fault, -, rfl⟩, -⟩ := draft_fails settings drafter instructions current before middle failure fails
    have drafted : Fails ((Except.ok : _ → Except Failure (String × Schema)) <$>
        draftSchema (.ok settings) drafter instructions current) before (.drafter fault) middle := fails_map _ _ _ _ _ fails
    obtain ⟨after, noted, same⟩ : ∃ after, Yields (undelivered id (.drafter fault)) middle (.error (.drafter fault)) after ∧
        after.tables = middle.tables := ⟨_, rfl, rfl⟩
    refine ⟨.failed (.drafter fault), after, ?_, .failed fault middle after same fails⟩
    refine (yields_bind _ _ _ _ _).mpr ⟨.error (.drafter fault), after, ?_, rfl⟩
    exact (yields_try _ _ _ _ _).mpr (.inr ⟨_, middle, drafted, noted⟩)

theorem reached_silent (settings : Settings) (id : Int) (drafter : Drafter) (instructions : String) (current : Option String)
    (principal : Option String) (before after : World) (judgement : Judgement)
    (reached : Reached settings id drafter instructions current principal before judgement after) :
    after.tables.messages = before.tables.messages := by
  have silent := fun text => replace_silent (.ok settings) id text principal
  cases reached with
  | failed fault middle _ tables fails => rw [tables, (draft_fails _ _ _ _ _ _ _ fails).2]
  | rejected text schema _ wrong drafts => rw [(draft_yields _ _ _ _ _ _ _ _ drafts).2.2]
  | unsaved text schema cause middle _ valid drafts reason fails =>
      exact ((silent text).2 _ _ _ fails).trans (congrArg _ (draft_yields _ _ _ _ _ _ _ _ drafts).2.2)
  | applied text schema saved middle _ valid drafts yields =>
      exact ((silent text).1 _ _ _ yields).trans (congrArg _ (draft_yields _ _ _ _ _ _ _ _ drafts).2.2)

theorem write_counts (context : LogContext) (id : Int) (schema : Schema) :
    Gives (fun result => result.1.entities.length = schema.entities.length) (writeProjection context id schema) := by
  refine gives_bind _ _ _ fun _ => gives_after _ _ _ _ (gives_list _ _) fun stored same => ?_
  refine gives_bind _ _ _ fun outcomes => gives_pure _ _ ?_
  rw [List.length_map, same, List.length_zipIdx]

theorem save_counts (settings : Settings) (id : Int) (schema : Schema) (principal : String) :
    Gives (fun saved => saved.projection.entities.length = saved.schema.entities.length) (save settings id schema principal) := by
  have stored : Gives (fun result => result.1.entities.length = schema.entities.length)
      (replaceStored (replacing id principal) settings id schema principal) := by
    refine gives_transaction _ _ (gives_bind _ _ _ fun _ => gives_bind _ _ _ fun model => gives_bind _ _ _ fun _ => ?_)
    refine gives_after _ _ _ _ (write_counts _ id schema) fun written same => gives_bind _ _ _ fun _ => ?_
    exact gives_pure _ written same
  refine gives_bind _ _ _ fun _ => gives_after _ _ _ _ (gives_try _ _ _ stored fun failure => ?_) fun result same => ?_
  · rw [unsaved]
    split
    · exact gives_throw _ _
    · exact gives_bind _ _ _ fun _ => gives_throw _ _
  · exact gives_bind _ _ _ fun _ => gives_pure _ _ same

theorem replace_counts (known : Except NumberFault Settings) (id : Int) (text : String) (principal : Option String) :
    Gives (fun saved => saved.projection.entities.length = saved.schema.entities.length)
      (replaceSchema known id text principal) := by
  rw [replace_schema_save]
  refine gives_bind _ _ _ fun name => gives_bind _ _ _ fun settings => ?_
  split
  · exact save_counts settings id _ name
  · exact gives_throw _ _

theorem replaced_counts (known : Except NumberFault Settings) (id : Int) (text : String) (principal : Option String)
    (before after : World) (saved : Saved) (yields : Yields (replaceSchema known id text principal) before saved after) :
    (after.tables.entities.belonging id).length = saved.projection.entities.length ∧
      (after.tables.relations.belonging id).length = saved.projection.relations.length := by
  obtain ⟨settings, -, -, same, committed⟩ := replace_yields known id text principal before after saved yields
  have relations := congrArg List.length (recorded_relations id _ _ _ _ committed.recorded)
  rw [List.length_map, List.length_map] at relations
  refine ⟨?_, relations⟩
  rw [rewritten_count id _ _ _ committed.stored, replace_counts known id text principal before saved after yields, same]

end Service

end Schematic
