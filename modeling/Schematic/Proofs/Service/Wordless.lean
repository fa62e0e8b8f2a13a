import Schematic.Proofs.Service.Announcing
import Schematic.Proofs.Service.Faithfulness
import Schematic.Proofs.Service.Lasting
import Schematic.Proofs.Service.Limits
import Schematic.Proofs.Service.Reporting

set_option autoImplicit false

namespace Schematic

open Schematic.Action Schematic.Service

-- A drafter that has no text for some instructions, whatever the schema is.
def Wordless (drafter : Drafter) (instructions : String) : Prop :=
  ∀ current, (drafter instructions current).outcome = .ok none ∨ (drafter instructions current).outcome = .ok (some "")

theorem wordless_given (drafter : Drafter) (instructions : String) (wordless : Wordless drafter instructions)
    (current given : Option String) (answer : (drafter instructions current).outcome = .ok given) : given.getD "" = "" := by
  rcases wordless current with none | empty
  · obtain rfl := Except.ok.inj (none.symm.trans answer)
    rfl
  · obtain rfl := Except.ok.inj (empty.symm.trans answer)
    rfl

-- That no draft could be had is not what a failure tells.
def Elsewise (failure : Failure) : Prop := ∀ cause, failure ≠ .undrafted cause

theorem unsaved_elsewise (id : Int) (failure : Failure) (unsaved : Unsaved id failure) : Elsewise failure := by
  rcases unsaved with (rfl | rfl | rfl) | ⟨cause, rfl⟩
  all_goals exact fun _ same => by cases same

namespace Service

theorem persisting_elsewise {α : Type} (task : Task) (work : Action α) (tells : Tells Private work) :
    Tells Elsewise (persisting task work) := by
  refine tells_try Elsewise Private _ _ tells fun failure hidden => ?_
  rw [if_neg (by simp [show failure.isService = false from hidden])]
  exact tells_bind Elsewise _ _ (tells_note Elsewise _) fun _ => tells_throw Elsewise _ fun _ same => by cases same

theorem model_tells (id : Int) : Tells Private (DataModels.get id) := by
  refine tells_bind Private _ _ (tells_naming Private _ _ _ _ fun _ _ _ => rfl) fun row => ?_
  cases row with
  | none => exact tells_pure Private none
  | some row => exact tells_map Private _ _ (record_of_tells _ row)

theorem load_tells (id : Int) : Tells Private (Projections.load id) := by
  have struck : ∀ message, Private (.storage "RuntimeError" message) := fun _ => rfl
  refine tells_connected Private _ struck (tells_transaction Private _ struck ?_)
  refine tells_bind Private _ _ (tells_run Private _ _ struck) fun _ => ?_
  refine tells_bind Private _ _ (named_tells _ _ _) fun found => ?_
  refine tells_bind Private _ _ (tells_list Private _ _ fun row _ => record_of_tells _ row) fun entities => ?_
  refine tells_bind Private _ _ (tells_list Private _ _ fun row _ => record_of_tells _ row) fun fields => ?_
  exact tells_bind Private _ _ (tells_list Private _ _ fun row _ => record_of_tells _ row) fun relations => tells_pure Private _

theorem denies_elsewise {α : Type} (id : Int) (work : Action α) (tells : Tells (Denies id) work) : Tells Elsewise work :=
  tells_wider _ _ work (fun failure denies => unsaved_elsewise id failure (.inl denies)) tells

theorem get_schema_elsewise (known : Except NumberFault Settings) (id : Int) (principal : Option String) :
    Tells Elsewise (getSchema known id principal) := by
  refine tells_bind Elsewise _ _ (tells_map Elsewise _ _ ?_) fun _ => ?_
  · refine tells_bind Elsewise _ _ (denies_elsewise id _ (acting_tells id principal)) fun name => ?_
    exact tells_bind Elsewise _ _ (persisting_elsewise _ _ (model_tells id)) fun model =>
      denies_elsewise id _ (owned_tells model id name)
  · refine tells_bind Elsewise _ _ (persisting_elsewise _ _ (load_tells id)) fun projection => ?_
    cases projection.toEntities with
    | error value => exact tells_throw Elsewise _ fun _ same => by cases same
    | ok entities =>
        cases known with
        | error fault =>
            exact tells_bind Elsewise _ _ (tells_throw Elsewise _ fun _ same => by cases same) fun _ => tells_pure _ _
        | ok settings => exact tells_pure Elsewise _

theorem record_message_elsewise (id : Int) (sender : Sender) (content : String) (schemaText : Option String) :
    Tells Elsewise (recordMessage id sender content schemaText) := by
  intro before failure after fails
  obtain ⟨message, rfl⟩ := record_message_fails id sender content schemaText before after failure fails
  exact fun _ same => by cases same

theorem applied_elsewise (settings : Settings) (id : Int) (principal : Option String) (text : String) (schema : Schema) :
    Tells Elsewise (applied (.ok settings) id principal text schema) := by
  have replaced : Tells Elsewise (replaceSchema (.ok settings) id text principal) := by
    refine tells_wider _ _ _ (fun failure told => ?_) (replace_tells settings id text principal)
    rcases told with unsaved | ⟨-, rfl⟩
    · exact unsaved_elsewise id failure unsaved
    · exact fun _ same => by cases same
  rw [applied]
  split
  · refine tells_bind Elsewise _ _ (tells_try Elsewise Elsewise _ _ replaced fun failure other => ?_) fun saved => ?_
    · rw [unapplied]
      split
      · exact tells_bind Elsewise _ _ (record_message_elsewise _ _ _ _) fun _ => tells_throw Elsewise _ other
      · exact tells_throw Elsewise _ other
    · exact tells_bind Elsewise _ _ (record_message_elsewise _ _ _ _) fun _ => tells_pure Elsewise saved
  · exact tells_bind Elsewise _ _ (record_message_elsewise _ _ _ _) fun _ => tells_throw Elsewise _ fun _ same => by cases same

theorem wordless_drafts (settings : Settings) (drafter : Drafter) (instructions : String) (current : Option String)
    (wordless : Wordless drafter instructions) :
    Tells (fun _ => False) (draftSchema (.ok settings) drafter instructions current) := by
  intro before failure after fails
  obtain ⟨⟨fault, gave, -⟩, -⟩ := draft_fails settings drafter instructions current before after failure fails
  rcases wordless current with none | empty
  · cases none.symm.trans gave
  · cases empty.symm.trans gave

theorem draft_elsewise (known : Except NumberFault Settings) (id : Int) (drafter : Drafter) (instructions : String)
    (principal : Option String) (wordless : Wordless drafter instructions) :
    Tells Elsewise (applyDraft known id drafter instructions principal) := by
  intro before failure after fails
  rw [apply_draft_parts] at fails
  rcases (fails_bind _ _ _ _ _).mp fails with missed | ⟨stored, read, loads, later⟩
  · exact get_schema_elsewise known id principal before failure after missed
  · obtain ⟨settings, rfl⟩ := get_schema_known known id principal before read stored loads
    have drafts := wordless_drafts settings drafter instructions (told stored.1) wordless
    have rest : Tells Elsewise (recordMessage id .user instructions none >>= fun _ =>
        tryCatch (draftSchema (.ok settings) drafter instructions (told stored.1)) (undrafted id) >>= fun draft =>
          applied (.ok settings) id principal draft.1 draft.2) := by
      refine tells_bind Elsewise _ _ (record_message_elsewise _ _ _ _) fun _ => ?_
      refine tells_bind Elsewise _ _ ?_ fun draft => applied_elsewise settings id principal _ _
      exact tells_try Elsewise _ _ _ drafts fun _ impossible => impossible.elim
    exact rest read failure after later

end Service

theorem same_schemas_trans (a b c : Tables) (first : SameSchemas a b) (second : SameSchemas b c) : SameSchemas a c :=
  ⟨first.entities.trans second.entities, first.fields.trans second.fields, first.relations.trans second.relations⟩

theorem cleared_schemas (id : Int) (a b : Tables) (same : SameSchemas a b) : SameSchemas (a.cleared id) (b.cleared id) := by
  constructor
  · rw [cleared_entities, cleared_entities, same.entities]
  · rw [cleared_fields, cleared_fields, Tables.entityIds, Tables.entityIds, Table.belonging, Table.belonging, same.entities,
      same.fields]
  · rw [cleared_relations, cleared_relations, same.relations]

theorem empty_text_parse (identifier : String) : Schema.parse identifier "".toList = ⟨[], [], identifier⟩ := by
  show (⟨[], [].mergeSort (·.line ≤ ·.line), identifier⟩ : Schema) = _
  rw [List.mergeSort_nil]

theorem recorded_nothing (id : Int) (schema : Schema) (result : Projection × List Diagnostic) (before after : Tables)
    (entities : schema.entities = []) (relations : schema.relations = []) (recorded : Recorded id schema result before after) :
    result.1.relations = [] ∧ SameSchemas after (before.cleared id) := by
  obtain ⟨projection, skipped⟩ := result
  obtain ⟨rows, fields, stored, links, written, -, linked, same, tables⟩ := recorded
  rw [entities] at written
  rw [relations] at linked
  cases written
  cases linked
  refine ⟨List.map_eq_nil_iff.mp same.symm, ?_, ?_, ?_⟩
  · rw [tables.entities, List.append_nil]
  · rw [tables.fields, List.append_nil]
  · rw [tables.relations, List.append_nil]

-- What comes of a draft without words: the schema is deleted, unless the draft fails of something else.
structure Vacated (known : Except NumberFault Settings) (id : Int) (principal : Option String) (before : World)
    (result : Except Failure Saved) (after : World) : Prop where
  told : ∀ failure, result = .error failure → Elsewise failure
  vacant : ∀ saved, result = .ok saved → saved.projection.entities = [] ∧ saved.projection.relations = [] ∧
    SameSchemas after.tables (before.tables.cleared id)
  kept : ∀ failure, result = .error failure → SameSchemas after.tables before.tables ∨
    (∃ message, failure = unannounced id message) ∧ SameSchemas after.tables (before.tables.cleared id)
  succeeds : ∀ settings stored read, known = .ok settings → 0 ≤ settings.source.maxBytes → Calm before →
    Yields (getSchema known id principal) before stored read → ∃ saved, result = .ok saved

theorem emptied_between (known : Except NumberFault Settings) (id : Int) (principal : Option String)
    (early late : StoreEvent → Prop) (a b c d : World) (first last : Option Failure) (saved : Saved)
    (begun : Quiet early a first b) (yields : Yields (replaceSchema known id "" principal) b saved c)
    (ended : Quiet late c last d) :
    saved.projection.entities = [] ∧ saved.projection.relations = [] ∧ SameSchemas d.tables (a.tables.cleared id) := by
  obtain ⟨settings, -, valid, same, committed⟩ := replace_yields _ _ _ _ _ _ _ yields
  have empty := (valid_parse settings "" valid).trans (empty_text_parse settings.source.identifier)
  have entities : (validate settings "").entities = [] := by rw [empty]
  have relations : (validate settings "").relations = [] := by
    rw [empty]
    rfl
  obtain ⟨none, vacant⟩ := recorded_nothing id _ _ _ _ entities relations committed.recorded
  have counted : saved.projection.entities.length = saved.schema.entities.length :=
    replace_counts known id "" principal b saved c yields
  rw [same, entities] at counted
  have before := cleared_schemas id _ _ (quiet_schemas _ _ _ _ begun)
  exact ⟨List.length_eq_zero_iff.mp counted, none,
    same_schemas_trans _ _ _ (quiet_schemas _ _ _ _ ended) (same_schemas_trans _ _ _ vacant before)⟩

theorem get_schema_owner (known : Except NumberFault Settings) (id : Int) (principal : Option String) (before after : World)
    (stored : String × Projection) (yields : Yields (getSchema known id principal) before stored after) :
    ∃ name, principal = some name ∧ name ≠ "" ∧ Owns before.tables name id := by
  obtain ⟨_, first, found, -⟩ := (yields_bind _ _ _ _ _).mp yields
  obtain ⟨model, mine⟩ := (yields_discard _ _ _ _).mp found
  cases principal with
  | none =>
      obtain ⟨name, middle, nobody, -⟩ := (yields_bind _ _ _ _ _).mp mine
      exact absurd nobody (yields_throw _ _ _ _)
  | some name =>
      obtain ⟨named, owns, -⟩ := get_model_yields id name before first model mine
      exact ⟨name, rfl, named, owns⟩

theorem calm_clear (world : World) (calm : Calm world) : clear world = true := by
  rw [clear, calm]
  rfl

section Wordless

variable (id : Int) (drafter : Drafter) (instructions : String) (wordless : Wordless drafter instructions)

include wordless

theorem wordless_saved (settings : Settings) (principal : Option String) (before read : World) (stored : String × Projection)
    (room : 0 ≤ settings.source.maxBytes) (calm : Calm before)
    (loads : Yields (getSchema (.ok settings) id principal) before stored read) :
    ∃ saved after, Yields (applyDraft (.ok settings) id drafter instructions principal) before saved after := by
  obtain ⟨name, rfl, named, owns⟩ := get_schema_owner (.ok settings) id principal before read stored loads
  have lasts := lasting_lasts name id
  obtain ⟨first, owned⟩ := (get_schema_takes _ lasts.spans (.ok settings) id (some name)).1 _ _ _ loads calm
  obtain ⟨kept, asks, -⟩ := record_message_stores id .user instructions none read (calm_clear read first)
  obtain ⟨second, mine⟩ := (record_message_takes _ lasts.toHosts id .user instructions none).1 _ _ _ asks first
  rcases outcome_cases (draftSchema (.ok settings) drafter instructions (told stored.1)) kept with
    ⟨⟨text, schema⟩, middle, drafts⟩ | ⟨failure, middle, lost⟩
  · obtain ⟨⟨given, gave, rfl⟩, rfl, -⟩ := draft_yields settings drafter instructions _ kept middle text schema drafts
    have receives := received_takes _ lasts.chains lasts.note (.ok settings) (drafter instructions (told stored.1))
    have answered := drafts
    rw [Yields, outcome_draft] at answered
    obtain ⟨third, still⟩ := receives.1 _ _ _ answered second
    rw [wordless_given drafter instructions wordless _ given gave] at drafts
    have empty := (validate_within settings "" room).trans (empty_text_parse settings.source.identifier)
    have valid : (validate settings "").isValid = true := by
      rw [empty]
      rfl
    have fits : Fits (validate settings "") := by
      rw [empty]
      exact ⟨by simp, by simp, by simp [referenceFields]⟩
    obtain ⟨saved, settled, replaces, fourth⟩ :=
      (replace_calm settings id name middle third (still (mine (owned owns))) "" named valid).1 fits
    obtain ⟨after, tells, -⟩ := record_message_stores id .ai _ (some "") settled (calm_clear settled fourth)
    refine ⟨saved, after, ?_⟩
    rw [apply_draft_parts, Yields, outcome_after _ _ _ _ _ loads, outcome_after _ _ _ _ _ asks,
      outcome_after _ _ _ _ _ (outcome_kept _ _ _ _ _ drafts), applied, if_pos valid,
      outcome_after _ _ _ _ _ (outcome_kept _ _ _ _ _ replaces), outcome_after _ _ _ _ _ tells]
    rfl
  · exact (wordless_drafts settings drafter instructions (told stored.1) wordless kept failure middle lost).elim

-- Either no schema changes, or that of the data model is gone and at most the message about it is lost.
theorem wordless_course (known : Except NumberFault Settings) (principal : Option String) (before after : World)
    (result : Except Failure Saved)
    (ends : outcome (applyDraft known id drafter instructions principal) before = (result, after)) :
    (SameSchemas after.tables before.tables ∧ ∃ failure, result = .error failure) ∨
      ∃ saved, (saved.projection.entities = [] ∧ saved.projection.relations = [] ∧
        SameSchemas after.tables (before.tables.cleared id)) ∧ Announced id (.ok saved) result := by
  rcases draft_course known id drafter instructions principal before after result ends with
    ⟨quiet, failure, rfl, -⟩ | ⟨stored, ready, -, ⟨quiet, refused⟩ |
      ⟨given, middle, replaced, settled, answer, begun, replaces, ended, announced⟩⟩
  · exact .inl ⟨quiet_schemas _ _ _ _ quiet, failure, rfl⟩
  · exact .inl ⟨quiet_schemas _ (asking instructions (told stored.1) before) _ _ quiet, refused⟩
  · rw [wordless_given drafter instructions wordless _ given answer] at replaces
    cases replaced with
    | ok saved =>
        refine .inr ⟨saved, ?_, announced⟩
        exact emptied_between known id principal _ _ (asking instructions (told stored.1) before) middle settled after none none
          saved begun replaces ended
    | error cause =>
        obtain ⟨rows, -⟩ := replace_fails _ _ _ _ _ _ _ replaces
        have restored : SameSchemas settled.tables middle.tables := ⟨rows.entities, rows.fields, rows.relations⟩
        have started := quiet_schemas _ (asking instructions (told stored.1) before) _ _ begun
        cases announced with
        | unsaved _ told =>
            exact .inl ⟨same_schemas_trans _ _ _ (quiet_schemas _ _ _ _ ended) (same_schemas_trans _ _ _ restored started),
              told, rfl⟩

theorem wordless_draft_vacates (known : Except NumberFault Settings) (principal : Option String) (before : World) :
    Vacated known id principal before (outcome (applyDraft known id drafter instructions principal) before).1
      (outcome (applyDraft known id drafter instructions principal) before).2 := by
  generalize ends : outcome (applyDraft known id drafter instructions principal) before = ended
  obtain ⟨result, after⟩ := ended
  have course := wordless_course id drafter instructions wordless known principal before after result ends
  refine ⟨?_, ?_, ?_, ?_⟩
  · rintro failure rfl
    exact draft_elsewise known id drafter instructions principal wordless before failure after ends
  · rintro saved rfl
    rcases course with ⟨-, failure, same⟩ | ⟨_, gone, announced⟩
    · cases same
    · cases announced with
      | applied => exact gone
  · rintro failure rfl
    rcases course with ⟨same, -⟩ | ⟨_, gone, announced⟩
    · exact .inl same
    · cases announced with
      | lost _ message => exact .inr ⟨⟨message, rfl⟩, gone.2.2⟩
  · rintro settings stored read rfl room calm loads
    obtain ⟨saved, last, yields⟩ :=
      wordless_saved id drafter instructions wordless settings principal before read stored room calm loads
    exact ⟨saved, (Prod.mk.inj (ends.symm.trans yields)).1⟩

end Wordless

def silentDrafter : Drafter := fun _ _ => ⟨.ok none, []⟩

theorem silent_wordless (instructions : String) : Wordless silentDrafter instructions := fun _ => .inl rfl

def silentDraft : Except Failure Saved × World :=
  outcome (applyDraft (.ok {}) 1 silentDrafter "a basket" (some "ann")) savedSession.world

theorem shop_vacated :
    Wordless silentDrafter "a basket" ∧ Vacated (.ok {}) 1 (some "ann") savedSession.world silentDraft.1 silentDraft.2 ∧
      silentDraft.1.isOk = true ∧ savedSession.world.tables.entities.rows.length = 1 ∧
      silentDraft.2.tables.entities.rows.length = 0 := by
  have wordless := silent_wordless "a basket"
  exact ⟨wordless, wordless_draft_vacates 1 silentDrafter "a basket" wordless (.ok {}) (some "ann") savedSession.world,
    by decide +kernel, by decide +kernel, by decide +kernel⟩

theorem silence_may_vacate :
    ¬ ∀ session, Reachable session → Calm session.world → ∀ principal id, principal ≠ "" →
      Owns session.world.tables principal id → ∀ drafter instructions, Wordless drafter instructions →
      let ended := outcome (applyDraft session.known id drafter instructions (some principal)) session.world
      (∃ cause, ended.1 = .error (.undrafted cause)) ∧ SameSchemas ended.2.tables session.world.tables := by
  intro refused
  have started : Reachable { world := {}, known := .ok {} } := .start {} (.ok {}) rfl rfl rfl
  have reachable : Reachable savedSession := .turn _ _ (.turn _ _ started)
  have calm : Calm savedSession.world := List.isEmpty_iff.mp (by decide +kernel)
  have owner : (savedSession.world.tables.modelOf? 1).map DataModel.ownerId = some "ann" := by decide +kernel
  have owns : Owns savedSession.world.tables "ann" 1 := (owns_model _ _ _).mpr (Option.map_eq_some_iff.mp owner)
  obtain ⟨-, same⟩ := refused savedSession reachable calm "ann" 1 (by decide) owns silentDrafter "a basket" (silent_wordless _)
  have changed : silentDraft.2.tables.entities.rows.length ≠ savedSession.world.tables.entities.rows.length := by decide +kernel
  exact changed (congrArg List.length same.entities)

end Schematic
