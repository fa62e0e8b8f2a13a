import Schematic.Proofs.Service.Sessions

set_option autoImplicit false

namespace Schematic

open Schematic.Action

structure SameSchemas (a b : Tables) : Prop where
  entities : a.entities.rows = b.entities.rows
  fields : a.fields.rows = b.fields.rows
  relations : a.relations.rows = b.relations.rows

def Redrafted (known : Except NumberFault Settings) (id : Int) (drafter : Drafter) (instructions : String) (before after : Tables) :
    Prop :=
  ∃ settings current given, known = .ok settings ∧ (drafter instructions current).outcome = .ok given ∧
    (validate settings (given.getD "")).isValid = true ∧ Rewritten id (validate settings (given.getD "")).entities before after

-- What becomes of a draft. It is stored where the call succeeds, and where only the message that tells of it was lost.
inductive Drafted (known : Except NumberFault Settings) (id : Int) (drafter : Drafter) (instructions : String) (before : Tables) :
    Except Failure Saved → Tables → Prop where
  | kept (failure : Failure) (after : Tables) (same : SameSchemas after before) :
      Drafted known id drafter instructions before (.error failure) after
  | applied (saved : Saved) (after : Tables) (stored : Redrafted known id drafter instructions before after) :
      Drafted known id drafter instructions before (.ok saved) after
  | unannounced (message : String) (after : Tables) (stored : Redrafted known id drafter instructions before after) :
      Drafted known id drafter instructions before (.error (Service.unannounced id message)) after

theorem quiet_schemas (kind : StoreEvent → Prop) (before after : World) (failure : Option Failure)
    (quiet : Quiet kind before failure after) : SameSchemas after.tables before.tables :=
  ⟨congrArg Table.rows quiet.entities, congrArg Table.rows quiet.fields, congrArg Table.rows quiet.relations⟩

-- A draft that fails leaves all schemas as they were, unless it fails of the message that would have told of its success.
theorem draft_stored_or_kept (known : Except NumberFault Settings) (id : Int) (drafter : Drafter) (instructions : String)
    (principal : Option String) (before : World) :
    Drafted known id drafter instructions before.tables (outcome (Service.applyDraft known id drafter instructions principal) before).1
      (outcome (Service.applyDraft known id drafter instructions principal) before).2.tables := by
  generalize ends : outcome (Service.applyDraft known id drafter instructions principal) before = ended
  obtain ⟨result, after⟩ := ended
  rcases Service.draft_course known id drafter instructions principal before after result ends with
    ⟨still, failure, rfl, -⟩ | ⟨stored, ready, -, ⟨still, failure, rfl⟩ |
      ⟨given, middle, saved, settled, answer, begun, replaced, ended, announced⟩⟩
  · exact .kept failure _ (quiet_schemas _ _ _ _ still)
  · exact .kept failure _ (quiet_schemas _ (Service.asking instructions (Service.told stored.1) before) _ _ still)
  · cases saved with
    | ok saved =>
        obtain ⟨settings, same, valid, -, committed⟩ := Service.replace_yields _ _ _ _ _ _ _ replaced
        have redrafted : Redrafted known id drafter instructions before.tables after.tables := by
          refine ⟨settings, _, given, same, answer, valid, ?_⟩
          exact rewritten_between id _ _ _ (Service.asking instructions (Service.told stored.1) before) middle settled after
            none none begun committed.stored ended
        cases announced with
        | applied => exact .applied saved _ redrafted
        | lost saved message => exact .unannounced message _ redrafted
    | error failure =>
        obtain ⟨rows, -⟩ := Service.replace_fails _ _ _ _ _ _ _ replaced
        obtain ⟨entities, fields, relations⟩ := quiet_schemas _ _ _ _ ended
        obtain ⟨entitiesBefore, fieldsBefore, relationsBefore⟩ := quiet_schemas _ _ _ _ begun
        cases announced with
        | unsaved _ told =>
            refine .kept told _ ⟨?_, ?_, ?_⟩
            · exact entities.trans (rows.entities.trans entitiesBefore)
            · exact fields.trans (rows.fields.trans fieldsBefore)
            · exact relations.trans (rows.relations.trans relationsBefore)

-- A new data model, and a breakdown that waits for the second message about a draft.
def mutedSession : Session :=
  (Session.after { world := {}, known := .ok {} } (.create (some "ann") [("name", .str "Shop")])).after
    (.fault ⟨"INSERT chat_messages", 2, "disk full"⟩)

def mutedDraft : Except Failure Saved × World :=
  outcome (Service.applyDraft (.ok {}) 1 (fun _ _ => ⟨.ok (some "entity Cart \x7b\n  id: ID\n\x7d\n"), []⟩) "go" (some "ann"))
    mutedSession.world

theorem failed_draft_may_change_schemas :
    ¬ ∀ session, Reachable session → ∀ known id drafter instructions principal,
      (outcome (Service.applyDraft known id drafter instructions principal) session.world).1.isOk = false →
      SameSchemas (outcome (Service.applyDraft known id drafter instructions principal) session.world).2.tables
        session.world.tables := by
  intro always
  have started : Reachable { world := {}, known := .ok {} } := .start {} (.ok {}) rfl rfl rfl
  have reachable : Reachable mutedSession := .turn _ _ (.turn _ _ started)
  have failed : mutedDraft.1.isOk = false := by decide +kernel
  have same : SameSchemas mutedDraft.2.tables mutedSession.world.tables := always mutedSession reachable _ _ _ _ _ failed
  have changed : mutedDraft.2.tables.entities.rows.length ≠ mutedSession.world.tables.entities.rows.length := by decide +kernel
  exact changed (congrArg List.length same.entities)

end Schematic
