import Schematic.Proofs.Store.Courses
import Schematic.Proofs.Store.Transaction

set_option autoImplicit false

namespace Schematic

namespace Action

variable {α : Type}

-- Work that leaves all that is stored of schemas alone and asks no drafter, and whose events are of a kind.
structure Quiet (kind : StoreEvent → Prop) (before : World) (failure : Option Failure) (after : World) : Prop where
  entities : after.tables.entities = before.tables.entities
  fields : after.tables.fields = before.tables.fields
  relations : after.tables.relations = before.tables.relations
  asked : after.asked = before.asked
  events : Since kind before after

variable (kind : StoreEvent → Prop)

theorem quiet_trans (a b c : World) (one two three : Option Failure) (first : Quiet kind a one b)
    (second : Quiet kind b two c) : Quiet kind a three c :=
  ⟨second.entities.trans first.entities, second.fields.trans first.fields, second.relations.trans first.relations,
    second.asked.trans first.asked, since_trans kind a b c first.events second.events⟩

theorem quiet_chains : Chains (Quiet kind) where
  still world _ := ⟨rfl, rfl, rfl, rfl, since_refl kind world⟩
  after a b c failure first second := quiet_trans kind a b c none failure failure first second

theorem quiet_outcome (work : Action α) (quiet : Takes (Quiet kind) work) (before after : World) (result : Except Failure α)
    (ends : outcome work before = (result, after)) : Quiet kind before none after := by
  cases result with
  | ok value => exact quiet.1 _ _ _ ends
  | error failure =>
      obtain ⟨entities, fields, relations, asked, events⟩ := quiet.2 _ _ _ ends
      exact ⟨entities, fields, relations, asked, events⟩

theorem quiet_risk (label : String) : Takes (Quiet kind) (risk label) := by
  refine ⟨fun before value after yields => ?_, fun before failure after fails => ?_⟩
  · obtain ⟨breakdowns, -, rfl⟩ := yields_risk _ _ _ _ yields
    exact ⟨rfl, rfl, rfl, rfl, [], rfl, by simp⟩
  · obtain ⟨message, breakdowns, -, -, rfl⟩ := fails_risk _ _ _ _ fails
    exact ⟨rfl, rfl, rfl, rfl, [], rfl, by simp⟩

theorem quiet_record (event : StoreEvent) (kept : kind event) : Takes (Quiet kind) (record event) := by
  refine ⟨fun before value after yields => ?_, fun before failure after fails => ?_⟩
  · obtain ⟨-, rfl⟩ := Prod.mk.inj yields
    exact ⟨rfl, rfl, rfl, rfl, [⟨event, before.tables⟩], rfl, by simpa using kept⟩
  · cases (Prod.mk.inj fails).1

theorem quiet_note (entry : LogEntry) : Takes (Quiet kind) (note entry) := by
  refine ⟨fun before value after yields => ?_, fun before failure after fails => ?_⟩
  · obtain ⟨-, rfl⟩ := Prod.mk.inj yields
    exact ⟨rfl, rfl, rfl, rfl, [], rfl, by simp⟩
  · cases (Prod.mk.inj fails).1

theorem quiet_run (command : Command) (effect : Tables → α × Tables) (kept : kind (.ran command))
    (spares : ∀ tables, (effect tables).2.entities = tables.entities ∧ (effect tables).2.fields = tables.fields ∧
      (effect tables).2.relations = tables.relations) : Takes (Quiet kind) (run command effect) := by
  have ran : ∀ before : World, Since kind before (sent command before) :=
    fun before => ⟨[⟨.ran command, before.tables⟩], rfl, by simpa using kept⟩
  refine ⟨fun before value after yields => ?_, fun before failure after fails => ?_⟩
  · obtain ⟨-, breakdowns, -, rfl⟩ := yields_run command effect before after value yields
    obtain ⟨entities, fields, relations⟩ := spares before.tables
    exact ⟨entities, fields, relations, rfl, ran before⟩
  · obtain ⟨message, breakdowns, -, -, rfl⟩ := fails_run command effect before after failure fails
    exact ⟨rfl, rfl, rfl, rfl, ran before⟩

theorem quiet_hosts (kept : ∀ command, (∀ id, command ≠ .touchModel id) → kind (.ran command)) : Hosts (Quiet kind) where
  chains := quiet_chains kind
  caught a b c failure last first second := quiet_trans kind a b c (some failure) last last first second
  risk := quiet_risk kind
  note := quiet_note kind
  call := by
    intro α command effect harmless
    cases harmless with
    | read command view reads =>
        apply quiet_run kind command _ (kept command _) fun _ => ⟨rfl, rfl, rfl⟩
        intro id same
        simp [same, Command.reads] at reads
    | insertModel model => exact quiet_run kind _ _ (kept _ fun id => by simp) fun _ => ⟨rfl, rfl, rfl⟩
    | insertMessage message => exact quiet_run kind _ _ (kept _ fun id => by simp) fun _ => ⟨rfl, rfl, rfl⟩

theorem quiet_transaction (work : Action α) (quiet : Takes (Quiet kind) work) (began : kind .began)
    (committed : kind .committed) (rolledBack : kind .rolledBack) : Takes (Quiet kind) (transaction work) := by
  have attempted : Takes (Quiet kind) (attempt work) := by
    refine takes_bind _ (quiet_chains kind) _ _ quiet fun value => ?_
    refine takes_bind _ (quiet_chains kind) _ _ (quiet_risk kind "commit") fun _ => ?_
    exact takes_bind _ (quiet_chains kind) _ _ (quiet_record kind _ committed) fun _ => takes_pure _ (quiet_chains kind) value
  have opening : ∀ (before : World) (breakdowns : List Breakdown), Since kind before (opened before breakdowns) :=
    fun before breakdowns => ⟨[⟨.began, before.tables⟩], rfl, by simpa using began⟩
  refine ⟨fun before value after yields => ?_, fun before failure after fails => ?_⟩
  · obtain ⟨breakdowns, middle, rest, -, here, -, rfl⟩ := transaction_yields work before after value yields
    obtain ⟨entities, fields, relations, asked, events⟩ := quiet.1 _ _ _ here
    obtain ⟨fresh, whole, each⟩ := since_trans _ _ _ _ (opening before breakdowns) events
    refine ⟨entities, fields, relations, asked, ⟨.committed, middle.tables⟩ :: fresh, congrArg (List.cons _) whole, ?_⟩
    simpa using ⟨committed, each⟩
  · rcases transaction_fails work before after failure fails with risked | ⟨breakdowns, cause, middle, -, failed, undone⟩
    · exact (quiet_risk kind "begin").2 _ _ _ risked
    · obtain ⟨entities, fields, relations, asked, events⟩ := attempted.2 _ _ _ failed
      obtain ⟨fresh, whole, each⟩ := since_trans _ _ _ _ (opening before breakdowns) events
      obtain ⟨last, ⟨-, -, rfl⟩ | ⟨message, -, -, rfl⟩⟩ := undo_fails _ _ _ _ _ undone
      · have ended : ∀ happening ∈ (⟨.rolledBack, middle.tables.rollback before.tables⟩ :: fresh : List Happening),
            kind happening.event := by
          simpa using ⟨rolledBack, each⟩
        refine ⟨?_, ?_, ?_, asked, _, congrArg (List.cons _) whole, ended⟩
        · exact congrArg (Table.rollback · before.tables.entities) entities
        · exact congrArg (Table.rollback · before.tables.fields) fields
        · exact congrArg (Table.rollback · before.tables.relations) relations
      · refine ⟨?_, ?_, ?_, asked, fresh, whole, each⟩
        · exact congrArg (Table.rollback · before.tables.entities) entities
        · exact congrArg (Table.rollback · before.tables.fields) fields
        · exact congrArg (Table.rollback · before.tables.relations) relations

theorem quiet_lasts (kept : ∀ event, (∀ id, event ≠ .ran (.touchModel id)) → kind event) : Lasts (Quiet kind) where
  toHosts := by
    apply quiet_hosts
    intro command other
    apply kept
    intro id same
    exact other id (StoreEvent.ran.inj same)
  transaction α work quiet :=
    quiet_transaction kind work quiet (kept _ fun id => by simp) (kept _ fun id => by simp) (kept _ fun id => by simp)

end Action

end Schematic
