import Schematic.Proofs.Store.Transaction

set_option autoImplicit false

namespace Schematic

namespace Action

variable {α β : Type}

-- Two worlds whose tables are related, which break down in the same way, and of which drafters were asked the same since each
-- had its past.
structure Bond (past : List (String × Option String) × List (String × Option String)) (related : Tables → Tables → Prop)
    (a b : World) : Prop where
  tables : related a.tables b.tables
  breakdowns : b.breakdowns = a.breakdowns
  asked : ∃ fresh, a.asked = fresh ++ past.1 ∧ b.asked = fresh ++ past.2

def Pairs (past : List (String × Option String) × List (String × Option String)) (related : Tables → Tables → Prop)
    (work : Action α) : Prop :=
  ∀ a b, Bond past related a b →
    ∃ result first second, outcome work a = (result, first) ∧ outcome work b = (result, second) ∧ Bond past related first second

variable (past : List (String × Option String) × List (String × Option String)) (related : Tables → Tables → Prop)

theorem pairs_pure (value : α) : Pairs past related (pure value) := fun a b bond => ⟨_, a, b, rfl, rfl, bond⟩

theorem pairs_throw (failure : Failure) : Pairs past related (throw failure : Action α) :=
  fun a b bond => ⟨_, a, b, rfl, rfl, bond⟩

theorem pairs_modify (change : World → World) (kept : ∀ a b, Bond past related a b → Bond past related (change a) (change b)) :
    Pairs past related (modify change) := fun a b bond => ⟨_, change a, change b, rfl, rfl, kept a b bond⟩

-- Success of the first work may tell more of the tables than was known of them, as long as later work needs it.
theorem pairs_learn (narrow : Tables → Tables → Prop) (work : Action α) (next : α → Action β) (first : Pairs past related work)
    (learned : ∀ before value after, Yields work before value after → ∀ b, related after.tables b → narrow after.tables b)
    (known : ∀ a b, narrow a b → related a b) (second : ∀ value, Pairs past narrow (next value)) :
    Pairs past related (work >>= next) := by
  intro a b bond
  obtain ⟨result, middle, between, here, there, still⟩ := first a b bond
  cases result with
  | ok value =>
      have closer : Bond past narrow middle between :=
        ⟨learned a value middle here between.tables still.tables, still.breakdowns, still.asked⟩
      obtain ⟨last, after, final, one, two, bound⟩ := second value middle between closer
      refine ⟨last, after, final, ?_, ?_, known _ _ bound.tables, bound.breakdowns, bound.asked⟩
      · rw [outcome_after work next a middle value here, one]
      · rw [outcome_after work next b between value there, two]
  | error failure =>
      refine ⟨.error failure, middle, between, ?_, ?_, still⟩
      · exact outcome_failed work next a middle failure here
      · exact outcome_failed work next b between failure there

theorem pairs_bind (work : Action α) (next : α → Action β) (first : Pairs past related work)
    (second : ∀ value, Pairs past related (next value)) : Pairs past related (work >>= next) :=
  pairs_learn past related related work next first (fun _ _ _ _ _ alike => alike) (fun _ _ alike => alike) second

theorem pairs_map (work : Action α) (change : α → β) (first : Pairs past related work) :
    Pairs past related (change <$> work) := by
  rw [map_eq_pure_bind]
  exact pairs_bind past related work _ first fun value => pairs_pure past related (change value)

theorem pairs_try (work : Action α) (recover : Failure → Action α) (first : Pairs past related work)
    (second : ∀ failure, Pairs past related (recover failure)) : Pairs past related (tryCatch work recover) := by
  intro a b bond
  obtain ⟨result, middle, between, here, there, still⟩ := first a b bond
  cases result with
  | ok value =>
      refine ⟨.ok value, middle, between, ?_, ?_, still⟩
      · exact outcome_kept work recover a middle value here
      · exact outcome_kept work recover b between value there
  | error failure =>
      obtain ⟨last, after, final, one, two, bound⟩ := second failure middle between still
      refine ⟨last, after, final, ?_, ?_, bound⟩
      · rw [outcome_recovered work recover a middle failure here, one]
      · rw [outcome_recovered work recover b between failure there, two]

theorem pairs_note (entry : LogEntry) : Pairs past related (note entry) :=
  pairs_modify past related _ fun _ _ bond => ⟨bond.tables, bond.breakdowns, bond.asked⟩

theorem pairs_record (event : StoreEvent) : Pairs past related (record event) :=
  pairs_modify past related _ fun _ _ bond => ⟨bond.tables, bond.breakdowns, bond.asked⟩

theorem pairs_risk (label : String) : Pairs past related (risk label) := by
  intro a b bond
  have same : strike label b.breakdowns = strike label a.breakdowns := by rw [bond.breakdowns]
  exact ⟨_, _, _, outcome_risk label a _ _ rfl, outcome_risk label b _ _ same, bond.tables, rfl, bond.asked⟩

theorem pairs_run (command : Command) (effect : Tables → α × Tables)
    (alike : ∀ a b, related a b → (effect b).1 = (effect a).1 ∧ related (effect a).2 (effect b).2) :
    Pairs past related (run command effect) := by
  apply pairs_bind past related _ _ (pairs_record past related _)
  intro _
  apply pairs_bind past related _ _ (pairs_risk past related _)
  intro _ a b bond
  obtain ⟨answers, tables⟩ := alike a.tables b.tables bond.tables
  refine ⟨.ok (effect a.tables).1, { a with tables := (effect a.tables).2 }, { b with tables := (effect b.tables).2 }, rfl, ?_,
    tables, bond.breakdowns, bond.asked⟩
  rw [← answers]
  rfl

theorem pairs_look (command : Command) (view : Tables → α) (alike : ∀ a b, related a b → view b = view a) :
    Pairs past related (look command view) :=
  pairs_run past related command _ fun a b same => ⟨alike a b same, same⟩

theorem pairs_look_up_to (limit : Int) (command : Command) (view : Tables → List α)
    (alike : ∀ a b, related a b → view b = view a) : Pairs past related (lookUpTo limit command view) := by
  apply pairs_bind past related _ _ (pairs_look past related command view alike)
  intro rows
  split
  · exact pairs_throw past related _
  · exact pairs_pure past related _

theorem pairs_send (command : Command) (effect : Tables → Tables) (kept : ∀ a b, related a b → related (effect a) (effect b)) :
    Pairs past related (send command effect) :=
  pairs_run past related command _ fun a b same => ⟨rfl, kept a b same⟩

theorem pairs_naming (logger operation : String) (subject : Option String) (work : Action α) (first : Pairs past related work) :
    Pairs past related (naming logger operation subject work) := by
  apply pairs_try past related _ _ first
  intro failure
  cases failure with
  | operation name about cause => exact pairs_throw past related _
  | _ => exact pairs_bind past related _ _ (pairs_note past related _) fun _ => pairs_throw past related _

theorem pairs_connected (work : Action α) (first : Pairs past related work) : Pairs past related (connected work) :=
  pairs_bind past related _ _ (pairs_risk past related "connect") fun _ => first

theorem pairs_attempt (work : Action α) (first : Pairs past related work) : Pairs past related (attempt work) := by
  apply pairs_bind past related _ _ first
  intro value
  apply pairs_bind past related _ _ (pairs_risk past related "commit")
  intro _
  exact pairs_bind past related _ _ (pairs_record past related _) fun _ => pairs_pure past related value

-- The tables that are put back differ, so what is undone is followed in both worlds.
theorem pairs_undo (tables others : Tables) (failure : Failure) (a b : World) (bond : Bond past related a b)
    (back : related (a.tables.rollback tables) (b.tables.rollback others)) :
    ∃ result first second, outcome (undo tables failure : Action α) a = (result, first) ∧
      outcome (undo others failure : Action α) b = (result, second) ∧ Bond past related first second := by
  have told : Pairs past related (do
      risk "rollback"
      record .rolledBack
      throw failure : Action α) := by
    apply pairs_bind past related _ _ (pairs_risk past related _)
    intro _
    exact pairs_bind past related _ _ (pairs_record past related _) fun _ => pairs_throw past related failure
  exact told { a with tables := a.tables.rollback tables } { b with tables := b.tables.rollback others }
    ⟨back, bond.breakdowns, bond.asked⟩

theorem pairs_transaction (work : Action α) (first : Pairs past related work)
    (restored : ∀ a b c d, related a b → related c d → related (c.rollback a) (d.rollback b)) :
    Pairs past related (transaction work) := by
  have guarded : Pairs past related (do
      let tables := (← get).tables
      tryCatch (attempt work) (undo tables)) := by
    intro a b bond
    show ∃ result first second, outcome (tryCatch (attempt work) (undo a.tables)) a = (result, first) ∧
      outcome (tryCatch (attempt work) (undo b.tables)) b = (result, second) ∧ Bond past related first second
    obtain ⟨result, middle, between, here, there, still⟩ := pairs_attempt past related work first a b bond
    cases result with
    | ok value => exact ⟨_, _, _, outcome_kept _ _ _ _ _ here, outcome_kept _ _ _ _ _ there, still⟩
    | error failure =>
        rw [outcome_recovered _ _ _ _ _ here, outcome_recovered _ _ _ _ _ there]
        exact pairs_undo past related _ _ failure middle between still (restored _ _ _ _ bond.tables still.tables)
  show Pairs past related (do
    risk "begin"
    record .began
    let tables := (← get).tables
    tryCatch (attempt work) (undo tables))
  apply pairs_bind past related _ _ (pairs_risk past related _)
  intro _
  exact pairs_bind past related _ _ (pairs_record past related _) fun _ => guarded

theorem pairs_list (items : List α) (work : α → Action β) (each : ∀ item, Pairs past related (work item)) :
    Pairs past related (items.mapM work) := by
  induction items with
  | nil =>
      rw [List.mapM_nil]
      exact pairs_pure past related []
  | cons item items ih =>
      rw [List.mapM_cons]
      apply pairs_bind past related _ _ (each item)
      intro value
      exact pairs_bind past related _ _ ih fun values => pairs_pure past related (value :: values)

theorem pairs_checked (table : TableName) (value : Checked α) : Pairs past related (checked table value) := by
  cases value with
  | ok value => exact pairs_pure past related value
  | refused complaints => exact pairs_throw past related _

theorem pairs_stored {κ : Type} (table : TableName) (row : Row κ α) : Pairs past related (recordOf table row) := by
  obtain ⟨id, parent, position, record⟩ := row
  cases record with
  | ok value => exact pairs_pure past related value
  | error fault => cases fault <;> exact pairs_throw past related _

theorem pairs_found {κ : Type} (table : TableName) (row : Option (Row κ α)) : Pairs past related (row.mapM (recordOf table)) := by
  cases row with
  | none => exact pairs_pure past related none
  | some row => exact pairs_map past related _ _ (pairs_stored past related table row)

theorem pairs_settings (known : Except NumberFault Settings) : Pairs past related (settings known) := by
  cases known with
  | ok known => exact pairs_pure past related known
  | error fault => exact pairs_throw past related _

end Action

end Schematic
