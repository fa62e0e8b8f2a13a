import Schematic.Store.Report
import Mathlib.Data.List.Perm.Subperm

set_option autoImplicit false

namespace Schematic

namespace Action

variable {α β : Type}

def Yields (work : Action α) (before : World) (value : α) (after : World) : Prop := outcome work before = (.ok value, after)

def Fails (work : Action α) (before : World) (failure : Failure) (after : World) : Prop :=
  outcome work before = (.error failure, after)

theorem outcome_cases (work : Action α) (before : World) :
    (∃ value after, Yields work before value after) ∨ ∃ failure after, Fails work before failure after := by
  simp only [Yields, Fails]
  cases outcome work before with
  | mk result after =>
      cases result with
      | ok value => exact .inl ⟨value, after, rfl⟩
      | error failure => exact .inr ⟨failure, after, rfl⟩

theorem outcome_bind (work : Action α) (next : α → Action β) (before : World) :
    outcome (work >>= next) before =
      match outcome work before with
      | (.ok value, after) => outcome (next value) after
      | (.error failure, after) => (.error failure, after) := by
  unfold outcome ExceptT.run StateT.run
  simp only [bind, ExceptT.bind, ExceptT.mk, StateT.bind]
  cases work before with
  | mk result after => cases result <;> rfl

theorem outcome_try (work : Action α) (recover : Failure → Action α) (before : World) :
    outcome (tryCatch work recover) before =
      match outcome work before with
      | (.ok value, after) => (.ok value, after)
      | (.error failure, after) => outcome (recover failure) after := by
  unfold outcome ExceptT.run StateT.run
  simp only [tryCatch, tryCatchThe, MonadExceptOf.tryCatch, ExceptT.tryCatch, ExceptT.mk, bind, StateT.bind]
  cases work before with
  | mk result after => cases result <;> rfl

theorem outcome_after (work : Action α) (next : α → Action β) (before middle : World) (first : α)
    (yields : Yields work before first middle) : outcome (work >>= next) before = outcome (next first) middle := by
  rw [Yields] at yields
  rw [outcome_bind, yields]

theorem outcome_failed (work : Action α) (next : α → Action β) (before middle : World) (failure : Failure)
    (fails : Fails work before failure middle) : outcome (work >>= next) before = (.error failure, middle) := by
  rw [Fails] at fails
  rw [outcome_bind, fails]

theorem outcome_kept (work : Action α) (recover : Failure → Action α) (before middle : World) (value : α)
    (yields : Yields work before value middle) : outcome (tryCatch work recover) before = (.ok value, middle) := by
  rw [Yields] at yields
  rw [outcome_try, yields]

theorem outcome_recovered (work : Action α) (recover : Failure → Action α) (before middle : World) (failure : Failure)
    (fails : Fails work before failure middle) :
    outcome (tryCatch work recover) before = outcome (recover failure) middle := by
  rw [Fails] at fails
  rw [outcome_try, fails]

theorem outcome_pure (value : α) (before : World) : outcome (pure value) before = (.ok value, before) := rfl

theorem outcome_throw (failure : Failure) (before : World) :
    outcome (throw failure : Action α) before = (.error failure, before) := rfl

theorem outcome_get (before : World) : outcome get before = (.ok before, before) := rfl

theorem outcome_modify (change : World → World) (before : World) :
    outcome (modify change) before = (.ok PUnit.unit, change before) := rfl

theorem yields_bind (work : Action α) (next : α → Action β) (before after : World) (value : β) :
    Yields (work >>= next) before value after ↔
      ∃ first middle, Yields work before first middle ∧ Yields (next first) middle value after := by
  simp only [Yields, outcome_bind]
  cases outcome work before with
  | mk result middle => cases result <;> simp

theorem fails_bind (work : Action α) (next : α → Action β) (before after : World) (failure : Failure) :
    Fails (work >>= next) before failure after ↔
      Fails work before failure after ∨
        ∃ first middle, Yields work before first middle ∧ Fails (next first) middle failure after := by
  simp only [Yields, Fails, outcome_bind]
  cases outcome work before with
  | mk result middle => cases result <;> simp

theorem yields_pure (value other : α) (before after : World) :
    Yields (pure value) before other after ↔ other = value ∧ after = before := by
  simp [Yields, outcome_pure, eq_comm]

theorem yields_try (work : Action α) (recover : Failure → Action α) (before after : World) (value : α) :
    Yields (tryCatch work recover) before value after ↔
      Yields work before value after ∨
        ∃ failure middle, Fails work before failure middle ∧ Yields (recover failure) middle value after := by
  simp only [Yields, Fails, outcome_try]
  cases outcome work before with
  | mk result middle => cases result <;> simp

theorem fails_try (work : Action α) (recover : Failure → Action α) (before after : World) (failure : Failure) :
    Fails (tryCatch work recover) before failure after ↔
      ∃ first middle, Fails work before first middle ∧ Fails (recover first) middle failure after := by
  simp only [Fails, outcome_try]
  cases outcome work before with
  | mk result middle => cases result <;> simp

theorem yields_map (work : Action α) (change : α → β) (before after : World) (value : β) :
    Yields (change <$> work) before value after ↔ ∃ first, Yields work before first after ∧ value = change first := by
  rw [map_eq_pure_bind, yields_bind]
  simp only [yields_pure]
  constructor
  · rintro ⟨first, middle, yields, same, rfl⟩
    exact ⟨first, yields, same⟩
  · rintro ⟨first, yields, same⟩
    exact ⟨first, after, yields, same, rfl⟩

theorem fails_map (work : Action α) (change : α → β) (before after : World) (failure : Failure)
    (fails : Fails work before failure after) : Fails (change <$> work) before failure after := by
  rw [map_eq_pure_bind]
  exact outcome_failed work _ before after failure fails

theorem yields_discard (work : Action α) (before after : World) (value : PUnit) :
    Yields (discard work) before value after ↔ ∃ first, Yields work before first after := by
  refine (yields_map work (Function.const α PUnit.unit) before after value).trans ?_
  simp

theorem fails_discard (work : Action α) (before after : World) (failure : Failure)
    (fails : Fails (discard work) before failure after) : Fails work before failure after := by
  have parts : (discard work : Action PUnit) = work >>= fun _ => pure PUnit.unit := map_eq_pure_bind _ work
  rw [parts] at fails
  cases (fails_bind _ _ _ _ _).mp fails with
  | inl here => exact here
  | inr later =>
      obtain ⟨_, _, _, impossible⟩ := later
      cases (Prod.mk.inj impossible).1

theorem yields_throw (failure : Failure) (before after : World) (value : α) :
    ¬ Yields (throw failure : Action α) before value after := by
  simp [Yields, outcome_throw]

theorem fails_throw (failure told : Failure) (before after : World) :
    Fails (throw failure : Action α) before told after ↔ told = failure ∧ after = before := by
  simp [Fails, outcome_throw, eq_comm]

theorem fails_pure (value : α) (failure : Failure) (before after : World) :
    ¬ Fails (pure value : Action α) before failure after := by
  simp [Fails, outcome_pure]

-- What is asserted of the world before some work, of the failure if it fails, and of the world after it.
abbrev Course := World → Option Failure → World → Prop

def Takes (course : Course) (work : Action α) : Prop :=
  (∀ before value after, Yields work before value after → course before none after) ∧
    ∀ before failure after, Fails work before failure after → course before (some failure) after

-- Courses that hold where nothing is done, and of work that goes on where other work ended.
structure Chains (course : Course) : Prop where
  still : ∀ world failure, course world failure world
  after : ∀ a b c failure, course a none b → course b failure c → course a failure c

def Still : Course := fun before _ after => after = before

theorem still_chains : Chains Still where
  still _ _ := rfl
  after _ _ _ _ first second := second.trans first

variable (course : Course) (chains : Chains course)

include chains

theorem takes_pure (value : α) : Takes course (pure value) := by
  refine ⟨fun before _ after yields => ?_, fun before failure after fails => ?_⟩
  · obtain ⟨-, rfl⟩ := (yields_pure value _ before after).mp yields
    exact chains.still after none
  · simp [Fails, outcome_pure] at fails

theorem takes_throw (failure : Failure) : Takes course (throw failure : Action α) := by
  refine ⟨fun before _ after yields => ?_, fun before other after fails => ?_⟩
  · simp [Yields, outcome_throw] at yields
  · rw [Fails, outcome_throw, Prod.mk.injEq] at fails
    rw [← fails.2]
    exact chains.still before _

theorem takes_bind (work : Action α) (next : α → Action β) (first : Takes course work)
    (second : ∀ value, Takes course (next value)) : Takes course (work >>= next) := by
  refine ⟨fun before value after yields => ?_, fun before failure after fails => ?_⟩
  · obtain ⟨found, middle, here, later⟩ := (yields_bind work next before after value).mp yields
    exact chains.after _ _ _ _ (first.1 _ _ _ here) ((second found).1 _ _ _ later)
  · rcases (fails_bind work next before after failure).mp fails with here | ⟨found, middle, here, later⟩
    · exact first.2 _ _ _ here
    · exact chains.after _ _ _ _ (first.1 _ _ _ here) ((second found).2 _ _ _ later)

theorem takes_map (work : Action α) (change : α → β) (first : Takes course work) : Takes course (change <$> work) := by
  rw [map_eq_pure_bind]
  exact takes_bind course chains work _ first fun value => takes_pure course chains _

theorem takes_list (items : List α) (work : α → Action β) (each : ∀ item ∈ items, Takes course (work item)) :
    Takes course (items.mapM work) := by
  induction items with
  | nil =>
      rw [List.mapM_nil]
      exact takes_pure course chains []
  | cons item items ih =>
      rw [List.mapM_cons]
      refine takes_bind course chains _ _ (each item List.mem_cons_self) fun value => ?_
      exact takes_bind course chains _ _ (ih fun other member => each other (List.mem_cons_of_mem _ member)) fun values =>
        takes_pure course chains _

theorem takes_option (item : Option α) (work : α → Action β) (each : ∀ item, Takes course (work item)) :
    Takes course (item.mapM work) := by
  cases item with
  | none => exact takes_pure course chains none
  | some item => exact takes_map course chains _ _ (each item)

theorem takes_checked (table : TableName) (value : Checked α) : Takes course (checked table value) := by
  cases value with
  | ok value => exact takes_pure course chains value
  | refused complaints => exact takes_throw course chains _

theorem takes_record {κ : Type} (table : TableName) (row : Row κ α) : Takes course (recordOf table row) := by
  obtain ⟨id, parent, position, record⟩ := row
  cases record with
  | ok value => exact takes_pure course chains value
  | error fault => cases fault <;> exact takes_throw course chains _

theorem takes_settings (known : Except NumberFault Settings) : Takes course (settings known) := by
  cases known with
  | ok known => exact takes_pure course chains known
  | error fault => exact takes_throw course chains _

end Action

end Schematic
