import Schematic.Proofs.Store.Transaction

set_option autoImplicit false

namespace Schematic

namespace Action

variable {α β : Type}

-- Work that fails for no other reasons than some, whatever the world is like.
def Tells (reasons : Failure → Prop) (work : Action α) : Prop :=
  ∀ before failure after, Fails work before failure after → reasons failure

variable (reasons : Failure → Prop)

theorem tells_wider (wider : Failure → Prop) (work : Action α) (all : ∀ failure, reasons failure → wider failure)
    (tells : Tells reasons work) : Tells wider work :=
  fun before failure after fails => all failure (tells before failure after fails)

theorem tells_pure (value : α) : Tells reasons (pure value : Action α) :=
  fun before failure after fails => absurd fails (fails_pure value failure before after)

theorem tells_throw (failure : Failure) (told : reasons failure) : Tells reasons (throw failure : Action α) := by
  intro before other after fails
  rw [((fails_throw failure other before after).mp fails).1]
  exact told

theorem tells_bind (work : Action α) (next : α → Action β) (first : Tells reasons work)
    (second : ∀ value, Tells reasons (next value)) : Tells reasons (work >>= next) := by
  intro before failure after fails
  rcases (fails_bind work next before after failure).mp fails with here | ⟨value, middle, -, later⟩
  · exact first before failure after here
  · exact second value middle failure after later

theorem tells_map (work : Action α) (change : α → β) (tells : Tells reasons work) : Tells reasons (change <$> work) := by
  rw [map_eq_pure_bind]
  exact tells_bind reasons work _ tells fun _ => tells_pure reasons _

theorem tells_list (items : List α) (work : α → Action β) (each : ∀ item ∈ items, Tells reasons (work item)) :
    Tells reasons (items.mapM work) := by
  induction items with
  | nil =>
      rw [List.mapM_nil]
      exact tells_pure reasons []
  | cons item items ih =>
      rw [List.mapM_cons]
      refine tells_bind reasons _ _ (each item List.mem_cons_self) fun _ => ?_
      exact tells_bind reasons _ _ (ih fun other member => each other (List.mem_cons_of_mem _ member)) fun _ =>
        tells_pure reasons _

theorem tells_note (entry : LogEntry) : Tells reasons (note entry) := by
  intro before failure after fails
  cases (Prod.mk.inj fails).1

theorem tells_try (inner : Failure → Prop) (work : Action α) (recover : Failure → Action α) (tells : Tells inner work)
    (each : ∀ failure, inner failure → Tells reasons (recover failure)) : Tells reasons (tryCatch work recover) := by
  intro before failure after fails
  obtain ⟨first, middle, here, later⟩ := (fails_try work recover before after failure).mp fails
  exact each first (tells before first middle here) middle failure after later

theorem tells_checked (table : TableName) (value : Checked α) (refused : ∀ complaints, reasons (.refused table complaints)) :
    Tells reasons (checked table value) := by
  cases value with
  | ok value => exact tells_pure reasons value
  | refused complaints => exact tells_throw reasons _ (refused complaints)

theorem tells_naming (logger operation : String) (subject : Option String) (work : Action α)
    (named : ∀ name about cause, reasons (.operation name about cause)) :
    Tells reasons (naming logger operation subject work) := by
  intro before failure after fails
  obtain ⟨first, middle, -, same | told⟩ := fails_naming _ _ _ _ _ _ _ fails
  · obtain ⟨rfl, -, name, about, cause, rfl⟩ := same
    exact named name about cause
  · obtain ⟨entry, -, rfl, -⟩ := told
    exact named operation subject first

theorem tells_risk (label : String) (struck : ∀ message, reasons (.storage "RuntimeError" message)) :
    Tells reasons (risk label) := by
  intro before failure after fails
  obtain ⟨message, breakdowns, rfl, -⟩ := fails_risk label before after failure fails
  exact struck message

theorem tells_run (command : Command) (effect : Tables → α × Tables)
    (struck : ∀ message, reasons (.storage "RuntimeError" message)) : Tells reasons (run command effect) := by
  intro before failure after fails
  obtain ⟨message, breakdowns, rfl, -⟩ := fails_run command effect before after failure fails
  exact struck message

theorem tells_connected (work : Action α) (struck : ∀ message, reasons (.storage "RuntimeError" message))
    (tells : Tells reasons work) : Tells reasons (connected work) :=
  tells_bind reasons _ _ (tells_risk reasons "connect" struck) fun _ => tells

theorem tells_attempt (work : Action α) (struck : ∀ message, reasons (.storage "RuntimeError" message))
    (tells : Tells reasons work) : Tells reasons (attempt work) := by
  refine tells_bind reasons _ _ tells fun value => tells_bind reasons _ _ (tells_risk reasons "commit" struck) fun _ => ?_
  intro before failure after fails
  cases (Prod.mk.inj fails).1

theorem tells_transaction (work : Action α) (struck : ∀ message, reasons (.storage "RuntimeError" message))
    (tells : Tells reasons work) : Tells reasons (transaction work) := by
  intro before failure after fails
  rcases transaction_fails work before after failure fails with risked | ⟨breakdowns, cause, middle, -, failed, undone⟩
  · exact tells_risk reasons "begin" struck before failure after risked
  · obtain ⟨rest, ⟨rfl, -⟩ | ⟨message, rfl, -⟩⟩ := undo_fails _ _ _ _ _ undone
    · exact tells_attempt reasons work struck tells _ _ _ failed
    · exact struck message

def Gives (kind : α → Prop) (work : Action α) : Prop := ∀ before value after, Yields work before value after → kind value

theorem gives_pure (kind : α → Prop) (value : α) (good : kind value) : Gives kind (pure value : Action α) := by
  intro before other after yields
  rw [((yields_pure value other before after).mp yields).1]
  exact good

theorem gives_bind (kind : β → Prop) (work : Action α) (next : α → Action β) (each : ∀ value, Gives kind (next value)) :
    Gives kind (work >>= next) := by
  intro before value after yields
  obtain ⟨first, middle, -, later⟩ := (yields_bind work next before after value).mp yields
  exact each first middle value after later

theorem gives_after (first : α → Prop) (kind : β → Prop) (work : Action α) (next : α → Action β) (gives : Gives first work)
    (each : ∀ value, first value → Gives kind (next value)) : Gives kind (work >>= next) := by
  intro before value after yields
  obtain ⟨found, middle, here, later⟩ := (yields_bind work next before after value).mp yields
  exact each found (gives before found middle here) middle value after later

theorem gives_try (kind : α → Prop) (work : Action α) (recover : Failure → Action α) (gives : Gives kind work)
    (never : ∀ failure, Gives kind (recover failure)) : Gives kind (tryCatch work recover) := by
  intro before value after yields
  cases (yields_try work recover before after value).mp yields with
  | inl here => exact gives before value after here
  | inr recovered =>
      obtain ⟨failure, middle, -, later⟩ := recovered
      exact never failure middle value after later

theorem gives_throw (kind : α → Prop) (failure : Failure) : Gives kind (throw failure : Action α) :=
  fun before value after yields => absurd yields (yields_throw failure before after value)

theorem gives_transaction (kind : α → Prop) (work : Action α) (gives : Gives kind work) :
    Gives kind (connected (transaction work)) := by
  refine gives_bind kind _ _ fun _ before value after yields => ?_
  obtain ⟨breakdowns, middle, rest, -, here, -, -⟩ := transaction_yields work before after value yields
  exact gives _ value middle here

theorem gives_list (items : List α) (work : α → Action β) : Gives (·.length = items.length) (items.mapM work) := by
  induction items with
  | nil => exact gives_pure _ [] rfl
  | cons item items ih =>
      rw [List.mapM_cons]
      refine gives_bind _ _ _ fun value => gives_after _ _ _ _ ih fun values same => gives_pure _ _ ?_
      exact congrArg (· + 1) same

end Action

end Schematic
