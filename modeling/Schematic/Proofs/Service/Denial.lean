import Schematic.Proofs.Service.Drafting
import Schematic.Proofs.Service.Ownership

set_option autoImplicit false

namespace Schematic

def Denies (id : Int) (failure : Failure) : Prop :=
  failure = .unauthenticated ∨ failure = .notFound id ∨ failure = .forbidden id

-- A text is read before the store is asked whose the data model is, so it can also be refused for itself. Where settings can be
-- read, as they are once a program has started, this is all; else there is nothing to read a text by.
def DeniesText (known : Except NumberFault Settings) (id : Int) (failure : Failure) : Prop :=
  Denies id failure ∨ (∃ errors, failure = .invalid false errors) ∨ ∃ fault, known = .error fault ∧ failure = .setting fault

-- Whoever acts does not own a data model: nobody acts, or somebody else owns it, or it is not there.
def Stranger (tables : Tables) (principal : Option String) (id : Int) : Prop :=
  ∀ name, principal = some name → ¬ Owns tables name id

namespace Action

variable {α β : Type}

structure Unmoved (before after : World) : Prop where
  tables : after.tables = before.tables
  breakdowns : after.breakdowns = before.breakdowns
  asked : after.asked = before.asked

def Barred (reasons : Failure → Prop) (work : Action α) (before : World) : Prop :=
  ∃ failure after, Fails work before failure after ∧ reasons failure ∧ Unmoved before after

variable (reasons : Failure → Prop) (before : World)

theorem barred_throw (failure : Failure) (told : reasons failure) : Barred reasons (throw failure : Action α) before :=
  ⟨failure, before, rfl, told, rfl, rfl, rfl⟩

theorem barred_first (work : Action α) (next : α → Action β) (barred : Barred reasons work before) :
    Barred reasons (work >>= next) before := by
  obtain ⟨failure, after, fails, rest⟩ := barred
  exact ⟨failure, after, (fails_bind _ _ _ _ _).mpr (.inl fails), rest⟩

theorem barred_after (work : Action α) (next : α → Action β) (middle : World) (value : α)
    (yields : Yields work before value middle) (unmoved : Unmoved before middle) (barred : Barred reasons (next value) middle) :
    Barred reasons (work >>= next) before := by
  obtain ⟨failure, after, fails, told, later⟩ := barred
  refine ⟨failure, after, (fails_bind _ _ _ _ _).mpr (.inr ⟨value, middle, yields, fails⟩), told, ?_⟩
  exact ⟨later.tables.trans unmoved.tables, later.breakdowns.trans unmoved.breakdowns, later.asked.trans unmoved.asked⟩

theorem barred_map (work : Action α) (change : α → β) (barred : Barred reasons work before) :
    Barred reasons (change <$> work) before := by
  rw [map_eq_pure_bind]
  exact barred_first reasons before work _ barred

theorem barred_wider (wider : Failure → Prop) (work : Action α) (all : ∀ failure, reasons failure → wider failure)
    (barred : Barred reasons work before) : Barred wider work before := by
  obtain ⟨failure, after, fails, told, unmoved⟩ := barred
  exact ⟨failure, after, fails, all failure told, unmoved⟩

theorem barred_transaction (work : Action α) (calm : Calm before)
    (barred : Barred reasons work (opened before before.breakdowns)) : Barred reasons (transaction work) before := by
  obtain ⟨failure, middle, fails, told, unmoved⟩ := barred
  have still : Calm middle := unmoved.breakdowns.trans calm
  obtain ⟨after, failed, last, asked, back⟩ := calm_undone work before middle failure calm still fails
  refine ⟨failure, after, failed, told, ?_, Eq.trans last calm.symm, asked.trans unmoved.asked⟩
  rw [back, unmoved.tables]
  rfl

theorem barred_connected (work : Action α) (calm : Calm before) (barred : Barred reasons work before) :
    Barred reasons (connected work) before := by
  rw [Barred]
  simp only [Fails, calm_connected work before calm]
  exact barred

end Action

namespace Service

open Schematic.Action

theorem owned_barred (tables : Tables) (id : Int) (principal : String) (stranger : ¬ Owns tables principal id) (world : World) :
    Barred (Denies id) (owned (tables.modelOf? id) id principal) world := by
  cases found : tables.modelOf? id with
  | none => exact barred_throw _ _ _ (.inr (.inl rfl))
  | some model =>
      have other : principal ≠ model.ownerId := fun same => stranger ((owns_model _ _ _).mpr ⟨model, found, same.symm⟩)
      simp only [owned, DataModel.isOwnedBy, Option.some.injEq, other, decide_false, Bool.false_eq_true, if_false]
      exact barred_throw _ _ _ (.inr (.inr rfl))

section Replacing

variable (id : Int) (principal : String) (before : World) (calm : Calm before)
  (whole : ∀ row, before.tables.model? id = some row → row.Whole) (stranger : ¬ Owns before.tables principal id)
  (settings : Settings) (schema : Schema)

include calm whole stranger

theorem rewrite_barred (context : LogContext) : Barred (Denies id) (rewrite context settings id schema principal) before := by
  have limited := calm_run (.limitTime settings.store.timeoutMs) (fun tables => ((), tables)) before calm
  have locked := lock_reads id (sent (.limitTime settings.store.timeoutMs) before) calm whole
  apply barred_after _ _ _ _ _ _ limited ⟨rfl, rfl, rfl⟩
  apply barred_after _ _ _ _ _ _ locked ⟨rfl, rfl, rfl⟩
  apply barred_first
  exact barred_map _ _ _ _ (owned_barred before.tables id principal stranger _)

theorem replace_stored_barred (context : LogContext) :
    Barred (Denies id) (replaceStored context settings id schema principal) before := by
  have opening := rewrite_barred id principal (opened before before.breakdowns) calm whole stranger settings schema context
  exact barred_connected _ _ _ calm (barred_transaction _ _ _ calm opening)

theorem save_barred : Barred (Denies id) (save settings id schema principal) before := by
  have service : ∀ failure, Denies id failure → failure.isService = true := by
    rintro failure (rfl | rfl | rfl) <;> rfl
  let marked : World := { before with log := startMark (replacing id principal) schema :: before.log }
  have started : Yields (Action.note (startMark (replacing id principal) schema)) before () marked := rfl
  obtain ⟨failure, after, fails, told, unmoved⟩ :=
    replace_stored_barred id principal marked calm whole stranger settings schema (replacing id principal)
  apply barred_after _ _ _ _ marked () started ⟨rfl, rfl, rfl⟩
  apply barred_first
  refine ⟨failure, after, (fails_try _ _ _ _ _).mpr ⟨failure, after, fails, ?_⟩, told, unmoved⟩
  rw [unsaved, if_pos (service failure told)]
  rfl

end Replacing

section Calm

variable (id : Int) (principal : Option String) (before : World) (calm : Calm before)
  (whole : ∀ row, before.tables.model? id = some row → row.Whole) (stranger : Stranger before.tables principal id)

include calm whole stranger

theorem get_barred : Barred (Denies id) (getModel id principal) before := by
  cases principal with
  | none => exact barred_first _ _ _ _ (barred_throw _ _ _ (.inl rfl))
  | some name =>
      by_cases nobody : name = ""
      · simp only [getModel, acting, if_pos nobody]
        exact barred_first _ _ _ _ (barred_throw _ _ _ (.inl rfl))
      · apply barred_after _ _ _ _ before name (acting_yields name nobody before) ⟨rfl, rfl, rfl⟩
        apply barred_after _ _ _ _ _ _ (get_reads id before calm whole) ⟨rfl, rfl, rfl⟩
        exact owned_barred before.tables id name (stranger name rfl) _

theorem get_schema_barred (known : Except NumberFault Settings) : Barred (Denies id) (getSchema known id principal) before :=
  barred_first _ _ _ _ (barred_map _ _ _ _ (get_barred id principal before calm whole stranger))

theorem chat_barred (known : Except NumberFault Settings) : Barred (Denies id) (chatHistory known id principal) before :=
  barred_first _ _ _ _ (barred_map _ _ _ _ (get_barred id principal before calm whole stranger))

theorem draft_barred (known : Except NumberFault Settings) (drafter : Drafter) (instructions : String) :
    Barred (Denies id) (applyDraft known id drafter instructions principal) before :=
  barred_first _ _ _ _ (get_schema_barred id principal before calm whole stranger known)

-- A replacement may be refused for its text first. Else the store is asked in a transaction, which is undone.
theorem replace_barred (known : Except NumberFault Settings) (text : String) :
    Barred (DeniesText known id) (replaceSchema known id text principal) before := by
  have denied : ∀ failure, Denies id failure → DeniesText known id failure := fun failure told => .inl told
  rw [replace_schema_save]
  cases principal with
  | none => exact barred_first _ _ _ _ (barred_throw _ _ _ (.inl (.inl rfl)))
  | some name =>
      by_cases nobody : name = ""
      · simp only [acting, if_pos nobody]
        exact barred_first _ _ _ _ (barred_throw _ _ _ (.inl (.inl rfl)))
      apply barred_after _ _ _ _ before name (acting_yields name nobody before) ⟨rfl, rfl, rfl⟩
      cases known with
      | error fault => exact barred_first _ _ _ _ (barred_throw _ _ _ (.inr (.inr ⟨fault, rfl, rfl⟩)))
      | ok settings =>
          apply barred_after _ _ _ _ before settings rfl ⟨rfl, rfl, rfl⟩
          by_cases valid : (validate settings text).isValid = true
          · rw [if_pos valid]
            apply barred_wider _ _ _ _ denied
            exact save_barred id name before calm whole (stranger name rfl) settings (validate settings text)
          · rw [if_neg valid]
            exact barred_throw _ _ _ (.inr (.inl ⟨_, rfl⟩))

end Calm

end Service

end Schematic
