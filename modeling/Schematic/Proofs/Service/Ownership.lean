import Schematic.Proofs.Service.Loading
import Schematic.Proofs.Store.Sparing

set_option autoImplicit false

namespace Schematic

open Schematic.Action

def Row.Whole {κ α : Type} (row : Row κ α) : Prop := ∃ record, row.record = .ok record

def Owns (tables : Tables) (principal : String) (id : Int) : Prop :=
  ∃ row model, tables.model? id = some row ∧ row.record = .ok model ∧ model.ownerId = principal

theorem touched_model (tables : Tables) (stamped id : Int) :
    (tables.touchModel stamped).model? id = (tables.model? id).map fun row =>
      if row.id = stamped then { row with record := row.record.map fun model => { model with updatedAt := .clock } }
      else row := by
  rw [Tables.model?, Tables.touchModel, List.find?_map, Tables.model?]
  have keyed : ∀ row : Row String DataModel,
      (if row.id = stamped then { row with record := row.record.map fun model => { model with updatedAt := .clock } }
        else row).id = row.id := by
    intro row
    split <;> rfl
  simp only [Function.comp_def, keyed]

theorem owns_touched (tables : Tables) (principal : String) (stamped id : Int) :
    Owns (tables.touchModel stamped) principal id ↔ Owns tables principal id := by
  rw [Owns, touched_model, Owns]
  cases tables.model? id with
  | none => simp
  | some row =>
      obtain ⟨key, parent, position, record⟩ := row
      cases record with
      | error fault => by_cases here : key = stamped <;> simp [here, Except.map]
      | ok model => by_cases here : key = stamped <;> simp [here, Except.map]

theorem owns_models (before after : Tables) (principal : String) (id : Int) (models : after.models = before.models) :
    Owns after principal id ↔ Owns before principal id := by
  rw [Owns, Tables.model?, models]
  exact Iff.rfl

def Tables.modelOf? (tables : Tables) (id : Int) : Option DataModel := (tables.model? id).bind Row.value?

theorem owns_model (tables : Tables) (principal : String) (id : Int) :
    Owns tables principal id ↔ ∃ model, tables.modelOf? id = some model ∧ model.ownerId = principal := by
  have told : ∀ row : Row String DataModel, ∀ model, row.record = .ok model ↔ row.value? = some model := by
    intro row model
    rw [Row.value?]
    cases row.record <;> simp [Except.toOption]
  simp only [Owns, Tables.modelOf?, Option.bind_eq_some_iff, told]
  constructor
  · rintro ⟨row, model, found, record, owner⟩
    exact ⟨model, ⟨row, found, record⟩, owner⟩
  · rintro ⟨model, ⟨row, found, record⟩, owner⟩
    exact ⟨row, model, found, record, owner⟩

theorem owns_whole (tables : Tables) (principal : String) (id : Int) (owns : Owns tables principal id)
    (row : Row String DataModel) (found : tables.model? id = some row) : row.Whole := by
  obtain ⟨other, model, there, record, -⟩ := owns
  obtain rfl := Option.some.inj (there.symm.trans found)
  exact ⟨model, record⟩

namespace Service

theorem acting_yields (principal : String) (named : principal ≠ "") (world : World) :
    Yields (acting (some principal)) world principal world := by
  simp only [acting, if_neg named]
  rfl

theorem acting_found (principal : Option String) (before after : World) (name : String)
    (yields : Yields (acting principal) before name after) : principal = some name ∧ name ≠ "" ∧ after = before := by
  cases principal with
  | none => exact absurd yields (yields_throw _ _ _ _)
  | some given =>
      rw [acting] at yields
      split at yields
      · exact absurd yields (yields_throw _ _ _ _)
      · rename_i named
        obtain ⟨rfl, rfl⟩ := (yields_pure _ _ _ _).mp yields
        exact ⟨rfl, named, rfl⟩

theorem owned_yields (model : DataModel) (id : Int) (world : World) :
    Yields (owned (some model) id model.ownerId) world model world := by
  simp only [owned, DataModel.isOwnedBy, decide_true, if_true]
  rfl

theorem found_owned (id : Int) (principal : String) (tables : Tables) (before middle after : World) (found : Option DataModel)
    (model : DataModel) (read : Yields ((tables.model? id).mapM (recordOf .dataModels)) before found middle)
    (mine : Yields (owned found id principal) middle model after) : Owns tables principal id ∧ after = before := by
  cases there : tables.model? id with
  | none =>
      rw [there] at read
      obtain ⟨rfl, rfl⟩ := (yields_pure _ _ _ _).mp read
      exact absurd mine (yields_throw _ _ _ _)
  | some row =>
      simp only [there] at read
      obtain ⟨record, told, rfl⟩ := (yields_map _ _ _ _ _).mp read
      obtain ⟨whole, rfl⟩ := record_yields _ row _ _ _ told
      by_cases owner : principal = record.ownerId
      · simp only [owned, DataModel.isOwnedBy, owner, decide_true, if_true] at mine
        obtain ⟨-, rfl⟩ := (yields_pure _ _ _ _).mp mine
        exact ⟨⟨row, record, there, whole, owner.symm⟩, rfl⟩
      · simp only [owned, DataModel.isOwnedBy, Option.some.injEq, owner, decide_false, Bool.false_eq_true, if_false] at mine
        exact absurd mine (yields_throw _ _ _ _)

theorem get_model_yields (id : Int) (principal : String) (before after : World) (model : DataModel)
    (yields : Yields (getModel id (some principal)) before model after) :
    principal ≠ "" ∧ Owns before.tables principal id ∧ after.tables = before.tables := by
  obtain ⟨name, first, named, yieldsModel⟩ := (yields_bind _ _ _ _ _).mp yields
  obtain ⟨found, second, got, mine⟩ := (yields_bind _ _ _ _ _).mp yieldsModel
  obtain ⟨same, known, rfl⟩ := acting_found (some principal) before first name named
  obtain rfl := Option.some.inj same
  obtain ⟨row, third, looked, read⟩ := (yields_bind _ _ _ _ _).mp (persisting_yields _ _ _ _ _ got)
  rw [DataModels.naming, yields_naming] at looked
  obtain ⟨breakdowns, -, here⟩ := connected_yields _ _ _ _ looked
  obtain ⟨rfl, _, -, rfl⟩ := yields_run _ _ _ _ _ here
  obtain ⟨owns, rfl⟩ := found_owned id principal _ _ _ _ _ _ read mine
  exact ⟨known, owns, rfl⟩

theorem lock_owned_yields (id : Int) (principal : String) (before after : World) (value : PUnit)
    (yields : Yields (DataModels.lock id >>= fun model => discard (owned model id principal)) before value after) :
    Owns after.tables principal id := by
  obtain ⟨found, middle, locked, kept⟩ := (yields_bind _ _ _ _ _).mp yields
  obtain ⟨model, mine⟩ := (yields_discard _ _ _ _).mp kept
  obtain ⟨row, between, looked, read⟩ := (yields_bind _ _ _ _ _).mp locked
  rw [DataModels.naming, yields_naming] at looked
  obtain ⟨rfl, _, -, rfl⟩ := yields_run _ _ _ _ _ looked
  obtain ⟨owns, rfl⟩ := found_owned id principal _ _ _ _ _ _ read mine
  exact owns

section Calm

variable (id : Int) (before : World) (calm : Calm before)

include calm

section Whole

variable (whole : ∀ row, before.tables.model? id = some row → row.Whole)

include whole

theorem looked_reads (command : Command) :
    Yields (look command (·.model? id)) before (before.tables.model? id) (sent command before) ∧
      ∀ world, Yields ((before.tables.model? id).mapM (recordOf .dataModels)) world (before.tables.modelOf? id) world := by
  refine ⟨calm_run _ _ before calm, fun world => ?_⟩
  rw [Tables.modelOf?]
  cases found : before.tables.model? id with
  | none => rfl
  | some row =>
      obtain ⟨model, record⟩ := whole row found
      rw [Option.bind_some, Row.value?, record]
      apply (yields_map _ _ _ _ _).mpr
      refine ⟨model, ?_, rfl⟩
      rw [recordOf, record]
      rfl

theorem lock_reads : Yields (DataModels.lock id) before (before.tables.modelOf? id) (sent (.lockModel id) before) := by
  obtain ⟨looked, read⟩ := looked_reads id before calm whole (.lockModel id)
  refine (yields_bind _ _ _ _ _).mpr ⟨_, _, ?_, read _⟩
  rw [DataModels.naming, yields_naming]
  exact looked

theorem get_reads :
    Yields (persisting .getModel (DataModels.get id)) before (before.tables.modelOf? id) (sent (.findModel id) before) := by
  obtain ⟨looked, read⟩ := looked_reads id before calm whole (.findModel id)
  refine (yields_try _ _ _ _ _).mpr (.inl ((yields_bind _ _ _ _ _).mpr ⟨_, _, ?_, read _⟩))
  rw [DataModels.naming, yields_naming, Yields, calm_connected _ before calm]
  exact looked

end Whole

variable (principal : String) (owns : Owns before.tables principal id)

include owns

theorem lock_owned : ∃ model, Yields (DataModels.lock id) before (some model) (sent (.lockModel id) before) ∧
    model.ownerId = principal := by
  obtain ⟨model, found, owner⟩ := (owns_model _ _ _).mp owns
  have locked := lock_reads id before calm (owns_whole _ principal id owns)
  rw [found] at locked
  exact ⟨model, locked, owner⟩

theorem get_model_owned (named : principal ≠ "") :
    ∃ model, Yields (getModel id (some principal)) before model (sent (.findModel id) before) := by
  obtain ⟨model, found, rfl⟩ := (owns_model _ _ _).mp owns
  have got := get_reads id before calm (owns_whole _ _ id owns)
  rw [found] at got
  refine ⟨model, (yields_bind _ _ _ _ _).mpr ⟨_, _, acting_yields model.ownerId named before, ?_⟩⟩
  exact (yields_bind _ _ _ _ _).mpr ⟨some model, _, got, owned_yields model id _⟩

end Calm

end Service

end Schematic
