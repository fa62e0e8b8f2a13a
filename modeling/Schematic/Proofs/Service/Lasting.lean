import Schematic.Proofs.Service.Likeness
import Schematic.Proofs.Store.Courses

set_option autoImplicit false

namespace Schematic

open Schematic.Action

-- Where nothing is to break down, nothing will, and who owns a data model goes on to own it.
def Lasting (principal : String) (id : Int) : Course := fun before _ after =>
  Calm before → Calm after ∧ (Owns before.tables principal id → Owns after.tables principal id)

section Lasting

variable {α : Type} (principal : String) (id : Int)

theorem lasting_chains : Chains (Lasting principal id) where
  still _ _ := fun calm => ⟨calm, fun owns => owns⟩
  after _ _ _ _ first second := fun calm =>
    have begun := first calm
    have ended := second begun.1
    ⟨ended.1, fun owns => ended.2 (begun.2 owns)⟩

theorem lasting_ends (work : Action α)
    (ends : ∀ before, Calm before →
      ∃ result after, outcome work before = (result, after) ∧ Lasting principal id before none after) :
    Takes (Lasting principal id) work := by
  constructor
  · intro before value after yields calm
    obtain ⟨result, last, same, lasts⟩ := ends before calm
    obtain ⟨-, rfl⟩ := Prod.mk.inj (yields.symm.trans same)
    exact lasts calm
  · intro before failure after fails calm
    obtain ⟨result, last, same, lasts⟩ := ends before calm
    obtain ⟨-, rfl⟩ := Prod.mk.inj (fails.symm.trans same)
    exact lasts calm

theorem lasting_run (command : Command) (effect : Tables → α × Tables) (harmless : Harmless command effect) :
    Takes (Lasting principal id) (run command effect) := by
  apply lasting_ends
  intro before calm
  refine ⟨_, _, calm_run command effect before calm, fun _ => ⟨calm, fun owns => ?_⟩⟩
  cases harmless with
  | read command view reads => exact owns
  | insertModel model => exact owns_inserted model before.tables principal id owns
  | insertMessage message => exact owns

theorem lasting_hosts : Hosts (Lasting principal id) where
  chains := lasting_chains principal id
  caught _ _ _ _ _ first second := (lasting_chains principal id).after _ _ _ none (fun calm => first calm) second
  risk label := lasting_ends principal id _ fun before calm =>
    ⟨_, _, calm_risk label before calm, fun _ => ⟨calm, fun owns => owns⟩⟩
  note _ := lasting_ends principal id _ fun _ calm => ⟨_, _, rfl, fun _ => ⟨calm, fun owns => owns⟩⟩
  call _ command effect harmless := lasting_run principal id command effect harmless

theorem lasting_transaction (work : Action α) (lasting : Takes (Lasting principal id) work) :
    Takes (Lasting principal id) (transaction work) := by
  apply lasting_ends
  intro before calm
  rcases outcome_cases work (opened before before.breakdowns) with ⟨value, middle, yields⟩ | ⟨failure, middle, fails⟩
  · obtain ⟨still, kept⟩ := lasting.1 _ _ _ yields calm
    exact ⟨_, _, calm_committed work before middle value calm still yields, fun _ => ⟨still, kept⟩⟩
  · obtain ⟨still, -⟩ := lasting.2 _ _ _ fails calm
    obtain ⟨after, ends, last, -, back⟩ := calm_undone work before middle failure calm still fails
    refine ⟨_, after, ends, fun _ => ⟨last, fun owns => ?_⟩⟩
    rw [back]
    exact owns

theorem lasting_lasts : Lasts (Lasting principal id) where
  toHosts := lasting_hosts principal id
  transaction _ work lasting := lasting_transaction principal id work lasting

end Lasting

end Schematic
