import Mathlib.Data.List.Forall2

set_option autoImplicit false

namespace Schematic

theorem related_mono {α β : Type} (r s : α → β → Prop) (xs : List α) (ys : List β) (related : List.Forall₂ r xs ys)
    (wider : ∀ x y, x ∈ xs → y ∈ ys → r x y → s x y) : List.Forall₂ s xs ys := by
  induction related with
  | nil => exact .nil
  | cons here later ih =>
      refine .cons (wider _ _ List.mem_cons_self List.mem_cons_self here) (ih fun x y inX inY => ?_)
      exact wider x y (List.mem_cons_of_mem _ inX) (List.mem_cons_of_mem _ inY)

theorem related_right {α β : Type} (r : α → β → Prop) (xs : List α) (ys : List β) (related : List.Forall₂ r xs ys) (y : β)
    (member : y ∈ ys) : ∃ x ∈ xs, r x y := by
  induction related with
  | nil => simp at member
  | cons here later ih =>
      rcases List.mem_cons.mp member with rfl | inside
      · exact ⟨_, List.mem_cons_self, here⟩
      · obtain ⟨x, among, found⟩ := ih inside
        exact ⟨x, List.mem_cons_of_mem _ among, found⟩

theorem related_flatMap {α β γ : Type} (r : α → β → Prop) (xs : List α) (ys : List β) (related : List.Forall₂ r xs ys)
    (f : α → List γ) (g : β → List γ) (same : ∀ x y, r x y → g y = f x) : ys.flatMap g = xs.flatMap f := by
  induction related with
  | nil => rfl
  | cons here later ih => rw [List.flatMap_cons, List.flatMap_cons, same _ _ here, ih]

theorem mapM_related {ε α β : Type} (read : α → Except ε β) (related : α → β → Prop) (items : List α)
    (each : ∀ item ∈ items, ∃ row, read item = .ok row ∧ related item row) :
    ∃ rows, items.mapM read = .ok rows ∧ List.Forall₂ related items rows := by
  induction items with
  | nil => exact ⟨[], rfl, .nil⟩
  | cons item items ih =>
      obtain ⟨row, here, kept⟩ := each item List.mem_cons_self
      obtain ⟨rows, later, all⟩ := ih fun other member => each other (List.mem_cons_of_mem _ member)
      refine ⟨row :: rows, ?_, .cons kept all⟩
      rw [List.mapM_cons, here, later]
      rfl

theorem mapM_member {ε α β : Type} (read : α → Except ε β) (items : List α) (rows : List β) (done : items.mapM read = .ok rows)
    (item : α) (member : item ∈ items) : ∃ row ∈ rows, read item = .ok row := by
  induction items generalizing rows with
  | nil => cases member
  | cons first items ih =>
      rw [List.mapM_cons] at done
      cases here : read first with
      | error fault =>
          rw [here] at done
          cases done
      | ok row =>
          cases later : items.mapM read with
          | error fault =>
              rw [here, later] at done
              cases done
          | ok others =>
              rw [here, later] at done
              cases done
              rcases List.mem_cons.mp member with rfl | inside
              · exact ⟨row, List.mem_cons_self, here⟩
              · obtain ⟨found, among, read⟩ := ih others later inside
                exact ⟨found, List.mem_cons_of_mem _ among, read⟩

theorem mapM_error {ε α β : Type} (read : α → Except ε β) (items : List α) (fault : ε) (failed : items.mapM read = .error fault) :
    ∃ item ∈ items, read item = .error fault := by
  induction items with
  | nil => cases failed
  | cons item items ih =>
      rw [List.mapM_cons] at failed
      cases here : read item with
      | error other =>
          rw [here] at failed
          have same : Except.error other = (Except.error fault : Except ε (List β)) := failed
          exact ⟨item, List.mem_cons_self, by rw [here, Except.error.inj same]⟩
      | ok row =>
          cases later : items.mapM read with
          | error other =>
              rw [here, later] at failed
              have same : Except.error other = (Except.error fault : Except ε (List β)) := failed
              obtain ⟨found, member, wrong⟩ := ih (by rw [later, Except.error.inj same])
              exact ⟨found, List.mem_cons_of_mem _ member, wrong⟩
          | ok rows =>
              rw [here, later] at failed
              cases failed

end Schematic
