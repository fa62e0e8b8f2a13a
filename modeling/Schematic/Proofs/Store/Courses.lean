import Schematic.Proofs.Store.Outcome

set_option autoImplicit false

namespace Schematic

def Command.reads : Command → Bool
  | .limitTime _ | .readSnapshot | .findModel _ | .lockModel _ | .listModels _ _ | .selectEntities _ | .selectFields _
  | .selectRelations _ | .selectMessages _ _ => true
  | _ => false

namespace Action

variable {α : Type}

inductive Harmless : {α : Type} → Command → (Tables → α × Tables) → Prop where
  | read {α : Type} (command : Command) (view : Tables → α) (reads : command.reads = true) :
      Harmless command fun tables => (view tables, tables)
  | insertModel (model : DataModel) : Harmless (.insertModel model) (Tables.insertModel model)
  | insertMessage (message : ChatMessage) : Harmless (.insertMessage message) (Tables.insertMessage message)

-- Courses that work takes which sends such statements, catches failures and logs.
structure Hosts (course : Course) : Prop where
  chains : Chains course
  caught : ∀ a b c failure last, course a (some failure) b → course b last c → course a last c
  risk : ∀ label, Takes course (risk label)
  note : ∀ entry, Takes course (note entry)
  call : ∀ (α : Type) (command : Command) (effect : Tables → α × Tables), Harmless command effect →
    Takes course (run command effect)

structure Lasts (course : Course) : Prop extends Hosts course where
  transaction : ∀ (α : Type) (work : Action α), Takes course work → Takes course (transaction work)

structure Serves (course : Course) : Prop where
  chains : Chains course
  caught : ∀ a b c failure last, course a (some failure) b → course b last c → course a last c
  risk : ∀ label, Takes course (risk label)
  note : ∀ entry, Takes course (note entry)
  look : ∀ (α : Type) (command : Command) (view : Tables → α), command.reads = true → Takes course (look command view)
  insertModel : ∀ model, Takes course (run (.insertModel model) (Tables.insertModel model))

structure Spans (course : Course) : Prop extends Serves course where
  transaction : ∀ (α : Type) (work : Action α), Takes course work → Takes course (transaction work)

theorem Hosts.serves {course : Course} (hosts : Hosts course) : Serves course where
  chains := hosts.chains
  caught := hosts.caught
  risk := hosts.risk
  note := hosts.note
  look _ command view reads := hosts.call _ command _ (.read command view reads)
  insertModel model := hosts.call _ _ _ (.insertModel model)

theorem Lasts.spans {course : Course} (lasts : Lasts course) : Spans course where
  toServes := lasts.toHosts.serves
  transaction := lasts.transaction

instance {course : Course} : Coe (Hosts course) (Serves course) := ⟨Hosts.serves⟩

instance {course : Course} : Coe (Lasts course) (Spans course) := ⟨Lasts.spans⟩

variable (course : Course) (serves : Serves course)

include serves

theorem serves_try (work : Action α) (recover : Failure → Action α) (first : Takes course work)
    (second : ∀ failure, Takes course (recover failure)) : Takes course (tryCatch work recover) := by
  constructor
  · intro before value after yields
    cases (yields_try _ _ _ _ _).mp yields with
    | inl here => exact first.1 _ _ _ here
    | inr recovered =>
        obtain ⟨cause, middle, failed, yielded⟩ := recovered
        exact serves.caught _ _ _ cause _ (first.2 _ _ _ failed) ((second cause).1 _ _ _ yielded)
  · intro before failure after fails
    obtain ⟨cause, middle, failed, again⟩ := (fails_try _ _ _ _ _).mp fails
    exact serves.caught _ _ _ cause _ (first.2 _ _ _ failed) ((second cause).2 _ _ _ again)

theorem serves_look (command : Command) (view : Tables → α) (reads : command.reads = true) : Takes course (look command view) :=
  serves.look α command view reads

theorem serves_look_up_to (limit : Int) (command : Command) (view : Tables → List α) (reads : command.reads = true) :
    Takes course (lookUpTo limit command view) := by
  apply takes_bind _ serves.chains _ _ (serves_look course serves command view reads)
  intro rows
  split
  · exact takes_throw _ serves.chains _
  · exact takes_pure _ serves.chains _

theorem serves_naming (logger operation : String) (subject : Option String) (work : Action α) (takes : Takes course work) :
    Takes course (naming logger operation subject work) := by
  apply serves_try course serves _ _ takes
  intro failure
  cases failure with
  | operation name about cause => exact takes_throw _ serves.chains _
  | _ => exact takes_bind _ serves.chains _ _ (serves.note _) fun _ => takes_throw _ serves.chains _

theorem serves_connected (work : Action α) (takes : Takes course work) : Takes course (connected work) :=
  takes_bind _ serves.chains _ _ (serves.risk "connect") fun _ => takes

end Action

end Schematic
