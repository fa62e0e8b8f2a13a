import Schematic.Proofs.Store.Outcome

set_option autoImplicit false

namespace Schematic

def Failure.root : Failure → Failure
  | .unpersisted _ cause => cause.root
  | .unsaved _ cause => cause.root
  | .undrafted cause => cause.root
  | .operation _ _ cause => cause.root
  | failure => failure

namespace Action

variable {α β : Type}

def notice (breakdown : Breakdown) : String × String := (breakdown.label, breakdown.message)

def waiting (world : World) : List (String × String) := world.breakdowns.map notice

-- Either no breakdown strikes, or the work fails of one that did. It is the only one, unless it struck a rollback.
def Honest : Course := fun before failure after =>
  waiting after = waiting before ∨
    ∃ told label message others, failure = some told ∧ told.isService = false ∧
      told.root = .storage "RuntimeError" message ∧ ((label, message) :: (others ++ waiting after)).Perm (waiting before) ∧
      (label ≠ "rollback" → others = [])

def Since (kind : StoreEvent → Prop) (before after : World) : Prop :=
  ∃ fresh, after.happenings = fresh ++ before.happenings ∧ ∀ happening ∈ fresh, kind happening.event

def Logged (kind : LogEntry → Prop) (before after : World) : Prop :=
  ∃ fresh, after.log = fresh ++ before.log ∧ ∀ entry ∈ fresh, kind entry

theorem since_refl (kind : StoreEvent → Prop) (world : World) : Since kind world world := ⟨[], rfl, by simp⟩

theorem since_trans (kind : StoreEvent → Prop) (a b c : World) (first : Since kind a b) (second : Since kind b c) :
    Since kind a c := by
  obtain ⟨fresh, same, all⟩ := first
  obtain ⟨later, whole, rest⟩ := second
  refine ⟨later ++ fresh, by rw [whole, same, List.append_assoc], ?_⟩
  intro happening member
  exact (List.mem_append.mp member).elim (rest happening) (all happening)

theorem since_mono (kind wider : StoreEvent → Prop) (a b : World) (all : ∀ event, kind event → wider event)
    (since : Since kind a b) : Since wider a b := by
  obtain ⟨fresh, same, each⟩ := since
  exact ⟨fresh, same, fun happening member => all _ (each happening member)⟩

theorem logged_refl (kind : LogEntry → Prop) (world : World) : Logged kind world world := ⟨[], rfl, by simp⟩

theorem logged_trans (kind : LogEntry → Prop) (a b c : World) (first : Logged kind a b) (second : Logged kind b c) :
    Logged kind a c := by
  obtain ⟨fresh, same, all⟩ := first
  obtain ⟨later, whole, rest⟩ := second
  refine ⟨later ++ fresh, by rw [whole, same, List.append_assoc], ?_⟩
  intro entry member
  exact (List.mem_append.mp member).elim (rest entry) (all entry)

theorem strike_cases (label : String) (breakdowns : List Breakdown) :
    ((strike label breakdowns).1 = none ∧
      (strike label breakdowns).2.map notice = breakdowns.map notice) ∨
    ∃ message, (strike label breakdowns).1 = some message ∧
      ((label, message) :: (strike label breakdowns).2.map notice).Perm (breakdowns.map notice) := by
  induction breakdowns with
  | nil => exact .inl ⟨rfl, rfl⟩
  | cons breakdown rest ih =>
      rw [strike]
      by_cases other : breakdown.label ≠ label
      · simp only [if_pos other, List.map_cons]
        rcases ih with ⟨none, same⟩ | ⟨message, struck, same⟩
        · exact .inl ⟨none, by rw [same]⟩
        · exact .inr ⟨message, struck, (List.Perm.swap _ _ _).trans (same.cons _)⟩
      · by_cases now : breakdown.remaining = 1
        · simp only [if_neg other, if_pos now, List.map_cons]
          have here : notice breakdown = (label, breakdown.message) := by rw [notice, not_not.mp other]
          exact .inr ⟨breakdown.message, rfl, by rw [here]⟩
        · simp only [if_neg other, if_neg now, List.map_cons]
          rcases ih with ⟨none, same⟩ | ⟨message, struck, same⟩
          · exact .inl ⟨none, congrArg (List.cons (notice breakdown)) same⟩
          · exact .inr ⟨message, struck, (List.Perm.swap _ _ _).trans (same.cons _)⟩

theorem outcome_risk (label : String) (before : World) (struck : Option String) (breakdowns : List Breakdown)
    (found : strike label before.breakdowns = (struck, breakdowns)) :
    outcome (risk label) before =
      (struck.elim (.ok ()) fun message => .error (.storage "RuntimeError" message), { before with breakdowns }) := by
  rw [risk, outcome_bind, outcome_get]
  simp only [found]
  cases struck with
  | none => rfl
  | some message => rfl

theorem risk_cases (label : String) (before : World) :
    ∃ breakdowns, (Yields (risk label) before () { before with breakdowns } ∧
        breakdowns.map notice = waiting before) ∨
      ∃ message, Fails (risk label) before (.storage "RuntimeError" message) { before with breakdowns } ∧
        ((label, message) :: breakdowns.map notice).Perm (waiting before) := by
  refine ⟨(strike label before.breakdowns).2, ?_⟩
  rcases strike_cases label before.breakdowns with ⟨none, same⟩ | ⟨message, struck, same⟩
  · exact .inl ⟨outcome_risk label before Option.none _ (by rw [← none]), same⟩
  · exact .inr ⟨message, outcome_risk label before (some message) _ (by rw [← struck]), same⟩

theorem yields_risk (label : String) (before after : World) (value : Unit) (yields : Yields (risk label) before value after) :
    ∃ breakdowns, breakdowns.map notice = waiting before ∧ after = { before with breakdowns } := by
  obtain ⟨breakdowns, ⟨passed, same⟩ | ⟨message, struck, -⟩⟩ := risk_cases label before
  · obtain ⟨-, rfl⟩ := Prod.mk.inj (yields.symm.trans passed)
    exact ⟨breakdowns, same, rfl⟩
  · cases (Prod.mk.inj (yields.symm.trans struck)).1

theorem fails_risk (label : String) (before after : World) (failure : Failure) (fails : Fails (risk label) before failure after) :
    ∃ message breakdowns, failure = .storage "RuntimeError" message ∧
      ((label, message) :: breakdowns.map notice).Perm (waiting before) ∧ after = { before with breakdowns } := by
  obtain ⟨breakdowns, ⟨passed, -⟩ | ⟨message, struck, same⟩⟩ := risk_cases label before
  · cases (Prod.mk.inj (fails.symm.trans passed)).1
  · obtain ⟨found, rfl⟩ := Prod.mk.inj (fails.symm.trans struck)
    exact ⟨message, breakdowns, Except.error.inj found, same, rfl⟩

def sent (command : Command) (before : World) : World :=
  { before with happenings := ⟨.ran command, before.tables⟩ :: before.happenings }

theorem run_cases (command : Command) (effect : Tables → α × Tables) (before : World) :
    ∃ breakdowns, (Yields (run command effect) before (effect before.tables).1
          { sent command before with tables := (effect before.tables).2, breakdowns } ∧
        breakdowns.map notice = waiting before) ∨
      ∃ message, Fails (run command effect) before (.storage "RuntimeError" message) { sent command before with breakdowns } ∧
        ((command.label, message) :: breakdowns.map notice).Perm (waiting before) := by
  have outcome_run : outcome (run command effect) before =
      outcome (risk command.label >>= fun _ => do
        let world ← get
        set { world with tables := (effect world.tables).2 }
        return (effect world.tables).1) (sent command before) := rfl
  obtain ⟨breakdowns, risked⟩ := risk_cases command.label (sent command before)
  refine ⟨breakdowns, ?_⟩
  rcases risked with ⟨passed, same⟩ | ⟨message, struck, same⟩
  · refine .inl ⟨?_, same⟩
    rw [Yields, outcome_run, ← Yields, yields_bind]
    exact ⟨(), _, passed, rfl⟩
  · refine .inr ⟨message, ?_, same⟩
    rw [Fails, outcome_run, ← Fails, fails_bind]
    exact .inl struck

theorem yields_run (command : Command) (effect : Tables → α × Tables) (before after : World) (value : α)
    (yields : Yields (run command effect) before value after) :
    value = (effect before.tables).1 ∧ ∃ breakdowns, breakdowns.map notice = waiting before ∧
      after = { sent command before with tables := (effect before.tables).2, breakdowns } := by
  obtain ⟨breakdowns, ⟨ran, same⟩ | ⟨message, ran, same⟩⟩ := run_cases command effect before
  · obtain ⟨found, rfl⟩ := Prod.mk.inj (yields.symm.trans ran)
    exact ⟨Except.ok.inj found, breakdowns, same, rfl⟩
  · cases (Prod.mk.inj (yields.symm.trans ran)).1

theorem yields_look_up_to (limit : Int) (command : Command) (view : Tables → List α) (before after : World) (rows : List α)
    (yields : Yields (lookUpTo limit command view) before rows after) :
    0 ≤ limit ∧ rows = (view before.tables).take limit.toNat := by
  obtain ⟨found, middle, looked, yields⟩ := (yields_bind _ _ _ _ _).mp yields
  obtain ⟨rfl, -⟩ := yields_run _ _ _ _ _ looked
  split at yields
  · exact absurd yields (yields_throw _ _ _ _)
  · rename_i room
    exact ⟨Int.not_lt.mp room, ((yields_pure _ _ _ _).mp yields).1⟩

theorem fails_run (command : Command) (effect : Tables → α × Tables) (before after : World) (failure : Failure)
    (fails : Fails (run command effect) before failure after) :
    ∃ message breakdowns, failure = .storage "RuntimeError" message ∧
      ((command.label, message) :: breakdowns.map notice).Perm (waiting before) ∧
      after = { sent command before with breakdowns } := by
  obtain ⟨breakdowns, ⟨ran, same⟩ | ⟨message, ran, same⟩⟩ := run_cases command effect before
  · cases (Prod.mk.inj (fails.symm.trans ran)).1
  · obtain ⟨found, rfl⟩ := Prod.mk.inj (fails.symm.trans ran)
    exact ⟨message, breakdowns, Except.error.inj found, same, rfl⟩

theorem yields_naming (logger operation : String) (subject : Option String) (work : Action α) (before after : World) (value : α) :
    Yields (naming logger operation subject work) before value after ↔ Yields work before value after := by
  rw [naming, yields_try]
  constructor
  · rintro (yields | ⟨failure, middle, -, recovered⟩)
    · exact yields
    · cases failure <;> cases (Prod.mk.inj recovered).1
  · exact .inl

theorem fails_naming (logger operation : String) (subject : Option String) (work : Action α) (before after : World)
    (failure : Failure) (fails : Fails (naming logger operation subject work) before failure after) :
    ∃ first middle, Fails work before first middle ∧
      ((failure = first ∧ after = middle ∧ ∃ name about cause, first = .operation name about cause) ∨
        ∃ entry : LogEntry, entry.logger = logger ∧ failure = .operation operation subject first ∧
          after = { middle with log := entry :: middle.log }) := by
  rw [naming, fails_try] at fails
  obtain ⟨first, middle, here, told⟩ := fails
  refine ⟨first, middle, here, ?_⟩
  cases first with
  | operation name about cause =>
      obtain ⟨found, rfl⟩ := Prod.mk.inj told
      exact .inl ⟨(Except.error.inj found).symm, rfl, name, about, cause, rfl⟩
  | _ =>
      obtain ⟨found, rfl⟩ := Prod.mk.inj told
      exact .inr ⟨_, rfl, (Except.error.inj found).symm, rfl⟩

-- Work on a connection that is already open: it only sends statements, and marks no checkpoint.
structure Conduct (before : World) (failure : Option Failure) (after : World) : Prop where
  ran : Since (fun event => ∃ command, event = .ran command) before after
  unmarked : Logged (fun entry => entry.logger ≠ "checkpoint") before after
  asked : after.asked = before.asked
  grown : before.tables.entities.lastId ≤ after.tables.entities.lastId
  honest : Honest before failure after

theorem conduct_chains : Chains Conduct where
  still world failure := ⟨since_refl _ world, logged_refl _ world, rfl, Int.le_refl _, .inl rfl⟩
  after a b c failure first second := by
    refine ⟨since_trans _ a b c first.ran second.ran, logged_trans _ a b c first.unmarked second.unmarked,
      second.asked.trans first.asked, Int.le_trans first.grown second.grown, ?_⟩
    rcases first.honest with same | ⟨told, label, message, others, none, -⟩
    · rcases second.honest with later | ⟨told, label, message, others, failed, plain, root, struck, only⟩
      · exact .inl (later.trans same)
      · exact .inr ⟨told, label, message, others, failed, plain, root, same ▸ struck, only⟩
    · cases none

theorem run_conduct (command : Command) (effect : Tables → α × Tables)
    (grows : ∀ tables, tables.entities.lastId ≤ (effect tables).2.entities.lastId) : Takes Conduct (run command effect) := by
  have ran : ∀ before : World, Since (fun event => ∃ command, event = .ran command) before (sent command before) :=
    fun before => ⟨[⟨.ran command, before.tables⟩], rfl, by simp⟩
  refine ⟨fun before value after yields => ?_, fun before failure after fails => ?_⟩
  · obtain ⟨-, breakdowns, same, rfl⟩ := yields_run command effect before after value yields
    exact ⟨ran before, logged_refl _ before, rfl, grows _, .inl same⟩
  · obtain ⟨message, breakdowns, rfl, struck, rfl⟩ := fails_run command effect before after failure fails
    exact ⟨ran before, logged_refl _ before, rfl, Int.le_refl _,
      .inr ⟨_, command.label, message, [], rfl, rfl, rfl, struck, fun _ => rfl⟩⟩

theorem note_conduct (entry : LogEntry) (plain : entry.logger ≠ "checkpoint") : Takes Conduct (note entry) := by
  refine ⟨fun before value after yields => ?_, fun before failure after fails => ?_⟩
  · obtain ⟨-, rfl⟩ := Prod.mk.inj yields
    exact ⟨⟨[], rfl, by simp⟩, ⟨[entry], rfl, by simpa using plain⟩, rfl, Int.le_refl _, .inl rfl⟩
  · cases (Prod.mk.inj fails).1

theorem naming_conduct (logger operation : String) (subject : Option String) (work : Action α) (plain : logger ≠ "checkpoint")
    (conduct : Takes Conduct work) : Takes Conduct (naming logger operation subject work) := by
  refine ⟨fun before value after yields => ?_, fun before failure after fails => ?_⟩
  · exact conduct.1 _ _ _ ((yields_naming logger operation subject work before after value).mp yields)
  · obtain ⟨first, middle, here, rest⟩ := fails_naming logger operation subject work before after failure fails
    have kept := conduct.2 _ _ _ here
    rcases rest with ⟨rfl, rfl, -⟩ | ⟨entry, same, rfl, rfl⟩
    · exact kept
    · have logged : Logged (fun entry => entry.logger ≠ "checkpoint") middle { middle with log := entry :: middle.log } :=
        ⟨[entry], rfl, by simpa [same] using plain⟩
      refine ⟨kept.ran, logged_trans _ _ _ _ kept.unmarked logged, kept.asked, kept.grown, ?_⟩
      rcases kept.honest with still | ⟨told, label, message, others, failed, -, root, struck⟩
      · exact .inl still
      · obtain rfl := Option.some.inj failed
        exact .inr ⟨_, label, message, others, rfl, rfl, root, struck⟩

end Action

end Schematic
