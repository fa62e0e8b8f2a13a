import Schematic.Proofs.Store.Courses
import Schematic.Proofs.Store.Soundness

set_option autoImplicit false

namespace Schematic

def Command.effect : Command → Tables → Tables
  | .insertModel model, tables => (tables.insertModel model).2
  | .touchModel id, tables => tables.touchModel id
  | .deleteRelations id, tables => (tables.deleteRelations id).2
  | .deleteFields id, tables => (tables.deleteFields id).2
  | .deleteEntities id, tables => (tables.deleteEntities id).2
  | .insertEntity record, tables => (tables.insertEntity record).2
  | .insertField record, tables => (tables.insertField record).2
  | .insertRelation record, tables => (tables.insertRelation record).2
  | .insertMessage message, tables => (tables.insertMessage message).2
  | .limitTime _, tables | .readSnapshot, tables | .findModel _, tables | .lockModel _, tables | .listModels _ _, tables
  | .selectEntities _, tables | .selectFields _, tables | .selectRelations _, tables | .selectMessages _ _, tables => tables

def Happening.left (happening : Happening) : Tables :=
  match happening.event with
  | .ran command => command.effect happening.tables
  | _ => happening.tables

-- Tables to which a sequence of happenings leads, the newest first: statements have their effect or fail, and a transaction
-- may be undone. Nothing else changes the tables.
inductive Follows (start : Tables) : List Happening → Tables → Prop where
  | start : Follows start [] start
  | spared (happenings : List Happening) (tables : Tables) (event : StoreEvent) (earlier : Follows start happenings tables) :
      Follows start (⟨event, tables⟩ :: happenings) tables
  | ran (happenings : List Happening) (tables : Tables) (command : Command) (earlier : Follows start happenings tables) :
      Follows start (⟨.ran command, tables⟩ :: happenings) (command.effect tables)
  | undone (happenings : List Happening) (tables before : Tables) (earlier : Follows start happenings tables)
      (began : ⟨.began, before⟩ ∈ happenings) : Follows start happenings (tables.rollback before)

theorem follows_clock (start tables : Tables) (happenings : List Happening) (follows : Follows start happenings tables) :
    tables.models.clock = start.models.clock ∧ tables.messages.clock = start.messages.clock := by
  induction follows with
  | start => exact ⟨rfl, rfl⟩
  | spared happenings tables event earlier ih => exact ih
  | ran happenings tables command earlier ih => cases command <;> exact ih
  | undone happenings tables before earlier began ih => exact ih

theorem effect_grown (command : Command) (tables : Tables) :
    tables.entities.lastId ≤ (command.effect tables).entities.lastId := by
  cases command with
  | insertEntity record => exact Int.le_of_lt (Int.lt_succ _)
  | _ => exact Int.le_refl _

theorem effect_reads (command : Command) (reads : command.reads = true) (tables : Tables) : command.effect tables = tables := by
  cases command with
  | insertModel => simp [Command.reads] at reads
  | touchModel => simp [Command.reads] at reads
  | deleteRelations => simp [Command.reads] at reads
  | deleteFields => simp [Command.reads] at reads
  | deleteEntities => simp [Command.reads] at reads
  | insertEntity => simp [Command.reads] at reads
  | insertField => simp [Command.reads] at reads
  | insertRelation => simp [Command.reads] at reads
  | insertMessage => simp [Command.reads] at reads
  | _ => rfl

namespace Action

variable {α β : Type}

structure Watch (before after : World) : Prop where
  grown : before.tables.entities.lastId ≤ after.tables.entities.lastId
  sound : ∃ fresh, after.happenings = fresh ++ before.happenings ∧
    ∀ happening ∈ fresh, Sound happening.tables ∧ Sound happening.left
  follows : ∀ start, Follows start before.happenings before.tables → Follows start after.happenings after.tables

-- Work that keeps tables steady at each step, if they were so and what it requires of them held.
def Upholds (pre : Tables → Prop) : Course := fun before _ after =>
  Steady before.tables → pre before.tables → Watch before after ∧ Steady after.tables

def Always (_ : Tables) : Prop := True

theorem watch_refl (world : World) : Watch world world := ⟨Int.le_refl _, ⟨[], rfl, by simp⟩, fun _ found => found⟩

theorem watch_trans (a b c : World) (first : Watch a b) (second : Watch b c) : Watch a c := by
  obtain ⟨fresh, same, all⟩ := first.sound
  obtain ⟨later, whole, rest⟩ := second.sound
  refine ⟨Int.le_trans first.grown second.grown, ⟨later ++ fresh, by rw [whole, same, List.append_assoc], ?_⟩, ?_⟩
  · intro happening member
    exact (List.mem_append.mp member).elim (rest happening) (all happening)
  · intro start found
    exact second.follows start (first.follows start found)

theorem watch_aside (before middle after : World) (tables : after.tables = middle.tables)
    (happenings : after.happenings = middle.happenings) (watch : Watch before middle) : Watch before after := by
  refine ⟨?_, ?_, ?_⟩
  · rw [tables]
    exact watch.grown
  · rw [happenings]
    exact watch.sound
  · rw [tables, happenings]
    exact watch.follows

theorem watch_event (before after : World) (event : StoreEvent) (tables : after.tables = before.tables)
    (happenings : after.happenings = ⟨event, before.tables⟩ :: before.happenings) (sound : Sound before.tables)
    (left : Sound (Happening.left ⟨event, before.tables⟩)) : Watch before after := by
  refine ⟨?_, ⟨[⟨event, before.tables⟩], happenings, by simp [sound, left]⟩, ?_⟩
  · exact Int.le_of_eq (by rw [tables])
  · rw [tables, happenings]
    exact fun _ found => .spared _ _ event found

theorem upholds_chains : Chains (Upholds Always) where
  still world _ := fun steady _ => ⟨watch_refl world, steady⟩
  after a b c failure first second := by
    intro steady _
    obtain ⟨one, middle⟩ := first steady trivial
    obtain ⟨two, last⟩ := second middle trivial
    exact ⟨watch_trans a b c one two, last⟩

theorem upholds_mono (pre wider : Tables → Prop) (work : Action α) (all : ∀ tables, Steady tables → pre tables → wider tables)
    (upholds : Takes (Upholds wider) work) : Takes (Upholds pre) work :=
  ⟨fun before value after yields steady held => upholds.1 before value after yields steady (all _ steady held),
    fun before failure after fails steady held => upholds.2 before failure after fails steady (all _ steady held)⟩

-- Later work may require what earlier work is known to have reached.
theorem upholds_bind (pre : Tables → Prop) (mid : α → Tables → Prop) (work : Action α) (next : α → Action β)
    (first : Takes (Upholds pre) work)
    (reached : ∀ before value after, Yields work before value after → Steady before.tables → pre before.tables →
      mid value after.tables)
    (second : ∀ value, Takes (Upholds (mid value)) (next value)) : Takes (Upholds pre) (work >>= next) := by
  constructor
  · intro before value after yields steady held
    obtain ⟨found, middle, here, later⟩ := (yields_bind work next before after value).mp yields
    obtain ⟨one, between⟩ := first.1 _ _ _ here steady held
    obtain ⟨two, last⟩ := (second found).1 _ _ _ later between (reached _ _ _ here steady held)
    exact ⟨watch_trans _ _ _ one two, last⟩
  · intro before failure after fails steady held
    cases (fails_bind work next before after failure).mp fails with
    | inl here => exact first.2 _ _ _ here steady held
    | inr later =>
        obtain ⟨found, middle, here, failed⟩ := later
        obtain ⟨one, between⟩ := first.1 _ _ _ here steady held
        obtain ⟨two, last⟩ := (second found).2 _ _ _ failed between (reached _ _ _ here steady held)
        exact ⟨watch_trans _ _ _ one two, last⟩

theorem upholds_then (pre : Tables → Prop) (work : Action α) (next : α → Action β) (first : Takes (Upholds pre) work)
    (second : ∀ value, Takes (Upholds Always) (next value)) : Takes (Upholds pre) (work >>= next) :=
  upholds_bind pre (fun _ => Always) work next first (fun _ _ _ _ _ _ => trivial) second

theorem upholds_run (pre : Tables → Prop) (command : Command) (effect : Tables → α × Tables)
    (same : ∀ tables, (effect tables).2 = command.effect tables)
    (keeps : ∀ tables, Steady tables → pre tables → Steady (command.effect tables)) :
    Takes (Upholds pre) (run command effect) := by
  constructor
  · intro before value after yields steady held
    obtain ⟨-, breakdowns, -, rfl⟩ := yields_run command effect before after value yields
    have kept := keeps before.tables steady held
    rw [same]
    refine ⟨⟨effect_grown command before.tables, ⟨[⟨.ran command, before.tables⟩], rfl, ?_⟩, fun _ found => ?_⟩, kept⟩
    · simpa using ⟨steady.sound, kept.sound⟩
    · exact .ran _ _ command found
  · intro before failure after fails steady held
    obtain ⟨message, breakdowns, -, -, rfl⟩ := fails_run command effect before after failure fails
    have kept := keeps before.tables steady held
    exact ⟨watch_event before _ (.ran command) rfl rfl steady.sound kept.sound, steady⟩

-- Each item needs what it requires together with what the rest will need.
theorem upholds_list (pre : List α → Tables → Prop) (work : α → Action β)
    (each : ∀ item rest, Takes (Upholds (pre (item :: rest))) (work item))
    (reached : ∀ item rest before after value, Yields (work item) before value after → pre (item :: rest) before.tables →
      pre rest after.tables)
    (items : List α) : Takes (Upholds (pre items)) (items.mapM work) := by
  have still : ∀ (pre : Tables → Prop) (values : List β), Takes (Upholds pre) (pure values) := fun pre values =>
    upholds_mono pre Always _ (fun _ _ _ => trivial) (takes_pure _ upholds_chains values)
  induction items with
  | nil =>
      rw [List.mapM_nil]
      exact still _ []
  | cons item items ih =>
      rw [List.mapM_cons]
      apply upholds_bind _ (fun _ => pre items) _ _ (each item items)
      · intro before value after yields _ held
        exact reached item items before after value yields held
      · intro value
        exact upholds_then _ _ _ ih fun values => still _ (value :: values)

theorem upholds_naming (pre : Tables → Prop) (logger operation : String) (subject : Option String) (work : Action α)
    (upholds : Takes (Upholds pre) work) : Takes (Upholds pre) (naming logger operation subject work) := by
  constructor
  · intro before value after yields
    exact upholds.1 _ _ _ ((yields_naming logger operation subject work before after value).mp yields)
  · intro before failure after fails steady held
    obtain ⟨first, middle, here, rest⟩ := fails_naming logger operation subject work before after failure fails
    obtain ⟨watch, kept⟩ := upholds.2 _ _ _ here steady held
    cases rest with
    | inl same => exact same.2.1 ▸ ⟨watch, kept⟩
    | inr logged =>
        obtain ⟨entry, -, -, rfl⟩ := logged
        exact ⟨watch_aside _ middle _ rfl rfl watch, kept⟩

theorem upholds_checked (pre : Tables → Prop) (table : TableName) (value : Checked α) (next : α → Action β)
    (second : ∀ found, value = .ok found → Takes (Upholds pre) (next found)) :
    Takes (Upholds pre) (checked table value >>= next) := by
  cases value with
  | ok found => exact second found rfl
  | refused complaints =>
      constructor
      · intro before result after yields
        obtain ⟨_, _, thrown, -⟩ := (yields_bind _ _ _ _ _).mp yields
        exact absurd thrown (yields_throw _ _ _ _)
      · intro before failure after fails steady _
        cases (fails_bind _ _ _ _ _).mp fails with
        | inl thrown =>
            obtain ⟨-, rfl⟩ := (fails_throw _ _ _ _).mp thrown
            exact ⟨watch_refl _, steady⟩
        | inr later =>
            obtain ⟨_, _, thrown, -⟩ := later
            exact absurd thrown (yields_throw _ _ _ _)

theorem upholds_note (entry : LogEntry) : Takes (Upholds Always) (note entry) := by
  constructor
  · intro before value after yields steady _
    obtain ⟨-, rfl⟩ := Prod.mk.inj yields
    exact ⟨watch_aside _ before _ rfl rfl (watch_refl before), steady⟩
  · intro before failure after fails
    cases (Prod.mk.inj fails).1

theorem upholds_risk (label : String) : Takes (Upholds Always) (risk label) := by
  constructor
  · intro before value after yields steady _
    obtain ⟨breakdowns, -, rfl⟩ := yields_risk _ _ _ _ yields
    exact ⟨watch_aside _ before _ rfl rfl (watch_refl before), steady⟩
  · intro before failure after fails steady _
    obtain ⟨message, breakdowns, -, -, rfl⟩ := fails_risk _ _ _ _ fails
    exact ⟨watch_aside _ before _ rfl rfl (watch_refl before), steady⟩

theorem upholds_hosts : Hosts (Upholds Always) where
  chains := upholds_chains
  caught a b c failure last first second := by
    intro steady _
    obtain ⟨one, middle⟩ := first steady trivial
    obtain ⟨two, kept⟩ := second middle trivial
    exact ⟨watch_trans a b c one two, kept⟩
  risk := upholds_risk
  note := upholds_note
  call := by
    intro α command effect harmless
    cases harmless with
    | read command view reads =>
        apply upholds_run
        · exact fun tables => (effect_reads command reads tables).symm
        · intro tables steady _
          rw [effect_reads command reads tables]
          exact steady
    | insertModel model => exact upholds_run _ _ _ (fun _ => rfl) fun tables steady _ => model_inserted model tables steady
    | insertMessage message =>
        apply upholds_run
        · exact fun _ => rfl
        · exact fun tables steady _ => steady_kept tables _ rfl rfl rfl (fun _ there => there) (Int.le_refl _) steady

theorem undo_upholds (before middle after : World) (breakdowns : List Breakdown) (cause failure : Failure)
    (steady : Steady before.tables) (watch : Watch (opened before breakdowns) middle)
    (fails : Fails (undo before.tables cause : Action α) middle failure after) :
    Watch (opened before breakdowns) after ∧ Steady after.tables := by
  have grown : before.tables.entities.lastId ≤ middle.tables.entities.lastId := watch.grown
  have kept := steady_rollback middle.tables before.tables grown steady
  have began : ⟨.began, before.tables⟩ ∈ middle.happenings := by
    obtain ⟨fresh, whole, -⟩ := watch.sound
    rw [whole]
    exact List.mem_append_right _ List.mem_cons_self
  have back : ∀ last, Watch (opened before breakdowns)
      { middle with tables := middle.tables.rollback before.tables, breakdowns := last } :=
    fun _ => ⟨watch.grown, watch.sound, fun start found => .undone _ _ _ (watch.follows start found) began⟩
  obtain ⟨last, ⟨-, -, rfl⟩ | ⟨message, -, -, rfl⟩⟩ := undo_fails _ _ _ _ _ fails
  · exact ⟨watch_trans _ _ _ (back last) (watch_event _ _ .rolledBack rfl rfl kept.sound kept.sound), kept⟩
  · exact ⟨back last, kept⟩

theorem transaction_upholds (work : Action α) (upholds : Takes (Upholds Always) work) :
    Takes (Upholds Always) (transaction work) := by
  have opening : ∀ (before : World) (breakdowns : List Breakdown), Steady before.tables → Watch before (opened before breakdowns) :=
    fun before breakdowns steady => watch_event before _ .began rfl rfl steady.sound steady.sound
  have attempted : Takes (Upholds Always) (attempt work) := by
    apply takes_bind _ upholds_chains _ _ upholds
    intro value
    apply takes_bind _ upholds_chains _ _ (upholds_risk "commit")
    intro _
    constructor
    · intro before found after yields steady _
      obtain ⟨-, rfl⟩ := Prod.mk.inj yields
      exact ⟨watch_event before _ .committed rfl rfl steady.sound steady.sound, steady⟩
    · intro before failure after fails
      cases (Prod.mk.inj fails).1
  constructor
  · intro before value after yields steady _
    obtain ⟨breakdowns, middle, rest, -, here, -, rfl⟩ := transaction_yields work before after value yields
    obtain ⟨watch, kept⟩ := upholds.1 _ _ _ here steady trivial
    have ended : Watch middle (closed middle rest) := watch_event middle _ .committed rfl rfl kept.sound kept.sound
    exact ⟨watch_trans _ _ _ (opening before breakdowns steady) (watch_trans _ _ _ watch ended), kept⟩
  · intro before failure after fails steady _
    cases transaction_fails work before after failure fails with
    | inl risked => exact (upholds_risk "begin").2 _ _ _ risked steady trivial
    | inr failed =>
        obtain ⟨breakdowns, cause, middle, -, broken, undone⟩ := failed
        obtain ⟨watch, -⟩ := attempted.2 _ _ _ broken steady trivial
        obtain ⟨back, kept⟩ := undo_upholds before middle after breakdowns cause failure steady watch undone
        exact ⟨watch_trans _ _ _ (opening before breakdowns steady) back, kept⟩

theorem upholds_lasts : Lasts (Upholds Always) where
  toHosts := upholds_hosts
  transaction _ work upholds := transaction_upholds work upholds

end Action

end Schematic
