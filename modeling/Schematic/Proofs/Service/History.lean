import Schematic.Proofs.Service.Retrieval
import Schematic.Proofs.Service.Silence

set_option autoImplicit false

namespace Schematic

-- A message without the number under which it is stored.
def ChatMessage.said (message : ChatMessage) : ChatMessage := { message with id := none }

def Tables.history (tables : Tables) (id : Int) : List ChatMessage := (tables.messages.belonging id).filterMap Row.value?

-- Messages are numbered in the order in which they were stored, have the time that the clock showed, and can be read.
structure Filed (tables : Tables) : Prop where
  timed : ∀ row ∈ tables.messages.rows, row.position = tables.messages.clock row.id
  ascending : tables.messages.rows.Pairwise fun a b => a.id < b.id
  given : ∀ row ∈ tables.messages.rows, row.id ≤ tables.messages.lastId
  whole : ∀ row ∈ tables.messages.rows, row.Whole

-- A clock that does not go back from one number to a later one.
def Onward (clock : Int → Int) : Prop := ∀ earlier later, earlier ≤ later → clock earlier ≤ clock later

def Tables.tell (tables : Tables) (messages : List ChatMessage) : Tables :=
  messages.foldl (fun tables message => (tables.insertMessage message).2) tables

theorem filed_empty (tables : Tables) (none : tables.messages.rows = []) : Filed tables := by
  constructor
  · simp [none]
  · rw [none]
    exact List.Pairwise.nil
  · simp [none]
  · simp [none]

theorem filed_same (before after : Tables) (messages : after.messages = before.messages) (filed : Filed before) :
    Filed after := by
  constructor
  · rw [messages]
    exact filed.timed
  · rw [messages]
    exact filed.ascending
  · rw [messages]
    exact filed.given
  · rw [messages]
    exact filed.whole

theorem filed_insert (message : ChatMessage) (tables : Tables) (now : message.createdAt = .clock) (filed : Filed tables) :
    Filed (tables.insertMessage message).2 := by
  constructor
  · intro row member
    cases List.mem_append.mp member with
    | inl old => exact filed.timed row old
    | inr fresh =>
        rw [List.mem_singleton.mp fresh, now]
        rfl
  · refine List.pairwise_append.mpr ⟨filed.ascending, List.pairwise_singleton _ _, ?_⟩
    intro row member fresh single
    rw [List.mem_singleton.mp single]
    exact Int.lt_add_one_of_le (filed.given row member)
  · intro row member
    cases List.mem_append.mp member with
    | inl old => exact Int.le_of_lt (Int.lt_add_one_of_le (filed.given row old))
    | inr fresh =>
        rw [List.mem_singleton.mp fresh]
        exact Int.le_refl _
  · intro row member
    cases List.mem_append.mp member with
    | inl old => exact filed.whole row old
    | inr fresh =>
        rw [List.mem_singleton.mp fresh]
        exact ⟨_, rfl⟩

theorem history_insert (message : ChatMessage) (tables : Tables) (id : Int) :
    (tables.insertMessage message).2.history id =
      tables.history id ++
        if message.dataModelId = id then [{ message with id := some (tables.messages.lastId + 1) }] else [] := by
  rw [Tables.history, Tables.history, Table.belonging, Table.belonging, Tables.insertMessage, Table.add, List.filter_append,
    List.filterMap_append]
  by_cases mine : message.dataModelId = id
  · simp [mine, Row.value?, Except.toOption]
  · simp [mine]

theorem filed_tell (messages : List ChatMessage) (tables : Tables) (now : ∀ message ∈ messages, message.createdAt = .clock)
    (filed : Filed tables) : Filed (tables.tell messages) := by
  induction messages generalizing tables with
  | nil => exact filed
  | cons message messages ih =>
      obtain ⟨here, later⟩ := List.forall_mem_cons.mp now
      exact ih _ later (filed_insert message tables here filed)

theorem clock_tell (messages : List ChatMessage) (tables : Tables) :
    (tables.tell messages).messages.clock = tables.messages.clock := by
  induction messages generalizing tables with
  | nil => rfl
  | cons message messages ih => exact ih _

theorem history_tell (messages : List ChatMessage) (tables : Tables) (id : Int) :
    ((tables.tell messages).history id).map ChatMessage.said =
      (tables.history id).map ChatMessage.said ++ (messages.filter (·.dataModelId = id)).map ChatMessage.said := by
  induction messages generalizing tables with
  | nil => simp [Tables.tell]
  | cons message messages ih =>
      rw [show tables.tell (message :: messages) = (tables.insertMessage message).2.tell messages from rfl, ih, history_insert]
      by_cases mine : message.dataModelId = id
      · simp [mine, ChatMessage.said]
      · simp [mine]

theorem tell_same (first second : Tables) (messages : List ChatMessage) (same : first.messages = second.messages) :
    (first.tell messages).messages = (second.tell messages).messages := by
  induction messages generalizing first second with
  | nil => exact same
  | cons message messages ih =>
      apply ih
      simp only [Tables.insertMessage, same]

theorem tell_append (tables : Tables) (first second : List ChatMessage) :
    tables.tell (first ++ second) = (tables.tell first).tell second := List.foldl_append

theorem filed_in_order (tables : Tables) (filed : Filed tables) (onward : Onward tables.messages.clock) :
    tables.messages.rows.Pairwise fun a b => inOrder a.position (some a.id) b.position (some b.id) = true := by
  refine filed.ascending.imp_of_mem ?_
  intro a b first second less
  have times : a.position ≤ b.position := by
    rw [filed.timed a first, filed.timed b second]
    exact onward a.id b.id (Int.le_of_lt less)
  have ids : a.id ≤ b.id := Int.le_of_lt less
  cases Int.lt_or_eq_of_le times with
  | inl before => simp [inOrder, before]
  | inr same => simp [inOrder, same, ids]

theorem filed_history (tables : Tables) (filed : Filed tables) (onward : Onward tables.messages.clock) (id : Int) :
    (tables.messagesOf id).map Row.record = (tables.history id).map Except.ok := by
  have sorted : tables.messagesOf id = tables.messages.belonging id :=
    List.mergeSort_of_pairwise ((filed_in_order tables filed onward).sublist List.filter_sublist)
  have whole : ∀ row ∈ tables.messages.belonging id, row.Whole := fun row member =>
    filed.whole row (List.mem_filter.mp member).1
  rw [sorted, Tables.history]
  generalize tables.messages.belonging id = rows at whole
  induction rows with
  | nil => rfl
  | cons row rows ih =>
      obtain ⟨record, same⟩ := whole row List.mem_cons_self
      rw [List.map_cons, List.filterMap_cons_some (b := record) (by rw [Row.value?, same]; rfl), List.map_cons, same,
        ih fun other member => whole other (List.mem_cons_of_mem _ member)]

namespace Service

open Schematic.Action

-- No breakdown strikes the events of storing a message.
def clear (world : World) : Bool :=
  (strike "connect" world.breakdowns).1.isNone &&
    (strike "INSERT chat_messages" (strike "connect" world.breakdowns).2).1.isNone

theorem clear_risk (label : String) (before : World) (free : (strike label before.breakdowns).1.isNone = true) :
    Yields (risk label) before () { before with breakdowns := (strike label before.breakdowns).2 } := by
  have found : strike label before.breakdowns = (none, (strike label before.breakdowns).2) := by
    rw [← Option.isNone_iff_eq_none.mp free]
  exact outcome_risk label before none _ found

theorem clear_run {α : Type} (command : Command) (effect : Tables → α × Tables) (before : World)
    (free : (strike command.label before.breakdowns).1.isNone = true) :
    ∃ after, Yields (run command effect) before (effect before.tables).1 after ∧ after.tables = (effect before.tables).2 := by
  have risked := clear_risk command.label (sent command before) free
  exact ⟨_, (yields_bind _ _ _ _ _).mpr ⟨(), sent command before, rfl, (yields_bind _ _ _ _ _).mpr ⟨(), _, risked, rfl⟩⟩, rfl⟩

theorem record_message_stores (id : Int) (sender : Sender) (content : String) (schemaText : Option String) (before : World)
    (free : clear before = true) :
    ∃ after, Yields (recordMessage id sender content schemaText) before () after ∧
      after.tables = before.tables.tell [{ dataModelId := id, sender, content, schemaText }] := by
  obtain ⟨connect, insert⟩ := Bool.and_eq_true_iff.mp free
  have connects := clear_risk "connect" before connect
  obtain ⟨after, inserts, tables⟩ := clear_run
    (.insertMessage { dataModelId := id, sender, content, schemaText })
    (Tables.insertMessage { dataModelId := id, sender, content, schemaText })
    { before with breakdowns := (strike "connect" before.breakdowns).2 } insert
  have added : Yields (Messages.add { dataModelId := id, sender, content, schemaText }) before
      (Tables.insertMessage { dataModelId := id, sender, content, schemaText } before.tables).1 after := by
    rw [Messages.add, Messages.naming, yields_naming]
    exact (yields_bind _ _ _ _ _).mpr ⟨(), _, connects, inserts⟩
  exact ⟨after, (yields_discard _ _ _ _).mpr ⟨_, (yields_try _ _ _ _ _).mpr (.inl added)⟩, tables⟩

theorem chat_reads (known : Except NumberFault Settings) (id : Int) (principal : String) (before after : World)
    (messages : List ChatMessage) (filed : Filed before.tables) (onward : Onward before.tables.messages.clock)
    (yields : Yields (chatHistory known id (some principal)) before messages after) :
    Owns before.tables principal id ∧ ∃ settings, known = .ok settings ∧ 0 ≤ settings.drafting.historyLimit ∧
      messages = (before.tables.history id).take settings.drafting.historyLimit.toNat := by
  obtain ⟨_, first, found, yieldsSettings⟩ := (yields_bind _ _ _ _ _).mp yields
  obtain ⟨model, got⟩ := (yields_discard _ _ _ _).mp found
  obtain ⟨-, owns, tables⟩ := get_model_yields id principal before first model got
  obtain ⟨settings, second, read, yieldsRows⟩ := (yields_bind _ _ _ _ _).mp yieldsSettings
  obtain rfl := (takes_settings Still still_chains known).1 _ _ _ read
  obtain ⟨rows, third, looked, records⟩ := (yields_bind _ _ _ _ _).mp (persisting_yields _ _ _ _ _ yieldsRows)
  rw [Messages.naming, yields_naming] at looked
  obtain ⟨breakdowns, -, connection⟩ := connected_yields _ _ _ _ looked
  obtain ⟨room, rfl⟩ := yields_look_up_to _ _ _ _ _ _ connection
  have same : ((second.tables.messagesOf id).take settings.drafting.historyLimit.toNat).map Row.record =
      messages.map Except.ok := (records_yield _ _ _ _ _ records).1
  refine ⟨owns, settings, ?_, room, ?_⟩
  · cases known with
    | ok known => exact congrArg _ (Except.ok.inj (Prod.mk.inj read).1)
    | error fault => cases (Prod.mk.inj read).1
  · rw [List.map_take, tables, filed_history before.tables filed onward id, ← List.map_take] at same
    exact (List.map_injective_iff.mpr (fun _ _ => Except.ok.inj) same).symm

theorem chat_answers (settings : Settings) (id : Int) (principal : String) (before : World) (filed : Filed before.tables)
    (calm : Calm before) (owns : Owns before.tables principal id) (named : principal ≠ "")
    (room : 0 ≤ settings.drafting.historyLimit) :
    ∃ messages after, Yields (chatHistory (.ok settings) id (some principal)) before messages after := by
  obtain ⟨model, got⟩ := get_model_owned id before calm principal owns named
  have looked := calm_look_up_to settings.drafting.historyLimit (.selectMessages id settings.drafting.historyLimit)
    (·.messagesOf id) (sent (.findModel id) before) calm room
  have whole : ∀ row ∈ (before.tables.messagesOf id).take settings.drafting.historyLimit.toNat, row.Whole := by
    intro row member
    exact filed.whole row (List.mem_filter.mp (List.mem_mergeSort.mp (List.mem_of_mem_take member))).1
  obtain ⟨messages, records⟩ := records_whole .messages _ whole
    (sent (.selectMessages id settings.drafting.historyLimit) (sent (.findModel id) before))
  have listed : Yields (Messages.list id settings.drafting.historyLimit) (sent (.findModel id) before) messages
      (sent (.selectMessages id settings.drafting.historyLimit) (sent (.findModel id) before)) := by
    refine (yields_bind _ _ _ _ _).mpr ⟨_, _, ?_, records⟩
    rw [Messages.naming, yields_naming, Yields, calm_connected _ (sent (.findModel id) before) calm]
    exact looked
  have told : Yields (persisting .listMessages (Messages.list id settings.drafting.historyLimit)) _ messages _ :=
    (yields_try _ _ _ _ _).mpr (.inl listed)
  exact ⟨messages, _, (yields_bind _ _ _ _ _).mpr ⟨(), _, (yields_discard _ _ _ _).mpr ⟨model, got⟩,
    (yields_bind _ _ _ _ _).mpr ⟨settings, _, rfl, told⟩⟩⟩

end Service

end Schematic
