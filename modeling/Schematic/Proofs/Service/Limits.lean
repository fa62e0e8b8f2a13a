import Schematic.Proofs.Service.Retrieval

set_option autoImplicit false

namespace Schematic

open Schematic.Action

theorem validate_within (settings : Settings) (text : String) (within : (text.utf8ByteSize : Int) ≤ settings.source.maxBytes) :
    validate settings text = Schema.parse settings.source.identifier text.toList := by
  rw [validate]
  exact if_neg (by omega)

theorem validate_beyond (settings : Settings) (text : String) (beyond : ¬ (text.utf8ByteSize : Int) ≤ settings.source.maxBytes) :
    (validate settings text).errors = [⟨0, .tooLarge text.utf8ByteSize settings.source.maxBytes⟩] := by
  have larger : settings.source.maxBytes < text.utf8ByteSize := by omega
  simp only [validate, if_pos larger]

namespace Service

theorem unsaved_oversized (context : LogContext) (id : Int) (cause : Failure) (oversized : cause.Oversized) (world : World)
    (calm : Calm world) : ∃ after, Fails (unsaved context id cause) world (.unsaved id cause) after ∧ Calm after := by
  obtain ⟨table, complaints, rfl, -, -⟩ := oversized
  exact ⟨_, rfl, calm⟩

section Owner

variable (settings : Settings) (id : Int) (principal : String) (before : World) (calm : Calm before)
  (owns : Owns before.tables principal id)

include calm owns

theorem save_calm (schema : Schema) (coherent : Coherent schema.entities) (resolved : Resolved schema.entities) :
    (Fits schema → ∃ saved after, Yields (save settings id schema principal) before saved after ∧ Calm after) ∧
      (¬ Fits schema → ∃ cause after, Fails (save settings id schema principal) before (.unsaved id cause) after ∧
        cause.Oversized ∧ Calm after) := by
  have started : Yields (Action.note (startMark (replacing id principal) schema)) before ()
      { before with log := startMark (replacing id principal) schema :: before.log } := rfl
  obtain ⟨succeeds, refused⟩ := replace_stored_settles (replacing id principal) settings id schema principal coherent resolved
    { before with log := startMark (replacing id principal) schema :: before.log } calm owns
  constructor
  · intro fits
    obtain ⟨written, middle, stored, still⟩ := succeeds fits
    let final := { middle with log := commitMark (replacing id principal) written.1 written.2 :: middle.log }
    refine ⟨⟨written.1, schema, written.2⟩, final, (yields_bind _ _ _ _ _).mpr ⟨_, _, started, ?_⟩, still⟩
    refine (yields_bind _ _ _ _ _).mpr ⟨written, middle, (yields_try _ _ _ _ _).mpr (.inl stored), ?_⟩
    exact (yields_bind _ _ _ _ _).mpr ⟨(), _, rfl, rfl⟩
  · intro exceeds
    obtain ⟨cause, middle, failed, oversized, still⟩ := refused exceeds
    obtain ⟨after, told, last⟩ := unsaved_oversized (replacing id principal) id cause oversized middle still
    refine ⟨cause, after, (fails_bind _ _ _ _ _).mpr (.inr ⟨_, _, started, ?_⟩), oversized, last⟩
    exact (fails_bind _ _ _ _ _).mpr (.inl ((fails_try _ _ _ _ _).mpr ⟨cause, middle, failed, told⟩))

theorem replace_calm (text : String) (named : principal ≠ "") (valid : (validate settings text).isValid = true) :
    (Fits (validate settings text) →
      ∃ saved after, Yields (replaceSchema (.ok settings) id text (some principal)) before saved after ∧ Calm after) ∧
      (¬ Fits (validate settings text) →
        ∃ cause after, Fails (replaceSchema (.ok settings) id text (some principal)) before (.unsaved id cause) after ∧
          cause.Oversized ∧ Calm after) := by
  have saving : outcome (replaceSchema (.ok settings) id text (some principal)) before =
      outcome (save settings id (validate settings text) principal) before := by
    have known : Yields (Action.settings (.ok settings)) before settings before := rfl
    rw [replace_schema_save, outcome_after _ _ _ _ _ (acting_yields principal named before), outcome_after _ _ _ _ _ known,
      if_pos valid]
  simp only [Yields, Fails, saving]
  have graph := valid_parse settings text valid
  obtain ⟨coherent, resolved⟩ := parse_coherent settings.source.identifier text.toList
  rw [← graph] at coherent resolved
  exact save_calm settings id principal before calm owns (validate settings text) coherent resolved

end Owner

theorem replaced_read (settings : Settings) (id : Int) (principal text : String) (before after : World) (saved : Saved)
    (keyed : Keyed before.tables) (named : principal ≠ "") (owns : Owns before.tables principal id) (calm : Calm after)
    (yields : Yields (replaceSchema (.ok settings) id text (some principal)) before saved after) :
    ∃ stored final, Yields (getSchema (.ok settings) id (some principal)) after stored final ∧
      stored.1 = rendering settings.source.identifier text ∧ final.tables = after.tables ∧ Calm final := by
  obtain ⟨known, given, valid, -, committed⟩ := replace_yields _ _ _ _ _ _ _ yields
  obtain rfl := Except.ok.inj given
  have recorded := committed.recorded
  rw [valid_parse settings text valid] at recorded
  obtain ⟨coherent, -⟩ := parse_coherent settings.source.identifier text.toList
  have holds := rewritten_holds id _ _ _ (recorded_rewritten id _ _ _ _ recorded) keyed
  have still : Owns after.tables principal id :=
    (owns_models _ after.tables principal id committed.stamped).mpr ((owns_touched before.tables principal id id).mpr owns)
  obtain ⟨stored, final, got, same, last⟩ := get_schema_legible id after calm
    (recorded_legible id _ _ _ _ keyed recorded) settings principal named still _ coherent holds
  exact ⟨stored, final, got, get_schema_text _ id _ after final stored _ coherent holds got, same, last⟩

end Service

-- The owner of a data model can save a valid text and read it back where its names fit their columns. Else the save is
-- refused for texts that are too long, and no row changes.
theorem valid_text_saved_within_limits (settings : Settings) (id : Int) (principal text : String) (world : World)
    (keyed : Keyed world.tables) (calm : Calm world) (named : principal ≠ "") (owns : Owns world.tables principal id)
    (valid : (validate settings text).isValid = true) :
    (Fits (validate settings text) → ∃ saved middle stored after,
      Yields (Service.replaceSchema (.ok settings) id text (some principal)) world saved middle ∧
      middle.happenings.head? = some ⟨.committed, middle.tables⟩ ∧
      Yields (Service.getSchema (.ok settings) id (some principal)) middle stored after ∧
      stored.1 = rendering settings.source.identifier text) ∧
    (¬ Fits (validate settings text) → ∃ cause after,
      Fails (Service.replaceSchema (.ok settings) id text (some principal)) world (.unsaved id cause) after ∧
      cause.Oversized ∧ SameRows after.tables world.tables) := by
  obtain ⟨succeeds, refused⟩ := Service.replace_calm settings id principal world calm owns text named valid
  constructor
  · intro fits
    obtain ⟨saved, middle, yields, still⟩ := succeeds fits
    obtain ⟨stored, after, got, same, -⟩ :=
      Service.replaced_read settings id principal text world middle saved keyed named owns still yields
    obtain ⟨_, -, -, -, committed⟩ := Service.replace_yields _ _ _ _ _ _ _ yields
    obtain ⟨tables, fresh, whole, -⟩ := committed.ended
    exact ⟨saved, middle, stored, after, yields, by rw [whole]; rfl, got, same⟩
  · intro exceeds
    obtain ⟨cause, after, fails, oversized, -⟩ := refused exceeds
    exact ⟨cause, after, fails, oversized, (Service.replace_fails _ _ _ _ _ _ _ fails).rows⟩

def newShop : World := (Session.after { world := {}, known := .ok {} } (.create (some "ann") [("name", .str "Shop")])).world

theorem new_shop_owned : Owns newShop.tables "ann" 1 := by
  refine ⟨_, _, rfl, rfl, ?_⟩
  decide +kernel

theorem new_shop_keyed : Keyed newShop.tables := reachable_keyed _ (.turn _ _ (.start {} (.ok {}) rfl rfl rfl))

def nestedText : String := "entity Cart \x7b\n id: ID\n parts: Cart[] @unique\n\x7d\n"

theorem nested_text_valid : (validate {} nestedText).isValid = true := by decide +kernel

theorem nested_text_fits : Fits (validate {} nestedText) := by
  have short : ∀ relation ∈ (validate {} nestedText).relations, relation.name.length ≤ 512 := by decide +kernel
  refine ⟨by decide +kernel, by decide +kernel, fun place declared _ relation meant => short relation ?_⟩
  obtain ⟨inside, field, -⟩ := mem_references _ place declared
  exact List.mem_flatMap.mpr ⟨place.1, inside, List.mem_filterMap.mpr ⟨place.2, field, meant⟩⟩

theorem nested_text_saved :
    (validate {} nestedText).isValid = true ∧ ∃ saved middle stored after,
      Yields (Service.replaceSchema (.ok {}) 1 nestedText (some "ann")) newShop saved middle ∧
      middle.happenings.head? = some ⟨.committed, middle.tables⟩ ∧
      Yields (Service.getSchema (.ok {}) 1 (some "ann")) middle stored after ∧ stored.1 = rendering "id" nestedText := by
  refine ⟨nested_text_valid, ?_⟩
  have saving := valid_text_saved_within_limits {} 1 "ann" nestedText newShop new_shop_keyed rfl (by decide) new_shop_owned
    nested_text_valid
  exact saving.1 nested_text_fits

def lettered (length : Nat) : Schema where
  entities := [{ name := String.ofList (List.replicate length 'A') }]
  identifier := "id"

def letteredText (length : Nat) : String := String.ofList (lettered length).render

theorem utf8_size_bound (text : List Char) : (String.ofList text).utf8ByteSize ≤ 4 * text.length := by
  induction text with
  | nil => exact Nat.zero_le _
  | cons c text ih =>
      rw [String.ofList_cons, String.utf8ByteSize_append, String.utf8ByteSize_singleton, List.length_cons]
      have one := c.utf8Size_le_four
      omega

theorem lettered_size (length : Nat) : (lettered length).render.length = length + 12 := by
  simp [Schema.render, Entity.render, lettered, joinWith]

section Lettered

variable (length : Nat) (long : 256 ≤ length)

include long

theorem lettered_coherent : Coherent (lettered length).entities := by
  have letters : (String.ofList (List.replicate length 'A')).toList = List.replicate length 'A' := String.toList_ofList
  refine ⟨List.nodup_singleton _, ?_, ?_⟩
  · intro name member reserved
    obtain rfl := List.mem_singleton.mp member
    have short : ∀ word ∈ reservedNames, word.length < 256 := by decide
    have bound := short _ reserved
    rw [String.length_ofList, List.length_replicate] at bound
    omega
  · intro entity inside
    obtain rfl := List.mem_singleton.mp inside
    refine ⟨?_, List.nodup_nil, fun field declared => nomatch declared⟩
    rw [letters, is_name_iff]
    refine ⟨by simp; omega, fun c member => ?_⟩
    rw [List.eq_of_mem_replicate member]
    decide

theorem lettered_valid (settings : Settings) (within : 4 * ((length : Int) + 12) ≤ settings.source.maxBytes) :
    (validate settings (letteredText length)).isValid = true ∧ ¬ Fits (validate settings (letteredText length)) := by
  have size : ((letteredText length).utf8ByteSize : Int) ≤ settings.source.maxBytes := by
    have bound := utf8_size_bound (lettered length).render
    rw [lettered_size] at bound
    exact Int.le_trans (by exact_mod_cast bound) within
  have resolved : Resolved (lettered length).entities := by
    intro entity inside field declared
    obtain rfl := List.mem_singleton.mp inside
    cases declared
  obtain ⟨placed, document, same⟩ := render_document (lettered length) (lettered_coherent length long) resolved
  have read : validate settings (letteredText length) = ⟨placed, [], settings.source.identifier⟩ := by
    rw [validate_within settings _ size, letteredText, String.toList_ofList]
    exact parse_of_document settings.source.identifier _ placed document
  rw [read]
  refine ⟨rfl, fun fits => ?_⟩
  have member : Entity.unplaced { name := String.ofList (List.replicate length 'A') } ∈ placed.map Entity.unplaced := by
    rw [same]
    exact List.mem_singleton.mpr rfl
  obtain ⟨entity, inside, alike⟩ := List.mem_map.mp member
  have name : entity.name = String.ofList (List.replicate length 'A') := by
    show entity.unplaced.name = _
    rw [alike]
    rfl
  have short := fits.entities entity inside
  rw [name, String.length_ofList, List.length_replicate] at short
  omega

end Lettered

-- The name is one letter longer than its column.
theorem valid_text_may_be_refused :
    (validate {} (letteredText 256)).isValid = true ∧ Calm newShop ∧ Owns newShop.tables "ann" 1 ∧
      ¬ ∃ saved after, Yields (Service.replaceSchema (.ok {}) 1 (letteredText 256) (some "ann")) newShop saved after := by
  obtain ⟨valid, exceeds⟩ := lettered_valid 256 (by decide) {} (by decide)
  obtain ⟨cause, after, fails, -⟩ :=
    (Service.replace_calm {} 1 "ann" newShop rfl new_shop_owned (letteredText 256) (by decide) valid).2 exceeds
  refine ⟨valid, rfl, new_shop_owned, ?_⟩
  rintro ⟨saved, other, yields⟩
  cases (Prod.mk.inj (yields.symm.trans fails)).1

end Schematic
