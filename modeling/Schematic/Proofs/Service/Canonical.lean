import Schematic.Proofs.Service.Limits

set_option autoImplicit false

namespace Schematic

open Schematic.Action

theorem unplaced_twin (a b : List Entity) (same : a.map Entity.unplaced = b.map Entity.unplaced) (entity : Entity)
    (inside : entity ∈ b) : ∃ twin ∈ a, twin.unplaced = entity.unplaced := by
  have member : entity.unplaced ∈ a.map Entity.unplaced := by
    rw [same]
    exact List.mem_map_of_mem inside
  exact List.mem_map.mp member

theorem unplaced_field_twin (a b : Entity) (same : a.unplaced = b.unplaced) (field : Field) (declared : field ∈ b.fields) :
    ∃ twin ∈ a.fields, twin.unplaced = field.unplaced := by
  have fields : a.fields.map Field.unplaced = b.fields.map Field.unplaced := congrArg Entity.fields same
  have member : field.unplaced ∈ a.fields.map Field.unplaced := by
    rw [fields]
    exact List.mem_map_of_mem declared
  exact List.mem_map.mp member

theorem reference_member (entities : List Entity) (entity : Entity) (inside : entity ∈ entities) (field : Field)
    (declared : field ∈ entity.fields) (reference : field.isReference = true) : (entity, field) ∈ referenceFields entities :=
  List.mem_flatMap.mpr ⟨entity, inside, List.mem_map_of_mem (List.mem_filter.mpr ⟨declared, reference⟩)⟩

theorem unplaced_name (a b : Entity) (same : a.unplaced = b.unplaced) : a.name = b.name := by
  show a.unplaced.name = b.unplaced.name
  rw [same]

theorem unplaced_field (a b : Field) (same : a.unplaced = b.unplaced) :
    a.name = b.name ∧ a.type = b.type ∧ a.modifiers = b.modifiers := by
  have name : a.unplaced.name = b.unplaced.name := by rw [same]
  have type : a.unplaced.type = b.unplaced.type := by rw [same]
  have modifiers : a.unplaced.modifiers = b.unplaced.modifiers := by rw [same]
  exact ⟨name, type, modifiers⟩

section Lines

variable (a b : List Entity) (same : a.map Entity.unplaced = b.map Entity.unplaced) (identifier : String)

include same

theorem stranded_unplaced (first second : Field) (twin : first.unplaced = second.unplaced)
    (stranded : Stranded identifier a first) : Stranded identifier b second := by
  obtain ⟨other, inside, base, lacks⟩ := stranded
  obtain ⟨again, among, alike⟩ := unplaced_twin b a same.symm other inside
  obtain ⟨-, type, -⟩ := unplaced_field first second twin
  refine ⟨again, among, by rw [← type, base, unplaced_name again other alike], fun candidate declared => ?_⟩
  obtain ⟨field, present, like⟩ := unplaced_field_twin other again alike.symm candidate declared
  obtain ⟨name, type, modifiers⟩ := unplaced_field field candidate like
  rw [← name, ← type, ← modifiers]
  exact lacks field present

theorem relation_unplaced (source : String) (first second : Field) (twin : first.unplaced = second.unplaced) :
    first.relation? a identifier source = second.relation? b identifier source := by
  obtain ⟨name, type, modifiers⟩ := unplaced_field first second twin
  have targets : ∀ target named, targetField a identifier target named = targetField b identifier target named := by
    intro target named
    rw [← target_field_unplaced a, same, target_field_unplaced b]
  simp only [Field.relation?, name, type, modifiers, targets]

end Lines

theorem fits_unplaced (a b : Schema) (same : a.entities.map Entity.unplaced = b.entities.map Entity.unplaced)
    (identifier : a.identifier = b.identifier) (fits : Fits a) : Fits b := by
  refine ⟨fun entity inside => ?_, fun entity inside field declared => ?_, fun place declared grounded relation meant => ?_⟩
  · obtain ⟨twin, among, alike⟩ := unplaced_twin _ _ same entity inside
    rw [← unplaced_name twin entity alike]
    exact fits.entities twin among
  · obtain ⟨twin, among, alike⟩ := unplaced_twin _ _ same entity inside
    obtain ⟨other, present, like⟩ := unplaced_field_twin twin entity alike field declared
    rw [← (unplaced_field other field like).1]
    exact fits.fields twin among other present
  · obtain ⟨inside, field, reference⟩ := mem_references _ place declared
    obtain ⟨twin, among, alike⟩ := unplaced_twin _ _ same place.1 inside
    obtain ⟨other, present, like⟩ := unplaced_field_twin twin place.1 alike place.2 field
    have refers : other.isReference = true := by
      rw [Field.isReference, (unplaced_field other place.2 like).2.1]
      exact reference
    rw [← identifier] at grounded meant
    apply fits.relations (twin, other) (reference_member _ twin among other present refers)
    · exact fun stranded => grounded (stranded_unplaced _ _ same _ other place.2 like stranded)
    · rw [relation_unplaced _ _ same _ _ other place.2 like, unplaced_name twin place.1 alike]
      exact meant

theorem formatted_canonical (settings : Settings) (text canonical : String)
    (done : (formatted settings text).1 = some canonical) :
    (validate settings text).isValid = true ∧ canonical = rendering settings.source.identifier text := by
  rw [formatted] at done
  by_cases valid : (validate settings text).isValid = true
  · simp only [valid, if_true, Option.some.injEq] at done
    rw [valid_parse settings text valid] at done
    exact ⟨valid, done.symm⟩
  · simp [valid] at done

theorem rendering_read (identifier text : String) :
    (Schema.parse identifier (rendering identifier text).toList).errors = [] ∧
      (Schema.parse identifier (rendering identifier text).toList).entities.map Entity.unplaced =
        (Schema.parse identifier text.toList).entities.map Entity.unplaced := by
  obtain ⟨coherent, resolved⟩ := parse_coherent identifier text.toList
  obtain ⟨placed, document, same⟩ := render_document (Schema.parse identifier text.toList) coherent resolved
  rw [rendering, String.toList_ofList, parse_of_document identifier _ placed document]
  exact ⟨rfl, same⟩

theorem rendering_accepted (settings : Settings) (text : String) :
    (validate settings (rendering settings.source.identifier text)).isValid = true ↔
      ((rendering settings.source.identifier text).utf8ByteSize : Int) ≤ settings.source.maxBytes := by
  constructor
  · intro valid
    by_contra beyond
    rw [Schema.isValid, validate_beyond settings _ beyond] at valid
    cases valid
  · intro within
    rw [validate_within settings _ within, Schema.isValid, (rendering_read _ text).1]
    rfl

theorem rendering_fits (settings : Settings) (text : String) (valid : (validate settings text).isValid = true)
    (accepted : (validate settings (rendering settings.source.identifier text)).isValid = true)
    (fits : Fits (validate settings text)) : Fits (validate settings (rendering settings.source.identifier text)) := by
  have same := (rendering_read settings.source.identifier text).2.symm
  rw [← valid_parse settings _ valid, ← valid_parse settings _ accepted] at same
  have identifier : (validate settings text).identifier =
      (validate settings (rendering settings.source.identifier text)).identifier := by
    rw [valid_parse settings _ valid, valid_parse settings _ accepted, parse_identifier, parse_identifier]
  exact fits_unplaced _ _ same identifier fits

theorem saved_fits (settings : Settings) (id : Int) (principal text : String) (before after : World) (saved : Saved)
    (calm : Calm before) (owned : Owns before.tables principal id) (named : principal ≠ "")
    (valid : (validate settings text).isValid = true)
    (yields : Yields (Service.replaceSchema (.ok settings) id text (some principal)) before saved after) :
    Fits (validate settings text) := by
  by_contra exceeds
  obtain ⟨cause, last, fails, -⟩ := (Service.replace_calm settings id principal before calm owned text named valid).2 exceeds
  cases (Prod.mk.inj (yields.symm.trans fails)).1

theorem saved_text_saved_again (settings : Settings) (id : Int) (principal text : String) (before middle final : World)
    (saved : Saved) (stored : String × Projection) (keyed : Keyed before.tables) (calm : Calm before)
    (yields : Yields (Service.replaceSchema (.ok settings) id text (some principal)) before saved middle)
    (got : Yields (Service.getSchema (.ok settings) id (some principal)) middle stored final) :
    stored.1 = rendering settings.source.identifier text ∧
      ((∃ again after, Yields (Service.replaceSchema (.ok settings) id stored.1 (some principal)) final again after) ↔
        (stored.1.utf8ByteSize : Int) ≤ settings.source.maxBytes) := by
  obtain ⟨_, given, valid, -, committed⟩ := Service.replace_yields _ _ _ _ _ _ _ yields
  obtain rfl := Except.ok.inj given
  obtain ⟨_, first, found, -⟩ := (yields_bind _ _ _ _ _).mp got
  obtain ⟨model, mine⟩ := (yields_discard _ _ _ _).mp found
  obtain ⟨named, owns, -⟩ := Service.get_model_yields id principal middle first model mine
  have owned : Owns before.tables principal id :=
    (owns_touched before.tables principal id id).mp ((owns_models _ middle.tables principal id committed.stamped).mp owns)
  have still : Calm middle := by
    have waits := committed.still
    rw [waiting, waiting, calm, List.map_nil, List.map_eq_nil_iff] at waits
    exact waits
  obtain ⟨_, _, again, same, tables, last⟩ :=
    Service.replaced_read settings id principal text before middle saved keyed named owned still yields
  obtain ⟨result, rfl⟩ := Prod.mk.inj (got.symm.trans again)
  obtain rfl := Except.ok.inj result
  rw [same]
  refine ⟨rfl, ?_⟩
  rw [← rendering_accepted]
  constructor
  · intro saving
    obtain ⟨_, _, more⟩ := saving
    obtain ⟨_, known, accepted, -⟩ := Service.replace_yields _ _ _ _ _ _ _ more
    exact Except.ok.inj known ▸ accepted
  · intro accepted
    have fits := saved_fits settings id principal text before middle saved calm owned named valid yields
    have held : Owns final.tables principal id := by
      rw [tables]
      exact owns
    obtain ⟨more, after, done, -⟩ := (Service.replace_calm settings id principal final last held _ named accepted).1
      (rendering_fits settings text valid accepted fits)
    exact ⟨more, after, done⟩

-- The canonical text of a document that is accepted has no errors and declares the same, and is accepted itself where it is
-- not too long. So is the text that a replacement has stored.
theorem canonical_text_accepted_within_limit (settings : Settings) (text canonical : String)
    (done : (formatted settings text).1 = some canonical) :
    ((Schema.parse settings.source.identifier canonical.toList).errors = [] ∧
      (Schema.parse settings.source.identifier canonical.toList).entities.map Entity.unplaced =
        (validate settings text).entities.map Entity.unplaced) ∧
    ((validate settings canonical).isValid = true ↔ (canonical.utf8ByteSize : Int) ≤ settings.source.maxBytes) ∧
    ((validate settings canonical).isValid = true →
      (validate settings canonical).entities.map Entity.unplaced = (validate settings text).entities.map Entity.unplaced) ∧
    ((validate settings canonical).isValid = false →
      (validate settings canonical).errors = [⟨0, .tooLarge canonical.utf8ByteSize settings.source.maxBytes⟩]) ∧
    ∀ id principal before middle final saved stored, Keyed before.tables → Calm before →
      Yields (Service.replaceSchema (.ok settings) id text (some principal)) before saved middle →
      Yields (Service.getSchema (.ok settings) id (some principal)) middle stored final →
      stored.1 = canonical ∧
        ((∃ again after, Yields (Service.replaceSchema (.ok settings) id stored.1 (some principal)) final again after) ↔
          (canonical.utf8ByteSize : Int) ≤ settings.source.maxBytes) := by
  obtain ⟨valid, rfl⟩ := formatted_canonical settings text canonical done
  have accepted := rendering_accepted settings text
  have declared := rendering_read settings.source.identifier text
  rw [← valid_parse settings text valid] at declared
  refine ⟨declared, accepted, fun fine => ?_, fun refused => ?_, ?_⟩
  · rw [valid_parse settings _ fine]
    exact declared.2
  · apply validate_beyond
    intro within
    rw [accepted.mpr within] at refused
    cases refused
  · intro id principal before middle final saved stored keyed calm yields got
    obtain ⟨same, again⟩ :=
      saved_text_saved_again settings id principal text before middle final saved stored keyed calm yields got
    rw [same] at again ⊢
    exact ⟨rfl, again⟩

theorem nested_text_saved_again :
    (formatted {} nestedText).1 = some (rendering "id" nestedText) ∧
      (validate {} (rendering "id" nestedText)).isValid = true ∧
      ∃ saved middle stored final, Yields (Service.replaceSchema (.ok {}) 1 nestedText (some "ann")) newShop saved middle ∧
        Yields (Service.getSchema (.ok {}) 1 (some "ann")) middle stored final ∧ stored.1 = rendering "id" nestedText ∧
        ∃ again after, Yields (Service.replaceSchema (.ok {}) 1 stored.1 (some "ann")) final again after := by
  have formats : (formatted {} nestedText).1 = some (rendering "id" nestedText) := by decide +kernel
  have within : ((rendering "id" nestedText).utf8ByteSize : Int) ≤ 262144 := by decide +kernel
  obtain ⟨-, accepted, -, -, stays⟩ := canonical_text_accepted_within_limit {} nestedText _ formats
  obtain ⟨saved, middle, yields, calm⟩ :=
    (Service.replace_calm {} 1 "ann" newShop rfl new_shop_owned nestedText (by decide) nested_text_valid).1 nested_text_fits
  obtain ⟨stored, final, got, -⟩ :=
    Service.replaced_read {} 1 "ann" nestedText newShop middle saved new_shop_keyed (by decide) new_shop_owned calm yields
  obtain ⟨same, again⟩ := stays 1 "ann" newShop middle final saved stored new_shop_keyed rfl yields got
  exact ⟨formats, accepted.mpr within, saved, middle, stored, final, yields, got, same, again.mpr within⟩

-- A text of just the size that is allowed, whose canonical text is longer.
theorem canonical_text_may_be_refused :
    (formatted { source := { maxBytes := 10 } } "entity A\x7b\x7d").1 = some "entity A \x7b\n\x7d\n" ∧
      (validate { source := { maxBytes := 10 } } "entity A \x7b\n\x7d\n").isValid = false := by decide +kernel

end Schematic
