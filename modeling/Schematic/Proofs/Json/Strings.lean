import Schematic.Json.Reader
import Schematic.Json.Writer
import Mathlib.Tactic.ByContra

set_option autoImplicit false

namespace Schematic

theorem hex_digits_last (width value : Nat) :
    hexDigits (width + 2) value = hexDigits (width + 1) (value / 16) ++ [Nat.digitChar (value % 16)] := by
  rw [hexDigits, hexDigits]
  by_cases small : value < 16
  · rw [Nat.toDigits_of_lt_base small, Nat.div_eq_of_lt small, Nat.mod_eq_of_lt small, Nat.toDigits_of_lt_base (by decide)]
    simp [List.replicate_succ', Nat.digitChar]
  · rw [Nat.toDigits_of_base_le (by decide) (by omega)]
    simp

theorem hex_digits_one (value : Nat) (small : value < 16) : hexDigits 1 value = [Nat.digitChar value] := by
  rw [hexDigits, Nat.toDigits_of_lt_base small]
  rfl

namespace Json

theorem hex_value_digit : ∀ digit < 16, hexValue? (Nat.digitChar digit) = some digit := by decide

theorem hex_unit_digits (unit : Nat) (small : unit < 0x10000) (next : Char) (rest : List Char) :
    hexUnit? (hexDigits 4 unit ++ next :: rest) = some (unit, next :: rest) := by
  rw [hex_digits_last, hex_digits_last, hex_digits_last, hex_digits_one _ (by omega)]
  simp only [List.cons_append, List.nil_append, hexUnit?]
  rw [hex_value_digit _ (by omega), hex_value_digit _ (by omega), hex_value_digit _ (by omega), hex_value_digit _ (by omega)]
  simp only [Option.bind_eq_bind, Option.bind_some]
  congr 2
  omega

theorem char_codes (c : Char) : c.toNat < 0xD800 ∨ 0xDFFF < c.toNat ∧ c.toNat < 0x110000 := by
  have valid := c.valid
  simp only [UInt32.isValidChar, Nat.isValidChar] at valid
  exact valid

section Escape

variable (start : List Char) (fuel : Nat) (done : List Glyph) (next : Char) (rest : List Char)

theorem read_unit (unit : Nat) (small : unit < 0x10000) :
    readString start (fuel + 1) done (escapeUnit unit ++ next :: rest) =
      readString start fuel ((joinUnits unit (next :: rest)).1 :: done) (joinUnits unit (next :: rest)).2 := by
  rw [escapeUnit, List.cons_append, List.cons_append, readString, hex_unit_digits unit small]

theorem join_plain (c : Char) : joinUnits c.toNat rest = (.char c, rest) := by
  have codes := char_codes c
  rw [joinUnits.eq_def, if_neg (by omega), if_neg (by omega), Char.ofNat_toNat]

theorem join_pair (c : Char) (beyond : 0x10000 ≤ c.toNat) :
    joinUnits (0xD800 + (c.toNat - 0x10000) / 1024) (escapeUnit (0xDC00 + (c.toNat - 0x10000) % 1024) ++ next :: rest) =
      (.char c, next :: rest) := by
  have codes := char_codes c
  have whole : 0x10000 + (0xD800 + (c.toNat - 0x10000) / 1024 - 0xD800) * 1024 +
      (0xDC00 + (c.toNat - 0x10000) % 1024 - 0xDC00) = c.toNat := by omega
  rw [escapeUnit, List.cons_append, List.cons_append, joinUnits, if_pos (by omega)]
  simp only [hex_unit_digits _ (show 0xDC00 + (c.toNat - 0x10000) % 1024 < 0x10000 by omega)]
  rw [if_pos (by omega), whole, Char.ofNat_toNat]

theorem read_escaped (c : Char) :
    readString start (fuel + 1) done (escape c ++ next :: rest) = readString start fuel (.char c :: done) (next :: rest) := by
  rw [escape.eq_def]
  split
  · rfl
  · rfl
  · rfl
  · rfl
  · rfl
  · rfl
  · rfl
  · rename_i mark slash _ _ _ _ _
    by_cases visible : ' ' ≤ c ∧ c ≤ '~'
    · have code : ¬ c.toNat < 32 := Nat.not_lt.mpr visible.1
      rw [if_pos visible, List.singleton_append, readString, if_neg code]
      · exact mark
      · exact fun slashed _ => slash slashed
      · exact fun _ slashed _ => slash slashed
      · exact fun _ _ slashed _ => slash slashed
    · rw [if_neg visible]
      by_cases short : c.toNat < 0x10000
      · rw [if_pos short, read_unit _ _ _ _ _ _ short, join_plain]
      · have codes := char_codes c
        have high : 0xD800 + (c.toNat - 0x10000) / 1024 < 0x10000 := by omega
        rw [if_neg short, List.append_assoc]
        have pair := join_pair next rest c (by omega)
        obtain ⟨mark, tail, parts⟩ : ∃ mark tail, escapeUnit (0xDC00 + (c.toNat - 0x10000) % 1024) ++ next :: rest = mark :: tail := by
          rw [escapeUnit]
          exact ⟨_, _, List.cons_append⟩
        rw [parts] at pair ⊢
        rw [read_unit _ _ _ _ _ _ high, pair]

end Escape

theorem read_string_quoted (start text : List Char) (fuel : Nat) (done : List Glyph) (rest : List Char)
    (enough : text.length < fuel) :
    readString start fuel done (text.flatMap escape ++ '"' :: rest) = .ok (done.reverse ++ text.map .char, rest) := by
  induction text generalizing fuel done with
  | nil =>
      obtain ⟨fuel, rfl⟩ : ∃ spare, fuel = spare + 1 := ⟨fuel - 1, by simp at enough; omega⟩
      rw [List.flatMap_nil, List.nil_append, readString, List.map_nil, List.append_nil]
  | cons c text ih =>
      obtain ⟨fuel, rfl⟩ : ∃ spare, fuel = spare + 1 := ⟨fuel - 1, by simp at enough; omega⟩
      have more : text.length < fuel := by simpa using enough
      obtain ⟨next, tail, parts⟩ : ∃ next tail, text.flatMap escape ++ '"' :: rest = next :: tail := by
        cases text.flatMap escape with
        | nil => exact ⟨_, _, rfl⟩
        | cons d inner => exact ⟨_, _, rfl⟩
      have later := ih fuel (.char c :: done) more
      rw [List.flatMap_cons, List.append_assoc, parts, read_escaped, ← parts, later, List.reverse_cons, List.append_assoc,
        List.singleton_append, List.map_cons]

theorem escaped_length (text : List Char) : text.length ≤ (text.flatMap escape).length := by
  induction text with
  | nil => exact Nat.le_refl 0
  | cons c text ih =>
      have some : 0 < (escape c).length := by
        rw [escape.eq_def]
        split
        all_goals try exact Nat.succ_pos _
        split
        · exact Nat.succ_pos _
        · split <;> exact Nat.succ_pos _
      rw [List.flatMap_cons, List.length_append, List.length_cons]
      omega

theorem read_quoted (start text rest : List Char) :
    readString start ((text.flatMap escape ++ '"' :: rest).length + 1) [] (text.flatMap escape ++ '"' :: rest) =
      .ok (text.map .char, rest) := by
  have length := escaped_length text
  refine read_string_quoted start text _ [] rest ?_
  rw [List.length_append]
  omega

theorem shown_chars (text : List Char) : Glyph.shownText (text.map .char) = String.ofList text := by
  rw [Glyph.shownText, List.map_map]
  exact congrArg String.ofList (List.map_id text)

theorem of_glyphs_chars (text : List Char) : ofGlyphs (text.map .char) = .str (String.ofList text) := by
  have characters : (text.map Glyph.char).mapM Glyph.char? = some text := by
    induction text with
    | nil => rfl
    | cons c text ih => rw [List.map_cons, List.mapM_cons, ih]; rfl
  rw [ofGlyphs, characters]

def textMember (key text : List Char) : List Char :=
  '"' :: (key.flatMap escape ++ '"' :: ':' :: ' ' :: '"' :: (text.flatMap escape ++ ['"', '\x7d']))

theorem read_text_member (fuel : Nat) (key text : List Char) :
    readMembers (fuel + 2) [] (textMember key text) = .ok (.obj [(String.ofList key, .str (String.ofList text))], []) := by
  have value : readValue (fuel + 1) ('"' :: (text.flatMap escape ++ ['"', '\x7d'])) = .ok (.str (String.ofList text), ['\x7d']) := by
    rw [readValue]
    simp only [read_quoted]
    rw [Except.map, of_glyphs_chars]
  have colon : ∀ rest, skipSpace (':' :: rest) = ':' :: rest := fun _ => rfl
  have space : ∀ rest, skipSpace (' ' :: '"' :: rest) = '"' :: rest := fun _ => rfl
  have close : skipSpace ['\x7d'] = ['\x7d'] := rfl
  rw [textMember, readMembers]
  simp only [read_quoted, colon, space, value, close]
  rw [shown_chars]
  rfl

theorem write_text_object (key text : String) :
    (write (.obj [(key, .str text)])).toList = '\x7b' :: textMember key.toList text.toList := by
  have whole : write (.obj [(key, .str text)]) = "\x7b" ++ (quote key ++ ": " ++ quote text) ++ "\x7d" := by
    rw [write, writeMembers, write, writeMembers]
    rfl
  have opening : "\x7b".toList = ['\x7b'] := rfl
  have colon : ": ".toList = [':', ' '] := rfl
  have closing : "\x7d".toList = ['\x7d'] := rfl
  rw [whole]
  generalize "\x7b" = a at opening ⊢
  generalize ": " = b at colon ⊢
  generalize "\x7d" = c at closing ⊢
  simp [quote, textMember, opening, colon, closing]

theorem text_object_read (key text : String) : read (write (.obj [(key, .str text)])).toList = .ok (.obj [(key, .str text)]) := by
  have start : ∀ rest, skipSpace ('\x7b' :: rest) = '\x7b' :: rest := fun _ => rfl
  have mark : skipSpace (textMember key.toList text.toList) = textMember key.toList text.toList := rfl
  have fuel : 2 * ((textMember key.toList text.toList).length + 1) + 2 = 2 * (textMember key.toList text.toList).length + 1 + 2 + 1 := by
    omega
  have member := read_text_member (2 * (textMember key.toList text.toList).length + 1) key.toList text.toList
  rw [String.ofList_toList, String.ofList_toList] at member
  have value : readValue (2 * (textMember key.toList text.toList).length + 1 + 2 + 1) ('\x7b' :: textMember key.toList text.toList) =
      .ok (.obj [(key, .str text)], []) := by
    rw [readValue, mark]
    exact member
  rw [read, write_text_object, start, List.length_cons, fuel, value]
  rfl

end Json

end Schematic
