import Schematic.Config.Pool
import Schematic.Proofs.Text.Pieces
import Mathlib.Tactic.ByContra

set_option autoImplicit false

namespace Schematic

open Text

def assignment (pair : List Char × List Char) : List Char := pair.1 ++ '=' :: pair.2

inductive Carrier where
  -- An address whose user is followed by the password.
  | address (scheme user rest : List Char)
  -- An address, perhaps with a user, among whose parameters the password is.
  | parameter (scheme : List Char) (user : Option (List Char)) (location : List Char) (before after : List (List Char × List Char))
  -- A string of keywords among which the password is.
  | keyword (before after : List (List Char × List Char))

namespace Carrier

def named : List Char := "password=".toList

def ahead : Carrier → List Char
  | address scheme user _ => scheme ++ "://".toList ++ user ++ [':']
  | parameter scheme user location before _ =>
      scheme ++ "://".toList ++ (user.elim [] (· ++ ['@'])) ++ location ++ ['?'] ++
        before.flatMap (fun pair => assignment pair ++ ['&']) ++ named
  | keyword before _ => before.flatMap (fun pair => assignment pair ++ [' ']) ++ named

def behind : Carrier → List Char
  | address _ _ rest => '@' :: rest
  | parameter _ _ _ _ after => after.flatMap fun pair => '&' :: assignment pair
  | keyword _ after => after.flatMap fun pair => ' ' :: assignment pair

def filled (carrier : Carrier) (password : List Char) : String :=
  String.ofList (carrier.ahead ++ password ++ carrier.behind)

-- Passwords of some kind are not told apart, by what is shown of the connection string or by what a new pool logs.
def Hides (carrier : Carrier) (kind : List Char → Prop) : Prop :=
  ∀ p q, kind p → kind q → maskConnection (carrier.filled p) = maskConnection (carrier.filled q) ∧
    ∀ (known : Except NumberFault Settings) (environment : Environment) (request : PoolRequest) (pools : Pools),
      (Pools.start known environment { request with connection := carrier.filled p } pools).map Pools.log =
        (Pools.start known environment { request with connection := carrier.filled q } pools).map Pools.log

end Carrier

def afterLast (text : List Char) : List Char := (splitOn '@' text).getLastD []

theorem split_on_joined (separator : Char) (a b : List Char) :
    ∃ front last first rest, splitOn separator a = front ++ [last] ∧ splitOn separator b = first :: rest ∧
      splitOn separator (a ++ b) = front ++ (last ++ first) :: rest := by
  obtain ⟨first, rest, parts⟩ := split_on_cons separator b
  induction a with
  | nil => exact ⟨[], [], first, rest, rfl, parts, parts⟩
  | cons c a ih =>
      obtain ⟨front, last, first, rest, here, there, joined⟩ := ih
      rw [List.cons_append, splitOn, splitOn, here, joined]
      split
      · exact ⟨[] :: front, last, first, rest, rfl, there, rfl⟩
      · cases front with
        | nil => exact ⟨[], c :: last, first, rest, rfl, there, rfl⟩
        | cons piece front => exact ⟨(c :: piece) :: front, last, first, rest, rfl, there, rfl⟩

theorem split_on_present (separator : Char) (text first : List Char) (rest : List (List Char)) (present : separator ∈ text)
    (parts : splitOn separator text = first :: rest) : rest ≠ [] := by
  rintro rfl
  have whole : text = first := by
    have joined := join_split_on separator text
    rw [parts] at joined
    exact joined.symm
  exact (mem_split_on separator separator text first (by rw [parts]; exact List.mem_cons_self) (whole ▸ present)).2 rfl

theorem after_last_present (a b : List Char) (present : '@' ∈ b) : afterLast (a ++ b) = afterLast b := by
  obtain ⟨front, last, first, rest, -, parts, joined⟩ := split_on_joined '@' a b
  rcases List.eq_nil_or_concat rest with none | ⟨inner, final, rfl⟩
  · exact absurd none (split_on_present '@' b first rest present parts)
  · have whole : front ++ (last ++ first) :: inner.concat final = (front ++ (last ++ first) :: inner) ++ [final] := by simp
    rw [afterLast, afterLast, joined, parts, whole, List.concat_eq_append, ← List.cons_append, List.getLastD_concat,
      List.getLastD_concat]

theorem after_last_absent (a b : List Char) (absent : '@' ∉ b) : afterLast (a ++ b) = afterLast a ++ b := by
  obtain ⟨front, last, first, rest, here, parts, joined⟩ := split_on_joined '@' a b
  rw [split_on_absent '@' b absent] at parts
  obtain ⟨rfl, rfl⟩ := List.cons.inj parts
  rw [afterLast, afterLast, joined, here, List.getLastD_concat, List.getLastD_concat]

-- Where a word is first found does not depend on what follows some place at which it stands.
theorem before_word_fixed (word front : List Char) (some : word ≠ []) :
    ∃ kept, ∀ rest, beforeWord? word (front ++ word ++ rest) = Option.some kept := by
  induction front with
  | nil =>
      obtain ⟨c, tail, rfl⟩ := List.exists_cons_of_ne_nil some
      refine ⟨[], fun rest => ?_⟩
      have here : (c :: tail).isPrefixOf (c :: (tail ++ rest)) = true :=
        List.isPrefixOf_iff_prefix.mpr (List.prefix_append (c :: tail) rest)
      rw [List.nil_append, List.cons_append, beforeWord?, if_pos here]
  | cons c front ih =>
      obtain ⟨kept, found⟩ := ih
      have fixed : ∀ rest, word.isPrefixOf (c :: (front ++ word ++ rest)) = true ↔ word <+: c :: (front ++ word) := by
        intro rest
        have start : c :: (front ++ word) <+: c :: (front ++ word ++ rest) := List.prefix_append (c :: (front ++ word)) rest
        have short : word.length ≤ (c :: (front ++ word)).length := by
          simp only [List.length_cons, List.length_append]
          omega
        rw [List.isPrefixOf_iff_prefix]
        exact ⟨fun longer => List.prefix_of_prefix_length_le longer start short, fun shorter => shorter.trans start⟩
      by_cases here : word <+: c :: (front ++ word)
      · refine ⟨[], fun rest => ?_⟩
        rw [List.cons_append, List.cons_append, beforeWord?, if_pos ((fixed rest).mpr here)]
      · refine ⟨c :: kept, fun rest => ?_⟩
        rw [List.cons_append, List.cons_append, beforeWord?, if_neg (mt (fixed rest).mp here), found rest]
        rfl

theorem mask_present (text : List Char) (present : '@' ∈ text) :
    maskConnection (String.ofList text) = String.ofList (afterLast text) := by
  rw [maskConnection, String.toList_ofList, if_pos (List.contains_iff_mem.mpr present), afterLast]

theorem mask_absent (text kept : List Char) (absent : '@' ∉ text) (found : beforeWord? Carrier.named text = some kept) :
    maskConnection (String.ofList text) = String.ofList kept ++ "password=***" := by
  have plain : ¬ text.contains '@' = true := mt List.contains_iff_mem.mp absent
  unfold Carrier.named at found
  simp only [maskConnection, String.toList_ofList, if_neg plain, found]

namespace Carrier

variable (carrier : Carrier)

theorem behind_or_named : '@' ∈ carrier.behind ∨ ∃ lead, carrier.ahead = lead ++ named := by
  cases carrier with
  | address scheme user rest => exact .inl List.mem_cons_self
  | parameter scheme user location before after => exact .inr ⟨_, rfl⟩
  | keyword before after => exact .inr ⟨_, rfl⟩

theorem mask_behind (password : List Char) (present : '@' ∈ carrier.behind) :
    maskConnection (carrier.filled password) = String.ofList (afterLast carrier.behind) := by
  rw [filled, mask_present _ (List.mem_append_right _ present), after_last_present _ _ present]

theorem mask_inside (password : List Char) (absent : '@' ∉ carrier.behind) (present : '@' ∈ password) :
    maskConnection (carrier.filled password) = String.ofList (afterLast password ++ carrier.behind) := by
  rw [filled, mask_present _ (by simp [present]), after_last_absent _ _ absent, after_last_present _ _ present]

theorem mask_ahead (password : List Char) (absent : '@' ∉ carrier.behind) (plain : '@' ∉ password) (present : '@' ∈ carrier.ahead) :
    maskConnection (carrier.filled password) = String.ofList (afterLast carrier.ahead ++ password ++ carrier.behind) := by
  rw [filled, mask_present _ (by simp [present]), after_last_absent _ _ absent, after_last_absent _ _ plain]

theorem mask_nowhere (behind : '@' ∉ carrier.behind) (ahead : '@' ∉ carrier.ahead) :
    ∃ kept, ∀ password, '@' ∉ password →
      maskConnection (carrier.filled password) = String.ofList kept ++ "password=***" := by
  obtain ⟨lead, word⟩ := carrier.behind_or_named.resolve_left behind
  obtain ⟨kept, found⟩ := before_word_fixed named lead (by decide)
  refine ⟨kept, fun password plain => ?_⟩
  rw [filled]
  refine mask_absent _ kept (by simp [ahead, plain, behind]) ?_
  rw [word, List.append_assoc]
  exact found _

theorem filled_some (password : List Char) : carrier.filled password ≠ "" := by
  intro empty
  have none : carrier.ahead ++ password ++ carrier.behind = [] := by
    rw [← String.toList_ofList (l := carrier.ahead ++ password ++ carrier.behind), ← filled, empty]
    rfl
  obtain ⟨front, behind⟩ := List.append_eq_nil_iff.mp none
  obtain ⟨ahead, -⟩ := List.append_eq_nil_iff.mp front
  rcases carrier.behind_or_named with present | ⟨lead, word⟩
  · rw [behind] at present
    simp at present
  · rw [ahead] at word
    exact absurd (List.append_eq_nil_iff.mp word.symm).2 (by decide)

theorem log_masked (a b : String) (first : a ≠ "") (second : b ≠ "") (same : maskConnection a = maskConnection b)
    (known : Except NumberFault Settings) (environment : Environment) (request : PoolRequest) (pools : Pools) :
    (Pools.start known environment { request with connection := a } pools).map Pools.log =
      (Pools.start known environment { request with connection := b } pools).map Pools.log := by
  unfold Pools.start
  by_cases present : pools.current.isSome
  · simp only [present, if_true]
  · simp only [present, if_neg first, if_neg second, same]
    cases known <;> rfl

theorem hides_of_mask (kind : List Char → Prop)
    (same : ∀ p q, kind p → kind q → maskConnection (carrier.filled p) = maskConnection (carrier.filled q)) : carrier.Hides kind :=
  fun p q first second =>
    ⟨same p q first second, log_masked _ _ (carrier.filled_some p) (carrier.filled_some q) (same p q first second)⟩

theorem hides_before (present : '@' ∈ carrier.behind) (kind : List Char → Prop) : carrier.Hides kind :=
  carrier.hides_of_mask kind fun p q _ _ => (carrier.mask_behind p present).trans (carrier.mask_behind q present).symm

end Carrier

def ConnectionParts.carrier (parts : ConnectionParts) : Carrier :=
  .address "postgresql".toList parts.user.toList
    (parts.host.toList ++ ':' :: parts.port.toList ++ '/' :: parts.database.toList ++ "?sslmode=".toList ++ parts.sslMode.toList)

theorem render_filled (parts : ConnectionParts) : parts.render = parts.carrier.filled parts.password.toList := by
  have scheme : "postgresql://".toList = "postgresql".toList ++ "://".toList := by decide
  have colon : ":".toList = [':'] := rfl
  have mark : "@".toList = ['@'] := rfl
  have slash : "/".toList = ['/'] := rfl
  rw [← String.toList_inj, Carrier.filled, String.toList_ofList]
  unfold ConnectionParts.render ConnectionParts.carrier Carrier.ahead Carrier.behind
  -- The literals are put aside, lest they be taken apart.
  generalize "postgresql://" = opening at scheme ⊢
  generalize ":" = colons at colon ⊢
  generalize "@" = marks at mark ⊢
  generalize "/" = slashes at slash ⊢
  generalize "?sslmode=" = question
  simp only [String.toList_append, scheme, colon, mark, slash, List.append_assoc, List.cons_append, List.nil_append]

theorem made_connection_hides (parts : ConnectionParts) :
    parts.render = parts.carrier.filled parts.password.toList ∧ parts.carrier.Hides fun _ => True := by
  have present : '@' ∈ parts.carrier.behind := by
    rw [ConnectionParts.carrier, Carrier.behind]
    exact List.mem_cons_self
  exact ⟨render_filled parts, parts.carrier.hides_before present _⟩

-- A password is hidden just where an at sign follows it, as in the user's part of an address; one without an at sign is hidden
-- as well where none stands in front of it. Where it is not hidden, it is shown whole if it has no at sign.
theorem password_hidden_iff (carrier : Carrier) :
    (carrier.Hides (fun _ => True) ↔ '@' ∈ carrier.behind) ∧
      (carrier.Hides ('@' ∉ ·) ↔ '@' ∈ carrier.behind ∨ '@' ∉ carrier.ahead) ∧
      ∀ password, '@' ∉ password → '@' ∈ carrier.ahead → '@' ∉ carrier.behind →
        ∃ shown, maskConnection (carrier.filled password) = String.ofList (shown ++ password ++ carrier.behind) := by
  refine ⟨⟨fun hides => ?_, fun present => ?_⟩, ⟨fun hides => ?_, fun either => ?_⟩, fun password plain ahead behind => ?_⟩
  · by_contra absent
    have same := (hides ['@'] ['@', 'x'] trivial trivial).1
    rw [carrier.mask_inside _ absent (by simp), carrier.mask_inside _ absent (by simp)] at same
    have lengths := congrArg List.length (String.ofList_inj.mp same)
    simp [afterLast, splitOn, consFirst] at lengths
  · exact carrier.hides_before present _
  · by_contra neither
    obtain ⟨behind, ahead⟩ := not_or.mp neither
    have present : '@' ∈ carrier.ahead := not_not.mp ahead
    have same := (hides [] ['x'] (by simp) (by simp)).1
    rw [carrier.mask_ahead _ behind (by simp) present, carrier.mask_ahead _ behind (by simp) present] at same
    have lengths := congrArg List.length (String.ofList_inj.mp same)
    simp at lengths
  · by_cases behind : '@' ∈ carrier.behind
    · exact carrier.hides_before behind _
    · obtain ⟨kept, shown⟩ := carrier.mask_nowhere behind (either.resolve_left behind)
      exact carrier.hides_of_mask _ fun p q first second => (shown p first).trans (shown q second).symm
  · exact ⟨_, carrier.mask_ahead password behind plain ahead⟩

def roleAddress : Carrier := .parameter "postgresql".toList (some "ann".toList) "db/app".toList [] []

theorem parameter_password_shown :
    roleAddress.filled "secret".toList = "postgresql://ann@db/app?password=secret" ∧
      maskConnection (roleAddress.filled "secret".toList) = "db/app?password=secret" ∧
        ¬ ∀ carrier : Carrier, carrier.Hides fun _ => True := by
  have whole : roleAddress.filled "secret".toList = "postgresql://ann@db/app?password=secret" := by decide +kernel
  have shown : maskConnection (roleAddress.filled "secret".toList) = "db/app?password=secret" := by decide +kernel
  refine ⟨whole, shown, fun hides => ?_⟩
  have same := (hides roleAddress "secret".toList "other".toList trivial trivial).1
  exact absurd same (by decide +kernel)

end Schematic
