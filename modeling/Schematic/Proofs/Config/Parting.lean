import Schematic.Proofs.Config.Masking
import Schematic.Proofs.Text.Interleaving

set_option autoImplicit false

namespace Schematic

open Text

namespace ConnectionParts

variable (parts : ConnectionParts)

def location : List Char :=
  interleave parts.host.toList
    [([':'], parts.port.toList), (['/'], parts.database.toList), ("?sslmode=".toList, parts.sslMode.toList)]

def behindUser : List (List Char × List Char) :=
  [([':'], parts.password.toList), (['@'], parts.host.toList), ([':'], parts.port.toList), (['/'], parts.database.toList),
    ("?sslmode=".toList, parts.sslMode.toList)]

-- No value holds a mark that stands beside it.
structure Apart : Prop where
  user : ':' ∉ parts.user.toList
  password : ':' ∉ parts.password.toList ∧ '@' ∉ parts.password.toList
  host : '@' ∉ parts.host.toList ∧ ':' ∉ parts.host.toList
  port : ':' ∉ parts.port.toList ∧ '/' ∉ parts.port.toList
  database : '/' ∉ parts.database.toList ∧ ¬ "?sslmode=".toList <:+: parts.database.toList
  sslMode : ¬ "?sslmode=".toList <:+: parts.sslMode.toList

-- The login holds none of its marks, and nothing behind it can be taken for the end of a password and another location.
structure LoginApart : Prop where
  user : ':' ∉ parts.user.toList
  password : ':' ∉ parts.password.toList ∧ '@' ∉ parts.password.toList
  location : ∀ front (other : ConnectionParts), parts.location ≠ front ++ '@' :: other.location

def environment : Environment :=
  [("POSTGRES_USER", parts.user), ("POSTGRES_PASSWORD", parts.password), ("POSTGRES_HOST", parts.host),
    ("POSTGRES_PORT", parts.port), ("POSTGRES_DB", parts.database), ("POSTGRES_SSLMODE", parts.sslMode)]

theorem environment_unset : parts.environment.lookup "DATABASE_URL" = none := by
  simp [environment, List.lookup_cons]

theorem of_environment : ofEnvironment parts.environment = parts := by
  simp [ofEnvironment, environment, Environment.get, List.lookup_cons]

theorem render_interleaved :
    parts.render.toList = "postgresql".toList ++ "://".toList ++ interleave parts.user.toList parts.behindUser := by
  rw [render_filled, Carrier.filled, String.toList_ofList, carrier, Carrier.ahead, Carrier.behind]
  simp [interleave, behindUser]

theorem behind_user_location :
    interleave parts.user.toList parts.behindUser =
      parts.user.toList ++ [':'] ++ (parts.password.toList ++ '@' :: parts.location) := by
  simp [interleave, behindUser, location]

theorem render_same_iff (other : ConnectionParts) :
    other.render = parts.render ↔
      interleave other.user.toList other.behindUser = interleave parts.user.toList parts.behindUser := by
  rw [← String.toList_inj, render_interleaved, render_interleaved, List.append_cancel_left_eq]

theorem apart_iff : AllParted parts.user.toList parts.behindUser ↔ parts.Apart := by
  have options : Parts "?sslmode=".toList parts.database.toList parts.sslMode.toList ↔
      ¬ "?sslmode=".toList <:+: parts.database.toList ∧ ¬ "?sslmode=".toList <:+: parts.sslMode.toList :=
    parts_iff '?' "sslmode=".toList _ _ (by decide)
  simp only [behindUser, AllParted, letter_parts_iff, options]
  constructor
  · intro all
    obtain ⟨⟨u, p⟩, ⟨q, h⟩, ⟨i, o⟩, ⟨r, d⟩, ⟨e, m⟩, -⟩ := all
    exact ⟨u, ⟨p, q⟩, ⟨h, i⟩, ⟨o, r⟩, ⟨d, e⟩, m⟩
  · intro apart
    exact ⟨⟨apart.user, apart.password.1⟩, ⟨apart.password.2, apart.host.1⟩, ⟨apart.host.2, apart.port.1⟩,
      ⟨apart.port.2, apart.database.1⟩, ⟨apart.database.2, apart.sslMode⟩, trivial⟩

theorem behind_user_made (user : List Char) (values : List (List Char × List Char))
    (marks : values.map Prod.fst = parts.behindUser.map Prod.fst) :
    ∃ other : ConnectionParts, other.user.toList = user ∧ other.behindUser = values := by
  match values, marks with
  | [(_, password), (_, host), (_, port), (_, database), (_, sslMode)], marks =>
      refine ⟨⟨String.ofList user, String.ofList password, String.ofList host, String.ofList port, String.ofList database,
        String.ofList sslMode⟩, String.toList_ofList, ?_⟩
      simp only [behindUser, List.map_cons, List.cons.injEq] at marks
      simp [behindUser, String.toList_ofList, marks]

theorem behind_user_same (other : ConnectionParts) (user : other.user.toList = parts.user.toList)
    (behind : other.behindUser = parts.behindUser) : other = parts := by
  simp only [behindUser, List.cons.injEq, Prod.mk.injEq, true_and, String.toList_inj] at user behind
  obtain ⟨password, host, port, database, sslMode, -⟩ := behind
  cases other
  cases parts
  simp_all

theorem parts_told_iff : (∀ other : ConnectionParts, other.render = parts.render → other = parts) ↔ parts.Apart := by
  rw [← apart_iff, ← interleave_told_iff]
  constructor
  · intro told user values marks same
    obtain ⟨other, rfl, rfl⟩ := parts.behind_user_made user values marks
    rw [told other ((parts.render_same_iff other).mpr same)]
    exact ⟨rfl, rfl⟩
  · intro told other same
    obtain ⟨user, behind⟩ := told other.user.toList other.behindUser rfl ((parts.render_same_iff other).mp same)
    exact parts.behind_user_same other user behind

theorem login_told (apart : parts.LoginApart) (other : ConnectionParts) (same : other.render = parts.render) :
    other.user = parts.user ∧ other.password = parts.password := by
  have colon : Parts [':'] parts.user.toList parts.password.toList :=
    (letter_parts_iff ':' _ _).mpr ⟨apart.user, apart.password.1⟩
  rw [render_same_iff, behind_user_location, behind_user_location] at same
  obtain ⟨gap, shift, ahead, moved, follows⟩ := parts_aligned _ _ _ _ _ _ colon same
  have found : shift ++ other.password.toList = parts.password.toList := by
    rw [← List.append_assoc] at follows
    rcases List.append_eq_append_iff.mp follows with ⟨more, whole, behind⟩ | ⟨more, whole, behind⟩
    · cases more with
      | nil => rw [whole, List.append_nil]
      | cons c more =>
          obtain ⟨rfl, -⟩ := List.cons.inj behind
          exact absurd (by rw [whole]; simp) apart.password.2
    · cases more with
      | nil => rw [whole, List.append_nil]
      | cons c more =>
          obtain ⟨rfl, late⟩ := List.cons.inj behind
          exact absurd late (apart.location more other)
  obtain ⟨rfl, rfl⟩ := parts_unmoved _ _ _ _ _ _ colon moved found
  rw [List.append_nil] at ahead
  exact ⟨String.toList_inj.mp ahead, String.toList_inj.mp found⟩

theorem login_apart
    (told : ∀ other : ConnectionParts, other.render = parts.render → other.user = parts.user ∧ other.password = parts.password) :
    parts.LoginApart := by
  have only : ∀ (other : ConnectionParts) (user password : List Char),
      user ++ [':'] ++ (password ++ '@' :: other.location) =
        parts.user.toList ++ [':'] ++ (parts.password.toList ++ '@' :: parts.location) →
      user = parts.user.toList ∧ password = parts.password.toList := by
    intro other user password same
    obtain ⟨login, secret⟩ := told { other with user := String.ofList user, password := String.ofList password } (by
      rw [render_same_iff, behind_user_location, behind_user_location]
      simpa [location, String.toList_ofList] using same)
    exact ⟨by rw [← login, String.toList_ofList], by rw [← secret, String.toList_ofList]⟩
  have colon : Parts [':'] parts.user.toList parts.password.toList := by
    intro x y same
    refine (only parts x y ?_).1
    rw [← List.append_assoc, same, List.append_assoc]
  obtain ⟨user, password⟩ := (letter_parts_iff ':' _ _).mp colon
  refine ⟨user, ⟨password, fun inside => ?_⟩, fun front other late => ?_⟩
  · obtain ⟨front, back, whole⟩ := List.append_of_mem inside
    have short := (only { parts with host := String.ofList (back ++ '@' :: parts.host.toList) } parts.user.toList front (by
      rw [whole]
      simp [location, interleave, String.toList_ofList])).2
    rw [whole] at short
    simp at short
  · have long := (only other parts.user.toList (parts.password.toList ++ '@' :: front) (by
      rw [late]
      simp)).2
    simp at long

theorem login_told_iff :
    (∀ other : ConnectionParts, other.render = parts.render → other.user = parts.user ∧ other.password = parts.password) ↔
      parts.LoginApart :=
  ⟨parts.login_apart, fun apart other => parts.login_told apart other⟩

end ConnectionParts

theorem unset_connection (environment : Environment) (unset : environment.lookup "DATABASE_URL" = none) :
    connectionString environment = (ConnectionParts.ofEnvironment environment).render := by
  simp [connectionString, Environment.get, unset]

theorem settings_told (environment : Environment) (unset : environment.lookup "DATABASE_URL" = none)
    (alike : ConnectionParts → Prop) :
    (∀ other : Environment, other.lookup "DATABASE_URL" = none → connectionString other = connectionString environment →
        alike (.ofEnvironment other)) ↔
      ∀ other : ConnectionParts, other.render = (ConnectionParts.ofEnvironment environment).render → alike other := by
  rw [unset_connection environment unset]
  constructor
  · intro told other same
    have known := told other.environment other.environment_unset (by
      rw [unset_connection _ other.environment_unset, other.of_environment, same])
    rwa [other.of_environment] at known
  · intro told other free same
    exact told _ (by rw [← unset_connection other free, same])

-- Without a connection string given as a whole, the settings can be told from the one that is made of them just where no value
-- holds a mark that stands beside it. The user and the password can be told just where they hold none of their marks, and what
-- follows them does not read as the rest of a password and another location.
theorem connection_told_iff (environment : Environment) (unset : environment.lookup "DATABASE_URL" = none) :
    ((∀ other : Environment, other.lookup "DATABASE_URL" = none → connectionString other = connectionString environment →
        ConnectionParts.ofEnvironment other = .ofEnvironment environment) ↔
      (ConnectionParts.ofEnvironment environment).Apart) ∧
    ((∀ other : Environment, other.lookup "DATABASE_URL" = none → connectionString other = connectionString environment →
        (ConnectionParts.ofEnvironment other).user = (ConnectionParts.ofEnvironment environment).user ∧
          (ConnectionParts.ofEnvironment other).password = (ConnectionParts.ofEnvironment environment).password) ↔
      (ConnectionParts.ofEnvironment environment).LoginApart) := by
  constructor
  · rw [settings_told environment unset (· = .ofEnvironment environment)]
    exact ConnectionParts.parts_told_iff _
  · rw [settings_told environment unset fun other =>
      other.user = (ConnectionParts.ofEnvironment environment).user ∧
        other.password = (ConnectionParts.ofEnvironment environment).password]
    exact ConnectionParts.login_told_iff _

def plainEnvironment : Environment :=
  [("POSTGRES_USER", "ann"), ("POSTGRES_PASSWORD", "secret"), ("POSTGRES_HOST", "db.local")]

-- The host holds colons, so that the port may begin at another one of them.
def numericEnvironment : Environment :=
  [("POSTGRES_USER", "ann"), ("POSTGRES_PASSWORD", "secret"), ("POSTGRES_HOST", "[::1]")]

theorem plain_connection_told :
    plainEnvironment.lookup "DATABASE_URL" = none ∧
      (∀ other : Environment, other.lookup "DATABASE_URL" = none → connectionString other = connectionString plainEnvironment →
        ConnectionParts.ofEnvironment other = .ofEnvironment plainEnvironment) ∧
      numericEnvironment.lookup "DATABASE_URL" = none ∧
      (¬ ∀ other : Environment, other.lookup "DATABASE_URL" = none →
        connectionString other = connectionString numericEnvironment →
          ConnectionParts.ofEnvironment other = .ofEnvironment numericEnvironment) ∧
      ∀ other : Environment, other.lookup "DATABASE_URL" = none →
        connectionString other = connectionString numericEnvironment →
          (ConnectionParts.ofEnvironment other).user = "ann" ∧ (ConnectionParts.ofEnvironment other).password = "secret" := by
  have plain : plainEnvironment.lookup "DATABASE_URL" = none := by decide
  have numeric : numericEnvironment.lookup "DATABASE_URL" = none := by decide
  have apart : (ConnectionParts.ofEnvironment plainEnvironment).Apart :=
    ⟨by decide, by decide, by decide, by decide, by decide, by decide⟩
  have joined : ¬ (ConnectionParts.ofEnvironment numericEnvironment).Apart :=
    fun apart => absurd apart.host.2 (by decide)
  have login : (ConnectionParts.ofEnvironment numericEnvironment).LoginApart := by
    refine ⟨by decide, by decide, fun front other late => ?_⟩
    have absent : '@' ∉ (ConnectionParts.ofEnvironment numericEnvironment).location := by decide
    rw [late] at absent
    simp at absent
  exact ⟨plain, (connection_told_iff plainEnvironment plain).1.mpr apart, numeric,
    mt (connection_told_iff numericEnvironment numeric).1.mp joined, (connection_told_iff numericEnvironment numeric).2.mpr login⟩

-- A password with an at sign, and the settings that a reader may take it for.
def signedEnvironment : Environment :=
  [("POSTGRES_USER", "ann"), ("POSTGRES_PASSWORD", "p@ss"), ("POSTGRES_HOST", "db")]

def mistakenEnvironment : Environment :=
  [("POSTGRES_USER", "ann"), ("POSTGRES_PASSWORD", "p"), ("POSTGRES_HOST", "ss@db")]

theorem password_taken_for_host :
    signedEnvironment.lookup "DATABASE_URL" = none ∧ mistakenEnvironment.lookup "DATABASE_URL" = none ∧
      connectionString signedEnvironment = "postgresql://ann:p@ss@db:5432/postgres?sslmode=prefer" ∧
      connectionString mistakenEnvironment = "postgresql://ann:p@ss@db:5432/postgres?sslmode=prefer" ∧
      (ConnectionParts.ofEnvironment signedEnvironment).password ≠ (ConnectionParts.ofEnvironment mistakenEnvironment).password ∧
      (¬ ∀ a b : Environment, a.lookup "DATABASE_URL" = none → b.lookup "DATABASE_URL" = none →
        ConnectionParts.ofEnvironment a ≠ .ofEnvironment b → connectionString a ≠ connectionString b) ∧
      ¬ ∃ read : String → String, ∀ environment : Environment, environment.lookup "DATABASE_URL" = none →
        read (connectionString environment) = (ConnectionParts.ofEnvironment environment).password := by
  have signed : signedEnvironment.lookup "DATABASE_URL" = none := by decide
  have mistaken : mistakenEnvironment.lookup "DATABASE_URL" = none := by decide
  have first : connectionString signedEnvironment = "postgresql://ann:p@ss@db:5432/postgres?sslmode=prefer" := by
    decide +kernel
  have second : connectionString mistakenEnvironment = "postgresql://ann:p@ss@db:5432/postgres?sslmode=prefer" := by
    decide +kernel
  have other : (ConnectionParts.ofEnvironment signedEnvironment).password ≠
      (ConnectionParts.ofEnvironment mistakenEnvironment).password := by decide
  refine ⟨signed, mistaken, first, second, other, fun apart => ?_, fun readable => ?_⟩
  · have different := fun same => other (congrArg ConnectionParts.password same)
    exact apart _ _ signed mistaken different (first.trans second.symm)
  · obtain ⟨read, reads⟩ := readable
    have one := reads signedEnvironment signed
    have two := reads mistakenEnvironment mistaken
    rw [first] at one
    rw [second] at two
    exact other (one.symm.trans two)

end Schematic
