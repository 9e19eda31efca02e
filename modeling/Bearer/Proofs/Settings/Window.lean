import Bearer.Proofs.Token.RoundTrip
import Bearer.Settings.Basic

/-!
# Spans of time in the settings

The window in which failed logins are counted is set in whole seconds, of which there has to be one
at least. Sixty-four bits are the only bound above. The lifetime of a token is set in the same way,
and is bounded by thirty days.

Main statements: `window_of_load` and `loadLifetime_eq_ok_iff`. The settings of `sampleEnvironment`
are loaded with any such window.
-/

namespace Bearer

/-- A computation that can fail succeeds with each of its steps. -/
theorem Except.bind_eq_ok_iff {ε α β : Type} {x : Except ε α} {f : α → Except ε β} {b : β} :
    (x >>= f) = .ok b ↔ ∃ a, x = .ok a ∧ f a = .ok b := by
  cases x with
  | error e => exact iff_of_false nofun (fun ⟨_, h, _⟩ => nomatch h)
  | ok a => exact ⟨fun h => ⟨a, rfl, h⟩, fun ⟨_, rfl, h⟩ => h⟩

namespace Settings

variable {env : Environment} {settings : Settings} {name : String} {n default : Nat}

/-- The number of seconds that the variable of the window gives, or six hundred. -/
def windowSeconds (env : Environment) : Except Fault Nat :=
  env.optional "LOGIN_LOCKOUT_SECONDS" (Environment.readNumber UInt64.size) 600

/-- The number of seconds that the variable of the lifetime gives, or an hour. -/
def lifetimeSeconds (env : Environment) : Except Fault Nat :=
  env.optional "JWT_TTL" (Environment.readNumber UInt64.size) 3600

/-- A number that is read below a limit is below it. -/
theorem readDigits_lt {limit value n : Nat} {cs : List Char} (hvalue : value < limit)
    (h : Text.Decimal.readDigits limit value cs = .ok n) : n < limit := by
  induction cs generalizing value with
  | nil =>
    cases h
    exact hvalue
  | cons c cs ih =>
    simp only [Text.Decimal.readDigits] at h
    split at h
    · split at h
      · next hlt => exact ih hlt h
      · cases h
    · cases h

/-- A number that is read is below its limit. -/
theorem unsigned?_lt {limit n : Nat} {cs : List Char} (hlimit : 0 < limit)
    (h : Text.Decimal.unsigned? limit cs = .ok n) : n < limit := by
  unfold Text.Decimal.unsigned? at h
  split at h
  · cases h
  · cases h
  · exact readDigits_lt hlimit h
  · exact readDigits_lt hlimit h

/-- A number that is taken or stands for a missing one fits into a word. -/
theorem optional_lt (hdefault : default < UInt64.size)
    (h : env.optional name (Environment.readNumber UInt64.size) default = .ok n) :
    n < UInt64.size := by
  unfold Environment.optional at h
  split at h
  · next text _ =>
    unfold Environment.readNumber at h
    cases hread : Text.Decimal.unsigned? UInt64.size (Text.trimChars text.toList) with
    | ok m =>
      rw [hread] at h
      cases h
      exact unsigned?_lt (by decide) hread
    | error fault =>
      rw [hread] at h
      cases h
  · cases h
    exact hdefault

/-- A number that has to be positive is loaded exactly if it is taken and not zero. -/
theorem positive_eq_ok_iff :
    positive env name default = .ok n ↔
      env.optional name (Environment.readNumber UInt64.size) default = .ok n ∧ 0 < n := by
  rw [positive, Except.bind_eq_ok_iff]
  constructor
  · rintro ⟨m, hread, h⟩
    by_cases hzero : m = 0
    · rw [if_pos hzero] at h
      cases h
    · rw [if_neg hzero] at h
      cases h
      exact ⟨hread, Nat.pos_of_ne_zero hzero⟩
  · rintro ⟨hread, hpos⟩
    refine ⟨n, hread, ?_⟩
    rw [if_neg (Nat.ne_of_gt hpos)]
    rfl

/-- A lifetime that is accepted is a second at least, and thirty days at most. -/
theorem loadLifetime_eq_ok_iff :
    loadLifetime env = .ok n ↔ lifetimeSeconds env = .ok n ∧ 0 < n ∧ n ≤ maxLifetime := by
  rw [loadLifetime, Except.bind_eq_ok_iff, ← and_assoc]
  constructor
  · rintro ⟨m, hread, h⟩
    by_cases hmany : maxLifetime < m
    · rw [if_pos hmany] at h
      cases h
    · rw [if_neg hmany] at h
      cases h
      exact ⟨positive_eq_ok_iff.mp hread, Nat.le_of_not_lt hmany⟩
  · rintro ⟨hread, hbounded⟩
    refine ⟨n, positive_eq_ok_iff.mpr hread, ?_⟩
    rw [if_neg (Nat.not_lt.mpr hbounded)]
    rfl

/-- Settings are loaded with their part on authentication. -/
theorem auth_of_load (h : load env = .ok settings) : Auth.load env = .ok settings.auth := by
  simp only [load, Except.bind_eq_ok_iff] at h
  obtain ⟨_, -, _, -, _, -, auth, hauth, hsettings⟩ := h
  cases hsettings
  exact hauth

/-- The window of loaded settings is the number of seconds that was set, at least one. -/
theorem window_of_load (h : load env = .ok settings) :
    ∃ n, windowSeconds env = .ok n ∧ 0 < n ∧ n < UInt64.size ∧
      settings.auth.window = Duration.ofSeconds n := by
  have hauth := auth_of_load h
  generalize settings.auth = auth at hauth ⊢
  simp only [Auth.load, Except.bind_eq_ok_iff] at hauth
  obtain ⟨_, -, _, -, _, -, n, hn, _, -, _, -, _, -, hauth⟩ := hauth
  cases hauth
  obtain ⟨hread, hpos⟩ := positive_eq_ok_iff.mp hn
  exact ⟨n, hread, hpos, optional_lt (by decide) hread, rfl⟩

/-! ## Settings to try things with -/

/-- A variable whose bytes are those of a text has that text. -/
theorem text?_of_lookup {text : String} (h : env.lookup name = some (Text.utf8 text)) :
    env.text? name = .ok text := by
  rw [Environment.text?, h]
  simp only [Text.ofUtf8?_utf8]

/-- Variables that set a window, and otherwise only what is needed. -/
def sampleEnvironment (window : String) : Environment :=
  [("DATABASE_URL", Text.utf8 "postgres://localhost/bearer"),
    ("REDIS_URL", Text.utf8 "redis://localhost:6379"),
    ("JWT_SECRET", Token.sampleSecret.bytes),
    ("LOGIN_LOCKOUT_SECONDS", Text.utf8 window)]

variable {window : String}

/-- The window of the sample environment is the number in its text. -/
theorem windowSeconds_sampleEnvironment
    (h : Text.Decimal.unsigned? UInt64.size (Text.trimChars window.toList) = .ok n) :
    windowSeconds (sampleEnvironment window) = .ok n := by
  have htext : (sampleEnvironment window).text? "LOGIN_LOCKOUT_SECONDS" = .ok window :=
    text?_of_lookup rfl
  rw [windowSeconds, Environment.optional, htext]
  simp only [Environment.readNumber, h]
  rfl

/-- The sample environment gives the sample secret. -/
theorem loadSecret_sampleEnvironment :
    loadSecret (sampleEnvironment window) = .ok Token.sampleSecret := by
  have htext : (sampleEnvironment window).text? "JWT_SECRET" =
      .ok "J8Kq2mPvRx4TnZs9YwLcGf7DhBe3Xa6W" :=
    text?_of_lookup rfl
  have hsecret : Secret.ofBytes? (Text.utf8 "J8Kq2mPvRx4TnZs9YwLcGf7DhBe3Xa6W") =
      .ok Token.sampleSecret :=
    Secret.ofBytes?_eq_ok_iff.mpr rfl
  rw [loadSecret, Environment.required, htext, Except.bind_eq_ok_iff]
  refine ⟨_, rfl, ?_⟩
  rw [hsecret]
  rfl

/-- The settings of such variables, with a window of some seconds. -/
def sampleSettings (seconds : Nat) : Settings where
  server := ⟨"0.0.0.0", 8080, 50051, false, false⟩
  database := ⟨"postgres://localhost/bearer", 10⟩
  storeUrl := "redis://localhost:6379"
  auth :=
    { secret := Token.sampleSecret
      lifetime := Duration.ofSeconds 3600
      maxAttempts := 5
      window := Duration.ofSeconds seconds
      onRevocationOutage := .failClosed
      onLockoutOutage := .failOpen
      storeTimeout := Duration.ofMillis 250 }

/-- Every window in sixty-four bits but the empty one is accepted. -/
theorem load_sampleEnvironment
    (h : Text.Decimal.unsigned? UInt64.size (Text.trimChars window.toList) = .ok n)
    (hpos : 0 < n) : load (sampleEnvironment window) = .ok (sampleSettings n) := by
  have hdatabase :
      Database.load (sampleEnvironment window) = .ok (sampleSettings n).database := by
    rw [Database.load, Environment.required, text?_of_lookup rfl]
    rfl
  have hstore : (sampleEnvironment window).required "REDIS_URL" =
      .ok (sampleSettings n).storeUrl := by
    rw [Environment.required, text?_of_lookup rfl]
    rfl
  -- the window is the only setting that varies
  have hwindow : positive (sampleEnvironment window) "LOGIN_LOCKOUT_SECONDS" 600 = .ok n :=
    positive_eq_ok_iff.mpr ⟨windowSeconds_sampleEnvironment h, hpos⟩
  have hauth : Auth.load (sampleEnvironment window) = .ok (sampleSettings n).auth := by
    rw [Auth.load, loadSecret_sampleEnvironment, hwindow]
    rfl
  rw [load, hdatabase, hstore, hauth]
  rfl

end Settings
end Bearer
