import Bearer.Proofs.Settings.Window

/-!
# Settings that need not be given

Twelve settings have a default, which holds when their variable is not set. Settings are loaded
exactly if the three variables that are needed are good and each of the twelve has a value; then
these values are what is loaded.

A variable whose bytes are no text counts as one that is not set. So a setting is heeded, which is
to say that it is loaded if it is valid and refused otherwise, as long as its bytes are text.

Main statements: `load_eq_ok_iff`, `heeded_iff`; `garbled_setting_ignored` shows a policy that is
set and does not hold.
-/

namespace Bearer.Settings

/-- The settings whose variables need not be set. -/
inductive Choice where
  | host
  | httpPort
  | rpcPort
  | secure
  | trustForwarded
  | maxConnections
  | lifetime
  | maxAttempts
  | window
  | onRevocationOutage
  | onLockoutOutage
  | storeTimeout

namespace Choice

/-- The name of the variable. -/
def name : Choice → String
  | host => "SERVER_HOST"
  | httpPort => "HTTP_PORT"
  | rpcPort => "GRPC_PORT"
  | secure => "HTTPS_ENABLED"
  | trustForwarded => "TRUST_FORWARDED_HEADERS"
  | maxConnections => "DATABASE_MAX_CONNECTIONS"
  | lifetime => "JWT_TTL"
  | maxAttempts => "LOGIN_MAX_ATTEMPTS"
  | window => "LOGIN_LOCKOUT_SECONDS"
  | onRevocationOutage => "REVOCATION_FAILURE_MODE"
  | onLockoutOutage => "THROTTLE_FAILURE_MODE"
  | storeTimeout => "STORE_TIMEOUT_MS"

@[reducible]
def Value : Choice → Type
  | host => String
  | httpPort | rpcPort => UInt16
  | secure | trustForwarded => Bool
  | maxConnections => UInt32
  | lifetime | window | storeTimeout => Duration
  | maxAttempts => UInt64
  | onRevocationOutage | onLockoutOutage => OutagePolicy

/-- What holds when the variable is not set. -/
def default : (choice : Choice) → choice.Value
  | host => "0.0.0.0"
  | httpPort => (8080 : UInt16)
  | rpcPort => (50051 : UInt16)
  | secure => false
  | trustForwarded => false
  | maxConnections => (10 : UInt32)
  | lifetime => Duration.ofSeconds 3600
  | maxAttempts => (5 : UInt64)
  | window => Duration.ofSeconds 600
  | onRevocationOutage => OutagePolicy.failClosed
  | onLockoutOutage => OutagePolicy.failOpen
  | storeTimeout => Duration.ofMillis 250

/-- What settings have. -/
def of (settings : Settings) : (choice : Choice) → choice.Value
  | host => settings.server.host
  | httpPort => settings.server.httpPort
  | rpcPort => settings.server.rpcPort
  | secure => settings.server.secure
  | trustForwarded => settings.server.trustForwarded
  | maxConnections => settings.database.maxConnections
  | lifetime => settings.auth.lifetime
  | maxAttempts => settings.auth.maxAttempts
  | window => settings.auth.window
  | onRevocationOutage => settings.auth.onRevocationOutage
  | onLockoutOutage => settings.auth.onLockoutOutage
  | storeTimeout => settings.auth.storeTimeout

/-- The number below a limit that a text is, without the blanks around it. -/
def number? (limit : Nat) (text : String) : Option Nat :=
  (Environment.readNumber limit (Text.trimChars text.toList)).toOption

/-- The truth value that a text names. -/
def truth? (text : String) : Option Bool :=
  (Environment.readBool (Text.trimChars text.toList)).toOption

/-- The policy that a text names. -/
def policy? (text : String) : Option OutagePolicy :=
  (readPolicy (Text.trimChars text.toList)).toOption

/-- The value that a text stands for, if that is a valid one. -/
def ofText? : (choice : Choice) → String → Option choice.Value
  | host, text => some text
  | httpPort, text | rpcPort, text => (number? UInt16.size text).map UInt16.ofNat
  | secure, text | trustForwarded, text => truth? text
  | maxConnections, text => (number? UInt32.size text).map UInt32.ofNat
  | lifetime, text =>
    ((number? UInt64.size text).filter fun n => 0 < n ∧ n ≤ maxLifetime).map Duration.ofSeconds
  | maxAttempts, text => ((number? UInt64.size text).filter (0 < ·)).map UInt64.ofNat
  | window, text => ((number? UInt64.size text).filter (0 < ·)).map Duration.ofSeconds
  | onRevocationOutage, text | onLockoutOutage, text => policy? text
  | storeTimeout, text => (number? UInt64.size text).map Duration.ofMillis

/-- The value that variables give to a setting: its default if its variable is not set, and
otherwise what its bytes stand for, if that is a valid value. -/
def given? (env : Environment) (choice : Choice) : Option choice.Value :=
  match env.lookup choice.name with
  | none => some choice.default
  | some bytes => (Text.ofUtf8? bytes).bind choice.ofText?

/-- The bytes of the variable are no text. -/
def IsGarbled (env : Environment) (choice : Choice) : Prop :=
  ∃ bytes, env.lookup choice.name = some bytes ∧ Text.ofUtf8? bytes = none

/-- The value that a setting takes: its default if its variable has no text, and otherwise what the
text stands for, if that is a valid value. -/
def taken? (env : Environment) (choice : Choice) : Option choice.Value :=
  match env.text? choice.name with
  | .ok text => choice.ofText? text
  | .error _ => some choice.default

variable {env other : Environment} {settings : Settings}

/-! ## Given and taken -/

/-- A variable whose bytes are no text leaves its setting at the default. -/
theorem taken?_of_garbled {choice : Choice} (h : choice.IsGarbled env) :
    choice.taken? env = some choice.default := by
  obtain ⟨bytes, hbytes, hnone⟩ := h
  simp only [taken?, Environment.text?, hbytes, hnone]

/-- A variable whose bytes are no text gives no value. -/
theorem given?_of_garbled {choice : Choice} (h : choice.IsGarbled env) :
    choice.given? env = none := by
  obtain ⟨bytes, hbytes, hnone⟩ := h
  simp only [given?, hbytes, hnone, Option.bind_none]

/-- A setting takes the value that it is given, unless the bytes of its variable are no text. -/
theorem taken?_eq_given? {choice : Choice} (h : ¬choice.IsGarbled env) :
    choice.taken? env = choice.given? env := by
  rw [taken?, given?, Environment.text?]
  cases hbytes : env.lookup choice.name with
  | none => rfl
  | some bytes =>
    cases htext : Text.ofUtf8? bytes with
    | none => exact absurd ⟨bytes, hbytes, htext⟩ h
    | some text => simp only [htext, Option.bind_some]

/-- A setting is taken from nothing but its variable. -/
theorem taken?_congr {choice : Choice} (h : env.lookup choice.name = other.lookup choice.name) :
    choice.taken? env = choice.taken? other := by
  rw [taken?, taken?, Environment.text?, Environment.text?, h]

/-- A setting takes a value exactly if what is read for it, or else stands for it, makes that
value. -/
theorem taken?_eq_some_iff {α : Type} (choice : Choice) (read : List Char → Except String α)
    (default : α) (make : Option α → Option choice.Value)
    (hread : ∀ text, choice.ofText? text = make (read (Text.trimChars text.toList)).toOption)
    (hdefault : make (some default) = some choice.default) (hnone : make none = none)
    {value : choice.Value} :
    choice.taken? env = some value ↔
      ∃ a, env.optional choice.name read default = .ok a ∧ make (some a) = some value := by
  rw [taken?, Environment.optional]
  cases env.text? choice.name with
  | error cause => simp [hdefault]
  | ok text =>
    cases h : read (Text.trimChars text.toList) with
    | error cause => simp [hread, h, Except.toOption, hnone, Except.mapError]
    | ok a => simp [hread, h, Except.toOption, Except.mapError]

/-- The host that is taken is the text of its variable, or else the default. -/
theorem taken?_host : host.taken? env = some (env.textOr "SERVER_HOST" "0.0.0.0") := by
  rw [taken?, Environment.textOr, name]
  cases env.text? "SERVER_HOST" <;> rfl

/-- The lifetime that is taken is the one that is loaded. -/
theorem taken?_lifetime {value : Duration} :
    lifetime.taken? env = some value ↔
      ∃ n, loadLifetime env = .ok n ∧ Duration.ofSeconds n = value := by
  rw [taken?_eq_some_iff .lifetime (Environment.readNumber UInt64.size) 3600
    (fun o => (o.filter fun n => 0 < n ∧ n ≤ maxLifetime).map Duration.ofSeconds)
    (fun _ => rfl) rfl rfl]
  simp only [loadLifetime_eq_ok_iff, lifetimeSeconds, name, Option.map_eq_some_iff,
    Option.filter_eq_some_iff, Option.some.injEq, decide_eq_true_eq]
  constructor
  · rintro ⟨n, hread, _, ⟨rfl, hbounds⟩, hvalue⟩
    exact ⟨n, ⟨hread, hbounds⟩, hvalue⟩
  · rintro ⟨n, ⟨hread, hbounds⟩, hvalue⟩
    exact ⟨n, hread, n, ⟨rfl, hbounds⟩, hvalue⟩

/-- A number that has to be positive is taken exactly if it is loaded. -/
theorem taken?_eq_some_iff_positive (choice : Choice) (default : Nat) (make : Nat → choice.Value)
    (hread : ∀ text,
      choice.ofText? text = ((number? UInt64.size text).filter (0 < ·)).map make)
    (hpos : 0 < default) (hdefault : make default = choice.default) {value : choice.Value} :
    choice.taken? env = some value ↔
      ∃ n, positive env choice.name default = .ok n ∧ make n = value := by
  rw [taken?_eq_some_iff choice (Environment.readNumber UInt64.size) default
    (fun o => (o.filter (0 < ·)).map make) hread
    (by rw [Option.filter_some, if_pos (decide_eq_true hpos), Option.map_some, hdefault]) rfl]
  simp only [positive_eq_ok_iff, Option.map_eq_some_iff, Option.filter_eq_some_iff,
    Option.some.injEq, decide_eq_true_eq]
  constructor
  · rintro ⟨n, hloaded, _, ⟨rfl, hpositive⟩, hvalue⟩
    exact ⟨n, ⟨hloaded, hpositive⟩, hvalue⟩
  · rintro ⟨n, ⟨hloaded, hpositive⟩, hvalue⟩
    exact ⟨n, hloaded, n, ⟨rfl, hpositive⟩, hvalue⟩

end Choice

variable {env other : Environment} {settings : Settings}

/-! ## Loading -/

/-- The part on the server is loaded exactly if each of its settings is taken. -/
theorem Server.load_eq_ok_iff {server : Server} :
    Server.load env = .ok server ↔
      Choice.host.taken? env = some server.host ∧
      Choice.httpPort.taken? env = some server.httpPort ∧
      Choice.rpcPort.taken? env = some server.rpcPort ∧
      Choice.secure.taken? env = some server.secure ∧
      Choice.trustForwarded.taken? env = some server.trustForwarded := by
  rw [Choice.taken?_host,
    Choice.taken?_eq_some_iff .httpPort (Environment.readNumber UInt16.size) 8080
      (·.map UInt16.ofNat) (fun _ => rfl) rfl rfl,
    Choice.taken?_eq_some_iff .rpcPort (Environment.readNumber UInt16.size) 50051
      (·.map UInt16.ofNat) (fun _ => rfl) rfl rfl,
    Choice.taken?_eq_some_iff .secure Environment.readBool false id (fun _ => rfl) rfl rfl,
    Choice.taken?_eq_some_iff .trustForwarded Environment.readBool false id (fun _ => rfl) rfl rfl]
  -- both sides now say of each setting what is read for it
  simp only [Server.load, Except.bind_eq_ok_iff]
  constructor
  · rintro ⟨httpPort, hhttp, rpcPort, hrpc, secure, hsecure, trusted, htrusted, hserver⟩
    cases hserver
    exact ⟨rfl, ⟨httpPort, hhttp, rfl⟩, ⟨rpcPort, hrpc, rfl⟩, ⟨secure, hsecure, rfl⟩,
      ⟨trusted, htrusted, rfl⟩⟩
  · obtain ⟨_, _, _, _, _⟩ := server
    rintro ⟨hhost, ⟨httpPort, hhttp, hmadeHttp⟩, ⟨rpcPort, hrpc, hmadeRpc⟩,
      ⟨secure, hsecure, hmadeSecure⟩, ⟨trusted, htrusted, hmadeTrusted⟩⟩
    refine ⟨httpPort, hhttp, rpcPort, hrpc, secure, hsecure, trusted, htrusted, ?_⟩
    cases hhost
    cases hmadeHttp
    cases hmadeRpc
    cases hmadeSecure
    cases hmadeTrusted
    rfl

/-- The part on the database is loaded exactly if its location is there and its number of
connections is taken. -/
theorem Database.load_eq_ok_iff {database : Database} :
    Database.load env = .ok database ↔
      env.required "DATABASE_URL" = .ok database.url ∧
      Choice.maxConnections.taken? env = some database.maxConnections := by
  rw [Choice.taken?_eq_some_iff .maxConnections (Environment.readNumber UInt32.size) 10
    (·.map UInt32.ofNat) (fun _ => rfl) rfl rfl]
  simp only [Database.load, Except.bind_eq_ok_iff]
  constructor
  · rintro ⟨url, hurl, count, hcount, hdatabase⟩
    cases hdatabase
    exact ⟨hurl, count, hcount, rfl⟩
  · obtain ⟨_, _⟩ := database
    rintro ⟨hurl, count, hcount, hmade⟩
    cases hmade
    exact ⟨_, hurl, count, hcount, rfl⟩

/-- The part on authentication is loaded exactly if its secret is and each of its settings is taken.
-/
theorem Auth.load_eq_ok_iff {auth : Auth} :
    Auth.load env = .ok auth ↔
      loadSecret env = .ok auth.secret ∧
      Choice.lifetime.taken? env = some auth.lifetime ∧
      Choice.maxAttempts.taken? env = some auth.maxAttempts ∧
      Choice.window.taken? env = some auth.window ∧
      Choice.onRevocationOutage.taken? env = some auth.onRevocationOutage ∧
      Choice.onLockoutOutage.taken? env = some auth.onLockoutOutage ∧
      Choice.storeTimeout.taken? env = some auth.storeTimeout := by
  rw [Choice.taken?_lifetime,
    Choice.taken?_eq_some_iff_positive .maxAttempts 5 UInt64.ofNat (fun _ => rfl) (by decide) rfl,
    Choice.taken?_eq_some_iff_positive .window 600 Duration.ofSeconds (fun _ => rfl) (by decide)
      rfl,
    Choice.taken?_eq_some_iff .onRevocationOutage readPolicy .failClosed id (fun _ => rfl) rfl rfl,
    Choice.taken?_eq_some_iff .onLockoutOutage readPolicy .failOpen id (fun _ => rfl) rfl rfl,
    Choice.taken?_eq_some_iff .storeTimeout (Environment.readNumber UInt64.size) 250
      (·.map Duration.ofMillis) (fun _ => rfl) rfl rfl]
  -- both sides now say of each setting what is read for it
  simp only [Auth.load, Except.bind_eq_ok_iff]
  constructor
  · rintro ⟨secret, hsecret, lifetime, hlifetime, attempts, hattempts, window, hwindow,
      onRevocation, hrevocation, onLockout, hlockout, timeout, htimeout, hauth⟩
    cases hauth
    exact ⟨hsecret, ⟨lifetime, hlifetime, rfl⟩, ⟨attempts, hattempts, rfl⟩,
      ⟨window, hwindow, rfl⟩, ⟨onRevocation, hrevocation, rfl⟩, ⟨onLockout, hlockout, rfl⟩,
      ⟨timeout, htimeout, rfl⟩⟩
  · obtain ⟨_, _, _, _, _, _, _⟩ := auth
    rintro ⟨hsecret, ⟨lifetime, hlifetime, hmadeLifetime⟩, ⟨attempts, hattempts, hmadeAttempts⟩,
      ⟨window, hwindow, hmadeWindow⟩, ⟨onRevocation, hrevocation, hmadeRevocation⟩,
      ⟨onLockout, hlockout, hmadeLockout⟩, ⟨timeout, htimeout, hmadeTimeout⟩⟩
    refine ⟨_, hsecret, lifetime, hlifetime, attempts, hattempts, window, hwindow, onRevocation,
      hrevocation, onLockout, hlockout, timeout, htimeout, ?_⟩
    cases hmadeLifetime
    cases hmadeAttempts
    cases hmadeWindow
    cases hmadeRevocation
    cases hmadeLockout
    cases hmadeTimeout
    rfl

/-- Settings are loaded exactly if the variables that are needed are good and every other setting
takes a value, and they are made of these. -/
theorem load_eq_ok_iff :
    load env = .ok settings ↔
      env.required "DATABASE_URL" = .ok settings.database.url ∧
      env.required "REDIS_URL" = .ok settings.storeUrl ∧
      loadSecret env = .ok settings.auth.secret ∧
      ∀ choice : Choice, choice.taken? env = some (choice.of settings) := by
  -- the groups are loaded one after another, so the settings are listed group by group
  have hall : (∀ choice : Choice, choice.taken? env = some (choice.of settings)) ↔
      (Choice.host.taken? env = some settings.server.host ∧
        Choice.httpPort.taken? env = some settings.server.httpPort ∧
        Choice.rpcPort.taken? env = some settings.server.rpcPort ∧
        Choice.secure.taken? env = some settings.server.secure ∧
        Choice.trustForwarded.taken? env = some settings.server.trustForwarded) ∧
      Choice.maxConnections.taken? env = some settings.database.maxConnections ∧
      Choice.lifetime.taken? env = some settings.auth.lifetime ∧
      Choice.maxAttempts.taken? env = some settings.auth.maxAttempts ∧
      Choice.window.taken? env = some settings.auth.window ∧
      Choice.onRevocationOutage.taken? env = some settings.auth.onRevocationOutage ∧
      Choice.onLockoutOutage.taken? env = some settings.auth.onLockoutOutage ∧
      Choice.storeTimeout.taken? env = some settings.auth.storeTimeout := by
    constructor
    · intro h
      exact ⟨⟨h .host, h .httpPort, h .rpcPort, h .secure, h .trustForwarded⟩, h .maxConnections,
        h .lifetime, h .maxAttempts, h .window, h .onRevocationOutage, h .onLockoutOutage,
        h .storeTimeout⟩
    · rintro ⟨⟨h₁, h₂, h₃, h₄, h₅⟩, h₆, h₇, h₈, h₉, h₁₀, h₁₁, h₁₂⟩ choice
      cases choice <;> assumption
  rw [hall]
  simp only [load, Except.bind_eq_ok_iff, Server.load_eq_ok_iff, Database.load_eq_ok_iff,
    Auth.load_eq_ok_iff]
  constructor
  · rintro ⟨server, hserver, database, ⟨hurl, hcount⟩, storeUrl, hstore, auth, ⟨hsecret, hauth⟩,
      hsettings⟩
    cases hsettings
    exact ⟨hurl, hstore, hsecret, hserver, hcount, hauth⟩
  · rintro ⟨hurl, hstore, hsecret, hserver, hcount, hauth⟩
    exact ⟨_, hserver, _, ⟨hurl, hcount⟩, _, hstore, _, ⟨hsecret, hauth⟩, rfl⟩

/-- The loaded settings depend on the variables only through the texts of those that are needed and
the values that the other settings take. -/
theorem load_of_taken (hdatabase : env.text? "DATABASE_URL" = other.text? "DATABASE_URL")
    (hstore : env.text? "REDIS_URL" = other.text? "REDIS_URL")
    (hsecret : env.text? "JWT_SECRET" = other.text? "JWT_SECRET")
    (htaken : ∀ choice : Choice, choice.taken? env = choice.taken? other) :
    load env = .ok settings ↔ load other = .ok settings := by
  simp only [load_eq_ok_iff, loadSecret, Environment.required, hdatabase, hstore, hsecret, htaken]

/-- A setting is loaded as its variable gives it exactly if the bytes of the variable are text;
otherwise its default is loaded. With a text that gives no valid value nothing is loaded. Beyond
the variables that are needed, the loaded settings depend on what is given alone. -/
theorem heeded_iff (env : Environment) :
    (∀ settings, load env = .ok settings → ∀ choice : Choice,
      (choice.given? env = some (choice.of settings) ↔ ¬choice.IsGarbled env) ∧
      (choice.IsGarbled env → choice.of settings = choice.default)) ∧
    (∀ choice : Choice, ¬choice.IsGarbled env → choice.given? env = none →
      ∃ fault, load env = .error fault) ∧
    ∀ other settings, env.text? "DATABASE_URL" = other.text? "DATABASE_URL" →
      env.text? "REDIS_URL" = other.text? "REDIS_URL" →
      env.text? "JWT_SECRET" = other.text? "JWT_SECRET" →
      (∀ choice : Choice, (choice.IsGarbled env ↔ choice.IsGarbled other) ∧
        choice.given? env = choice.given? other) →
      (load env = .ok settings ↔ load other = .ok settings) := by
  refine ⟨fun settings hload choice => ?_, fun choice hclear hnone => ?_,
    fun other settings hdatabase hstore hsecret hgiven => ?_⟩
  · obtain ⟨-, -, -, htaken⟩ := load_eq_ok_iff.mp hload
    refine ⟨⟨fun hgiven hgarbled => ?_, fun hclear => ?_⟩, fun hgarbled => ?_⟩
    · exact nomatch (Choice.given?_of_garbled hgarbled).symm.trans hgiven
    · rw [← Choice.taken?_eq_given? hclear, htaken choice]
    · exact Option.some.inj ((htaken choice).symm.trans (Choice.taken?_of_garbled hgarbled))
  · cases hload : load env with
    | error fault => exact ⟨fault, rfl⟩
    | ok settings =>
      obtain ⟨-, -, -, htaken⟩ := load_eq_ok_iff.mp hload
      rw [← Choice.taken?_eq_given? hclear, htaken choice] at hnone
      cases hnone
  · refine load_of_taken hdatabase hstore hsecret fun choice => ?_
    obtain ⟨hgarbled, hsame⟩ := hgiven choice
    by_cases h : choice.IsGarbled env
    · rw [Choice.taken?_of_garbled h, Choice.taken?_of_garbled (hgarbled.mp h)]
    · rw [Choice.taken?_eq_given? h, Choice.taken?_eq_given? (h ∘ hgarbled.mpr), hsame]

/-- A window of ten minutes is loaded as it is given, with the same settings if a variable is there
that no setting has, and an empty window is refused. -/
theorem heeded_iff_sample :
    load (sampleEnvironment "600") = .ok (sampleSettings 600) ∧
      Choice.window.given? (sampleEnvironment "600") = some (Duration.ofSeconds 600) ∧
      load (("PATH", []) :: sampleEnvironment "600") = .ok (sampleSettings 600) ∧
      ∃ fault, load (sampleEnvironment "0") = .error fault := by
  have hload : load (sampleEnvironment "600") = .ok (sampleSettings 600) :=
    load_sampleEnvironment (by decide) (by decide)
  have hclear {text : String} : ¬Choice.window.IsGarbled (sampleEnvironment text) := by
    rintro ⟨bytes, hbytes, hnone⟩
    cases hbytes
    rw [Text.ofUtf8?_utf8] at hnone
    cases hnone
  obtain ⟨hheeded, -, hdepends⟩ := heeded_iff (sampleEnvironment "600")
  refine ⟨hload, (hheeded _ hload .window).1.mpr hclear,
    (hdepends _ _ rfl rfl rfl fun choice => ?_).mp hload,
    (heeded_iff (sampleEnvironment "0")).2.1 .window hclear ?_⟩
  · have hlookup : (sampleEnvironment "600").lookup choice.name =
        List.lookup choice.name (("PATH", []) :: sampleEnvironment "600") := by
      cases choice <;> rfl
    simp only [Choice.IsGarbled, Choice.given?, hlookup, iff_self, and_self]
  · have hlookup : (sampleEnvironment "0").lookup Choice.window.name = some (Text.utf8 "0") := rfl
    rw [Choice.given?, hlookup]
    simp only [Text.ofUtf8?_utf8]
    decide

/-- Variables that ask to refuse during an outage of the store, with a byte too many. -/
def garbledEnvironment : Environment :=
  ("THROTTLE_FAILURE_MODE", Text.utf8 "fail_closed" ++ [0xff]) :: sampleEnvironment "600"

/-- A policy whose bytes are no text is not refused but ignored: logins are let pass. -/
theorem garbled_setting_ignored :
    Choice.onLockoutOutage.given? garbledEnvironment = none ∧
      load garbledEnvironment = .ok (sampleSettings 600) ∧
      Choice.onLockoutOutage.of (sampleSettings 600) = OutagePolicy.failOpen := by
  have hgarbled : Choice.onLockoutOutage.IsGarbled garbledEnvironment := ⟨_, rfl, by decide⟩
  -- without the variable the same settings are loaded
  have hsame : load (sampleEnvironment "600") = .ok (sampleSettings 600) ↔
      load garbledEnvironment = .ok (sampleSettings 600) := by
    refine load_of_taken rfl rfl rfl fun choice => ?_
    cases choice with
    | onLockoutOutage => exact (Choice.taken?_of_garbled hgarbled).symm
    | _ => exact Choice.taken?_congr rfl
  exact ⟨Choice.given?_of_garbled hgarbled,
    hsame.mp (load_sampleEnvironment (by decide) (by decide)), rfl⟩

end Bearer.Settings
