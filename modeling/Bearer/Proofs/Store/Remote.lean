import Bearer.Proofs.Settings.Window
import Bearer.Store.Remote

/-!
# The window that a peer is asked for

Counting over the network asks the peer for a deadline in milliseconds, with the window of the
settings. The number is at least one before it is narrowed to sixty-four bits, and narrowing wraps
it around: a window of `2 ^ 64` milliseconds or more is asked for as a shorter one, and it can come
out empty, by which the counter is gone at once.

Main statements: `asksFor_window_iff` says for which settings, and for which windows, the peer is
asked for what was set; `asksFor_empty_window` shows settings that switch the counting off.
-/

namespace Bearer.Store.Remote

variable {α : Type} {P : Command → Prop} {key : String}

/-! ## What a dialogue sends -/

/-- Every command that a dialogue can send is of a kind. -/
inductive Dialogue.Sends (P : Command → Prop) : Dialogue α → Prop where
  | done (outcome : Except Failure α) : Sends P (.done outcome)
  | send {command : Command} {next : Reply → Dialogue α} (first : P command)
      (rest : ∀ reply, (next reply).Sends P) : Sends P (.send command next)

/-- Whatever the replies are, only commands of the kind are sent. -/
theorem Dialogue.Sends.play {dialogue : Dialogue α} (h : dialogue.Sends P) (timeout : Duration)
    (replies : List (Option Reply)) : ∀ command ∈ (dialogue.play timeout replies).2, P command := by
  -- by induction on the dialogue, each reply being the next one of the list or an error
  induction h generalizing replies with
  | done outcome => exact List.forall_mem_nil _
  | @send command next first _ ih =>
    rcases replies with _ | ⟨_ | reply, replies⟩
    · exact List.forall_mem_cons.mpr ⟨first, ih _ _⟩
    · exact List.forall_mem_singleton.mpr first
    · exact List.forall_mem_cons.mpr ⟨first, ih _ _⟩

/-- The first command is sent in any case. -/
theorem Dialogue.head?_play (command : Command) (next : Reply → Dialogue α) (timeout : Duration)
    (replies : List (Option Reply)) :
    ((Dialogue.send command next).play timeout replies).2.head? = some command := by
  rcases replies with _ | ⟨_ | reply, replies⟩ <;> rfl

/-! ## Counting -/

/-- The command that counts under a key, with a deadline after a number of milliseconds. -/
def countCommand (key : String) (millis : Nat) : Command :=
  ["EVALSHA", countScriptName, "1", key, String.ofList (Text.Decimal.digits millis)]

/-- The peer is asked to count under a key with a deadline after a number of milliseconds, and for
nothing else but to take the script. -/
def AsksFor (key : String) (millis : Nat) (sent : List Command) : Prop :=
  sent.head? = some (countCommand key millis) ∧
    ∀ command ∈ sent, command = countCommand key millis ∨ command = ["SCRIPT", "LOAD", countScript]

/-- What is sent to count a failure. -/
def sentToCount (key : String) (window timeout : Duration) (replies : List (Option Reply)) :
    List Command :=
  ((dialogue (.increment key window)).play timeout replies).2

/-- The milliseconds of a window, at least one, as they are asked for: in sixty-four bits. -/
def askedMillis (window : Duration) : Nat := max 1 window.millis % UInt64.size

/-- The script is run with the window that is asked for. -/
theorem runScript_eq (key : String) (window : Duration) :
    runScript key window = countCommand key (askedMillis window) := by
  rw [runScript, numberText, wholeMillis, UInt64.toNat_ofNat']
  rfl

/-- Numbers with the same digits are the same. -/
theorem digits_inj {m n : Nat} (h : Text.Decimal.digits m = Text.Decimal.digits n) : m = n := by
  have hm := Text.Decimal.unsigned?_digits (Nat.lt_succ_of_le (Nat.le_max_left m n))
  have hn := Text.Decimal.unsigned?_digits (Nat.lt_succ_of_le (Nat.le_max_right m n))
  rw [h, hn] at hm
  exact (Except.ok.inj hm).symm

/-- A command to count tells the window that it asks for. -/
theorem countCommand_inj {m n : Nat} (h : countCommand key m = countCommand key n) : m = n := by
  have htext : String.ofList (Text.Decimal.digits m) = String.ofList (Text.Decimal.digits n) := by
    injection h with _ h
    injection h with _ h
    injection h with _ h
    injection h with _ h
    injection h
  exact digits_inj (String.ofList_injective htext)

/-- However the peer replies, it is asked for the milliseconds of the window in sixty-four bits. -/
theorem asksFor_askedMillis (key : String) (window timeout : Duration)
    (replies : List (Option Reply)) :
    AsksFor key (askedMillis window) (sentToCount key window timeout replies) := by
  rw [AsksFor, ← runScript_eq]
  refine ⟨Dialogue.head?_play _ _ _ _, Dialogue.Sends.play ?_ timeout replies⟩
  refine .send (.inl rfl) fun reply => ?_
  cases reply with
  | error text =>
    simp only
    split
    · -- the script is sent, and the same command again
      refine .send (.inr rfl) fun reply => ?_
      cases reply with
      | error text => exact .done _
      | _ => exact .send (.inl rfl) fun _ => .done _
    · exact .done _
  | _ => exact .done _

/-- It is asked for no other number. -/
theorem asksFor_iff {millis : Nat} (key : String) (window timeout : Duration)
    (replies : List (Option Reply)) :
    AsksFor key millis (sentToCount key window timeout replies) ↔ millis = askedMillis window := by
  have hasked := asksFor_askedMillis key window timeout replies
  constructor
  · intro h
    have hhead := h.1.symm.trans hasked.1
    exact countCommand_inj (Option.some.inj hhead)
  · rintro rfl
    exact hasked

/-- The window is asked for as it is exactly if its milliseconds fit into a word. -/
theorem askedMillis_eq_iff (window : Duration) :
    max 1 window.millis = askedMillis window ↔ window.millis < UInt64.size := by
  rw [askedMillis, eq_comm, Nat.mod_eq_iff_lt (by decide), Nat.max_lt]
  exact and_iff_right (by decide)

/-- The window wraps around exactly if it does not fit, and then it is asked for as a shorter
one. -/
theorem askedMillis_lt_iff (window : Duration) :
    askedMillis window < window.millis ↔ UInt64.size ≤ window.millis := by
  constructor
  · intro h
    by_contra hlt
    rw [← (askedMillis_eq_iff window).mpr (Nat.lt_of_not_le hlt)] at h
    exact absurd h (Nat.not_lt.mpr (Nat.le_max_right 1 window.millis))
  · intro h
    exact Nat.lt_of_lt_of_le (Nat.mod_lt _ (by decide)) h

/-- A second has a thousand milliseconds. -/
theorem millis_ofSeconds (n : Nat) : (Duration.ofSeconds n).millis = n * 1000 := by
  simp only [Duration.millis, Duration.ofSeconds]
  omega

/-! ## Main statement -/

/-- With the settings that are loaded, the peer is asked for the milliseconds of the seconds that
were set exactly if these are at most `18446744073709551`. In general it is asked for the
milliseconds of a window, at least one, exactly if they fit into sixty-four bits, and otherwise for
a shorter window. -/
theorem asksFor_window_iff {env : Environment} {settings : Settings}
    (h : Settings.load env = .ok settings) (key : String) (timeout : Duration)
    (replies : List (Option Reply)) :
    (∃ n, Settings.windowSeconds env = .ok n ∧ 0 < n ∧ n < UInt64.size ∧
      settings.auth.window = Duration.ofSeconds n ∧
      (AsksFor key (n * 1000) (sentToCount key settings.auth.window timeout replies) ↔
        n ≤ 18446744073709551)) ∧
    ∀ window : Duration,
      (AsksFor key (max 1 window.millis) (sentToCount key window timeout replies) ↔
        window.millis < UInt64.size) ∧
      (UInt64.size ≤ window.millis → ∃ shorter < window.millis,
        AsksFor key shorter (sentToCount key window timeout replies)) := by
  constructor
  · obtain ⟨n, hread, hpos, hlt, hwindow⟩ := Settings.window_of_load h
    refine ⟨n, hread, hpos, hlt, hwindow, ?_⟩
    have hmillis : n * 1000 = max 1 (Duration.ofSeconds n).millis := by
      rw [millis_ofSeconds]
      omega
    rw [hwindow, asksFor_iff, hmillis, askedMillis_eq_iff, millis_ofSeconds, UInt64.size]
    omega
  · intro window
    refine ⟨(asksFor_iff key window timeout replies).trans (askedMillis_eq_iff window), ?_⟩
    intro hlong
    exact ⟨askedMillis window, (askedMillis_lt_iff window).mpr hlong,
      asksFor_askedMillis key window timeout replies⟩

/-- A window of a quarter of an hour is asked for as it is set, also if the script is not known
yet. -/
theorem asksFor_window_sample :
    AsksFor "tally" 900000 (sentToCount "tally" (Settings.sampleSettings 900).auth.window
      (Duration.ofMillis 250) [some (.error "NOSCRIPT No matching script."), some .nil, none]) := by
  have hload : Settings.load (Settings.sampleEnvironment " 900 ") =
      .ok (Settings.sampleSettings 900) :=
    Settings.load_sampleEnvironment (by rfl) (by decide)
  obtain ⟨⟨n, hread, -, -, -, hasks⟩, -⟩ := asksFor_window_iff hload "tally"
    (Duration.ofMillis 250) [some (.error "NOSCRIPT No matching script."), some .nil, none]
  have hseconds : Settings.windowSeconds (Settings.sampleEnvironment " 900 ") = .ok 900 :=
    Settings.windowSeconds_sampleEnvironment (by rfl)
  obtain rfl : n = 900 := Except.ok.inj (hread.symm.trans hseconds)
  exact hasks.mpr (by decide)

/-- A window of `2 ^ 61` seconds is accepted and asked for as an empty one, while one second is
asked for as a thousand milliseconds. -/
theorem asksFor_empty_window :
    Settings.load (Settings.sampleEnvironment "2305843009213693952") =
        .ok (Settings.sampleSettings 2305843009213693952) ∧
      AsksFor "tally" 0 (sentToCount "tally"
        (Settings.sampleSettings 2305843009213693952).auth.window (Duration.ofMillis 250)
        [some (.int 1)]) ∧
      AsksFor "tally" 1000 (sentToCount "tally" (Settings.sampleSettings 1).auth.window
        (Duration.ofMillis 250) [some (.int 1)]) := by
  refine ⟨Settings.load_sampleEnvironment (by rfl) (by decide), ?_, ?_⟩
  · exact (asksFor_iff _ _ _ _).mpr (by decide)
  · exact (asksFor_iff _ _ _ _).mpr (by decide)

end Bearer.Store.Remote
