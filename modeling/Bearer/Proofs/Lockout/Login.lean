import Bearer.Proofs.Lockout.Tally
import Bearer.Proofs.Service.Login

/-!
# A login and the tally of its pair

The store keeps the tally of a pair as a counter with a deadline. A login against a site whose store
and directory answer ends as the tally says, and the store then keeps the tally that the attempt
leaves.

Main statement: `attempt_follows`.
-/

namespace Bearer

open Program (Run)

/-- Whether an effect looks for a user or checks a password. -/
def Effect.LooksUp : Effect → Prop
  | .findUser _ | .checkPassword _ _ => True
  | _ => False

/-- Whether the outcome of a login is the one that a verdict calls for. -/
def Verdict.Fits : Verdict → Except Failure Grant → Prop
  | .locked, result => result = .error (.refusal .tooManyAttempts)
  | .accepted user, result => ∃ issued, result = .ok ⟨issued, user.id, user.role⟩
  | .rejected, result => result = .error (.refusal .invalidCredentials)

namespace Store.Memory

/-- From a moment on, a store shows a tally under a key. -/
def Keeps (memory : Memory) (key : String) (now : Time) (tally : Tally) : Prop :=
  ∀ later, now ≤ later → memory.live? key later = (tally.current later).toEntry

/-- A failure that is counted now leaves a tally under a key. -/
def CountsAs (memory : Memory) (key : String) (window : Duration) (now : Time) (tally : Tally) :
    Prop :=
  ∃ count store, memory.increment key window now = (some (.ok count), store) ∧
    store.Keeps key now tally

variable {memory : Memory} {key : String} {now : Time} {tally : Tally} {policy : Lockout.Policy}
  {count : Nat} {deadline : Time}

/-- Evicting another key leaves a tally that is kept. -/
theorem Keeps.evict (h : memory.Keeps key now tally) (other : String) :
    (memory.evict other now).Keeps key now tally := by
  intro later hle
  rw [live?_evict memory other key hle]
  exact h later hle

/-- A key that is erased has a clean tally. -/
theorem keeps_erase (memory : Memory) (key : String) (now : Time) :
    (memory.erase key).Keeps key now .clean := by
  intro later _
  rw [live?_erase, if_pos rfl]
  rfl

/-- A tally whose entry is inserted is kept. -/
theorem keeps_insert {entry : Entry} (h : tally.toEntry = some entry) (memory : Memory)
    (key : String) (now : Time) : (memory.insert key entry).Keeps key now tally := by
  intro later _
  rw [live?_insert, if_pos rfl, Tally.toEntry_current, h]

/-! ## Counting -/

/-- The number of a bounded tally fits into a counter. -/
theorem toEntry_eq_counterText (h : (Tally.failed count deadline).IsBounded policy) :
    (Tally.failed count deadline).toEntry =
      some ⟨counterText (UInt64.ofNat count), some deadline⟩ := by
  have hlt : count < 2 ^ 64 := Nat.lt_of_le_of_lt h.2 policy.maxAttempts.toNat_lt
  rw [Tally.toEntry, counterText, UInt64.toNat_ofNat_of_lt' hlt]

/-- A clean tally does not lock its key. -/
theorem Keeps.not_locks_of_clean (h : memory.Keeps key now tally)
    (hcurrent : tally.current now = .clean) : ¬policy.locks (memory.countAt key now) := by
  have hpos := Tally.maxAttempts_pos policy
  rw [countAt, h now (Time.le_refl now), hcurrent, Lockout.Policy.locks, decide_eq_true_eq,
    UInt64.le_iff_toNat_le]
  exact Nat.not_le_of_lt hpos

/-- A tally of failures locks its key exactly if they are as many as the limit allows. -/
theorem Keeps.locks_iff_of_failed (h : memory.Keeps key now tally)
    (hcurrent : tally.current now = .failed count deadline)
    (hbounded : (Tally.failed count deadline).IsBounded policy) :
    policy.locks (memory.countAt key now) ↔ policy.maxAttempts.toNat ≤ count := by
  have hlt : count < 2 ^ 64 := Nat.lt_of_le_of_lt hbounded.2 policy.maxAttempts.toNat_lt
  have hcount : memory.countAt key now = UInt64.ofNat count := by
    rw [countAt, h now (Time.le_refl now), hcurrent, toEntry_eq_counterText hbounded]
    simp
  rw [hcount, policy.locks_ofNat hlt, decide_eq_true_eq]

/-- The first failure is kept up to the end of the window. -/
theorem Keeps.countsAs_of_clean (h : memory.Keeps key now tally)
    (hcurrent : tally.current now = .clean) {window : Duration}
    (hwindow : now.after? window = some (now.add window)) :
    memory.CountsAs key window now (.failed 1 (now.add window)) := by
  have hnone : memory.live? key now = none := by
    rw [h now (Time.le_refl now), hcurrent]
    rfl
  exact ⟨_, _, increment_starts key now hnone hwindow, keeps_insert rfl _ key now⟩

/-- A later failure is kept up to the same deadline as those before it. -/
theorem Keeps.countsAs_of_failed (h : memory.Keeps key now tally)
    (hcurrent : tally.current now = .failed count deadline)
    (hbounded : (Tally.failed count deadline).IsBounded policy)
    (hfree : ¬policy.maxAttempts.toNat ≤ count) (window : Duration) :
    memory.CountsAs key window now (.failed (count + 1) deadline) := by
  -- the count stays below the limit, which is a counter itself
  have hlt : count < 2 ^ 64 := Nat.lt_of_le_of_lt hbounded.2 policy.maxAttempts.toNat_lt
  have hshown : memory.live? key now = some ⟨counterText (UInt64.ofNat count), some deadline⟩ := by
    rw [h now (Time.le_refl now), hcurrent, toEntry_eq_counterText hbounded]
  have hkept : (Tally.failed (count + 1) deadline).toEntry =
      some ⟨counterText (UInt64.ofNat (count + 1)), some deadline⟩ :=
    toEntry_eq_counterText ⟨Nat.le_add_left 1 count, Nat.lt_of_not_le hfree⟩
  exact ⟨_, _, increment_live key now hshown hbounded.1 hlt window, keeps_insert hkept _ key now⟩

end Store.Memory

namespace Service

variable {service : Service} {address password origin key : String} {fresh : Uuid}
  {site : Site} {tally : Tally} {count : Nat} {deadline : Time}

/-- A run of a login of a pair ends as a step of the machine does, and its site keeps the tally that
the step leaves. -/
structure Follows (run : Run Site (Except Failure Grant)) (key : String) (now : Time)
    (outcome : Verdict × Tally) : Prop where
  /-- The answer is the one that the verdict calls for. -/
  answer : ∃ result, run.answer? = some result ∧ outcome.1.Fits result
  /-- The store keeps the tally from then on. -/
  kept : run.state.store.Keeps key now outcome.2
  /-- Nothing is looked up for a locked pair. -/
  quiet : outcome.1 = .locked → ∀ effect ∈ run.effects, ¬effect.LooksUp

/-- The settings of a service allow a login to come to its end at a moment. -/
structure IsReady (service : Service) (now : Time) : Prop where
  /-- The calendar reaches the moment. -/
  calendar : now.InCalendar
  /-- The clock of deadlines reaches the end of a window that starts then. -/
  window : (now.after? service.lockout.policy.window).isSome
  /-- Tokens live for a second at least. -/
  positive : 1 ≤ service.lifetime.seconds
  /-- Tokens live for no longer than the settings allow. -/
  bounded : service.lifetime.seconds ≤ Settings.maxLifetime

/-- What an attempt comes to after its lookups follows the machine, if a failure is kept as the
machine has it. -/
theorem settleAttempt_follows (user? : Option User) (fresh : Uuid) {failure : Tally}
    (hup : site.store.available) (hready : service.IsReady site.now)
    (hfailure : site.store.CountsAs key service.lockout.policy.window site.now failure) :
    Follows (site.run (service.settleAttempt key ⟨site.now, fresh⟩ user?).run) key site.now
      (Tally.settle user? failure) := by
  cases user? with
  | some user =>
    -- the count is cleared before the token is issued, which cannot fail under these settings
    obtain ⟨issued, hissue⟩ := Token.issue_eq_ok service.secret user.id.text user.role
      fresh.text hready.calendar hready.positive hready.bounded
    rw [settleAttempt, run_grant hup hissue]
    exact ⟨⟨_, rfl, issued, rfl⟩, site.store.keeps_erase key site.now, nofun⟩
  | none =>
    obtain ⟨count, store, hincrement, hkept⟩ := hfailure
    rw [settleAttempt]
    obtain ⟨metrics, effects, hrun⟩ := run_failLogin hup hincrement
    rw [hrun]
    exact ⟨⟨_, rfl, rfl⟩, hkept, nofun⟩

/-- An attempt on a pair that its count does not lock follows the machine, if a failure is kept as
the machine has it. -/
theorem attempt_follows_of_free {failure : Tally} (hup : site.store.available)
    (hdirectory : site.directory.available) (hready : service.IsReady site.now)
    (hfree : ¬service.lockout.policy.locks
      (site.store.countAt (Lockout.key address origin) site.now))
    (hfailure : (site.store.evict (Lockout.key address origin) site.now).CountsAs
      (Lockout.key address origin) service.lockout.policy.window site.now failure) :
    Follows (site.run (service.attempt address password origin ⟨site.now, fresh⟩).run)
      (Lockout.key address origin) site.now
      (Tally.settle (site.directory.authenticate? address password) failure) := by
  -- asking for the count has removed an expired entry, and the rest runs against that store
  have hup' : (site.withStore
      (site.store.evict (Lockout.key address origin) site.now)).store.available := by
    rw [Site.store_withStore, Store.Memory.available_evict]
    exact hup
  have hrest := settleAttempt_follows (site.directory.authenticate? address password) fresh hup'
    hready hfailure
  rw [run_attempt_of_free hup hdirectory hfree]
  exact ⟨hrest.answer, hrest.kept, fun hlocked => absurd hlocked (Tally.settle_ne_locked _ _)⟩

/-- An attempt follows the machine. -/
theorem attempt_follows (hup : site.store.available) (hdirectory : site.directory.available)
    (hready : service.IsReady site.now) (hbounded : tally.IsBounded service.lockout.policy)
    (hkept : site.store.Keeps (Lockout.key address origin) site.now tally) :
    Follows (site.run (service.attempt address password origin ⟨site.now, fresh⟩).run)
      (Lockout.key address origin) site.now
      (tally.attempt service.lockout.policy site.now
        (site.directory.authenticate? address password)) := by
  have hevicted := hkept.evict (Lockout.key address origin)
  have hwindow : site.now.after? service.lockout.policy.window =
      some (site.now.add service.lockout.policy.window) :=
    Time.after?_of_le (Time.le_refl _) hready.window
  cases hcurrent : tally.current site.now with
  | clean =>
    rw [Tally.attempt_of_clean hcurrent]
    exact attempt_follows_of_free hup hdirectory hready (hkept.not_locks_of_clean hcurrent)
      (hevicted.countsAs_of_clean hcurrent hwindow)
  | failed count deadline =>
    have hbounded' : (Tally.failed count deadline).IsBounded service.lockout.policy :=
      hcurrent ▸ hbounded.current site.now
    have hlocks := hkept.locks_iff_of_failed hcurrent hbounded'
    by_cases hlocked : service.lockout.policy.maxAttempts.toNat ≤ count
    · -- the count was asked for and nothing else was done, so the tally is the one it was
      obtain ⟨htally, -⟩ := Tally.current_eq_failed_iff.mp hcurrent
      rw [Tally.attempt_of_locked hcurrent hlocked, run_attempt_of_locked hup (hlocks.mpr hlocked)]
      refine ⟨⟨_, rfl, rfl⟩, htally ▸ hevicted, fun _ effect heffect => ?_⟩
      rw [List.mem_singleton.mp heffect]
      exact id
    · rw [Tally.attempt_of_failed hcurrent hlocked]
      exact attempt_follows_of_free hup hdirectory hready (fun h => hlocked (hlocks.mp h))
        (hevicted.countsAs_of_failed hcurrent hbounded' hlocked _)

end Service
end Bearer
