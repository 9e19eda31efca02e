import Bearer.Proofs.Settings.Window
import Bearer.Proofs.Site.History
import Bearer.Proofs.Store.Deadlines

/-!
# Counters of a site and their deadlines

A site counts failed logins with the one window of its settings. As long as the clock of deadlines
reaches the end of that window, every entry of its store carries a deadline; the first failure after
that leaves a counter which never expires. The settings accept windows of which this is so from the
start.

Main statements: `entries_expire_iff` collects what is true of operations, of settings and of runs;
`counter_without_deadline` shows settings under which one failure locks for good.
-/

namespace Bearer

open Store (Memory Operation)

/-- The policy of a service counts with the window of its settings. -/
theorem Settings.window_of_service? {settings : Settings} {service : Service}
    (h : settings.service? = .ok service) :
    service.lockout.policy.window = settings.auth.window := by
  obtain ⟨policy, hpolicy, hservice⟩ := Except.bind_eq_ok_iff.mp h
  cases hservice
  unfold Lockout.Policy.make? at hpolicy
  split at hpolicy
  · cases hpolicy
  · split at hpolicy
    · cases hpolicy
    · cases hpolicy
      rfl

/-- An effect counts with a window, if it counts. -/
def Effect.CountsWith (window : Duration) : Effect → Prop
  | .store (.increment _ span) => span = window
  | _ => True

/-- What is quiet does not count at all. -/
theorem Effect.IsQuiet.countsWith {effect : Effect} (h : effect.IsQuiet) (window : Duration) :
    effect.CountsWith window := by
  cases effect with
  | store call =>
    cases call with
    | increment key span => cases h
    | _ => trivial
  | _ => trivial

/-- Requests count with the window of the policy only. -/
theorem Request.program_countsWith (service : Service) (request : Request) (now : Time) :
    (request.program service now).Within (Effect.CountsWith service.lockout.policy.window) := by
  refine program_within (fun effect h => h.countsWith _) ?_ ?_
  · intro attempt address _ _ call hcall
    rw [Lockout.writes, List.mem_cons, List.mem_singleton] at hcall
    rcases hcall with rfl | rfl
    · exact rfl
    · exact trivial
  · intro token claims ttl _ _
    exact trivial

namespace Site

variable {service : Service} {site : Site} {window : Duration}

/-- A run whose calls count with a window keeps the deadlines if the window has an end. -/
theorem expires_run {α : Type} {p : Program α} (hp : p.Within (Effect.CountsWith window))
    (h : site.store.Expires) (hfits : (site.now.after? window).isSome) :
    (site.run p).state.store.Expires := by
  refine store_run_keeps hp site (fun call memory hcounts hmemory => ?_) h
  refine (Memory.expires_operate_iff hmemory (.call call)).mpr ?_
  cases call with
  | increment key span =>
    obtain rfl : span = window := hcounts
    apply Memory.not_strands_of_fits
    exact hfits
  | _ => exact id

/-- Where every entry has a deadline, it has one after what happens next. -/
theorem expires_step {occurrence : Occurrence} (h : site.store.Expires)
    (hfits : (site.now.after? service.lockout.policy.window).isSome) :
    (site.step service occurrence).store.Expires := by
  cases occurrence with
  | request request =>
    exact expires_run (request.program_countsWith service site.now) h hfits
  | _ => exact h

/-- Whatever happens to a site, every entry of its store carries a deadline as long as a window that
starts at the end still has one. -/
theorem expires_after (h : site.store.Expires) (occurrences : List Occurrence)
    (hfits : ((site.after service occurrences).now.after? service.lockout.policy.window).isSome) :
    (site.after service occurrences).store.Expires := by
  induction occurrences generalizing site with
  | nil => exact h
  | cons occurrence rest ih =>
    refine ih (expires_step h ?_) hfits
    -- an earlier window ends earlier
    have hle : site.now ≤ ((site.step service occurrence).after service rest).now :=
      now_le_after (occurrence :: rest)
    rw [Time.after?_of_le hle hfits]
    rfl

/-- A failure is counted with a deadline, unless it is a first one and the window ends too late. -/
theorem expires_recordFailure_iff (h : site.store.Expires) (lockout : Lockout) (key : String) :
    (site.run (lockout.recordFailure key).run).state.store.Expires ↔
      ¬(site.store.available ∧ site.store.live? key site.now = none ∧
        site.now.after? lockout.policy.window = none) := by
  rw [Lockout.recordFailure, Lockout.run_ask]
  exact Memory.expires_operate_iff h (.call (.increment key lockout.policy.window))

/-- Entries carry deadlines all through a history of a store exactly if no operation of it counts a
first failure in a window that ends beyond the clock of deadlines. An aborted operation leaves the
table as it was exactly if it does not count. And whatever settings are accepted, the entries of a
site carry deadlines as long as the clock of deadlines reaches the end of the window that was set;
the first failure that is counted when it no longer does gets none. -/
theorem entries_expire_iff {memory : Memory} (h : memory.Expires)
    (history : List (Time × Operation)) :
    ((∀ front, front <+: history → (memory.after front).Expires) ↔
      ∀ front now operation, front ++ [(now, operation)] <+: history →
        ¬(memory.after front).Strands now operation) ∧
    (∀ (memory : Memory) (now : Time) (operation : Operation),
      (memory.operate now operation).1 = none →
      ((∀ key, (memory.operate now operation).2.find? key = memory.find? key) ↔
        ∀ key window, operation ≠ .call (.increment key window))) ∧
    ∀ (env : Environment) (settings : Settings) (service : Service),
      Settings.load env = .ok settings → settings.service? = .ok service →
      ∃ seconds, Settings.windowSeconds env = .ok seconds ∧
        (∀ (site : Site) (occurrences : List Occurrence), site.store.Expires →
          (site.after service occurrences).now.add (.ofSeconds seconds) < Time.horizon →
          (site.after service occurrences).store.Expires) ∧
        ∀ (site : Site) (key : String), site.store.Expires → site.store.available →
          site.store.live? key site.now = none →
          ((site.run (service.lockout.recordFailure key).run).state.store.Expires ↔
            site.now.add (.ofSeconds seconds) < Time.horizon) := by
  refine ⟨Memory.expires_throughout_iff h history,
    fun memory now operation => Memory.unchanged_iff_of_aborted, ?_⟩
  intro env settings service hload hservice
  obtain ⟨seconds, hread, -, -, hsettings⟩ := Settings.window_of_load hload
  -- the window of the policy is the one that the environment gives
  have hwindow : service.lockout.policy.window = .ofSeconds seconds :=
    (Settings.window_of_service? hservice).trans hsettings
  refine ⟨seconds, hread, ?_, ?_⟩
  · intro site occurrences hexpires hfits
    refine expires_after hexpires occurrences ?_
    rw [hwindow]
    exact Time.isSome_after?_iff.mpr hfits
  · intro site key hexpires hup hlive
    rw [expires_recordFailure_iff hexpires, hwindow, ← Time.isSome_after?_iff,
      Option.isSome_iff_ne_none]
    simp only [hup, hlive, true_and, ne_eq]

/-- Two failures in a window of ten minutes, a value that would be kept beyond the clock of
deadlines and is refused, and a failure under settings with that window: every entry carries a
deadline. -/
theorem entries_expire_sample :
    (Memory.empty.after [(.ofSeconds 0, .call (.increment "tally" (.ofSeconds 600))),
        (.ofSeconds 2, .call (.increment "tally" (.ofSeconds 600)))]).Expires ∧
      (∀ key, (Memory.empty.operate (.ofSeconds 0)
          (.call (.set "other" "1" ⟨Time.horizon.nanos.toNat⟩))).2.find? key =
        Memory.empty.find? key) ∧
      ∃ service, (Settings.sampleSettings 600).service? = .ok service ∧
        (sample.run (service.lockout.recordFailure "tally").run).state.store.Expires := by
  obtain ⟨hhistory, haborted, hsettings⟩ := entries_expire_iff Memory.expires_empty
    [(.ofSeconds 0, .call (.increment "tally" (.ofSeconds 600))),
      (.ofSeconds 2, .call (.increment "tally" (.ofSeconds 600)))]
  refine ⟨?_, ?_, ?_⟩
  · refine hhistory.mpr ?_ _ List.prefix_rfl
    intro front now operation hprefix
    have hmem := hprefix.subset List.mem_concat_self
    -- both windows end long before the clock does
    have hfits : ∀ step ∈ ([(.ofSeconds 0, .call (.increment "tally" (.ofSeconds 600))),
        (.ofSeconds 2, .call (.increment "tally" (.ofSeconds 600)))] : List (Time × Operation)),
        step.2.Fits step.1 := by
      decide
    exact Memory.not_strands_of_fits (hfits _ hmem)
  · exact (haborted Memory.empty (.ofSeconds 0)
      (.call (.set "other" "1" ⟨Time.horizon.nanos.toNat⟩)) (by rfl)).mpr nofun
  · obtain ⟨seconds, hread, -, hfailure⟩ := hsettings (Settings.sampleEnvironment "600") _ _
      (Settings.load_sampleEnvironment (by rfl) (by decide)) rfl
    have hseconds : Settings.windowSeconds (Settings.sampleEnvironment "600") = .ok 600 :=
      Settings.windowSeconds_sampleEnvironment (by rfl)
    obtain rfl : seconds = 600 := Except.ok.inj (hread.symm.trans hseconds)
    exact ⟨_, rfl, (hfailure sample "tally" Memory.expires_empty rfl rfl).mpr (by decide)⟩

/-- A window of `2 ^ 64 - 1` seconds is accepted, and the first failure that is counted with it is
aborted, and leaves a counter without a deadline. -/
theorem counter_without_deadline :
    Settings.load (Settings.sampleEnvironment "18446744073709551615") =
        .ok (Settings.sampleSettings 18446744073709551615) ∧
      ∃ service, (Settings.sampleSettings 18446744073709551615).service? = .ok service ∧
        sample.store.find? "tally" = none ∧
        (sample.run (service.lockout.recordFailure "tally").run).answer? = none ∧
        (sample.run (service.lockout.recordFailure "tally").run).state.store.find? "tally" =
          some ⟨"1", none⟩ := by
  refine ⟨Settings.load_sampleEnvironment (by rfl) (by decide), ?_⟩
  refine ⟨_, rfl, rfl, ?_, ?_⟩
  · rfl
  · rfl

end Site
end Bearer
