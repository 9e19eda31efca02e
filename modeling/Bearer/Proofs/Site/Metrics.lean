import Bearer.Proofs.Lockout.Machine
import Bearer.Proofs.Site.Visit
import Mathlib.Data.Multiset.Count
import Mathlib.Data.Set.Card

/-!
# What the counters of a site tell

The counters tell how the requests of a history have ended, whatever was asked for, in whatever
order, and whether or not the store and the directory answered. That there are enough failures for
all locks is an invariant: under every key there have been enough for the locks of the key and for
the number that it shows.

Main statement: `metrics_tell`.
-/

namespace Bearer

namespace Lockout.Policy

variable {policy : Policy} {count : UInt64}

/-- The failures of a pair that count towards its next lock. -/
def pending (policy : Policy) (count : UInt64) : Nat :=
  if count < policy.maxAttempts then count.toNat else 0

/-- The number before the one that locks is one less, without wrapping. -/
theorem toNat_of_locks (h : count + 1 = policy.maxAttempts) :
    count.toNat + 1 = policy.maxAttempts.toNat := by
  have hpos : policy.maxAttempts.toNat ≠ 0 := fun hzero =>
    policy.maxAttempts_ne_zero (UInt64.toNat_inj.mp hzero)
  have hsum := UInt64.toNat_add count 1
  rw [h, UInt64.toNat_one] at hsum
  have hcount := count.toNat_lt
  omega

/-- The failure that locks completes the number that it takes. -/
theorem pending_of_locks (h : count + 1 = policy.maxAttempts) :
    policy.pending count + 1 = policy.maxAttempts.toNat ∧ policy.pending (count + 1) = 0 := by
  have hnat := toNat_of_locks h
  have hbelow : count < policy.maxAttempts := UInt64.lt_iff_toNat_lt.mpr (by omega)
  rw [pending, pending, if_pos hbelow, if_neg (h ▸ UInt64.lt_irrefl _)]
  exact ⟨hnat, rfl⟩

/-- One failure more adds one to what counts towards a lock, at the most. -/
theorem pending_succ_le (policy : Policy) (count : UInt64) :
    policy.pending (count + 1) ≤ policy.pending count + 1 := by
  simp only [pending, UInt64.lt_iff_toNat_lt, UInt64.toNat_add, UInt64.toNat_one]
  have hcount := count.toNat_lt
  split <;> split <;> omega

/-- Nothing counts towards a lock at first. -/
theorem pending_zero (policy : Policy) : policy.pending 0 = 0 := ite_self 0

end Lockout.Policy

namespace Site

variable {service : Service} {site : Site} {occurrence : Occurrence} {occurrences : List Occurrence}

/-- The visits of a history, in order. -/
def visits (service : Service) : Site → List Occurrence → List Visit
  | _, [] => []
  | site, .request request :: rest =>
    ⟨site, request⟩ :: (site.step service (.request request)).visits service rest
  | site, occurrence :: rest => (site.step service occurrence).visits service rest

/-- An occurrence brings a key to the number that locks, from the one before. -/
def Locks (service : Service) (site : Site) (occurrence : Occurrence) (key : String) : Prop :=
  site.counts key = service.lockout.policy.maxAttempts - 1 ∧
    (site.step service occurrence).counts key = service.lockout.policy.maxAttempts

/-- How often a key is brought to the number that locks in a history. -/
noncomputable def lockouts (service : Service) : Site → List Occurrence → ℕ∞
  | _, [] => 0
  | site, occurrence :: rest => {key | site.Locks service occurrence key}.encard +
    (site.step service occurrence).lockouts service rest

/-! ## What one occurrence does -/

/-- What the counters are after a request is what it has noted. -/
theorem count_step_request (request : Request) (event : Event) :
    (site.step service (.request request)).metrics.count event = site.metrics.count event +
      (eventsOf (Visit.run service ⟨site, request⟩).effects).count event := by
  rw [count_eventsOf]
  exact count_run site _ event

/-- No metric goes back. -/
theorem count_le_step (occurrence : Occurrence) (event : Event) :
    site.metrics.count event ≤ (site.step service occurrence).metrics.count event := by
  cases occurrence with
  | request request =>
    rw [count_step_request]
    exact Nat.le_add_right _ _
  | _ => exact Nat.le_refl _

/-- What an occurrence can do to the numbers of failed logins, and what is noted of that. -/
theorem counts_step (hfits : site.Fits service) (occurrence : Occurrence) :
    let site' := site.step service occurrence
    (Drops site.counts site'.counts ∧
      site'.metrics.count .loginLockedOut = site.metrics.count .loginLockedOut) ∨
    ∃ key, site'.counts = Function.update site.counts key (site.counts key + 1) ∧
      site'.metrics.count .loginFailed = site.metrics.count .loginFailed + 1 ∧
      site'.metrics.count .loginLockedOut = site.metrics.count .loginLockedOut +
        if site.counts key + 1 = service.lockout.policy.maxAttempts then 1 else 0 := by
  cases occurrence with
  | request request =>
    dsimp only
    rw [count_step_request, count_step_request]
    cases hlogin : request.login? service with
    | none =>
      obtain ⟨hdrops, hnoted⟩ := (Visit.mk site request).drops_of_none hfits hlogin
      refine .inl ⟨hdrops, ?_⟩
      rw [hnoted, List.count_append]
      split <;> split <;> rfl
    | some attempt =>
      obtain ⟨events, result, hnoted, -, hcourse⟩ :=
        (Visit.mk site request).course_of_login? hfits hlogin
      rw [hnoted]
      -- no course but the last one makes a number larger, or notes a lock
      generalize hcounts' : (Visit.run service ⟨site, request⟩).state.counts = counts' at hcourse
      cases hcourse with
      | refused _ hdrops => exact .inl ⟨hcounts' ▸ hdrops, rfl⟩
      | issued hdrops => exact .inl ⟨hcounts' ▸ hdrops, rfl⟩
      | uncounted => exact .inl ⟨hcounts' ▸ Drops.refl _, rfl⟩
      | counted key =>
        refine .inr ⟨key, hcounts', ?_, ?_⟩
        · split <;> rfl
        · split <;> rfl
  | switch available => exact .inl ⟨Drops.refl _, rfl⟩
  | change directory => exact .inl ⟨Drops.refl _, rfl⟩
  | wait span => exact .inl ⟨site.drops_advance span, rfl⟩

/-- Where numbers are kept or forgotten, no key is brought to the number that locks. -/
theorem not_locks_of_drops (h : Drops site.counts (site.step service occurrence).counts)
    (key : String) : ¬site.Locks service occurrence key := by
  rintro ⟨hbefore, hafter⟩
  have hpos := service.lockout.policy.maxAttempts_ne_zero
  rcases h key with hkept | hzero
  · -- no number is its own predecessor
    rw [hkept, hbefore] at hafter
    grind
  · exact hpos (hafter.symm.trans hzero)

/-- Where one key counts one more, it is the only one that may be locked by it. -/
theorem locks_iff {key : String}
    (h : (site.step service occurrence).counts =
      Function.update site.counts key (site.counts key + 1)) (other : String) :
    site.Locks service occurrence other ↔
      other = key ∧ site.counts key + 1 = service.lockout.policy.maxAttempts := by
  rw [Locks, h, UInt64.eq_sub_iff_add_eq]
  by_cases hother : other = key
  · rw [hother, Function.update_self]
    simp
  · rw [Function.update_of_ne hother]
    grind

/-- A lock is noted exactly if a key is brought to the number that locks. -/
theorem encard_locks (hfits : site.Fits service) (occurrence : Occurrence) :
    ((site.step service occurrence).metrics.count .loginLockedOut : ℕ∞) =
      site.metrics.count .loginLockedOut + {key | site.Locks service occurrence key}.encard := by
  rcases counts_step hfits occurrence with ⟨hdrops, hnoted⟩ | ⟨key, hcounts, -, hnoted⟩
  · have hnone : {key | site.Locks service occurrence key} = ∅ :=
      Set.eq_empty_of_forall_notMem (not_locks_of_drops hdrops)
    rw [hnone, hnoted, Set.encard_empty, add_zero]
  · simp only [hnoted, locks_iff hcounts]
    split
    · next hreached => simp [hreached]
    · next hunreached => simp [hunreached]

/-! ## Histories -/

/-- What is counted in three ways that exclude each other is counted once. -/
theorem countP_eq_add {α : Type} {p q r s : α → Bool} {l : List α}
    (h : ∀ a ∈ l, (p a).toNat = (q a).toNat + (r a).toNat + (s a).toNat) :
    l.countP p = l.countP q + l.countP r + l.countP s := by
  induction l with
  | nil => rfl
  | cons a l ih =>
    have hhead := h a List.mem_cons_self
    have htail := ih fun b hb => h b (List.mem_cons_of_mem _ hb)
    have hcons (t : α → Bool) : (a :: l).countP t = l.countP t + (t a).toNat := by
      rw [List.countP_cons]
      cases t a <;> rfl
    rw [hcons, hcons, hcons, hcons, hhead, htail]
    omega

/-- How often an event has been noted is the number of visits that show it. -/
theorem count_after {event : Event} (hne : event ≠ .loginLockedOut)
    (hfits : (site.after service occurrences).Fits service) :
    (site.after service occurrences).metrics.count event = site.metrics.count event +
      (site.visits service occurrences).countP (·.shows service event) := by
  induction occurrences generalizing site with
  | nil => rfl
  | cons occurrence rest ih =>
    rw [after_cons, ih hfits]
    cases occurrence with
    | request request =>
      have hnow : site.Fits service := hfits.of_le (now_le_after (.request request :: rest))
      rw [count_step_request, Visit.count_eventsOf_run ⟨site, request⟩ hnow hne, visits,
        List.countP_cons, Nat.add_assoc, Nat.add_comm (Bool.toNat _)]
      cases Visit.shows service ⟨site, request⟩ event <;> rfl
    | _ => rfl

/-- The window can be kept at every visit if it can be kept at the end. -/
theorem fits_of_mem_visits (hfits : (site.after service occurrences).Fits service) {visit : Visit}
    (h : visit ∈ site.visits service occurrences) : visit.site.Fits service := by
  induction occurrences generalizing site with
  | nil => cases h
  | cons occurrence rest ih =>
    cases occurrence with
    | request request =>
      rcases List.mem_cons.mp h with rfl | hlater
      · exact hfits.of_le (now_le_after (.request request :: rest))
      · exact ih hfits hlater
    | _ => exact ih hfits h

/-- Every login of a history is a success, a failure or a refusal. -/
theorem countP_logsIn (hfits : (site.after service occurrences).Fits service) :
    (site.visits service occurrences).countP (·.logsIn service) =
      (site.visits service occurrences).countP (·.issues service) +
        (site.visits service occurrences).countP (·.fails service) +
          (site.visits service occurrences).countP (·.isRefused service) :=
  countP_eq_add fun visit h => visit.toNat_logsIn (fits_of_mem_visits hfits h)

/-- Over a history as many locks are noted as keys were brought to the number that locks. -/
theorem lockouts_eq (hfits : (site.after service occurrences).Fits service) :
    ((site.after service occurrences).metrics.count .loginLockedOut : ℕ∞) =
      site.metrics.count .loginLockedOut + site.lockouts service occurrences := by
  induction occurrences generalizing site with
  | nil => exact (add_zero _).symm
  | cons occurrence rest ih =>
    rw [after_cons, ih hfits, lockouts, ← add_assoc,
      encard_locks (hfits.of_le (now_le_after (occurrence :: rest)))]

/-- The failures that are counted can be ascribed to keys, and the locks too, so that under each key
there are failures enough for its locks and for what counts towards the next one. -/
def Backed (service : Service) (site : Site) : Prop :=
  ∃ failed locked : Multiset String,
    failed.card ≤ site.metrics.count .loginFailed ∧
    locked.card = site.metrics.count .loginLockedOut ∧
    ∀ key, service.lockout.policy.maxAttempts.toNat * locked.count key +
      service.lockout.policy.pending (site.counts key) ≤ failed.count key

/-- Failures still suffice for the locks after what happens next. -/
theorem Backed.step (h : site.Backed service) (hfits : site.Fits service)
    (occurrence : Occurrence) : (site.step service occurrence).Backed service := by
  obtain ⟨failed, locked, hfailed, hlocked, hkeys⟩ := h
  rcases counts_step hfits occurrence with ⟨hdrops, hnoted⟩ | ⟨key, hcounts, hnoted, hlocks⟩
  · -- where no number grows the same failures are enough
    refine ⟨failed, locked, hfailed.trans (count_le_step _ _), hlocked.trans hnoted.symm, ?_⟩
    intro other
    refine le_trans ?_ (hkeys other)
    rcases hdrops other with hkept | hzero
    · rw [hkept]
    · rw [hzero, Lockout.Policy.pending_zero]
      exact Nat.le_add_right _ _
  · refine ⟨key ::ₘ failed, locked + if site.counts key + 1 = service.lockout.policy.maxAttempts
      then {key} else 0, ?_, ?_, ?_⟩
    · rw [Multiset.card_cons, hnoted]
      exact Nat.add_le_add_right hfailed 1
    · rw [Multiset.card_add, hlocked, hlocks]
      split <;> rfl
    · intro other
      rw [Multiset.count_add, hcounts]
      by_cases hother : other = key
      · rw [hother, Multiset.count_cons_self, Function.update_self]
        have hkey := hkeys key
        split
        · next hreached =>
          -- the lock uses up this failure and all that were pending
          obtain ⟨hlast, hnext⟩ := Lockout.Policy.pending_of_locks hreached
          rw [Multiset.count_singleton_self, hnext, Nat.mul_succ]
          omega
        · have hnext := service.lockout.policy.pending_succ_le (site.counts key)
          rw [Multiset.count_zero, Nat.add_zero]
          omega
      · rw [Multiset.count_cons_of_ne hother, Function.update_of_ne hother]
        have hnone : Multiset.count other
            (if site.counts key + 1 = service.lockout.policy.maxAttempts then {key} else 0) =
              0 := by
          split
          · rw [Multiset.count_singleton, if_neg hother]
          · exact Multiset.count_zero other
        rw [hnone]
        exact hkeys other

/-- Failures suffice for the locks after any history. -/
theorem Backed.after (h : site.Backed service)
    (hfits : (site.after service occurrences).Fits service) :
    (site.after service occurrences).Backed service := by
  induction occurrences generalizing site with
  | nil => exact h
  | cons occurrence rest ih =>
    exact ih (h.step (hfits.of_le (now_le_after (occurrence :: rest))) occurrence) hfits

/-- Every lock has as many failures of its own as it takes. -/
theorem Backed.lockouts_le (h : site.Backed service) :
    service.lockout.policy.maxAttempts.toNat * site.metrics.count .loginLockedOut ≤
      site.metrics.count .loginFailed := by
  obtain ⟨failed, locked, hfailed, hlocked, hkeys⟩ := h
  -- what holds under every key holds of the sizes
  have hle : service.lockout.policy.maxAttempts.toNat • locked ≤ failed := by
    refine Multiset.le_iff_count.mpr fun key => ?_
    rw [Multiset.count_nsmul]
    exact (Nat.le_add_right _ _).trans (hkeys key)
  calc service.lockout.policy.maxAttempts.toNat * site.metrics.count .loginLockedOut
      = (service.lockout.policy.maxAttempts.toNat • locked).card := by
        rw [Multiset.card_nsmul, hlocked]
    _ ≤ failed.card := Multiset.card_le_card hle
    _ ≤ site.metrics.count .loginFailed := hfailed

end Site

/-! ## Main statement -/

/-- The counters of a site that begins with nothing counted tell how the requests of its history
have ended, as long as the window of failed logins can be kept: every login is answered, with a
token, because it is wrong, or because of something else; there is a counter for all of them, one
for those with a token and one for those that are wrong. Two more tell the logouts of good tokens
and the validations that do not accept. The last one tells how often a key has been brought to the
number that locks, and there are that many failures at least for each time. -/
theorem metrics_tell (service : Service) (start : Site) (occurrences : List Occurrence)
    (hmetrics : start.metrics = Metrics.zero) (hcounts : ∀ key, start.counts key = 0)
    (hfits : (start.after service occurrences).Fits service) :
    let visits := start.visits service occurrences
    let metrics := (start.after service occurrences).metrics
    (∀ visit ∈ visits, (visit.logsIn service → (visit.login? service).isSome) ∧
      (∀ result, visit.login? service = some result →
        (visit.run service).answer? = some (visit.request.reportLogin service result)) ∧
      ∀ result, visit.logout? service = some result →
        (visit.run service).answer? =
          some (visit.request.reportLogout service visit.site.now result)) ∧
    metrics.count .loginRequested = visits.countP (·.logsIn service) ∧
    metrics.count .tokenIssued = visits.countP (·.issues service) ∧
    metrics.count .loginFailed = visits.countP (·.fails service) ∧
    metrics.count .loginRequested =
      metrics.count .tokenIssued + metrics.count .loginFailed +
        visits.countP (·.isRefused service) ∧
    metrics.count .tokenRevoked = visits.countP (·.revokes service) ∧
    metrics.count .validationFailed = visits.countP (·.rejects service) ∧
    (metrics.count .loginLockedOut : ℕ∞) = start.lockouts service occurrences ∧
    service.lockout.policy.maxAttempts.toNat * metrics.count .loginLockedOut ≤
      metrics.count .loginFailed := by
  intro visits metrics
  -- all counters but that of locks count visits
  have hcount : ∀ event, event ≠ .loginLockedOut →
      metrics.count event = visits.countP (·.shows service event) := by
    intro event hne
    have hafter := Site.count_after hne hfits
    rw [hmetrics] at hafter
    exact hafter.trans (Nat.zero_add _)
  have hrequested : metrics.count .loginRequested = visits.countP (·.logsIn service) :=
    hcount .loginRequested nofun
  have hissued : metrics.count .tokenIssued = visits.countP (·.issues service) :=
    hcount .tokenIssued nofun
  have hfailed : metrics.count .loginFailed = visits.countP (·.fails service) :=
    hcount .loginFailed nofun
  refine ⟨fun visit hvisit => ?_, hrequested, hissued, hfailed, ?_, hcount .tokenRevoked nofun,
    hcount .validationFailed nofun, ?_, ?_⟩
  · refine ⟨fun hlogsIn => ?_, fun _ => Visit.answer?_of_login?, fun _ => Visit.answer?_of_logout?⟩
    obtain ⟨attempt, hlogin⟩ := Option.isSome_iff_exists.mp hlogsIn
    obtain ⟨-, result, -, hresult, -⟩ :=
      visit.course_of_login? (Site.fits_of_mem_visits hfits hvisit) hlogin
    rw [hresult]
    rfl
  · rw [hrequested, hissued, hfailed]
    exact Site.countP_logsIn hfits
  · -- locks are counted by the keys that come to the number that locks
    have hlockouts := Site.lockouts_eq hfits
    rw [hmetrics] at hlockouts
    exact hlockouts.trans (zero_add _)
  · -- nothing is counted at the start, so there is nothing to be backed
    have hstart : start.Backed service := by
      refine ⟨0, 0, Nat.zero_le _, ?_, fun key => ?_⟩
      · rw [hmetrics]
        rfl
      · rw [hcounts, Lockout.Policy.pending_zero]
        exact Nat.le_refl 0
    exact (hstart.after hfits).lockouts_le

/-- A history with a lock, another failure when it is over, and an outage. -/
def Site.sampleDay : List Occurrence :=
  Lockout.Machine.sampleGuesses ++
    [.request Lockout.Machine.sampleGuess, .wait (Duration.ofSeconds 600),
      .request Lockout.Machine.sampleGuess, .switch false, .request Lockout.Machine.sampleGuess,
      .request (.rpcValidate "guess"), .request (.rpcValidate " ")]

/-- Of eight logins six fail and two are refused, and the five failures at the start lock. -/
theorem metrics_tell_sample :
    let visits := Site.sample.visits Service.sample Site.sampleDay
    (∀ key, Site.sample.counts key = 0) ∧
    (Site.sample.after Service.sample Site.sampleDay).Fits Service.sample ∧
    visits.countP (·.logsIn Service.sample) = 8 ∧ visits.countP (·.issues Service.sample) = 0 ∧
    visits.countP (·.fails Service.sample) = 6 ∧ visits.countP (·.isRefused Service.sample) = 2 ∧
    visits.countP (·.rejects Service.sample) = 1 ∧
    Site.sample.lockouts Service.sample Site.sampleDay = 1 := by
  intro visits
  have hcounts : ∀ key, Site.sample.counts key = 0 := fun _ => rfl
  have hfits : (Site.sample.after Service.sample Site.sampleDay).Fits Service.sample := by
    rw [Site.Fits]
    decide +kernel
  -- the counters are evaluated once, and the visits are told from them
  have hmetrics : Event.all.map
      (Site.sample.after Service.sample Site.sampleDay).metrics.count = [6, 1, 8, 1, 0, 0] := by
    decide +kernel
  obtain ⟨hfailed, hlocked, hrequested, hrejected, hissued, -⟩ := by
    simpa [Event.all] using hmetrics
  obtain ⟨-, hlogins, hgrants, hwrong, hends, -, hrefused, hlocks, -⟩ :=
    metrics_tell Service.sample Site.sample Site.sampleDay rfl hcounts hfits
  rw [hrequested, hissued, hfailed] at hends
  refine ⟨hcounts, hfits, ?_, ?_, ?_, ?_, ?_, ?_⟩
  · exact hlogins.symm.trans hrequested
  · exact hgrants.symm.trans hissued
  · exact hwrong.symm.trans hfailed
  · exact Nat.add_left_cancel hends.symm
  · exact hrefused.symm.trans hrejected
  · rw [← hlocks, hlocked]
    rfl

end Bearer
