import Bearer.Proofs.Lockout.Stages
import Bearer.Proofs.Password
import Mathlib.Data.Set.Card

/-!
# Logins of one pair that overlap

The lockout is asked for and a failure is counted in two calls to the store, and logins of the same
pair may act in between. So more logins than the policy's number can have their password checked,
but not many more: whoever is let pass finds fewer failures counted than lock, and all others who
are past the lockout and not counted yet are under way at that very moment.

Main statements: `logins_overlap` is the bound, whatever the order of steps, and
`logins_overlap_beyond` shows that without the logins under way there is none.
-/

namespace Bearer

/-- Whether an effect counts a failure under a key. -/
def Effect.advances (key : String) : Effect → Bool
  | .store (.increment other _) => other = key
  | _ => false

/-- An effect counts a failure under a key, resets the count, or leaves it. -/
theorem Effect.tally_cases (effect : Effect) (key : String) (n : Nat) :
    (effect.advances key = true ∧ effect.tally key n = n + 1) ∨
      effect.advances key = false ∧
        (effect.tally key n = n ∨ effect = .store (.delete key) ∧ effect.tally key n = 0) := by
  rcases effect with (_ | _ | ⟨other, _⟩ | _ | other) | _ | _ | _ | _
  case store.increment =>
    by_cases hkey : other = key
    · exact .inl ⟨decide_eq_true hkey, if_pos hkey⟩
    · exact .inr ⟨decide_eq_false hkey, .inl (if_neg hkey)⟩
  case store.delete =>
    by_cases hkey : other = key
    · exact .inr ⟨rfl, .inr ⟨by rw [hkey], if_pos hkey⟩⟩
    · exact .inr ⟨rfl, .inl (if_neg hkey)⟩
  all_goals exact .inr ⟨rfl, .inl rfl⟩

namespace Crowd

variable {α : Type} {crowd : Crowd α} {key : String} {window : Duration} {who : Nat}
  {effect : Effect} {next : effect.Reply → Program α}

/-- How many failures count under a key: those since the last reset. -/
def recorded (crowd : Crowd α) (key : String) : Nat :=
  crowd.deeds.foldl (fun n deed => deed.effect.tally key n) 0

/-- All failures that were counted under a key. -/
def failures (crowd : Crowd α) (key : String) : List Deed :=
  crowd.deeds.filter (·.effect.advances key)

/-- No failure that was counted under a key is as far back as the window when anything is done. -/
def InWindow (crowd : Crowd α) (key : String) (window : Duration) : Prop :=
  ∀ failure ∈ crowd.failures key, ∀ deed ∈ crowd.deeds, deed.moment < failure.moment.add window

/-- Whether nobody has reset the count of a key. -/
def NoneReset (crowd : Crowd α) (key : String) : Prop :=
  ∀ deed ∈ crowd.deeds, deed.effect ≠ .store (.delete key)

/-- Whether a login is under way: the lockout has let it pass, and it has neither counted a failure
nor reset the count. -/
def UnderWay (crowd : Crowd α) (who : Nat) : Prop := ∃ effect ∈ crowd.next? who, effect.IsGated

/-- Whether a login has had its password checked. -/
def Reached (crowd : Crowd α) (who : Nat) : Prop :=
  ∃ effect ∈ crowd.doneBy who, effect.ChecksPassword

/-- Whether a login has counted a failure under a key. -/
def Failed (crowd : Crowd α) (key : String) (who : Nat) : Prop :=
  ∃ effect ∈ crowd.doneBy who, effect.advances key

/-! ## What was counted -/

/-- One effect more changes the count of a key as its tally says. -/
theorem recorded_perform (crowd : Crowd α) (key : String) (who : Nat) (effect : Effect)
    (next : effect.Reply → Program α) :
    (crowd.perform who effect next).recorded key = effect.tally key (crowd.recorded key) := by
  rw [recorded, deeds_perform, List.foldl_append]
  rfl

/-- No failure is forgotten as a crowd goes on. -/
theorem failures_grow {later : Crowd α} (h : crowd.deeds <+: later.deeds) (key : String) :
    crowd.failures key <+: later.failures key :=
  h.filter _

/-- What stays within the window to the end has been within it before. -/
theorem InWindow.of_earlier {later : Crowd α} (h : later.InWindow key window)
    (hle : crowd.deeds <+: later.deeds) : crowd.InWindow key window := by
  intro failure hfailure deed hdeed
  exact h failure ((failures_grow hle key).subset hfailure) deed (hle.subset hdeed)

/-- What is done at one moment is within the window of every policy. -/
theorem inWindow_of_still (policy : Lockout.Policy) (site : Site) (programs : Nat → Program α)
    {turns : List Turn} (hstill : ∀ span, .wait span ∉ turns) (key : String) :
    ((start site programs).after turns).InWindow key policy.window := by
  intro failure hfailure deed hdeed
  have hmoment := (start site programs).moment_of_still hstill nofun
  rw [hmoment deed hdeed, hmoment failure (List.mem_filter.mp hfailure).1]
  have hwindow := policy.window_ne_zero
  simp only [Time.lt_def, Time.add]
  omega

/-- Where nobody resets a key to the end, nobody has before. -/
theorem NoneReset.of_earlier {later : Crowd α} (h : later.NoneReset key)
    (hle : crowd.deeds <+: later.deeds) : crowd.NoneReset key :=
  fun deed hdeed => h deed (hle.subset hdeed)

/-- No more failures count than there were, and all count if nobody has reset the count. -/
theorem foldl_tally (deeds : List Deed) (key : String) (n : Nat) :
    deeds.foldl (fun n deed => deed.effect.tally key n) n ≤
        n + (deeds.filter (·.effect.advances key)).length ∧
      ((∀ deed ∈ deeds, deed.effect ≠ .store (.delete key)) →
        deeds.foldl (fun n deed => deed.effect.tally key n) n =
          n + (deeds.filter (·.effect.advances key)).length) := by
  induction deeds generalizing n with
  | nil => exact ⟨Nat.le_refl n, fun _ => rfl⟩
  | cons deed deeds ih =>
    obtain ⟨hle, heq⟩ := ih (deed.effect.tally key n)
    rw [List.foldl_cons, List.filter_cons]
    rcases deed.effect.tally_cases key n with
      ⟨hadvances, htally⟩ | ⟨hleaves, htally | ⟨hdelete, htally⟩⟩
    · -- a failure: one more counts
      rw [htally] at hle heq ⊢
      rw [if_pos hadvances, List.length_cons]
      refine ⟨by omega, fun hnone => ?_⟩
      have := heq fun other hother => hnone other (List.mem_cons_of_mem _ hother)
      omega
    · -- as many count as before
      rw [htally] at hle heq ⊢
      rw [if_neg (by simp [hleaves])]
      exact ⟨hle, fun hnone => heq fun other hother => hnone other (List.mem_cons_of_mem _ hother)⟩
    · -- a reset: none counts any more, which is excluded where all are to count
      rw [htally] at hle ⊢
      rw [if_neg (by simp [hleaves])]
      exact ⟨by omega, fun hnone => absurd hdelete (hnone deed List.mem_cons_self)⟩

/-- No more failures count than there were. -/
theorem recorded_le (crowd : Crowd α) (key : String) :
    crowd.recorded key ≤ (crowd.failures key).length := by
  have h := (foldl_tally crowd.deeds key 0).1
  rwa [Nat.zero_add] at h

/-- If nobody has reset the count, all failures count. -/
theorem recorded_of_noneReset (h : crowd.NoneReset key) :
    crowd.recorded key = (crowd.failures key).length := by
  have heq := (foldl_tally crowd.deeds key 0).2 h
  rwa [Nat.zero_add] at heq

/-- There are no more logins that have counted a failure than failures. -/
theorem encard_failed_le (crowd : Crowd α) (key : String) :
    {who | crowd.Failed key who}.encard ≤ (crowd.failures key).length := by
  have hsubset : {who | crowd.Failed key who} ⊆
      ((crowd.failures key).map (·.who)).toFinset := by
    rintro who ⟨effect, hmem, hadvances⟩
    obtain ⟨deed, hdeed, rfl, rfl⟩ := mem_doneBy.mp hmem
    simp only [List.coe_toFinset, Set.mem_ofPred_eq]
    exact List.mem_map_of_mem (List.mem_filter.mpr ⟨hdeed, hadvances⟩)
  refine (Set.encard_le_encard hsubset).trans ?_
  rw [Set.encard_coe_eq_coe_finsetCard, Nat.cast_le]
  exact (List.toFinset_card_le _).trans_eq (List.length_map _)

/-! ## What the store holds -/

/-- A moment at which the window of some failure ends. -/
def IsEnd (crowd : Crowd α) (key : String) (window : Duration) (deadline : Time) : Prop :=
  ∃ failure ∈ crowd.failures key, deadline = failure.moment.add window

/-- The store of a crowd holds what was counted, up to the end of the window of some failure. -/
def Keeps (crowd : Crowd α) (key : String) (window : Duration) : Prop :=
  crowd.site.store.Holds key crowd.site.now (crowd.IsEnd key window) (crowd.recorded key)

/-- The end of a window stays one as a crowd goes on. -/
theorem IsEnd.of_earlier {later : Crowd α} {deadline : Time} (h : crowd.IsEnd key window deadline)
    (hle : crowd.deeds <+: later.deeds) : later.IsEnd key window deadline := by
  obtain ⟨failure, hfailure, heq⟩ := h
  exact ⟨failure, (failures_grow hle key).subset hfailure, heq⟩

/-- No window has ended when a program acts within the window of all failures. -/
theorem InWindow.lt_of_isEnd (h : (crowd.perform who effect next).InWindow key window)
    {deadline : Time} (hend : crowd.IsEnd key window deadline) : crowd.site.now < deadline := by
  obtain ⟨failure, hfailure, rfl⟩ := hend
  have hle := crowd.deeds_grow_perform who effect next
  refine h failure ((failures_grow hle key).subset hfailure) ⟨who, crowd.site.now, effect⟩ ?_
  rw [deeds_perform]
  exact List.mem_append_right _ (List.mem_singleton_self _)

/-- An effect that counts is counted by the store. -/
theorem Keeps.perform (h : crowd.Keeps key window) (hup : crowd.site.store.available)
    (hcounts : effect.Counts key window)
    (hwindow : (crowd.perform who effect next).InWindow key window)
    (hfew : crowd.recorded key < 2 ^ 64) :
    (crowd.perform who effect next).Keeps key window := by
  have hle := crowd.deeds_grow_perform who effect next
  rw [Keeps, recorded_perform]
  cases effect with
  | store call =>
    refine (Store.Memory.Holds.perform h hup (fun _ => hwindow.lt_of_isEnd) hfew hcounts).mono ?_
    rintro deadline (hend | ⟨rfl, rfl⟩)
    · exact hend.of_earlier hle
    · refine ⟨⟨who, crowd.site.now, .store (.increment key window)⟩, ?_, rfl⟩
      rw [failures, List.mem_filter, deeds_perform]
      exact ⟨List.mem_append_right _ (List.mem_singleton_self _), decide_eq_true rfl⟩
  | _ => exact Store.Memory.Holds.mono h fun _ hend => hend.of_earlier hle

/-- Whether a login is under way or has counted a failure under a key. -/
def Involves (crowd : Crowd α) (key : String) (who : Nat) : Prop :=
  crowd.UnderWay who ∨ crowd.Failed key who

end Crowd

namespace Service

variable {service : Service} {key : String} {crowd : Crowd (Except Failure Grant)} {who : Nat}
  {effect : Effect} {next : effect.Reply → Program (Except Failure Grant)}

/-- Logins that are asked for at the same time, each with the moment that it sees on the clock. -/
def logins (service : Service) (attempts : Nat → Attempt) (times : Nat → Time) (who : Nat) :
    Program (Except Failure Grant) :=
  (service.login (attempts who).email (attempts who).password (attempts who).origin
    ⟨times who, (attempts who).fresh⟩).run

/-- All programs of a crowd are logins that count their failures under one key, and its store, which
answers, holds what they have counted. -/
structure Contend (service : Service) (key : String) (crowd : Crowd (Except Failure Grant)) :
    Prop where
  up : crowd.site.store.available
  stage : ∀ who, Stage service key (crowd.doneBy who) (crowd.rest who)
  keeps : crowd.Keeps key service.lockout.policy.window

/-- Logins of one key begin with a clean store. -/
theorem contend_start {site : Site} {attempts : Nat → Attempt} {times : Nat → Time}
    (hkey : ∀ who address, (attempts who).address? = .ok address →
      Lockout.key address (attempts who).origin = key)
    (hup : site.store.available) (hclean : site.store.live? key site.now = none) :
    Contend service key (.start site (service.logins attempts times)) where
  up := hup
  stage who := .asked (hkey who) rfl
  keeps := .zero hclean

/-- A login that goes one effect on leaves a crowd of logins of one key. -/
theorem Contend.perform (h : Contend service key crowd)
    (hrest : crowd.rest who = some (.step effect next))
    (hwindow : (crowd.perform who effect next).InWindow key service.lockout.policy.window)
    (hfew : crowd.recorded key < 2 ^ 64) :
    Contend service key (crowd.perform who effect next) := by
  have hstage := h.stage who
  rw [hrest] at hstage
  refine ⟨?_, fun other => ?_, h.keeps.perform h.up hstage.counts hwindow hfew⟩
  · exact (Site.available_respond effect crowd.site).trans h.up
  · by_cases hother : other = who
    · rw [hother, Crowd.doneBy_perform_self, Crowd.rest_perform_self]
      exact hstage.perform h.up
    · rw [Crowd.doneBy_perform_of_ne hother, Crowd.rest_perform_of_ne hother]
      exact h.stage other

/-- Every turn within the window keeps the store in step with what was counted. -/
theorem Contend.take (h : Contend service key crowd) {turn : Turn}
    (hwindow : (crowd.take turn).InWindow key service.lockout.policy.window)
    (hfew : crowd.recorded key < 2 ^ 64) : Contend service key (crowd.take turn) := by
  cases turn with
  | act who =>
    rcases crowd.take_act_cases who with heq | ⟨effect, next, hrest, heq⟩
    · rw [heq]
      exact h
    · rw [heq] at hwindow ⊢
      exact h.perform hrest hwindow hfew
  | wait span => exact ⟨h.up, h.stage, h.keeps.of_le (Time.le_add _ _)⟩
  | change directory => exact ⟨h.up, h.stage, h.keeps⟩

/-- A crowd of logins of one key is one after each turn, as long as the turns to come stay within
the window. -/
theorem Contend.take_of_after (h : Contend service key crowd) {turn : Turn} {turns : List Turn}
    (hwindow : (crowd.after (turn :: turns)).InWindow key service.lockout.policy.window)
    (hfew : ((crowd.after (turn :: turns)).failures key).length < 2 ^ 64) :
    Contend service key (crowd.take turn) := by
  have hfailures := Crowd.failures_grow (crowd.deeds_grow (turn :: turns)) key
  refine h.take (hwindow.of_earlier ((crowd.take turn).deeds_grow turns)) ?_
  exact (crowd.recorded_le key).trans_lt (hfailures.length_le.trans_lt hfew)

/-- What has been counted is what the store holds, so a login is let pass only while fewer failures
count than lock. -/
theorem Contend.locks_iff (h : Contend service key crowd)
    (hwindow : (crowd.perform who effect next).InWindow key service.lockout.policy.window)
    (hfew : crowd.recorded key < 2 ^ 64) :
    service.lockout.policy.locks (crowd.site.store.countAt key crowd.site.now) ↔
      service.lockout.policy.maxAttempts.toNat ≤ crowd.recorded key := by
  rw [h.keeps.countAt fun _ => hwindow.lt_of_isEnd, Lockout.Policy.locks_ofNat _ hfew,
    decide_eq_true_eq]

/-- A login gets under way only by asking for the count while fewer failures count than lock, and
counts a failure only if it was under way. -/
theorem Contend.involves_perform (h : Contend service key crowd)
    (hrest : crowd.rest who = some (.step effect next))
    (hwindow : (crowd.perform who effect next).InWindow key service.lockout.policy.window)
    (hfew : crowd.recorded key < 2 ^ 64) {other : Nat}
    (hinvolves : (crowd.perform who effect next).Involves key other) :
    crowd.Involves key other ∨ effect = .store (.count key) ∧
      crowd.recorded key < service.lockout.policy.maxAttempts.toNat := by
  by_cases hother : other = who
  · subst hother
    have hunderWay (hgated : effect.IsGated) : crowd.UnderWay other :=
      ⟨effect, Crowd.next?_eq_some.mpr ⟨next, hrest⟩, hgated⟩
    rcases hinvolves with ⟨gated, hgated, hisGated⟩ | ⟨failed, hfailed, hadvances⟩
    · -- it is under way now, so this effect was let pass or has let it pass
      obtain ⟨after, hafter⟩ := Crowd.next?_eq_some.mp hgated
      have hstage := (h.perform hrest hwindow hfew).stage other
      rw [hafter] at hstage
      obtain ⟨last, hlast, hlast'⟩ := hstage.last_of_gated hisGated
      rw [Crowd.doneBy_perform_self, List.getLast?_concat, Option.mem_some] at hlast
      subst hlast
      rcases hlast' with rfl | hpassed
      · refine .inr ⟨rfl, Nat.lt_of_not_le fun hlocks => ?_⟩
        have hbefore := h.stage other
        rw [hrest] at hbefore
        obtain ⟨-, hrefused⟩ := hbefore.refused h.up ((h.locks_iff hwindow hfew).mpr hlocks)
        rw [Crowd.rest_perform_self, hrefused] at hafter
        cases hafter
      · exact .inl (.inl (hunderWay hpassed))
    · -- it has failed before, or fails by this effect, which the lockout had let pass
      rw [Crowd.doneBy_perform_self, List.mem_append, List.mem_singleton] at hfailed
      rcases hfailed with hfailed | rfl
      · exact .inl (.inr ⟨failed, hfailed, hadvances⟩)
      · refine .inl (.inl (hunderWay ?_))
        cases failed with
        | store call =>
          cases call with
          | increment => trivial
          | _ => cases hadvances
        | _ => cases hadvances
  · rw [Crowd.Involves, Crowd.UnderWay, Crowd.Failed, Crowd.next?_perform_of_ne hother,
      Crowd.doneBy_perform_of_ne hother] at hinvolves
    exact .inl hinvolves

/-- The logins that are involved are no more than the policy's number and those that have overlapped
at the most, but for one. -/
theorem Contend.encard_involves_perform (h : Contend service key crowd) {limit : Nat}
    (hrest : crowd.rest who = some (.step effect next))
    (hwindow : (crowd.perform who effect next).InWindow key service.lockout.policy.window)
    (hfew : crowd.recorded key < 2 ^ 64)
    (hnone : (crowd.perform who effect next).NoneReset key)
    (hlimit : {other | (crowd.perform who effect next).UnderWay other}.encard ≤ limit)
    (hbound : {other | crowd.Involves key other}.encard ≤
      (service.lockout.policy.maxAttempts.toNat + limit - 1 : Nat)) :
    {other | (crowd.perform who effect next).Involves key other}.encard ≤
      (service.lockout.policy.maxAttempts.toNat + limit - 1 : Nat) := by
  by_cases hpasses : effect = .store (.count key) ∧
      crowd.recorded key < service.lockout.policy.maxAttempts.toNat
  · -- all that have failed are counted, and whoever else is involved is under way
    obtain ⟨rfl, hfree⟩ := hpasses
    have hcount : ((crowd.perform who (.store (.count key)) next).failures key).length =
        crowd.recorded key := by
      rw [← Crowd.recorded_of_noneReset hnone, Crowd.recorded_perform]
      rfl
    have hfailed := (crowd.perform who (.store (.count key)) next).encard_failed_le key
    rw [hcount] at hfailed
    calc {other | (crowd.perform who (.store (.count key)) next).Involves key other}.encard
        ≤ {other | (crowd.perform who (.store (.count key)) next).UnderWay other}.encard +
          {other | (crowd.perform who (.store (.count key)) next).Failed key other}.encard :=
          Set.encard_union_le _ _
      _ ≤ (limit : ℕ∞) + (crowd.recorded key : ℕ∞) :=
          add_le_add hlimit hfailed
      _ ≤ (service.lockout.policy.maxAttempts.toNat + limit - 1 : Nat) := by
          rw [← Nat.cast_add, Nat.cast_le]
          omega
  · -- nobody is let pass, so nobody gets involved who was not
    refine (Set.encard_le_encard fun other hother => ?_).trans hbound
    exact (h.involves_perform hrest hwindow hfew hother).resolve_right hpasses

/-- The logins of a crowd contend for as long as all is done within the window. -/
theorem Contend.after (h : Contend service key crowd) {turns : List Turn}
    (hwindow : (crowd.after turns).InWindow key service.lockout.policy.window)
    (hfew : ((crowd.after turns).failures key).length < 2 ^ 64) :
    Contend service key (crowd.after turns) := by
  induction turns generalizing crowd with
  | nil => exact h
  | cons turn turns ih => exact ih (h.take_of_after hwindow hfew) hwindow hfew

/-- Over any turns within the window in which nobody resets the count, no more logins get involved
than the policy's number and those that overlap, but for one. -/
theorem Contend.encard_involves_after (h : Contend service key crowd) {limit : Nat}
    {turns : List Turn}
    (hwindow : (crowd.after turns).InWindow key service.lockout.policy.window)
    (hfew : ((crowd.after turns).failures key).length < 2 ^ 64)
    (hnone : (crowd.after turns).NoneReset key)
    (hlimit : ∀ past, past <+: turns → {who | (crowd.after past).UnderWay who}.encard ≤ limit)
    (hbound : {who | crowd.Involves key who}.encard ≤
      (service.lockout.policy.maxAttempts.toNat + limit - 1 : Nat)) :
    {who | (crowd.after turns).Involves key who}.encard ≤
      (service.lockout.policy.maxAttempts.toNat + limit - 1 : Nat) := by
  -- by induction on the turns; only an effect changes who is involved
  induction turns generalizing crowd with
  | nil => exact hbound
  | cons turn turns ih =>
    refine ih (h.take_of_after hwindow hfew) hwindow hfew hnone (fun past hpast => ?_) ?_
    · exact hlimit (turn :: past) (List.cons_prefix_cons.mpr ⟨rfl, hpast⟩)
    cases turn with
    | act who =>
      rcases crowd.take_act_cases who with heq | ⟨effect, next, hrest, heq⟩
      · rw [heq]
        exact hbound
      · have hfew' : crowd.recorded key < 2 ^ 64 :=
          (crowd.recorded_le key).trans_lt
            ((Crowd.failures_grow (crowd.deeds_grow _) key).length_le.trans_lt hfew)
        have hlimit' := hlimit [.act who] (List.cons_prefix_cons.mpr ⟨rfl, List.nil_prefix⟩)
        rw [Crowd.after_cons, Crowd.after_nil, heq] at hlimit'
        have hgrow := (crowd.perform who effect next).deeds_grow turns
        rw [← heq, ← Crowd.after_cons] at hgrow
        rw [heq] at hgrow ⊢
        exact h.encard_involves_perform hrest (hwindow.of_earlier hgrow) hfew'
          (hnone.of_earlier hgrow) hlimit' hbound
    | wait span => exact hbound
    | change directory => exact hbound

/-- Nobody is involved at the start. -/
theorem not_involves_start (service : Service) (site : Site) (attempts : Nat → Attempt)
    (times : Nat → Time) (key : String) (who : Nat) :
    ¬(Crowd.start site (service.logins attempts times)).Involves key who := by
  rintro (⟨gated, hnext, hgated⟩ | ⟨effect, hdone, -⟩)
  · have hfirst : (Crowd.start site (service.logins attempts times)).next? who =
        some (.note .loginRequested) := by
      rw [Crowd.next?, Crowd.start, Option.bind_some, logins, run_login_eq]
      rfl
    rw [hfirst] at hnext
    cases hnext
    exact hgated
  · cases hdone

/-- A login that has had its password checked is involved, unless somebody has reset the count. -/
theorem Contend.involves_of_reached (h : Contend service key crowd) (hnone : crowd.NoneReset key)
    (hreached : crowd.Reached who) : crowd.Involves key who := by
  rcases (h.stage who).settles hreached with hunderWay | hfailed | hreset
  · exact .inl hunderWay
  · exact .inr ⟨_, hfailed, decide_eq_true rfl⟩
  · obtain ⟨deed, hdeed, -, heffect⟩ := Crowd.mem_doneBy.mp hreset
    exact absurd heffect (hnone deed hdeed)

/-- A login that asks for the count when as many failures count as lock is refused, and does nothing
else. -/
theorem Contend.refused (h : Contend service key crowd)
    {next : Effect.Reply (.store (.count key)) → Program (Except Failure Grant)}
    (hrest : crowd.rest who = some (.step (.store (.count key)) next))
    (hwindow : (crowd.perform who (.store (.count key)) next).InWindow key
      service.lockout.policy.window)
    (hfew : crowd.recorded key < 2 ^ 64)
    (hlocks : service.lockout.policy.maxAttempts.toNat ≤ crowd.recorded key)
    (turns : List Turn) :
    let later := (crowd.perform who (.store (.count key)) next).after turns
    later.rest who = some (.done (.error (.refusal .tooManyAttempts))) ∧
      later.doneBy who = [.note .loginRequested, .store (.count key)] := by
  have hstage := h.stage who
  rw [hrest] at hstage
  obtain ⟨hdone, hrefused⟩ := hstage.refused h.up ((h.locks_iff hwindow hfew).mpr hlocks)
  have hnow : (crowd.perform who (.store (.count key)) next).rest who =
      some (.done (.error (.refusal .tooManyAttempts))) := by
    rw [Crowd.rest_perform_self, hrefused]
  obtain ⟨hkept, hdeeds⟩ := Crowd.after_of_done hnow turns
  refine ⟨hkept, ?_⟩
  rw [hdeeds, Crowd.doneBy_perform_self, hdone]
  rfl

/-- Any number of logins that count their failures under one key are handled at the same time, in
any order of their steps, while time passes and the directory changes; the store answers, shows
nothing under the key at the start, and all is done within the window. If never more than some
number of them are under way at once, then until one succeeds no more have their password checked
than the policy's number and that number, but for one: so exactly the policy's number if none
overlap. And a login that asks for the lockout when as many failures count as lock is refused, and
has nothing looked up or checked. -/
theorem logins_overlap (service : Service) {site : Site} {key : String} {attempts : Nat → Attempt}
    {times : Nat → Time}
    (hkey : ∀ who address, (attempts who).address? = .ok address →
      Lockout.key address (attempts who).origin = key)
    (hup : site.store.available) (hclean : site.store.live? key site.now = none)
    (turns : List Turn)
    (hwindow : ((Crowd.start site (service.logins attempts times)).after turns).InWindow key
      service.lockout.policy.window)
    (hfew : (((Crowd.start site (service.logins attempts times)).after turns).failures key).length <
      2 ^ 64) :
    let crowd := Crowd.start site (service.logins attempts times)
    let most := service.lockout.policy.maxAttempts.toNat
    (∀ limit : Nat,
      (∀ past, past <+: turns → {who | (crowd.after past).UnderWay who}.encard ≤ limit) →
      (crowd.after turns).NoneReset key →
      {who | (crowd.after turns).Reached who}.encard ≤ (most + limit - 1 : Nat)) ∧
    ∀ past who future, turns = past ++ .act who :: future →
      (crowd.after past).next? who = some (.store (.count key)) →
      most ≤ (crowd.after past).recorded key →
      (crowd.after turns).rest who = some (.done (.error (.refusal .tooManyAttempts))) ∧
        (crowd.after turns).doneBy who = [.note .loginRequested, .store (.count key)] := by
  intro crowd most
  have hstart : Contend service key crowd := contend_start hkey hup hclean
  constructor
  · intro limit hlimit hnone
    have hempty : {who | crowd.Involves key who} = ∅ :=
      Set.eq_empty_of_forall_notMem (not_involves_start service site attempts times key)
    have hbound := hstart.encard_involves_after hwindow hfew hnone hlimit (by simp [hempty])
    refine (Set.encard_le_encard fun who hreached => ?_).trans hbound
    exact (hstart.after hwindow hfew).involves_of_reached hnone hreached
  · rintro past who future rfl hnext hlocks
    obtain ⟨next, hrest⟩ := Crowd.next?_eq_some.mp hnext
    -- what holds of all turns holds before its turn, since what is done only grows
    have hafter : crowd.after (past ++ .act who :: future) =
        ((crowd.after past).perform who (.store (.count key)) next).after future := by
      rw [Crowd.after_append, Crowd.after_cons, Crowd.take_act hrest]
    rw [hafter] at hwindow hfew ⊢
    have hgrow := ((crowd.after past).perform who (.store (.count key)) next).deeds_grow future
    have hpast := ((crowd.after past).deeds_grow_perform who _ next).trans hgrow
    have hfew' := (Crowd.failures_grow hpast key).length_le.trans_lt hfew
    have hcontend := hstart.after (hwindow.of_earlier hpast) hfew'
    exact hcontend.refused hrest (hwindow.of_earlier hgrow)
      (((crowd.after past).recorded_le key).trans_lt hfew') hlocks future

/-! ## Two logins that overlap -/

/-- The sample settings, but for a lockout that starts with the first failure. -/
def strict : Service :=
  { Service.sample with
    lockout := ⟨⟨1, Duration.ofSeconds 600, by decide, Lockout.Policy.standard.window_ne_zero⟩,
      .failClosed⟩ }

/-- The same login over and over, at a site without users. -/
def rivals : Crowd (Except Failure Grant) :=
  .start Site.sample
    (strict.logins (fun _ => ⟨"a@b", "right", "unknown", ⟨[]⟩⟩) fun _ => Site.sample.now)

/-- The key of all these logins. -/
def rivalKey : String := Lockout.key "a@b" "unknown"

/-- Two logins are let pass before the second of them fails. -/
def overlap : List Turn := [.act 0, .act 0, .act 1, .act 1, .act 1, .act 1, .act 1]

/-- The logins of the sample are all of one key. -/
theorem rivals_key (_ : Nat) (address : String)
    (h : (⟨"a@b", "right", "unknown", ⟨[]⟩⟩ : Attempt).address? = .ok address) :
    Lockout.key address "unknown" = rivalKey := by
  have haddress : (⟨"a@b", "right", "unknown", ⟨[]⟩⟩ : Attempt).address? = .ok "a@b" := rfl
  cases haddress.symm.trans h
  rfl

/-- With two that overlap at the most, no more than two have their password checked; and a third
that asks for the lockout after the failure is refused. -/
theorem logins_overlap_sample :
    {who | (rivals.after (overlap ++ [.act 0, .act 0])).Reached who}.encard ≤ 2 ∧
      (rivals.after (overlap ++ [.act 2, .act 2])).rest 2 =
        some (.done (.error (.refusal .tooManyAttempts))) ∧
      (rivals.after (overlap ++ [.act 2, .act 2])).doneBy 2 =
        [.note .loginRequested, .store (.count rivalKey)] := by
  constructor
  · have hwindow : (rivals.after (overlap ++ [.act 0, .act 0])).InWindow rivalKey
        strict.lockout.policy.window :=
      Crowd.inWindow_of_still _ _ _ (by simp [overlap]) _
    obtain ⟨hbound, -⟩ := strict.logins_overlap rivals_key rfl rfl _ hwindow (by decide +kernel)
    refine hbound 2 (fun past hpast => ?_) ?_
    · -- nobody else has a turn
      have hpair : {who | (rivals.after past).UnderWay who} ⊆ {0, 1} := by
        rintro who ⟨gated, hnext, hgated⟩
        by_contra hother
        have hidle : .act who ∉ past := by
          intro hmem
          have hturn := hpast.subset hmem
          simp only [overlap, List.mem_append, List.mem_cons, Turn.act.injEq, List.not_mem_nil,
            or_false] at hturn
          rw [Set.mem_insert_iff, Set.mem_singleton_iff] at hother
          omega
        rw [Crowd.next?, Crowd.rest_after_of_notMem hidle] at hnext
        exact not_involves_start strict _ _ _ rivalKey who (.inl ⟨gated, hnext, hgated⟩)
      exact (Set.encard_le_encard hpair).trans (Set.encard_pair (by decide)).le
    · unfold Crowd.NoneReset
      decide +kernel
  · have hwindow : (rivals.after (overlap ++ [.act 2, .act 2])).InWindow rivalKey
        strict.lockout.policy.window :=
      Crowd.inWindow_of_still _ _ _ (by simp [overlap]) _
    obtain ⟨-, hrefused⟩ := strict.logins_overlap rivals_key rfl rfl _ hwindow (by decide +kernel)
    exact hrefused (overlap ++ [.act 2]) 2 [] rfl rfl (by decide +kernel)

/-- A user who has signed up in the meantime. -/
def newcomer : User := ⟨⟨[]⟩, "a@b", .employee, Password.hash (List.replicate 16 0) "right"⟩

/-- The newcomer's password is right. -/
theorem authenticate_newcomer :
    Directory.authenticate? ⟨[newcomer], true⟩ "a@b" "right" = some newcomer := by
  have hfind : [newcomer].find? (·.email = "a@b") = some newcomer := rfl
  have hverify : Password.verifyStored "right" (some newcomer.passwordHash) = true :=
    Password.verify_hash (by decide) "right"
  rw [Directory.authenticate?, hfind, Option.filter_some, if_pos hverify]

/-- The first login is about to look its user up when the other has failed. -/
theorem rest_overlap :
    (rivals.after overlap).rest 0 =
      some (strict.lookUp "a@b" "right" rivalKey ⟨Site.sample.now, ⟨[]⟩⟩).run := by
  have hlogin : strict.login "a@b" "right" "unknown" ⟨Site.sample.now, ⟨[]⟩⟩ = (do
      Program.note .loginRequested
      refusable (strict.lockout.check rivalKey)
      strict.lookUp "a@b" "right" rivalKey ⟨Site.sample.now, ⟨[]⟩⟩) := by
    have hemail : Email.normalize? "a@b" = .ok "a@b" := rfl
    rw [login_of_wellFormed hemail (by decide), attempt_eq, rivalKey]
  have hlogins : strict.logins (fun _ => ⟨"a@b", "right", "unknown", ⟨[]⟩⟩)
      (fun _ => Site.sample.now) = fun _ => (do
        Program.note .loginRequested
        refusable (strict.lockout.check rivalKey)
        strict.lookUp "a@b" "right" rivalKey ⟨Site.sample.now, ⟨[]⟩⟩ : Flow Grant).run :=
    funext fun _ => congrArg ExceptT.run hlogin
  -- once the address is read, the turns can be evaluated
  rw [rivals, hlogins]
  rfl

/-- The login that was let pass before the other failed is let in by the right password. -/
theorem rivals_accepted : ∃ grant,
    (rivals.after (overlap ++ .change ⟨[newcomer], true⟩ :: List.replicate 4 (.act 0))).rest 0 =
      some (.done (.ok grant)) := by
  -- the crowd is not to be computed beyond this point, or the password would be hashed
  obtain ⟨crowd, hcrowd, hrest, hup, hdirectory⟩ : ∃ crowd,
      (rivals.after overlap).take (.change ⟨[newcomer], true⟩) = crowd ∧
      crowd.rest 0 = some (strict.lookUp "a@b" "right" rivalKey ⟨Site.sample.now, ⟨[]⟩⟩).run ∧
      crowd.site.store.available = true ∧ crowd.site.directory = ⟨[newcomer], true⟩ :=
    ⟨_, rfl, rest_overlap, rfl, rfl⟩
  have hnow : Site.sample.now.InCalendar := by decide
  obtain ⟨issued, hissue⟩ := Token.issue_eq_ok strict.secret newcomer.id.text newcomer.role
    (Uuid.text ⟨[]⟩) hnow (by decide : 1 ≤ strict.lifetime.seconds) (by decide)
  have hrun : crowd.site.run (strict.lookUp "a@b" "right" rivalKey ⟨Site.sample.now, ⟨[]⟩⟩).run =
    _ := run_lookUp (by rw [hdirectory]) rivalKey
  rw [hdirectory, authenticate_newcomer, settleAttempt, run_grant hup hissue] at hrun
  have hturns : (crowd.site.run (strict.lookUp "a@b" "right" rivalKey
      ⟨Site.sample.now, ⟨[]⟩⟩).run).effects.length = 4 := by
    rw [hrun]
    rfl
  refine ⟨⟨issued, newcomer.id, newcomer.role⟩, ?_⟩
  rw [Crowd.after_append, Crowd.after_cons, hcrowd, Crowd.rest_after_alone hrest hturns, hrun]
  rfl

/-- A lockout that asks and counts in two steps does not keep to its number. With a number of one,
two logins have their password checked before any has succeeded; and when one of them has failed and
the pair is locked, the other, whose password has not been checked yet, is let in by the right one.
All this happens at one moment. -/
theorem logins_overlap_beyond :
    let policy := strict.lockout.policy
    let locked := rivals.after overlap
    let checked := rivals.after (overlap ++ [.act 0, .act 0])
    let accepted :=
      rivals.after (overlap ++ .change ⟨[newcomer], true⟩ :: List.replicate 4 (.act 0))
    policy.maxAttempts = 1 ∧
      (checked.InWindow rivalKey policy.window ∧ checked.NoneReset rivalKey ∧
        2 ≤ {who | checked.Reached who}.encard) ∧
      accepted.InWindow rivalKey policy.window ∧ locked.recorded rivalKey = 1 ∧
        ¬locked.Reached 0 ∧ ∃ grant, accepted.rest 0 = some (.done (.ok grant)) := by
  intro policy locked checked accepted
  refine ⟨rfl, ⟨?_, ?_, ?_⟩, ?_, by decide +kernel, ?_, rivals_accepted⟩
  · exact Crowd.inWindow_of_still _ _ _ (by simp [overlap]) _
  · unfold Crowd.NoneReset
    decide +kernel
  · -- the two that were let pass have both had their passwords checked
    have hpair : {0, 1} ⊆ {who | checked.Reached who} := by
      rintro who (rfl | rfl)
      · exact ⟨.checkPassword "right" none, by decide +kernel, trivial⟩
      · exact ⟨.checkPassword "right" none, by decide +kernel, trivial⟩
    exact (Set.encard_pair (by decide)).ge.trans (Set.encard_le_encard hpair)
  · exact Crowd.inWindow_of_still _ _ _ (by simp [overlap]) _
  · rintro ⟨effect, hdone, hchecks⟩
    -- when the lock comes, the first one has asked for the lockout and no more
    have hfirst : locked.doneBy 0 = [.note .loginRequested, .store (.count rivalKey)] := rfl
    rw [hfirst] at hdone
    simp only [List.mem_cons, List.not_mem_nil, or_false] at hdone
    rcases hdone with rfl | rfl <;> exact hchecks

end Service
end Bearer
