import Bearer.Proofs.Lockout.Stages
import Mathlib.Data.List.Induction
import Mathlib.Data.List.Nodup

/-!
# What a lockout tells callers that take turns

Callers ask a lockout about keys, count failures under them and reset them, in any order and while
time passes. The calls about one key fall into epochs. An epoch begins with a failure; it ends when
the key is reset, or with the first failure after the window has passed that its own first failure
has opened. Every call is answered by the number of failures that count in its epoch, and by nothing
else: what is done with other keys does not matter.

The proof goes along the turns. `Epochs.Stand.report` says that a call is answered by the epochs so
far and leaves in the store what the epochs are then; that a whole journal is answered so is an
induction, and all else is read off such a journal.

Main statement: `failures_counted`.
-/

namespace Bearer

open Program (Run)

namespace Lockout

/-- Which call of the lockout is made. -/
inductive Kind where
  /-- It is asked whether a key is locked. -/
  | ask
  /-- A failure is counted. -/
  | fail
  /-- The key is reset. -/
  | reset
  deriving DecidableEq

/-- A call of the lockout with what it is answered, if it is not aborted. -/
inductive Act where
  /-- Whether the key is locked, and whether it is let through. -/
  | ask (locked? : Option (Except Refusal Bool)) (checked? : Option (Except Refusal Unit))
  /-- How many failures count then. -/
  | fail (count? : Option (Except Refusal UInt64))
  | reset (done? : Option (Except Refusal Unit))

def Act.kind : Act → Kind
  | .ask .. => .ask
  | .fail _ => .fail
  | .reset _ => .reset

/-- The number that is returned to one that counts a failure. -/
def Act.returned? : Act → Option UInt64
  | .fail (some (.ok count)) => some count
  | _ => none

/-- What a caller did with a key, and when. -/
structure Report where
  moment : Time
  /-- The call and its answer. -/
  act : Act

/-- The call without its answer. -/
def Report.call (report : Report) : Time × Kind := (report.moment, report.act.kind)

/-- How a lockout answers when some number of failures count. -/
def Policy.answer (policy : Policy) (n : Nat) : Kind → Act
  | .ask => .ask (some (.ok (policy.maxAttempts.toNat ≤ n)))
    (some (if policy.maxAttempts.toNat ≤ n then .error .tooManyAttempts else .ok ()))
  | .fail => .fail (some (.ok (.ofNat (n + 1))))
  | .reset => .reset (some (.ok ()))

@[simp]
theorem Policy.kind_answer (policy : Policy) (n : Nat) (kind : Kind) :
    (policy.answer n kind).kind = kind := by
  cases kind <;> rfl

/-- The failures that were counted under a key, epoch by epoch. -/
structure Epochs where
  /-- Those that have ended. -/
  past : List (List Report)
  current : List Report

namespace Epochs

variable {policy : Policy} {window : Duration} {epochs : Epochs} {now later : Time}
  {journal : List Report} {report : Report}

def all (epochs : Epochs) : List (List Report) := epochs.past ++ [epochs.current]

/-- The moment at which the failures that count now are forgotten: a window after the first of
them. There is none if no failure counts. -/
def deadline? (window : Duration) (epochs : Epochs) (now : Time) : Option Time :=
  (epochs.current.head?.map (·.moment.add window)).filter (now < ·)

/-- How many failures count at a moment. -/
def count (window : Duration) (epochs : Epochs) (now : Time) : Nat :=
  if (epochs.deadline? window now).isSome then epochs.current.length else 0

/-- The entry that stands in the store for the failures that count. -/
def record? (window : Duration) (epochs : Epochs) (now : Time) : Option Store.Entry :=
  (epochs.deadline? window now).map fun deadline =>
    ⟨Store.Memory.counterText (.ofNat epochs.current.length), some deadline⟩

/-- The epochs with one call more. -/
def add (window : Duration) (epochs : Epochs) (report : Report) : Epochs :=
  match report.act.kind with
  | .ask => epochs
  | .reset => ⟨epochs.all, []⟩
  | .fail =>
    if (epochs.deadline? window report.moment).isSome then
      { epochs with current := epochs.current ++ [report] }
    else ⟨epochs.all, [report]⟩

/-- The epochs of all calls about a key. -/
def ofJournal (window : Duration) (journal : List Report) : Epochs :=
  journal.foldl (add window) ⟨[], []⟩

/-- Every call of a journal is answered by the number of failures that count in its epoch. -/
def Answers (policy : Policy) (journal : List Report) : Prop :=
  ∀ before report, before ++ [report] <+: journal →
    report.act = policy.answer
      ((ofJournal policy.window before).count policy.window report.moment) report.act.kind

/-- One call more is added to the epochs of the calls before it. -/
theorem ofJournal_concat (window : Duration) (journal : List Report) (report : Report) :
    ofJournal window (journal ++ [report]) = (ofJournal window journal).add window report := by
  rw [ofJournal, List.foldl_append]
  rfl

/-- Nothing has been answered wrongly in an empty journal. -/
theorem answers_nil : Answers policy [] := by
  intro before report hinitial
  have hnil := List.prefix_nil.mp hinitial
  simp at hnil

/-- What is answered by its epochs to the end is so at each moment before. -/
theorem Answers.of_prefix {front : List Report} (h : Answers policy journal)
    (hfront : front <+: journal) : Answers policy front :=
  fun before report hinitial => h before report (hinitial.trans hfront)

/-- A journal is answered by its epochs exactly if it was so before its last call, and that call is.
-/
theorem answers_concat : Answers policy (journal ++ [report]) ↔ Answers policy journal ∧
    report.act = policy.answer
      ((ofJournal policy.window journal).count policy.window report.moment) report.act.kind := by
  constructor
  · intro h
    exact ⟨h.of_prefix (List.prefix_append _ _), h journal report List.prefix_rfl⟩
  · rintro ⟨h, hlast⟩ before other hinitial
    -- a call of the longer journal is the last one or was in the shorter journal already
    rcases List.prefix_concat_iff.mp hinitial with heq | hinitial
    · obtain ⟨rfl, hsame⟩ := List.append_inj' heq rfl
      cases hsame
      exact hlast
    · exact h before other hinitial

/-! ## What counts at a moment -/

/-- A deadline stands until it has passed. -/
theorem deadline?_of_le (epochs : Epochs) (hle : now ≤ later) :
    epochs.deadline? window later = (epochs.deadline? window now).filter (later < ·) := by
  rw [deadline?, deadline?, Option.filter_filter]
  congr 1
  funext deadline
  -- a deadline that is to come later is to come now
  by_cases hlater : later < deadline
  · simp [hlater, Time.lt_of_le_of_lt hle hlater]
  · simp [hlater]

/-- The entry for what counts is shown as long as it is live. -/
theorem record?_of_le (epochs : Epochs) (hle : now ≤ later) :
    epochs.record? window later = (epochs.record? window now).filter (·.isLive later) := by
  rw [record?, record?, deadline?_of_le epochs hle, Option.filter_map]
  rfl

/-- A deadline lies ahead, and there is a failure that it belongs to. -/
theorem lt_of_deadline? {deadline : Time} (h : epochs.deadline? window now = some deadline) :
    now < deadline ∧ 0 < epochs.current.length := by
  obtain ⟨hfirst, hopen⟩ := Option.filter_eq_some_iff.mp h
  refine ⟨by simpa using hopen, List.length_pos_iff.mpr fun hnil => ?_⟩
  rw [hnil] at hfirst
  cases hfirst

/-- No more failures count than there are in the current epoch. -/
theorem count_le_length (epochs : Epochs) (window : Duration) (now : Time) :
    epochs.count window now ≤ epochs.current.length := by
  rw [count]
  split
  · exact Nat.le_refl _
  · exact Nat.zero_le _

/-- Before the deadline all failures of the current epoch count. -/
theorem count_of_some {deadline : Time} (h : epochs.deadline? window now = some deadline) :
    epochs.count window now = epochs.current.length := by
  rw [count, h]
  rfl

/-- Without a deadline no failure counts. -/
theorem count_of_none (h : epochs.deadline? window now = none) : epochs.count window now = 0 := by
  rw [count, h]
  rfl

/-- To ask changes nothing of the epochs. -/
theorem add_ask (h : report.act.kind = .ask) : epochs.add window report = epochs := by
  rw [add, h]

/-- A reset ends the current epoch. -/
theorem add_reset (h : report.act.kind = .reset) :
    epochs.add window report = ⟨epochs.all, []⟩ := by
  rw [add, h]

/-- A failure before the deadline belongs to the current epoch. -/
theorem add_fail_of_some {deadline : Time} (h : report.act.kind = .fail)
    (hopen : epochs.deadline? window report.moment = some deadline) :
    epochs.add window report = { epochs with current := epochs.current ++ [report] } := by
  rw [add, h, hopen]
  rfl

/-- A failure without a deadline begins an epoch. -/
theorem add_fail_of_none (h : report.act.kind = .fail)
    (hclosed : epochs.deadline? window report.moment = none) :
    epochs.add window report = ⟨epochs.all, [report]⟩ := by
  rw [add, h, hclosed]
  rfl

/-- A failure more leaves the deadline where it is. -/
theorem deadline?_append {current : List Report} {past past' : List (List Report)} {deadline : Time}
    (h : deadline? window ⟨past, current⟩ now = some deadline) (report : Report) :
    deadline? window ⟨past', current ++ [report]⟩ now = some deadline := by
  have hne : current ≠ [] := by
    rintro rfl
    cases h
  rw [deadline?, List.head?_append_of_ne_nil _ hne]
  exact h

/-- An epoch is no longer than the journal. -/
theorem length_current_le (window : Duration) (journal : List Report) :
    (ofJournal window journal).current.length ≤ journal.length := by
  induction journal using List.reverseRecOn with
  | nil => exact Nat.le_refl 0
  | append_singleton journal report ih =>
    rw [ofJournal_concat, List.length_append]
    -- a call adds one failure at the most
    cases hkind : report.act.kind with
    | ask =>
      rw [add_ask hkind]
      exact Nat.le_add_right_of_le ih
    | reset =>
      rw [add_reset hkind]
      exact Nat.zero_le _
    | fail =>
      cases hdeadline : (ofJournal window journal).deadline? window report.moment with
      | some deadline =>
        rw [add_fail_of_some hkind hdeadline, List.length_append]
        exact Nat.add_le_add_right ih _
      | none =>
        rw [add_fail_of_none hkind hdeadline]
        exact Nat.le_add_left _ _

/-! ## What the answers come to -/

/-- The failures of an epoch are numbered from one, in their order. -/
def IsNumbered (epoch : List Report) : Prop :=
  epoch.map (·.act.returned?) = (List.range epoch.length).map fun i => some (.ofNat (i + 1))

/-- A failure with the next number goes on with the numbers of its epoch. -/
theorem isNumbered_concat {epoch : List Report} (h : IsNumbered epoch)
    (hreport : report.act.returned? = some (.ofNat (epoch.length + 1))) :
    IsNumbered (epoch ++ [report]) := by
  rw [IsNumbered, List.map_append, h, List.length_append, List.length_singleton, List.range_succ,
    List.map_append, List.map_singleton, List.map_singleton, hreport]

/-- Exactly one failure of an epoch is given a number that the epoch reaches. -/
theorem count_of_isNumbered {epoch : List Report} (h : IsNumbered epoch)
    (hfew : epoch.length < UInt64.size) {number : UInt64} (hnumber : number ≠ 0) :
    (epoch.map (·.act.returned?)).count (some number) =
      if number.toNat ≤ epoch.length then 1 else 0 := by
  have hvalue (i : Nat) (hi : i ∈ List.range epoch.length) :
      (UInt64.ofNat (i + 1)).toNat = i + 1 := by
    have := List.mem_range.mp hi
    exact UInt64.toNat_ofNat_of_lt' (by omega)
  have hpos : 0 < number.toNat :=
    Nat.pos_of_ne_zero fun hzero => hnumber (UInt64.toNat_inj.mp hzero)
  rw [h]
  split
  · next hle =>
    -- numbers below the size are all different, and this is one of them
    refine List.count_eq_one_of_mem (List.Nodup.map_on ?_ List.nodup_range) ?_
    · intro i hi j hj heq
      have hnat := congrArg UInt64.toNat (Option.some.inj heq)
      rw [hvalue i hi, hvalue j hj] at hnat
      exact Nat.succ.inj hnat
    · refine List.mem_map.mpr ⟨number.toNat - 1, List.mem_range.mpr (by omega), ?_⟩
      rw [Nat.sub_add_cancel hpos, UInt64.ofNat_toNat]
  · next hlt =>
    refine List.count_eq_zero_of_not_mem fun hmem => hlt ?_
    obtain ⟨i, hi, heq⟩ := List.mem_map.mp hmem
    have hnat := congrArg UInt64.toNat (Option.some.inj heq)
    rw [hvalue i hi] at hnat
    have := List.mem_range.mp hi
    omega

/-- In a journal whose calls are answered by their epochs, the epochs are numbered. -/
theorem isNumbered_current (h : Answers policy journal) :
    IsNumbered (ofJournal policy.window journal).current := by
  induction journal using List.reverseRecOn with
  | nil => exact rfl
  | append_singleton journal report ih =>
    obtain ⟨hjournal, hreport⟩ := answers_concat.mp h
    rw [ofJournal_concat]
    cases hkind : report.act.kind with
    | ask =>
      rw [add_ask hkind]
      exact ih hjournal
    | reset =>
      rw [add_reset hkind]
      exact rfl
    | fail =>
      rw [hkind, Policy.answer] at hreport
      -- the number of the failure is one more than there were, if those still count
      cases hdeadline : (ofJournal policy.window journal).deadline? policy.window
          report.moment with
      | some deadline =>
        rw [count_of_some hdeadline] at hreport
        rw [add_fail_of_some hkind hdeadline]
        exact isNumbered_concat (ih hjournal) (by rw [hreport, Act.returned?])
      | none =>
        rw [count_of_none hdeadline] at hreport
        rw [add_fail_of_none hkind hdeadline]
        exact isNumbered_concat (show IsNumbered [] from rfl) (by rw [hreport]; rfl)

/-- What a call adds to the epochs is added to the current one or begins a new one. -/
theorem mem_all_add {epoch : List Report} (h : epoch ∈ (epochs.add window report).all) :
    epoch ∈ epochs.all ∨ epoch = (epochs.add window report).current := by
  cases hkind : report.act.kind with
  | ask =>
    rw [add_ask hkind] at h
    exact .inl h
  -- only a reset and the first failure of an epoch begin one; the old one is then past
  | reset =>
    rw [add_reset hkind] at *
    exact (List.mem_append.mp h).imp_right List.mem_singleton.mp
  | fail =>
    cases hdeadline : epochs.deadline? window report.moment with
    | some deadline =>
      rw [add_fail_of_some hkind hdeadline] at *
      refine (List.mem_append.mp h).imp (fun hpast => ?_) List.mem_singleton.mp
      exact List.mem_append_left _ hpast
    | none =>
      rw [add_fail_of_none hkind hdeadline] at *
      exact (List.mem_append.mp h).imp_right List.mem_singleton.mp

/-- Every epoch was the current one at some time. -/
theorem exists_current_eq {epoch : List Report} (h : epoch ∈ (ofJournal window journal).all) :
    ∃ front, front <+: journal ∧ (ofJournal window front).current = epoch := by
  induction journal using List.reverseRecOn with
  | nil => exact ⟨[], List.prefix_rfl, (List.mem_singleton.mp h).symm⟩
  | append_singleton journal report ih =>
    rw [ofJournal_concat] at h
    rcases mem_all_add h with hold | hnew
    · obtain ⟨front, hfront, hcurrent⟩ := ih hold
      exact ⟨front, hfront.trans (List.prefix_append _ _), hcurrent⟩
    · refine ⟨journal ++ [report], List.prefix_rfl, ?_⟩
      rw [ofJournal_concat, hnew]

/-- The answers of a journal are settled by its calls. -/
theorem eq_of_answers {other : List Report} (h : Answers policy journal)
    (hother : Answers policy other) (hcalls : other.map Report.call = journal.map Report.call) :
    other = journal := by
  induction journal using List.reverseRecOn generalizing other with
  | nil => exact List.map_eq_nil_iff.mp hcalls
  | append_singleton journal report ih =>
    rw [List.map_append, List.map_singleton] at hcalls
    obtain ⟨front, last, rfl, hfront, hlast⟩ := List.map_eq_append_iff.mp hcalls
    obtain ⟨final, rfl, hfinal⟩ := List.map_eq_singleton_iff.mp hlast
    obtain ⟨hjournal, hreport⟩ := answers_concat.mp h
    obtain ⟨hothers, hotherReport⟩ := answers_concat.mp hother
    obtain rfl := ih hjournal hothers hfront
    -- the two last calls are the same, made at the same moment after the same
    obtain ⟨hmoment, hkind⟩ := Prod.mk.inj hfinal
    rw [hmoment, hkind, ← hreport] at hotherReport
    have hsame : final = report := by
      cases final
      cases report
      cases hmoment
      cases hotherReport
      rfl
    rw [hsame]

/-! ## One call -/

/-- A store that answers shows under a key what the epochs of the key are. -/
structure Stand (policy : Policy) (epochs : Epochs) (site : Site) (key : String) : Prop where
  up : site.store.available
  shown : site.store.live? key site.now = epochs.record? policy.window site.now

variable {site : Site} {key : String}

/-- The store tells the count of the epochs. -/
theorem Stand.countAt (h : Stand policy epochs site key) :
    site.store.countAt key site.now = .ofNat (epochs.count policy.window site.now) := by
  rw [Store.Memory.countAt, h.shown, record?]
  cases hdeadline : epochs.deadline? policy.window site.now with
  | none =>
    rw [count_of_none hdeadline]
    rfl
  | some deadline =>
    rw [count_of_some hdeadline]
    simp

/-- A failure is answered with its number, and the store then shows it. -/
theorem Stand.increment (h : Stand policy epochs site key)
    (hwindow : (site.now.after? policy.window).isSome)
    (hfew : epochs.current.length < UInt64.size) (hkind : report.act.kind = .fail)
    (hmoment : report.moment = site.now) :
    ∃ store, site.store.increment key policy.window site.now =
        (some (.ok (.ofNat (epochs.count policy.window site.now + 1))), store) ∧
      store.live? key site.now =
        (epochs.add policy.window report).record? policy.window site.now := by
  have hshown := h.shown
  rw [record?] at hshown
  cases hdeadline : epochs.deadline? policy.window site.now with
  | some deadline =>
    -- the counter goes on, and its deadline stays
    obtain ⟨hopen, hpos⟩ := lt_of_deadline? hdeadline
    rw [hdeadline] at hshown
    have hnext := Store.Memory.increment_live key site.now hshown hpos hfew policy.window
    rw [count_of_some hdeadline]
    refine ⟨_, hnext, ?_⟩
    rw [add_fail_of_some hkind (by rw [hmoment, hdeadline]), record?,
      deadline?_append hdeadline report, Store.Memory.live?_insert, if_pos rfl, List.length_append]
    simp [Store.Entry.isLive, hopen]
  | none =>
    -- the counter starts, and the window with it
    rw [hdeadline] at hshown
    have hend := Time.after?_of_le (Time.le_refl _) hwindow
    have hopen : site.now < site.now.add policy.window := Time.lt_add _ policy.window_ne_zero
    have hnext := Store.Memory.increment_starts key site.now hshown hend
    rw [count_of_none hdeadline]
    refine ⟨_, hnext, ?_⟩
    rw [add_fail_of_none hkind (by rw [hmoment, hdeadline]), Store.Memory.live?_insert, if_pos rfl]
    simp [record?, deadline?, hmoment, Option.filter_some, Store.Entry.isLive, hopen]

end Epochs

/-! ## What is reported -/

/-- A call of the lockout that comes to one call of the store, as it is answered on a site. -/
def act? (lockout : Lockout) (site : Site) : Store.Call → Option Act
  | .count key => some (.ask (site.run (lockout.isLocked key).run).answer?
    (site.run (lockout.check key).run).answer?)
  | .increment key _ => some (.fail (site.run (lockout.recordFailure key).run).answer?)
  | .delete key => some (.reset (site.run (lockout.reset key).run).answer?)
  | _ => none

/-- What an effect does with a key on a site, if it is a call of the lockout about it. -/
def report? (lockout : Lockout) (key : String) (site : Site) : Effect → Option Report
  | .store call =>
    if call.key = key then (lockout.act? site call).map (Report.mk site.now) else none
  | _ => none

variable {lockout : Lockout} {site : Site} {key : String} {epochs : Epochs} {report : Report}
  {effect : Effect}

/-- While the store answers, a key is locked exactly if the count that it shows locks. -/
theorem run_isLocked (hup : site.store.available) :
    (site.run (lockout.isLocked key).run).answer? =
      some (.ok (lockout.policy.locks (site.store.countAt key site.now))) := by
  rw [isLocked, bind_pure_comp, ExceptT.run_map, Site.run_map, run_ask,
    Store.Memory.perform_count key site.now hup]
  rfl

namespace Epochs

/-- Who asks is answered by the count of the epochs. -/
theorem Stand.answer_ask (h : Stand lockout.policy epochs site key)
    (hfew : epochs.current.length < UInt64.size) :
    Act.ask (site.run (lockout.isLocked key).run).answer?
        (site.run (lockout.check key).run).answer? =
      lockout.policy.answer (epochs.count lockout.policy.window site.now) .ask := by
  have hlocks := lockout.policy.locks_ofNat
    (Nat.lt_of_le_of_lt (count_le_length epochs lockout.policy.window site.now) hfew)
  rw [run_isLocked h.up, run_check h.up, h.countAt, hlocks, Policy.answer]
  simp only [decide_eq_true_eq]

/-- Who counts a failure is answered by its number in the epochs. -/
theorem Stand.answer_fail (h : Stand lockout.policy epochs site key)
    (hwindow : (site.now.after? lockout.policy.window).isSome)
    (hfew : epochs.current.length < UInt64.size) :
    (site.run (lockout.recordFailure key).run).answer? =
      some (.ok (.ofNat (epochs.count lockout.policy.window site.now + 1))) := by
  let report : Report := ⟨site.now, .fail none⟩
  have hkind : report.act.kind = .fail := rfl
  obtain ⟨store, hincrement, -⟩ := h.increment hwindow hfew hkind rfl
  rw [run_recordFailure h.up hincrement]

/-- What stands under a key stands in every store that shows the same under it. -/
theorem Stand.of_live? {site' : Site} (h : Stand lockout.policy epochs site key)
    (hup : site'.store.available = site.store.available) (hnow : site'.now = site.now)
    (hlive : site'.store.live? key site.now = site.store.live? key site.now) :
    Stand lockout.policy epochs site' key where
  up := hup.trans h.up
  shown := by rw [hnow, hlive, h.shown]

/-- An effect is answered by the epochs so far, if it is about their key, and leaves in the store
what the epochs are then. -/
structure Tells (lockout : Lockout) (epochs : Epochs) (site : Site) (key : String)
    (effect : Effect) : Prop where
  answered : ∀ report ∈ lockout.report? key site effect, report.act =
    lockout.policy.answer (epochs.count lockout.policy.window report.moment) report.act.kind
  stand : Stand lockout.policy
    ((lockout.report? key site effect).toList.foldl (add lockout.policy.window) epochs)
    (Site.respond effect site).2 key

/-- What is not reported changes nothing under the key. -/
theorem Tells.of_none (h : Stand lockout.policy epochs site key)
    (hnone : lockout.report? key site effect = none)
    (hlive : (Site.respond effect site).2.store.live? key site.now =
      site.store.live? key site.now) : Tells lockout epochs site key effect where
  answered report hreport := by
    rw [hnone] at hreport
    cases hreport
  stand := by
    rw [hnone]
    exact h.of_live? (Site.available_respond effect site) (Site.now_respond effect site) hlive

/-- A call that is reported is answered by the epochs if its report and what it leaves under the key
are so. -/
theorem Tells.of_some (h : Stand lockout.policy epochs site key) (kind : Kind)
    (hsome : lockout.report? key site effect = some ⟨site.now,
      lockout.policy.answer (epochs.count lockout.policy.window site.now) kind⟩)
    (hlive : (Site.respond effect site).2.store.live? key site.now =
      (epochs.add lockout.policy.window ⟨site.now,
        lockout.policy.answer (epochs.count lockout.policy.window site.now) kind⟩).record?
          lockout.policy.window site.now) : Tells lockout epochs site key effect where
  answered report hreport := by
    rw [hsome] at hreport
    cases hreport
    rw [Policy.kind_answer]
  stand := by
    rw [hsome]
    refine ⟨(Site.available_respond effect site).trans h.up, ?_⟩
    rw [Site.now_respond, hlive]
    rfl

/-- Each effect of a client is told by the epochs so far. -/
theorem Stand.tells (h : Stand lockout.policy epochs site key)
    (hcounts : effect.Counts key lockout.policy.window)
    (hwindow : (site.now.after? lockout.policy.window).isSome)
    (hfew : epochs.current.length < UInt64.size) : Tells lockout epochs site key effect := by
  cases effect with
  | store call =>
    have hleft (hcall : call.asks ∨ call.key ≠ key) :
        (Site.respond (.store call) site).2.store.live? key site.now =
          site.store.live? key site.now :=
      site.store.live?_perform_now key site.now hcall
    by_cases hkey : call.key = key
    · have hown : lockout.report? key site (.store call) =
          (lockout.act? site call).map (Report.mk site.now) := if_pos hkey
      cases call with
      | set other value ttl =>
        -- what is set under the key would be no count
        exact absurd hkey hcounts
      | contains other => exact .of_none h (if_pos hkey) (hleft (.inl rfl))
      | count other =>
        -- asking may drop an expired entry, which was not shown any more
        obtain rfl : other = key := hkey
        refine .of_some h .ask ?_ ?_
        · rw [hown, ← h.answer_ask hfew]
          rfl
        · rw [add_ask rfl, ← h.shown]
          exact hleft (.inl rfl)
      | increment other span =>
        obtain rfl : other = key := hkey
        obtain rfl : span = lockout.policy.window := hcounts rfl
        obtain ⟨store, hincrement, hshown⟩ := h.increment hwindow hfew
          (Policy.kind_answer lockout.policy (epochs.count lockout.policy.window site.now) .fail)
          (show Report.moment ⟨site.now, _⟩ = site.now from rfl)
        refine .of_some h .fail ?_ ?_
        · rw [hown, act?, run_recordFailure h.up hincrement]
          rfl
        · rw [Site.respond, Store.Memory.perform_increment _ _ h.up, hincrement]
          exact hshown
      | delete other =>
        obtain rfl : other = key := hkey
        refine .of_some h .reset ?_ ?_
        · rw [hown, act?, run_reset h.up]
          rfl
        · rw [Site.respond, Store.Memory.perform_delete _ _ h.up, add_reset rfl]
          exact (Store.Memory.live?_erase _ _ _ _).trans (if_pos rfl)
    · exact .of_none h (if_neg hkey) (hleft (.inr hkey))
  | _ => exact .of_none h rfl rfl

end Epochs
end Lockout

/-! ## Turns -/

namespace Crowd

open Lockout (Report Epochs)

variable {α : Type} {lockout : Lockout} {key : String}

/-- What is done with a key in a turn, if anything is. -/
def report? (lockout : Lockout) (key : String) (crowd : Crowd α) : Turn → Option Report
  | .act who => (crowd.next? who).bind (lockout.report? key crowd.site)
  | _ => none

/-- All that is done with a key, turn after turn. -/
def journal (lockout : Lockout) (key : String) : Crowd α → List Turn → List Report
  | _, [] => []
  | crowd, turn :: turns =>
    (crowd.report? lockout key turn).toList ++ journal lockout key (crowd.take turn) turns

/-- The last turn comes last in the journal. -/
theorem journal_concat (crowd : Crowd α) (turns : List Turn) (turn : Turn) :
    crowd.journal lockout key (turns ++ [turn]) = crowd.journal lockout key turns ++
      ((crowd.after turns).report? lockout key turn).toList := by
  induction turns generalizing crowd with
  | nil => exact List.append_nil _
  | cons first turns ih =>
    rw [List.cons_append, journal, journal, ih, List.append_assoc, after_cons]

/-- A turn is reported once at the most. -/
theorem length_journal_le (crowd : Crowd α) (lockout : Lockout) (key : String)
    (turns : List Turn) : (crowd.journal lockout key turns).length ≤ turns.length := by
  induction turns generalizing crowd with
  | nil => exact Nat.le_refl 0
  | cons turn turns ih =>
    have hone : ((crowd.report? lockout key turn).toList).length ≤ 1 := by
      cases crowd.report? lockout key turn <;> simp
    rw [journal, List.length_append, List.length_cons]
    exact Nat.add_comm 1 _ ▸ Nat.add_le_add hone (ih _)

/-- A program that makes a single call goes on with what the call answers on the site. -/
theorem rest_take_of_call {crowd : Crowd α} {who : Nat} {β : Type} {effect : Effect}
    {judge : effect.Reply → β} {p : Program β} (hp : p = judge <$> Program.perform effect)
    {next : β → Program α} (h : crowd.rest who = some (p >>= next)) :
    (crowd.take (.act who)).rest who = (crowd.site.run p).answer?.map next := by
  -- the call is the first step of the client, which goes on with what it makes of the reply
  have hstep : p >>= next = .step effect fun reply => next (judge reply) := by
    rw [hp, bind_map_left]
    rfl
  rw [hstep] at h
  rw [take_act h, rest_perform_self, hp, Site.run_map, Run.answer?_map, Option.map_map]
  congr 1
  exact congrArg Run.answer? (Program.run_perform effect crowd.site).symm

end Crowd

namespace Lockout

open Crowd (journal)

variable {α : Type} {lockout : Lockout} {key : String} {start : Site} {clients : Nat → Program α}
  {turns : List Turn}

/-- Clients share a store that answers, and in which nothing is counted under a key at first. They
never set the key, and count failures under it with the window of the policy; the clock of deadlines
reaches the end of that window at all times, and no epoch of the key is so long that its number does
not fit into a counter. -/
structure IsShared (lockout : Lockout) (key : String) (start : Site) (clients : Nat → Program α)
    (turns : List Turn) : Prop where
  counts : ∀ who, (clients who).Within (Effect.Counts key lockout.policy.window)
  up : start.store.available
  clean : start.store.live? key start.now = none
  window : (((Crowd.start start clients).after turns).site.now.after?
    lockout.policy.window).isSome
  few : ∀ front, front <+: (Crowd.start start clients).journal lockout key turns →
    (Epochs.ofJournal lockout.policy.window front).current.length < UInt64.size

/-- What is shared to the end has been shared before the last turn. -/
theorem IsShared.of_concat {turn : Turn}
    (h : lockout.IsShared key start clients (turns ++ [turn])) :
    lockout.IsShared key start clients turns where
  counts := h.counts
  up := h.up
  clean := h.clean
  window := by
    have hle := ((Crowd.start start clients).after turns).now_le_after [turn]
    rw [← Crowd.after_append] at hle
    rw [Time.after?_of_le hle h.window]
    rfl
  few front hfront := by
    refine h.few front (hfront.trans ?_)
    rw [Crowd.journal_concat]
    exact List.prefix_append _ _

namespace Epochs

variable {epochs : Epochs}

/-- While time passes, the store shows what still counts. -/
theorem Stand.advance {site : Site} (h : Stand lockout.policy epochs site key) (span : Duration) :
    Stand lockout.policy epochs (site.advance span) key where
  up := h.up
  shown := by
    have hle : site.now ≤ site.now.add span := Time.le_add _ _
    -- what has expired meanwhile is not shown any more, and counts no more
    show site.store.live? key (site.now.add span) =
      epochs.record? lockout.policy.window (site.now.add span)
    rw [epochs.record?_of_le hle, ← h.shown, site.store.live?_of_le key hle]

/-- A turn is told by the epochs so far. -/
theorem Stand.take {crowd : Crowd α} (h : Stand lockout.policy epochs crowd.site key)
    (hcounts : ∀ who, ∀ p ∈ crowd.rest who, p.Within (Effect.Counts key lockout.policy.window))
    (hwindow : (crowd.site.now.after? lockout.policy.window).isSome)
    (hfew : epochs.current.length < UInt64.size) (turn : Turn) :
    (∀ report ∈ crowd.report? lockout key turn, report.act = lockout.policy.answer
      (epochs.count lockout.policy.window report.moment) report.act.kind) ∧
    Stand lockout.policy
      ((crowd.report? lockout key turn).toList.foldl (add lockout.policy.window) epochs)
      (crowd.take turn).site key := by
  have hnothing : ∀ report ∈ (none : Option Report), report.act = lockout.policy.answer
      (epochs.count lockout.policy.window report.moment) report.act.kind :=
    fun _ hreport => absurd hreport (Option.not_mem_none _)
  cases turn with
  | act who =>
    -- a client that was stopped or has come to its end does nothing in its turn
    rcases hrest : crowd.rest who with _ | _ | ⟨effect, next⟩
    · rw [Crowd.report?, Crowd.next?, Crowd.take, hrest]
      exact ⟨hnothing, h⟩
    · rw [Crowd.report?, Crowd.next?, Crowd.take, hrest]
      exact ⟨hnothing, h⟩
    · have hnext : crowd.next? who = some effect := Crowd.next?_eq_some.mpr ⟨next, hrest⟩
      have heffect : effect.Counts key lockout.policy.window := by
        cases hcounts who _ hrest with
        | step first rest => exact first
      have htells := h.tells heffect hwindow hfew
      rw [Crowd.report?, hnext, Crowd.take_act hrest]
      exact ⟨htells.answered, htells.stand⟩
  | wait span => exact ⟨hnothing, h.advance span⟩
  | change directory => exact ⟨hnothing, h.up, h.shown⟩

/-- After any turns, all calls about the key have been answered by its epochs, and the store shows
these. -/
theorem stand_after (h : lockout.IsShared key start clients turns) :
    Answers lockout.policy ((Crowd.start start clients).journal lockout key turns) ∧
      Stand lockout.policy
        (ofJournal lockout.policy.window ((Crowd.start start clients).journal lockout key turns))
        ((Crowd.start start clients).after turns).site key := by
  -- the last turn comes at the end, since it is told by the epochs of all that came before
  induction turns using List.reverseRecOn with
  | nil => exact ⟨answers_nil, h.up, h.clean⟩
  | append_singleton turns turn ih =>
    obtain ⟨hanswers, hstand⟩ := ih h.of_concat
    have hcounts := (Crowd.start start clients).within_after (fun who p hp => by
      cases hp
      exact h.counts who) turns
    obtain ⟨hreport, hnext⟩ := hstand.take hcounts h.of_concat.window
      (h.of_concat.few _ List.prefix_rfl) turn
    rw [Crowd.after_append, Crowd.after_cons, Crowd.after_nil, Crowd.journal_concat]
    -- either nothing is reported of the turn, or one call more
    cases hsome : ((Crowd.start start clients).after turns).report? lockout key turn with
    | none =>
      rw [hsome] at hnext
      rw [Option.toList_none, List.append_nil]
      exact ⟨hanswers, hnext⟩
    | some report =>
      rw [hsome] at hnext
      rw [Option.toList_some, answers_concat, ofJournal_concat]
      exact ⟨⟨hanswers, hreport report hsome⟩, hnext⟩

end Epochs

/-- Whatever turns clients take who share a lockout: in every epoch of a key, the calls that count a
failure return one, two and so on, each number once, and exactly one of them the number that locks,
if the epoch reaches it. Every call is answered by how many failures count in its epoch at that
moment: the key is locked exactly if they are as many as the limit allows, and a client that counts
a failure goes on with the number of that failure. The store shows the number with a deadline that
is a window after the first failure of the epoch, and nothing when none counts. And what is done
with other keys, or by others to the site, does not matter: wherever the same is done with the key
at the same moments, it is answered the same. -/
theorem failures_counted (h : lockout.IsShared key start clients turns) :
    let crowd := (Crowd.start start clients).after turns
    let journal := (Crowd.start start clients).journal lockout key turns
    let window := lockout.policy.window
    let epochs := Epochs.ofJournal window journal
    (∀ epoch ∈ epochs.all,
      epoch.map (·.act.returned?) =
        (List.range epoch.length).map (fun i => some (.ofNat (i + 1))) ∧
      (epoch.map (·.act.returned?)).count (some lockout.policy.maxAttempts) =
        if lockout.policy.maxAttempts.toNat ≤ epoch.length then 1 else 0) ∧
    (∀ before report, before ++ [report] <+: journal →
      report.act = lockout.policy.answer
        ((Epochs.ofJournal window before).count window report.moment) report.act.kind) ∧
    (∀ who next, crowd.rest who = some ((lockout.recordFailure key).run >>= next) →
      (crowd.take (.act who)).rest who =
        some (next (.ok (.ofNat (epochs.count window crowd.site.now + 1))))) ∧
    crowd.site.store.live? key crowd.site.now = epochs.record? window crowd.site.now ∧
    ∀ (other : Site) (others : Nat → Program α) (moves : List Turn),
      lockout.IsShared key other others moves →
      ((Crowd.start other others).journal lockout key moves).map Report.call =
        journal.map Report.call →
      (Crowd.start other others).journal lockout key moves = journal := by
  intro crowd journal window epochs
  obtain ⟨hanswers, hstand⟩ := Epochs.stand_after h
  refine ⟨fun epoch hepoch => ?_, hanswers, fun who next hrest => ?_, hstand.shown,
    fun other others moves hother hcalls => ?_⟩
  · -- what holds of the current epoch at all times holds of every epoch
    obtain ⟨front, hfront, rfl⟩ := Epochs.exists_current_eq hepoch
    have hnumbered := Epochs.isNumbered_current (hanswers.of_prefix hfront)
    exact ⟨hnumbered, Epochs.count_of_isNumbered hnumbered (h.few front hfront)
      lockout.policy.maxAttempts_ne_zero⟩
  · have hcall := lockout.ask_eq (.increment key lockout.policy.window) (0 : UInt64)
    rw [Crowd.rest_take_of_call hcall hrest, ← recordFailure,
      hstand.answer_fail h.window (h.few _ List.prefix_rfl), Option.map_some]
  · exact Epochs.eq_of_answers hanswers (Epochs.stand_after hother).1 hcalls

/-- Fewer turns than a counter has numbers make no epoch too long. -/
theorem few_of_length (h : turns.length < UInt64.size) (window : Duration) (crowd : Crowd α) :
    ∀ front, front <+: crowd.journal lockout key turns →
      (Epochs.ofJournal window front).current.length < UInt64.size := by
  intro front hfront
  calc (Epochs.ofJournal window front).current.length
    _ ≤ front.length := Epochs.length_current_le window front
    _ ≤ (crowd.journal lockout key turns).length := hfront.length_le
    _ ≤ turns.length := crowd.length_journal_le lockout key turns
    _ < UInt64.size := h

/-- Clients around one key. The sixth checks it, the seventh resets it and the eighth counts a
failure under another one; all the others count failures under it. -/
def sampleClients (who : Nat) : Program (Except Refusal UInt64) :=
  let lockout := Service.sample.lockout
  match who with
  | 5 => ((fun _ => 0) <$> lockout.check "k").run
  | 6 => ((fun _ => 0) <$> lockout.reset "k").run
  | 7 => (lockout.recordFailure "other").run
  | _ => (lockout.recordFailure "k").run

/-- Five failures lock the key, as the sixth client is told; it is reset, and two more failures
begin an epoch of their own; a third one comes when that has passed. -/
def sampleTurns : List Turn :=
  [.act 0, .act 1, .act 7, .act 2, .wait (Duration.ofSeconds 10), .act 3, .act 4, .act 5, .act 6,
    .act 8, .wait (Duration.ofSeconds 20), .act 9, .wait (Duration.ofSeconds 600), .act 10]

/-- The clients count failures under the key with the window of the policy, and never set it. -/
theorem sampleClients_within (who : Nat) :
    (sampleClients who).Within (Effect.Counts "k" Service.sample.lockout.policy.window) := by
  have hcall (call : Store.Call) (fallback : call.Reply)
      (hcounts : call.Counts "k" Service.sample.lockout.policy.window) :
      (Service.sample.lockout.ask call fallback).run.Within
        (Effect.Counts "k" Service.sample.lockout.policy.window) :=
    (ask_begins (fun _ => False) call fallback).within hcounts nofun
  unfold sampleClients
  split
  · rw [ExceptT.run_map]
    exact .map _ (check_within trivial)
  · rw [ExceptT.run_map]
    exact .map _ (hcall _ _ trivial)
  · exact hcall _ _ fun hkey => absurd hkey (by decide)
  · exact hcall _ _ fun _ => rfl

/-- The failures of the three epochs are numbered each from one, the fifth of the first one locks
the key for who checks it, and in the end a failure is shown up to the end of a third window. -/
theorem failures_counted_sample :
    let crowd := (Crowd.start Site.sample sampleClients).after sampleTurns
    let journal := (Crowd.start Site.sample sampleClients).journal Service.sample.lockout "k"
      sampleTurns
    (Epochs.ofJournal (Duration.ofSeconds 600) journal).all.map (·.map (·.act.returned?)) =
        [[], [some 1, some 2, some 3, some 4, some 5], [], [some 1, some 2], [some 1]] ∧
      (∃ report ∈ journal, report.act =
        .ask (some (.ok true)) (some (.error .tooManyAttempts))) ∧
      crowd.site.store.live? "k" crowd.site.now = some ⟨"1", some (Time.ofSeconds 2730)⟩ := by
  have hshared : Service.sample.lockout.IsShared "k" Site.sample sampleClients sampleTurns :=
    ⟨sampleClients_within, rfl, rfl, by decide, few_of_length (by decide) _ _⟩
  obtain ⟨hepochs, hanswers, -, hshown, -⟩ := failures_counted hshared
  intro crowd journal
  have hlengths : (Epochs.ofJournal (Duration.ofSeconds 600) journal).all.map List.length =
      [0, 5, 0, 2, 1] := by
    decide
  have hsixth : 5 < journal.length := by
    decide
  refine ⟨?_, ⟨journal[5], List.getElem_mem _, ?_⟩, hshown.trans (by decide)⟩
  · -- the numbers of an epoch follow from its length
    refine (List.map_congr_left fun epoch hepoch => (hepochs epoch hepoch).1).trans ?_
    have hnumbers := congrArg
      (List.map fun n => (List.range n).map fun i => some (UInt64.ofNat (i + 1))) hlengths
    rw [List.map_map] at hnumbers
    exact hnumbers
  · refine (hanswers (journal.take 5) journal[5] ?_).trans rfl
    rw [List.take_append_getElem hsixth]
    exact List.take_prefix 6 journal

end Lockout
end Bearer
