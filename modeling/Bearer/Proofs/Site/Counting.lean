import Bearer.Proofs.Program.Ensures
import Bearer.Proofs.Site.Run
import Mathlib.Logic.Function.Basic

/-!
# A site as counters

To a program that counts failures a site is no more than a number under each key. This file says
what effects do to these numbers: to advance a counter adds one and tells the new number, unless the
store does not answer; to forget it makes it zero; nothing else changes it. Time can only make
numbers zero.

The window of a counter has to be one that the clock of deadlines reaches from now, or the store
aborts a program that starts the counter.

Main statement: `counting_respond`.
-/

namespace Bearer

/-- Numbers under keys have been kept, or were forgotten. -/
def Drops (counts counts' : String → UInt64) : Prop :=
  ∀ key, counts' key = counts key ∨ counts' key = 0

/-- Numbers that stay are kept. -/
theorem Drops.refl (counts : String → UInt64) : Drops counts counts := fun _ => .inl rfl

/-- How a store that counts replies to a call, while a window can be kept: what the numbers are
before, what the reply is and what they are afterwards. -/
def Store.counting (window : Duration) :
    (call : Store.Call) → (String → UInt64) → Option (Except Store.Failure call.Reply) →
      (String → UInt64) → Prop
  | .set _ value _, counts, _, counts' => Memory.counter? value = none → Drops counts counts'
  | .increment key span, counts, reply?, counts' => span = window →
    ((∃ failure, reply? = some (.error failure)) ∧ counts' = counts) ∨
      (reply? = some (.ok (counts key + 1)) ∧
        counts' = Function.update counts key (counts key + 1))
  | .delete _, counts, reply?, counts' => reply?.isSome ∧ Drops counts counts'
  | .contains _, counts, reply?, counts' | .count _, counts, reply?, counts' =>
    reply?.isSome ∧ counts' = counts

/-- How effects are replied to where the store counts, and the directory fails with nothing but
faults of its own. -/
def Program.counting (window : Duration) : Program.Conduct (String → UInt64)
  | .store call, counts, reply?, counts' => Store.counting window call counts reply? counts'
  | .findUser _, counts, reply?, counts' => reply?.isSome ∧ counts' = counts ∧
    ∀ failure, reply? = some (.error failure) → ∃ detail, failure = .database detail
  | _, counts, reply?, counts' => reply?.isSome ∧ counts' = counts

namespace Store.Memory

variable {memory : Memory} {key other : String} {now later : Time} {window : Duration}

/-- The numbers that are shown under all keys. -/
def counts (memory : Memory) (now : Time) : String → UInt64 := fun key => memory.countAt key now

/-- The count under a key depends on nothing but the entry that is shown. -/
theorem countAt_eq_of_live? {store : Memory}
    (h : memory.live? key now = store.live? key later) :
    memory.countAt key now = store.countAt key later := by
  rw [countAt, countAt, h]

/-- Without an entry the count is zero. -/
theorem countAt_of_none (h : memory.live? key now = none) : memory.countAt key now = 0 := by
  rw [countAt, h]
  rfl

/-- An entry that is a number is the count. -/
theorem countAt_of_some {entry : Entry} {n : UInt64} (h : memory.live? key now = some entry)
    (hcount : counter? entry.value = some n) : memory.countAt key now = n := by
  rw [countAt, h, Option.bind_some, hcount, Option.getD_some]

/-- Time keeps a number or forgets it. -/
theorem countAt_of_le (memory : Memory) (key : String) (hle : now ≤ later) :
    memory.countAt key later = memory.countAt key now ∨ memory.countAt key later = 0 := by
  cases hlive : memory.live? key later with
  | none => exact .inr (countAt_of_none hlive)
  | some entry =>
    refine .inl (countAt_eq_of_live? ?_)
    rw [hlive, live?_eq_some_of_le memory key hle hlive]

/-- Evicting changes no count. -/
theorem countAt_evict (memory : Memory) (key other : String) (now : Time) :
    (memory.evict key now).countAt other now = memory.countAt other now :=
  countAt_eq_of_live? (live?_evict memory key other (Time.le_refl now))

/-- Evicting changes no count under any key. -/
theorem counts_evict (memory : Memory) (key : String) (now : Time) :
    (memory.evict key now).counts now = memory.counts now := by
  funext other
  exact memory.countAt_evict key other now

/-- An entry changes no count but that of its key. -/
theorem countAt_insert_of_ne (memory : Memory) {entry : Entry} (hne : other ≠ key) :
    (memory.insert key entry).countAt other now = memory.countAt other now := by
  refine countAt_eq_of_live? ?_
  rw [live?_insert, if_neg hne]

/-- What is no number counts as none. -/
theorem drops_insert (memory : Memory) {entry : Entry} (h : counter? entry.value = none) :
    Drops (memory.counts now) ((memory.insert key entry).counts now) := by
  intro other
  by_cases hkey : other = key
  · right
    rw [counts, countAt, live?_insert, if_pos hkey, Option.filter_some]
    split
    · rw [Option.bind_some, h]
      rfl
    · rfl
  · exact .inl (memory.countAt_insert_of_ne hkey)

/-- Erasing forgets a number at the most. -/
theorem drops_erase (memory : Memory) (key : String) (now : Time) :
    Drops (memory.counts now) ((memory.erase key).counts now) := by
  intro other
  by_cases hkey : other = key
  · refine .inr (countAt_of_none ?_)
    rw [live?_erase, if_pos hkey]
  · refine .inl (countAt_eq_of_live? ?_)
    rw [live?_erase, if_neg hkey]

/-- The entry of a number makes it the count of its key. -/
theorem counts_insert_counter {deadline? : Option Time} {n : UInt64}
    (hlive : (Entry.mk (counterText n) deadline?).isLive now) :
    (memory.insert key ⟨counterText n, deadline?⟩).counts now =
      Function.update (memory.counts now) key n := by
  funext other
  by_cases hkey : other = key
  · have hfound : (memory.insert key ⟨counterText n, deadline?⟩).live? key now =
        some ⟨counterText n, deadline?⟩ := by
      rw [live?_insert, if_pos rfl, Option.filter_some, if_pos hlive]
    rw [hkey, Function.update_self]
    exact countAt_of_some hfound (counter?_counterText n)
  · rw [Function.update_of_ne hkey]
    exact memory.countAt_insert_of_ne hkey

/-- One more is counted and the new number told, unless there is something else under the key. -/
theorem counting_increment (memory : Memory) (key : String) (hopen : window.nanos ≠ 0)
    (hfits : (now.after? window).isSome) :
    counting window (.increment key window) (memory.counts now)
      (memory.increment key window now).1 ((memory.increment key window now).2.counts now) := by
  intro _
  obtain ⟨deadline, hdeadline⟩ := Option.isSome_iff_exists.mp hfits
  -- a window that starts now is not over
  have hlater : (Entry.mk (counterText 1) (some deadline)).isLive now := by
    rw [Entry.isLive, Option.all_some, decide_eq_true_eq, ← (Time.after?_eq_some.mp hdeadline).2,
      Time.lt_def, Time.add]
    exact Int.lt_add_of_pos_right _ (Int.natCast_pos.mpr (Nat.pos_of_ne_zero hopen))
  cases hlive : memory.live? key now with
  | none =>
    have hzero : memory.counts now key = 0 := countAt_of_none hlive
    rw [increment_starts key now hlive hdeadline, hzero]
    refine .inr ⟨rfl, ?_⟩
    rw [counts_insert_counter hlater, counts_evict]
    rfl
  | some entry =>
    cases hcount : counter? entry.value with
    | none =>
      rw [increment_text key now hlive hcount]
      exact .inl ⟨⟨_, rfl⟩, counts_evict _ _ _⟩
    | some n =>
      have hcounted : memory.counts now key = n := countAt_of_some hlive hcount
      rw [increment_counter key now hlive hcount hdeadline, hcounted]
      refine .inr ⟨rfl, ?_⟩
      rw [counts_insert_counter, counts_evict]
      split
      · next hone =>
        rw [hone]
        exact hlater
      · exact (Option.filter_eq_some_iff.mp hlive).2

/-- A store in memory counts. -/
theorem counting_perform (memory : Memory) (hopen : window.nanos ≠ 0)
    (hfits : (now.after? window).isSome) (call : Call) :
    counting window call (memory.counts now) (memory.perform now call).1
      ((memory.perform now call).2.counts now) := by
  by_cases hup : memory.available
  · rcases call with ⟨key, value, ttl⟩ | key | ⟨key, span⟩ | key | key
    · -- what is set is no count, so it forgets one at the most
      intro hvalue
      cases hdeadline : now.after? ttl with
      | none =>
        simp only [perform, hup, hdeadline, if_true]
        exact Drops.refl _
      | some deadline =>
        rw [perform_set key now hup hdeadline]
        exact memory.drops_insert hvalue
    · rw [perform_contains key now hup]
      exact ⟨rfl, memory.counts_evict key now⟩
    · -- only a window that fits is of interest: with it the count goes one up
      intro hspan
      rw [perform_increment key now hup, hspan]
      exact memory.counting_increment key hopen hfits rfl
    · rw [perform_count key now hup]
      exact ⟨rfl, memory.counts_evict key now⟩
    · rw [perform_delete key now hup]
      exact ⟨rfl, memory.drops_erase key now⟩
  · -- a store that does not answer changes nothing
    rw [perform_of_outage now (by simpa using hup)]
    cases call with
    | set => exact fun _ => Drops.refl _
    | increment => exact fun _ => .inl ⟨⟨_, rfl⟩, rfl⟩
    | delete => exact ⟨rfl, Drops.refl _⟩
    | contains => exact ⟨rfl, rfl⟩
    | count => exact ⟨rfl, rfl⟩

end Store.Memory

namespace Site

/-- The numbers that a site shows under its keys. -/
def counts (site : Site) : String → UInt64 := site.store.counts site.now

/-- Time can make a number zero, and changes none otherwise. -/
theorem drops_advance (site : Site) (span : Duration) :
    Drops site.counts (site.advance span).counts :=
  fun key => site.store.countAt_of_le key (Time.le_add site.now span)

/-- A site counts. -/
theorem counting_respond (site : Site) {window : Duration} (hopen : window.nanos ≠ 0)
    (hfits : (site.now.after? window).isSome) (effect : Effect) :
    Program.counting window effect site.counts (respond effect site).1
      (respond effect site).2.counts := by
  cases effect with
  | store call => exact site.store.counting_perform hopen hfits call
  | findUser email =>
    exact ⟨rfl, rfl, fun failure h => Directory.database_of_find (Option.some.inj h)⟩
  | _ => exact ⟨rfl, rfl⟩

/-- What a program ensures where the store counts holds of its run against a site. -/
theorem run_of_ensures {α : Type} (site : Site) {window : Duration} (hopen : window.nanos ≠ 0)
    (hfits : (site.now.after? window).isSome) {p : Program α}
    {Q : List Effect → Option α → (String → UInt64) → Prop}
    (h : p.Ensures (Program.counting window) site.counts Q) :
    Q (site.run p).effects (site.run p).answer? (site.run p).state.counts :=
  -- the clock stands still, so the window can be kept throughout
  Program.Ensures.run counts (I := fun s => s.now = site.now)
    (fun effect s hnow => s.counting_respond hopen (hnow ▸ hfits) effect)
    (fun effect s hnow => (now_respond effect s).trans hnow) h rfl

end Site
end Bearer
