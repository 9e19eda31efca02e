import Bearer.Proofs.Calendar
import Bearer.Store.Memory

/-!
# What a store in memory shows

A store shows an entry until its deadline, whether or not the table still holds it. This file says
for each call what it is answered with and what the store shows afterwards, at the moment of the
call and at every later one; nothing after it looks at the table itself.

Main statements: `live?_perform` says that a call that only asks, or that is about another key,
leaves what is shown under a key as it is for good; `increment_live` and `increment_absent` say how
a counter is advanced and how it starts.
-/

namespace Bearer.Store

/-- What has not expired later has not expired before. -/
theorem Entry.isLive_of_le {entry : Entry} {now later : Time} (h : now ≤ later)
    (hlive : entry.isLive later) : entry.isLive now := by
  rw [isLive, Option.all_eq_true] at *
  intro deadline hdeadline
  have := hlive deadline hdeadline
  rw [decide_eq_true_eq] at *
  exact Time.lt_of_le_of_lt h this

/-- Whether a call asks only. -/
def Call.asks : Call → Bool
  | .contains _ | .count _ => true
  | _ => false

namespace Memory

variable (memory : Memory) (key other : String) (entry : Entry) (now later : Time)

/-! ## What is shown after a change of the table -/

/-- What is shown after a key was erased: nothing under it, and all else as before. -/
theorem live?_erase :
    (memory.erase key).live? other now = if other = key then none else memory.live? other now := by
  rw [live?, find?_erase]
  split <;> rfl

/-- What is shown after an entry was inserted: the entry under its key if it is live, and all else
as before. -/
theorem live?_insert :
    (memory.insert key entry).live? other now =
      if other = key then (some entry).filter (·.isLive now) else memory.live? other now := by
  rw [live?, find?_insert]
  split <;> rfl

variable {now later}

/-- What is shown later is what is shown now and has not expired by then. -/
theorem live?_of_le (h : now ≤ later) :
    memory.live? key later = (memory.live? key now).filter (·.isLive later) := by
  rw [live?, live?, Option.filter_filter]
  -- being live later implies being live now
  congr 1
  funext entry
  cases hl : entry.isLive later with
  | false => simp
  | true => simp [Entry.isLive_of_le h hl]

/-- What is shown later is shown now. -/
theorem live?_eq_some_of_le {entry : Entry} (h : now ≤ later)
    (hlive : memory.live? key later = some entry) : memory.live? key now = some entry := by
  rw [live?_of_le memory key h, Option.filter_eq_some_iff] at hlive
  exact hlive.1

/-- Evicting what has expired changes nothing that is shown. -/
theorem live?_evict (h : now ≤ later) :
    (memory.evict key now).live? other later = memory.live? other later := by
  rw [evict]
  split
  · next hnone =>
    rw [live?_erase]
    split
    · next hkey =>
      -- an entry that has expired now has expired later
      rw [hkey, live?_of_le memory key h, Option.isNone_iff_eq_none.mp hnone]
      rfl
    · rfl
  · rfl

variable (now)

/-- After evicting, the table holds what is shown. -/
theorem find?_evict : (memory.evict key now).find? key = memory.live? key now := by
  rw [evict]
  split
  · next hnone =>
    rw [find?_erase, if_pos rfl, Option.isNone_iff_eq_none.mp hnone]
  · next hsome =>
    obtain ⟨entry, hentry⟩ : ∃ entry, memory.live? key now = some entry :=
      Option.ne_none_iff_exists'.mp (by simpa using hsome)
    rw [hentry]
    exact (Option.filter_eq_some_iff.mp hentry).1

/-- Evicting leaves a store as available as it was. -/
@[simp]
theorem available_evict : (memory.evict key now).available = memory.available := by
  rw [evict]
  split <;> rfl

/-! ## Counters -/

/-- A count is read back from its text. -/
@[simp]
theorem counter?_counterText (n : UInt64) : counter? (counterText n) = some n := by
  rw [counter?, counterText, String.toList_ofList,
    Text.Decimal.unsigned?_digits (UInt64.toNat_lt n)]
  simp [Except.toOption]

/-- The count that is shown under a key, zero if there is none. -/
def countAt : UInt64 := ((memory.live? key now).bind fun entry => counter? entry.value).getD 0

/-! ## The calls -/

variable {memory}

/-- Nothing is answered or changed during an outage. -/
theorem perform_of_outage (h : memory.available = false) (call : Call) :
    memory.perform now call = (some (.error outage), memory) := by
  cases call <;> simp [perform, h]

/-- A store that answers tells whether something is shown under the key. -/
theorem perform_contains (h : memory.available) :
    memory.perform now (.contains key) =
      (some (.ok (memory.live? key now).isSome), memory.evict key now) := by
  simp only [perform, h, if_true, find?_evict]

/-- A store that answers tells the count that is shown under the key. -/
theorem perform_count (h : memory.available) :
    memory.perform now (.count key) =
      (some (.ok (memory.countAt key now)), memory.evict key now) := by
  simp only [perform, h, if_true, find?_evict, countAt]

/-- A store that answers erases the key. -/
theorem perform_delete (h : memory.available) :
    memory.perform now (.delete key) = (some (.ok ()), memory.erase key) := by
  simp only [perform, h, if_true]

/-- A store that answers inserts the value with its deadline, if the clock reaches that. -/
theorem perform_set (h : memory.available) {value : String} {ttl : Duration} {deadline : Time}
    (hdeadline : now.after? ttl = some deadline) :
    memory.perform now (.set key value ttl) =
      (some (.ok ()), memory.insert key ⟨value, some deadline⟩) := by
  simp only [perform, h, if_true, hdeadline]

/-- A store that answers counts one more under the key. -/
theorem perform_increment (h : memory.available) (window : Duration) :
    memory.perform now (.increment key window) = memory.increment key window now :=
  if_pos h

/-- A counter that is shown advances by one and keeps its deadline, as long as it has not come all
the way round. -/
theorem increment_live {n : Nat} {deadline? : Option Time}
    (hlive : memory.live? key now = some ⟨counterText (.ofNat n), deadline?⟩) (hpos : 0 < n)
    (hlt : n < UInt64.size) (window : Duration) :
    memory.increment key window now =
      (some (.ok (.ofNat (n + 1))),
        (memory.evict key now).insert key ⟨counterText (.ofNat (n + 1)), deadline?⟩) := by
  have hnext : UInt64.ofNat n + 1 = .ofNat (n + 1) := by
    rw [UInt64.ofNat_add]
    rfl
  have hne : UInt64.ofNat (n + 1) ≠ 1 := by
    rw [← hnext]
    intro heq
    have hzero : UInt64.ofNat n = 0 := by simpa using heq
    have hnat := congrArg UInt64.toNat hzero
    rw [UInt64.toNat_ofNat_of_lt' hlt] at hnat
    exact Nat.ne_of_gt hpos hnat
  simp only [increment, find?_evict, hlive, Option.getD_some, counter?_counterText, hnext,
    if_neg hne]

/-- A counter that is not shown starts at one. It lives for the window; if the clock of deadlines
does not reach that far, the call is aborted when the counter is there already. -/
theorem increment_absent (hlive : memory.live? key now = none) (window : Duration) :
    memory.increment key window now =
      ((now.after? window).map fun _ => .ok 1,
        (memory.evict key now).insert key ⟨counterText 1, now.after? window⟩) := by
  have hzero : counter? "0" = some 0 := by decide
  simp only [increment, find?_evict, hlive, Option.getD_none, hzero, UInt64.zero_add, if_true]
  cases now.after? window <;> rfl

/-- A counter that is not shown starts at one, and lives for the window. -/
theorem increment_starts (hlive : memory.live? key now = none) {window : Duration}
    {deadline : Time} (hdeadline : now.after? window = some deadline) :
    memory.increment key window now =
      (some (.ok 1), (memory.evict key now).insert key ⟨counterText 1, some deadline⟩) := by
  rw [increment_absent key now hlive, hdeadline]
  rfl

/-- A counter that is shown advances by one. Its deadline stays, unless the count is then one. -/
theorem increment_counter {entry : Entry} {n : UInt64} {window : Duration} {deadline : Time}
    (hlive : memory.live? key now = some entry) (hcount : counter? entry.value = some n)
    (hdeadline : now.after? window = some deadline) :
    memory.increment key window now =
      (some (.ok (n + 1)), (memory.evict key now).insert key
        ⟨counterText (n + 1), if n + 1 = 1 then some deadline else entry.deadline?⟩) := by
  simp only [increment, find?_evict, hlive, Option.getD_some, hcount, hdeadline]
  split <;> rfl

/-- A value that is shown and is no counter does not advance. -/
theorem increment_text {entry : Entry} (hlive : memory.live? key now = some entry)
    (hcount : counter? entry.value = none) (window : Duration) :
    memory.increment key window now =
      (some (.error (.unavailable ("value at " ++ key ++ " is not a counter"))),
        memory.evict key now) := by
  simp only [increment, find?_evict, hlive, Option.getD_some, hcount]

/-! ## What calls leave alone -/

variable (memory)

/-- An entry takes the place of what is under its key, whether or not that has expired. -/
theorem insert_evict : (memory.evict key now).insert key entry = memory.insert key entry := by
  rw [evict]
  split
  · simp [insert, erase]
  · rfl

/-- Advancing a counter changes what is under its key, if anything. -/
theorem increment_eq (window : Duration) :
    (memory.increment key window now).2 = memory.evict key now ∨
      ∃ entry, (memory.increment key window now).2 = memory.insert key entry := by
  simp only [increment, insert_evict]
  -- nothing is written only if the value is not a number
  split
  · exact .inl rfl
  · right
    split
    · split <;> exact ⟨_, rfl⟩
    · exact ⟨_, rfl⟩

/-- What a call can do to a store, at the most: only under its own key, and only to evict if it
asks. -/
theorem perform_cases (call : Call) :
    (memory.perform now call).2 = memory ∨
      (memory.perform now call).2 = memory.evict call.key now ∨
      call.asks = false ∧ ((memory.perform now call).2 = memory.erase call.key ∨
        ∃ entry, (memory.perform now call).2 = memory.insert call.key entry) := by
  by_cases hup : memory.available
  · rcases call with ⟨key, value, ttl⟩ | key | ⟨key, window⟩ | key | key
    · simp only [perform, hup, if_true]
      split
      · exact .inr (.inr ⟨rfl, .inr ⟨_, rfl⟩⟩)
      · exact .inl rfl
    · rw [perform_contains key now hup]
      exact .inr (.inl rfl)
    · rw [perform_increment key now hup]
      rcases memory.increment_eq key now window with heq | hinserted
      · exact .inr (.inl heq)
      · exact .inr (.inr ⟨rfl, .inr hinserted⟩)
    · rw [perform_count key now hup]
      exact .inr (.inl rfl)
    · rw [perform_delete key now hup]
      exact .inr (.inr ⟨rfl, .inl rfl⟩)
  · rw [perform_of_outage now (by simpa using hup)]
    exact .inl rfl

/-- No call switches the store on or off. -/
@[simp]
theorem available_perform (call : Call) :
    (memory.perform now call).2.available = memory.available := by
  rcases memory.perform_cases now call with heq | heq | ⟨-, heq | ⟨entry, heq⟩⟩
  · rw [heq]
  · rw [heq, available_evict]
  · rw [heq, erase]
  · rw [heq, insert, erase]

/-- Evicting changes nothing under other keys, and nothing that has not expired. -/
theorem find?_evict_of {other : String} (h : other ≠ key ∨ (memory.live? other now).isSome) :
    (memory.evict key now).find? other = memory.find? other := by
  rw [evict]
  split
  · next hnone =>
    have hne : other ≠ key := by
      rintro rfl
      rw [Option.isNone_iff_eq_none.mp hnone] at h
      simp at h
    rw [find?_erase, if_neg hne]
  · rfl

/-- A call leaves the table as it is under every key but its own. -/
theorem find?_perform {call : Call} {other : String} (h : other ≠ call.key) :
    (memory.perform now call).2.find? other = memory.find? other := by
  rcases memory.perform_cases now call with heq | heq | ⟨-, heq | ⟨entry, heq⟩⟩
  · rw [heq]
  · rw [heq, find?_evict_of memory _ now (.inl h)]
  · rw [heq, find?_erase, if_neg h]
  · rw [heq, find?_insert, if_neg h]

/-- A call that only asks, or that is about another key, changes nothing that is shown under a key
at the moment. -/
theorem live?_perform_now {call : Call} (h : call.asks ∨ call.key ≠ key) :
    (memory.perform now call).2.live? key now = memory.live? key now := by
  rcases h with hasks | hne
  · rcases memory.perform_cases now call with heq | heq | ⟨hwrites, -⟩
    · rw [heq]
    · rw [heq, live?_evict memory _ _ (Time.le_refl now)]
    · rw [hwrites] at hasks
      cases hasks
  · rw [live?, find?_perform memory now (Ne.symm hne), live?]

/-- A call that only asks, or that is about another key, changes nothing that is shown under a key,
now or later. -/
theorem live?_perform {call : Call} (h : call.asks ∨ call.key ≠ key) (hle : now ≤ later) :
    (memory.perform now call).2.live? key later = memory.live? key later := by
  -- what is shown later is settled by what is shown at the moment of the call
  rw [live?_of_le _ key hle, live?_perform_now memory key now h, ← live?_of_le _ key hle]

end Memory
end Bearer.Store
