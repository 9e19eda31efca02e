import Bearer.Proofs.Store.Live

/-!
# Expiry on time

The store in memory keeps an entry past its deadline, until a call comes across it. A store that
drops every entry at its very deadline is simpler to think about: it is a map from keys to values
with deadlines, and its counters are numbers instead of texts. This file defines that store, and
shows that nobody can tell the two apart.

The proof is a simulation. The store in memory mirrors the eager one when it shows, under every key,
an entry that stands for what the eager one keeps; `Mirrors.operate` says that each operation is
answered alike and keeps this so, and `mirrors_after` follows by induction on the operations.

Main statement: `answers_on_time`.
-/

namespace Bearer.Store

/-- What can be done with a store. -/
inductive Operation where
  /-- Call it. -/
  | call (asked : Call)
  /-- Ask how long the value under a key will live on. -/
  | timeLeft (key : String)
  /-- Switch it on or off. -/
  | switch (available : Bool)

/-- What an operation is answered with. -/
@[reducible]
def Operation.Reply : Operation → Type
  | .call asked => Except Failure asked.Reply
  | .timeLeft _ => Option Duration
  | .switch _ => Unit

/-- The clock of deadlines reaches the deadline that an operation sets, if it sets one. -/
def Operation.Fits (now : Time) : Operation → Prop
  | .call (.set _ _ ttl) => (now.after? ttl).isSome
  | .call (.increment _ window) => (now.after? window).isSome
  | _ => True

instance (now : Time) : (operation : Operation) → Decidable (operation.Fits now)
  | .call (.set ..) | .call (.increment ..) => inferInstanceAs (Decidable (_ = true))
  | .call (.contains _) | .call (.count _) | .call (.delete _) | .timeLeft _ | .switch _ =>
    .isTrue trivial

/-- The key that an operation is about, if it is about one. -/
def Operation.key? : Operation → Option String
  | .call asked => some asked.key
  | .timeLeft key => some key
  | .switch _ => none

/-- Performs an operation. There is no answer when it is aborted. -/
def Memory.operate (memory : Memory) (now : Time) :
    (operation : Operation) → Option operation.Reply × Memory
  | .call asked => memory.perform now asked
  | .timeLeft key => (some (memory.timeLeft? key now), memory)
  | .switch available => (some (), { memory with available })

/-- The store after a list of operations, each at its moment. -/
def Memory.after (memory : Memory) (operations : List (Time × Operation)) : Memory :=
  operations.foldl (fun memory step => (memory.operate step.1 step.2).2) memory

/-- A value: the number of a counter, or a text that is none. -/
inductive Value where
  | number (n : UInt64)
  | text (s : String)

/-- The value of a text. -/
def Value.ofText (s : String) : Value :=
  match Memory.counter? s with
  | some n => number n
  | none => text s

/-- A store that drops every entry at its deadline. -/
structure Eager where
  /-- The value under each key, and the moment at which it is dropped. -/
  entries : String → Option (Value × Time)
  /-- Whether the store answers. -/
  available : Bool

namespace Eager

def empty : Eager := ⟨fun _ => none, true⟩

/-- The clock shows a moment: every entry whose deadline it has reached is dropped. -/
def reach (store : Eager) (now : Time) : Eager :=
  { store with entries := fun key => (store.entries key).filter fun kept => now < kept.2 }

/-- The store with something else, or nothing, under a key. -/
def put (store : Eager) (key : String) (kept? : Option (Value × Time)) : Eager :=
  { store with entries := fun other => if other = key then kept? else store.entries other }

/-- Adds one to a counter. Its deadline stays, unless the count is then one. -/
def increment (store : Eager) (key : String) (window : Duration) (now : Time) :
    Except Failure UInt64 × Eager :=
  match store.entries key with
  | none => (.ok 1, store.put key (some (.number 1, now.add window)))
  | some (.number n, deadline) =>
    (.ok (n + 1),
      store.put key (some (.number (n + 1), if n + 1 = 1 then now.add window else deadline)))
  | some (.text _, _) =>
    (.error (.unavailable ("value at " ++ key ++ " is not a counter")), store)

/-- The count under a key, zero if there is none. -/
def count (store : Eager) (key : String) : UInt64 :=
  match store.entries key with
  | some (.number n, _) => n
  | _ => 0

/-- Answers a call. -/
def perform (store : Eager) (now : Time) : (call : Call) → Except Failure call.Reply × Eager
  | .set key value ttl =>
    if store.available then (.ok (), store.put key (some (.ofText value, now.add ttl)))
    else (.error Memory.outage, store)
  | .contains key =>
    if store.available then (.ok (store.entries key).isSome, store)
    else (.error Memory.outage, store)
  | .increment key window =>
    if store.available then store.increment key window now else (.error Memory.outage, store)
  | .count key =>
    if store.available then (.ok (store.count key), store) else (.error Memory.outage, store)
  | .delete key =>
    if store.available then (.ok (), store.put key none) else (.error Memory.outage, store)

/-- Performs an operation. -/
def operate (store : Eager) (now : Time) : (operation : Operation) → operation.Reply × Eager
  | .call asked => store.perform now asked
  | .timeLeft key => ((store.entries key).map fun kept => kept.2.since now, store)
  | .switch available => ((), { store with available })

/-- The store after a list of operations, each at its moment. -/
def after (store : Eager) (operations : List (Time × Operation)) : Eager :=
  operations.foldl (fun store step => ((store.reach step.1).operate step.1 step.2).2) store

end Eager

/-! ## Values and entries -/

/-- The text of a count stands for its number. -/
theorem Value.ofText_counterText (n : UInt64) : ofText (Memory.counterText n) = number n := by
  rw [ofText, Memory.counter?_counterText]

/-- A text stands for a number exactly if it is read as that count. -/
theorem Value.ofText_eq_number_iff {s : String} {n : UInt64} :
    ofText s = number n ↔ Memory.counter? s = some n := by
  rw [ofText]
  cases Memory.counter? s <;> simp

/-- What stands for a text is no count. -/
theorem Value.counter?_of_ofText_eq_text {s t : String} (h : ofText s = text t) :
    Memory.counter? s = none := by
  rw [ofText] at h
  cases hread : Memory.counter? s with
  | none => rfl
  | some n =>
    rw [hread] at h
    cases h

/-- An entry stands for a value with a deadline. -/
structure Entry.StandsFor (entry : Entry) (kept : Value × Time) : Prop where
  /-- The text of the entry is that of the value. -/
  value : .ofText entry.value = kept.1
  /-- They expire together. -/
  deadline : entry.deadline? = some kept.2

/-- An entry is live until the time that is kept for it. -/
theorem Entry.StandsFor.isLive {entry : Entry} {kept : Value × Time} (h : entry.StandsFor kept)
    (now : Time) : entry.isLive now = decide (now < kept.2) := by
  rw [Entry.isLive, h.deadline]
  rfl

/-- An entry that stands for a value expires when the value is dropped. -/
theorem Entry.rel_filter {shown : Option Entry} {kept? : Option (Value × Time)}
    (h : shown.Rel StandsFor kept?) (now : Time) :
    (shown.filter (·.isLive now)).Rel StandsFor (kept?.filter fun kept => now < kept.2) := by
  cases h with
  | none => exact .none
  | some hstands =>
    rw [Option.filter_some, Option.filter_some, hstands.isLive now]
    split
    · exact .some hstands
    · exact .none

/-- What the store has at a later moment is what it has now and does not expire until then. -/
theorem Eager.entries_reach_of_le {now later : Time} (store : Eager) (h : now ≤ later)
    (key : String) :
    (store.reach later).entries key =
      ((store.reach now).entries key).filter fun kept => later < kept.2 := by
  simp only [reach, Option.filter_filter]
  -- a deadline that is still to come later is still to come now
  congr 1
  funext kept
  rw [Bool.eq_iff_iff, Bool.and_eq_true, decide_eq_true_eq, decide_eq_true_eq]
  exact ⟨fun hlater => ⟨Time.lt_of_le_of_lt h hlater, hlater⟩, And.right⟩

/-- The deadlines that a moment has reached are not reached again. -/
theorem Eager.reach_reach (store : Eager) (now : Time) :
    (store.reach now).reach now = store.reach now := by
  have h (key : String) :
      ((store.reach now).reach now).entries key = (store.reach now).entries key :=
    (store.entries_reach_of_le (Time.le_refl now) key).symm
  rw [reach, Eager.mk.injEq]
  exact ⟨funext h, rfl⟩

/-- What the store has after a change: what was put under the key unless that has expired, and all
else as before. -/
theorem Eager.entries_reach_put (store : Eager) (now : Time) (key other : String)
    (kept? : Option (Value × Time)) :
    ((store.put key kept?).reach now).entries other =
      if other = key then kept?.filter fun kept => now < kept.2
      else (store.reach now).entries other := by
  simp only [reach, put]
  split <;> rfl

namespace Memory

variable {memory : Memory} {store : Eager} {now later : Time} {key : String}

/-! ## The simulation -/

/-- At a moment, a store in memory shows what an eager one keeps. -/
structure Mirrors (memory : Memory) (store : Eager) (now : Time) : Prop where
  /-- Both answer, or neither does. -/
  available : memory.available = store.available
  /-- Under every key, an entry is shown that stands for what is kept, and none for nothing. -/
  shown : ∀ key, (memory.live? key now).Rel Entry.StandsFor ((store.reach now).entries key)

/-- An empty table mirrors the empty store. -/
theorem mirrors_empty (now : Time) : empty.Mirrors .empty now :=
  ⟨rfl, fun _ => .none⟩

/-- What is mirrored at a moment is mirrored from then on. -/
theorem Mirrors.of_le (h : memory.Mirrors store now) (hle : now ≤ later) :
    memory.Mirrors store later where
  available := h.available
  shown key := by
    rw [live?_of_le memory key hle, store.entries_reach_of_le hle]
    exact Entry.rel_filter (h.shown key) later

/-- To drop what has expired changes nothing of what is mirrored. -/
theorem Mirrors.reach (h : memory.Mirrors store now) : memory.Mirrors (store.reach now) now where
  available := h.available
  shown key := by
    rw [store.reach_reach]
    exact h.shown key

/-- Evicting what has expired is not seen. -/
theorem Mirrors.evict (h : memory.Mirrors store now) (key : String) :
    (memory.evict key now).Mirrors store now where
  available := by
    rw [available_evict]
    exact h.available
  shown other := by
    rw [live?_evict memory key other (Time.le_refl now)]
    exact h.shown other

/-- Erasing a key mirrors taking its entry away. -/
theorem Mirrors.erase (h : memory.Mirrors store now) (key : String) :
    (memory.erase key).Mirrors (store.put key none) now where
  available := h.available
  shown other := by
    rw [live?_erase, Eager.entries_reach_put]
    split
    · exact .none
    · exact h.shown other

/-- Inserting an entry mirrors putting what it stands for. -/
theorem Mirrors.insert (h : memory.Mirrors store now) (key : String) {entry : Entry}
    {kept : Value × Time} (hstands : entry.StandsFor kept) :
    (memory.insert key entry).Mirrors (store.put key (some kept)) now where
  available := h.available
  shown other := by
    rw [live?_insert, Eager.entries_reach_put]
    split
    · exact Entry.rel_filter (.some hstands) now
    · exact h.shown other

/-- What is under a key on both sides. -/
theorem Mirrors.cases (h : memory.Mirrors store now) (key : String) :
    memory.live? key now = none ∧ (store.reach now).entries key = none ∨
      ∃ entry kept, memory.live? key now = some entry ∧
        (store.reach now).entries key = some kept ∧ entry.StandsFor kept := by
  have hshown := h.shown key
  revert hshown
  generalize memory.live? key now = shown
  generalize (store.reach now).entries key = kept?
  rintro (hstands | _)
  · exact .inr ⟨_, _, rfl, rfl, hstands⟩
  · exact .inl ⟨rfl, rfl⟩

/-- A counter is advanced alike. -/
theorem Mirrors.increment (h : memory.Mirrors store now) (key : String) {window : Duration}
    (hfits : (now.after? window).isSome) :
    (memory.increment key window now).1 = some ((store.reach now).increment key window now).1 ∧
      (memory.increment key window now).2.Mirrors
        ((store.reach now).increment key window now).2 now := by
  have hafter := Time.after?_of_le (Time.le_refl now) hfits
  rcases h.cases key with ⟨hlive, hkept⟩ | ⟨entry, ⟨value, deadline⟩, hlive, hkept, hstands⟩
  · rw [increment_starts key now hlive hafter]
    simp only [Eager.increment, hkept]
    exact ⟨trivial, (h.reach.evict key).insert key ⟨Value.ofText_counterText 1, rfl⟩⟩
  · rcases value with n | s
    · rw [increment_counter key now hlive (Value.ofText_eq_number_iff.mp hstands.value) hafter]
      simp only [Eager.increment, hkept]
      refine ⟨trivial, (h.reach.evict key).insert key ⟨Value.ofText_counterText (n + 1), ?_⟩⟩
      -- the deadline is replaced on both sides, or on neither
      rw [apply_ite some, hstands.deadline]
    · rw [increment_text key now hlive (Value.counter?_of_ofText_eq_text hstands.value)]
      simp only [Eager.increment, hkept]
      exact ⟨trivial, h.reach.evict key⟩

/-- A count is read alike. -/
theorem Mirrors.countAt (h : memory.Mirrors store now) (key : String) :
    memory.countAt key now = (store.reach now).count key := by
  rcases h.cases key with ⟨hlive, hkept⟩ | ⟨entry, ⟨value, deadline⟩, hlive, hkept, hstands⟩
  · simp only [Memory.countAt, Eager.count, hlive, hkept]
    rfl
  · simp only [Memory.countAt, Eager.count, hlive, hkept, Option.bind_some]
    rcases value with n | s
    · rw [Value.ofText_eq_number_iff.mp hstands.value]
      rfl
    · rw [Value.counter?_of_ofText_eq_text hstands.value]
      rfl

/-- Whether there is a value under a key is answered alike. -/
theorem Mirrors.isSome (h : memory.Mirrors store now) (key : String) :
    (memory.live? key now).isSome = ((store.reach now).entries key).isSome := by
  rcases h.cases key with ⟨hlive, hkept⟩ | ⟨entry, kept, hlive, hkept, -⟩
  · rw [hlive, hkept]
    rfl
  · rw [hlive, hkept]
    rfl

/-- The time that is left is answered alike. -/
theorem Mirrors.timeLeft? (h : memory.Mirrors store now) (key : String) :
    memory.timeLeft? key now =
      ((store.reach now).entries key).map fun kept => kept.2.since now := by
  rcases h.cases key with ⟨hlive, hkept⟩ | ⟨entry, kept, hlive, hkept, hstands⟩
  · rw [Memory.timeLeft?, hlive, hkept]
    rfl
  · rw [Memory.timeLeft?, hlive, hkept, Option.bind_some, hstands.deadline]
    rfl

/-- A call is answered alike. -/
theorem Mirrors.perform (h : memory.Mirrors store now) {asked : Call}
    (hfits : Operation.Fits now (.call asked)) :
    (memory.perform now asked).1 = some ((store.reach now).perform now asked).1 ∧
      (memory.perform now asked).2.Mirrors ((store.reach now).perform now asked).2 now := by
  have hreach := h.reach
  have hsame : (store.reach now).available = memory.available := h.available.symm
  by_cases hup : memory.available
  · -- what is due has been dropped on the one side and is not shown on the other
    rw [hup] at hsame
    rcases asked with ⟨key, value, ttl⟩ | key | ⟨key, window⟩ | key | key
    · rw [perform_set key now hup (Time.after?_of_le (Time.le_refl now) hfits)]
      simp only [Eager.perform, hsame, if_true]
      exact ⟨trivial, hreach.insert key ⟨rfl, rfl⟩⟩
    · rw [perform_contains key now hup, h.isSome]
      simp only [Eager.perform, hsame, if_true]
      exact ⟨trivial, hreach.evict key⟩
    · rw [perform_increment key now hup]
      simp only [Eager.perform, hsame, if_true]
      exact h.increment key hfits
    · rw [perform_count key now hup, h.countAt]
      simp only [Eager.perform, hsame, if_true]
      exact ⟨trivial, hreach.evict key⟩
    · rw [perform_delete key now hup]
      simp only [Eager.perform, hsame, if_true]
      exact ⟨trivial, hreach.erase key⟩
  · -- in an outage every call fails, and nothing is touched
    rw [perform_of_outage now (by simpa using hup)]
    rw [Bool.not_eq_true] at hup
    rw [hup] at hsame
    cases asked <;> simp [Eager.perform, hsame, hreach]

/-- An operation is answered alike, and what is shown afterwards is what is kept. -/
theorem Mirrors.operate (h : memory.Mirrors store now) {operation : Operation}
    (hfits : operation.Fits now) :
    (memory.operate now operation).1 = some ((store.reach now).operate now operation).1 ∧
      (memory.operate now operation).2.Mirrors ((store.reach now).operate now operation).2 now := by
  rcases operation with asked | key | available
  · exact h.perform hfits
  · exact ⟨congrArg some (h.timeLeft? key), h.reach⟩
  · exact ⟨rfl, rfl, h.reach.shown⟩

/-- After operations in the order of time, a store in memory mirrors the eager one still. -/
theorem Mirrors.after {history : List (Time × Operation)} (h : memory.Mirrors store now)
    (hordered : history.Pairwise (·.1 ≤ ·.1)) (hnow : ∀ step ∈ history, now ≤ step.1)
    (hfits : ∀ step ∈ history, step.2.Fits step.1) (hle : now ≤ later)
    (hlater : ∀ step ∈ history, step.1 ≤ later) :
    (memory.after history).Mirrors (store.after history) later := by
  -- by induction on the history, over all pairs of stores that mirror each other at some moment
  induction history generalizing memory store now with
  | nil => exact h.of_le hle
  | cons step history ih =>
    rw [List.pairwise_cons] at hordered
    rw [List.forall_mem_cons] at hnow hfits hlater
    -- time passes, and then the operation is performed on both sides
    have hstep := ((h.of_le hnow.1).operate hfits.1).2
    exact ih hstep hordered.2 hordered.1 hfits.2 hlater.1 hlater.2

/-! ## Main statement -/

/-- An operation leaves the table as it is under every key but its own. -/
theorem find?_operate (memory : Memory) (now : Time) {operation : Operation} {other : String}
    (h : operation.key? ≠ some other) :
    (memory.operate now operation).2.find? other = memory.find? other := by
  rcases operation with asked | key | available
  · have hne : other ≠ asked.key := fun heq => h (congrArg some heq.symm)
    exact find?_perform memory now hne
  · rfl
  · rfl

/-- A store in memory cannot be told from one that drops every entry at its deadline: after any
operations in the order of time, any further one is answered as there. Only the table under the key
of the operation changes, and evicting leaves what has not expired. -/
theorem answers_on_time (history : List (Time × Operation)) (now : Time) (operation : Operation)
    (hordered : (history ++ [(now, operation)]).Pairwise (·.1 ≤ ·.1))
    (hfits : ∀ step ∈ history ++ [(now, operation)], step.2.Fits step.1) :
    ((empty.after history).operate now operation).1 =
        some (((Eager.empty.after history).reach now).operate now operation).1 ∧
      (∀ (memory : Memory) (other : String), operation.key? ≠ some other →
        (memory.operate now operation).2.find? other = memory.find? other) ∧
      ∀ (memory : Memory) (key other : String), other ≠ key ∨ (memory.live? other now).isSome →
        (memory.evict key now).find? other = memory.find? other := by
  have hbefore : ∀ step ∈ history, step.1 ≤ now := by
    intro step hstep
    exact (List.pairwise_append.mp hordered).2.2 step hstep _ List.mem_cons_self
  have hmirrors : (empty.after history).Mirrors (Eager.empty.after history) now := by
    cases history with
    | nil => exact mirrors_empty now
    | cons first rest =>
      -- the two start alike at the moment of the first operation
      have hhistory := (List.pairwise_append.mp hordered).1
      refine (mirrors_empty first.1).after hhistory ?_ ?_ ?_ hbefore
      · rw [List.forall_mem_cons]
        exact ⟨Time.le_refl _, (List.pairwise_cons.mp hhistory).1⟩
      · exact fun step hstep => hfits step (List.mem_append_left _ hstep)
      · exact hbefore first List.mem_cons_self
  have hanswer := (hmirrors.operate (hfits _ List.mem_concat_self)).1
  exact ⟨hanswer, fun memory _ => memory.find?_operate now,
    fun memory key _ => memory.find?_evict_of key now⟩

/-- A value is set, counted on once, and counted on again at its very deadline: it starts anew. -/
theorem answers_on_time_sample :
    ((empty.after [(.ofSeconds 0, .call (.set "tally" "+5" (.ofSeconds 10))),
        (.ofSeconds 3, .call (.increment "tally" (.ofSeconds 60)))]).operate (.ofSeconds 10)
          (.call (.increment "tally" (.ofSeconds 60)))).1 = some (.ok 1) :=
  (answers_on_time _ _ _ (by decide) (by decide)).1.trans rfl

end Memory
end Bearer.Store
