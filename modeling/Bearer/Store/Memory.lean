import Bearer.Store.Call

/-!
# A store in memory

Entries carry the moment at which they expire. Nothing watches that moment: an expired entry stays
in the table until the next call that asks for it removes it, and is not seen meanwhile.

A deadline that the clock cannot reach aborts the call. `set` computes the deadline before it
writes, so the table stays as it was; `increment` has written the new count by then, and the entry
is left without a deadline.
-/

namespace Bearer.Store

/-- What is kept under a key. -/
structure Entry where
  value : String
  /-- The moment at which it expires, if it does. -/
  deadline? : Option Time
  deriving DecidableEq, Repr

def Entry.isLive (entry : Entry) (now : Time) : Bool := entry.deadline?.all fun at' => now < at'

/-- A store in memory. -/
structure Memory where
  /-- The entries by key, expired ones among them. -/
  entries : List (String × Entry)
  /-- Whether the store answers. -/
  available : Bool
  deriving DecidableEq, Repr

namespace Memory

def empty : Memory := ⟨[], true⟩

def find? (memory : Memory) (key : String) : Option Entry := memory.entries.lookup key

/-- The store without what is under a key. -/
def erase (memory : Memory) (key : String) : Memory :=
  { memory with entries := memory.entries.filter (·.1 ≠ key) }

/-- The store with an entry in place of what is under its key. -/
def insert (memory : Memory) (key : String) (entry : Entry) : Memory :=
  { memory with entries := (key, entry) :: (memory.erase key).entries }

/-- What is found after a key was erased: nothing under it, and all else as before. -/
theorem find?_erase (memory : Memory) (key other : String) :
    (memory.erase key).find? other = if other = key then none else memory.find? other := by
  rw [find?, find?, erase]
  induction memory.entries with
  | nil => simp
  | cons entry entries ih =>
    by_cases hk : entry.1 = key <;> by_cases ho : other = entry.1 <;> grind

/-- What is found after an entry was inserted: the entry under its key, and all else as before. -/
theorem find?_insert (memory : Memory) (key other : String) (entry : Entry) :
    (memory.insert key entry).find? other =
      if other = key then some entry else memory.find? other := by
  rw [find?, insert, List.lookup_cons]
  by_cases h : other = key
  · simp [h]
  · rw [beq_eq_false_iff_ne.2 h, if_neg h]
    exact (memory.find?_erase key other).trans (if_neg h)

/-- The entry under a key if it has not expired. -/
def live? (memory : Memory) (key : String) (now : Time) : Option Entry :=
  (memory.find? key).filter (·.isLive now)

/-- The store without what is under a key, if that has expired. -/
def evict (memory : Memory) (key : String) (now : Time) : Memory :=
  if (memory.live? key now).isNone then memory.erase key else memory

/-- How long the value under a key will live on, if it lives and will expire. -/
def timeLeft? (memory : Memory) (key : String) (now : Time) : Option Duration :=
  (memory.live? key now).bind fun entry => entry.deadline?.map (·.since now)

def outage : Failure := .unavailable "in-memory store marked unavailable"

/-- Reads a value as a counter. -/
def counter? (value : String) : Option UInt64 :=
  (Text.Decimal.unsigned? UInt64.size value.toList).toOption.map UInt64.ofNat

def counterText (n : UInt64) : String := String.ofList (Text.Decimal.digits n.toNat)

/-- Adds one to a counter. -/
def increment (memory : Memory) (key : String) (window : Duration) (now : Time) :
    Option (Except Failure UInt64) × Memory :=
  let memory := memory.evict key now
  let entry := (memory.find? key).getD ⟨"0", none⟩
  match counter? entry.value with
  | none =>
    (some (.error (.unavailable ("value at " ++ key ++ " is not a counter"))), memory)
  | some n =>
    let count := n + 1
    let entry := { entry with value := counterText count }
    -- only a counter that starts anew gets a deadline
    if count = 1 then
      match now.after? window with
      | some deadline =>
        (some (.ok count), memory.insert key { entry with deadline? := some deadline })
      | none => (none, memory.insert key entry)
    else (some (.ok count), memory.insert key entry)

/-- Answers a call at a moment. There is no answer when the call is aborted. -/
def perform (memory : Memory) (now : Time) :
    (call : Call) → Option (Except Failure call.Reply) × Memory
  | .set key value ttl =>
    if memory.available then
      match now.after? ttl with
      | some deadline => (some (.ok ()), memory.insert key ⟨value, some deadline⟩)
      | none => (none, memory)
    else (some (.error outage), memory)
  | .contains key =>
    if memory.available then
      let memory := memory.evict key now
      (some (.ok (memory.find? key).isSome), memory)
    else (some (.error outage), memory)
  | .increment key window =>
    if memory.available then memory.increment key window now else (some (.error outage), memory)
  | .count key =>
    if memory.available then
      let memory := memory.evict key now
      (some (.ok (((memory.find? key).bind fun entry => counter? entry.value).getD 0)), memory)
    else (some (.error outage), memory)
  | .delete key =>
    if memory.available then (some (.ok ()), memory.erase key) else (some (.error outage), memory)

end Memory
end Bearer.Store
