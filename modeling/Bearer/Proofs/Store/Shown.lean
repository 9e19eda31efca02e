import Bearer.Proofs.Store.Live
import Mathlib.Logic.Function.Basic

/-!
# What a store shows as a whole

At each moment a store is, to those who call it, the function that gives the entry under each key.
A call to it changes that function at one key at the most, and how it is answered depends on that
one key alone.

Main statements: `shown_evict`, `shown_erase` and `shown_insert` say what each change of the table
does to the function, and `perform_of_live?` that a call looks at its own key only.
-/

namespace Bearer.Store.Memory

variable {memory other : Memory} {key : String} {now : Time} {entry : Entry}

/-- What a store shows under each key at a moment: the entries that have not expired. -/
def shown (memory : Memory) (now : Time) (key : String) : Option Entry := memory.live? key now

/-! ## What is shown after a change of the table -/

/-- Evicting changes nothing of what is shown. -/
@[simp]
theorem shown_evict (memory : Memory) (key : String) (now : Time) :
    (memory.evict key now).shown now = memory.shown now := by
  funext other
  exact live?_evict memory key other (Time.le_refl now)

/-- After a key was erased, nothing is shown under it. -/
theorem shown_erase (memory : Memory) (key : String) (now : Time) :
    (memory.erase key).shown now = Function.update (memory.shown now) key none := by
  funext other
  rw [shown, live?_erase, Function.update_apply]
  rfl

/-- After a live entry was inserted, it is shown under its key. -/
theorem shown_insert (hlive : entry.isLive now) (memory : Memory) (key : String) :
    (memory.insert key entry).shown now = Function.update (memory.shown now) key (some entry) := by
  funext other
  rw [shown, live?_insert, Function.update_apply, Option.filter_some, if_pos hlive]
  rfl

/-! ## What a call looks at -/

/-- How a call is answered, and what it leaves under its key, depends on nothing but what is shown
there. -/
theorem perform_of_live? {call : Call} (hup : memory.available = other.available)
    (h : memory.live? call.key now = other.live? call.key now) :
    (memory.perform now call).1 = (other.perform now call).1 ∧
      (memory.perform now call).2.live? call.key now =
        (other.perform now call).2.live? call.key now := by
  -- stores that are given the same entry, or none, agree on its key afterwards
  have hinsert (memory other : Memory) (key : String) (entry : Entry) :
      (memory.insert key entry).live? key now = (other.insert key entry).live? key now := by
    rw [live?_insert, live?_insert, if_pos rfl, if_pos rfl]
  have hevict {key : String} (h : memory.live? key now = other.live? key now) :
      (memory.evict key now).live? key now = (other.evict key now).live? key now := by
    rw [live?_evict _ _ _ (Time.le_refl now), live?_evict _ _ _ (Time.le_refl now), h]
  by_cases havailable : memory.available
  · have hother : other.available := hup ▸ havailable
    rcases call with ⟨key, value, ttl⟩ | key | ⟨key, window⟩ | key | key
    · simp only [perform, havailable, hother, if_true]
      split
      · exact ⟨rfl, hinsert _ _ key _⟩
      · exact ⟨rfl, h⟩
    · rw [perform_contains key now havailable, perform_contains key now hother]
      replace h : memory.live? key now = other.live? key now := h
      exact ⟨by rw [h], hevict h⟩
    · rw [perform_increment key now havailable, perform_increment key now hother]
      replace h : memory.live? key now = other.live? key now := h
      simp only [increment, find?_evict, h]
      -- both count on from the same entry, or both find no counter there
      split
      · exact ⟨rfl, hevict h⟩
      · split
        · split <;> exact ⟨rfl, hinsert _ _ key _⟩
        · exact ⟨rfl, hinsert _ _ key _⟩
    · rw [perform_count key now havailable, perform_count key now hother]
      replace h : memory.live? key now = other.live? key now := h
      exact ⟨by rw [countAt, countAt, h], hevict h⟩
    · rw [perform_delete key now havailable, perform_delete key now hother, Call.key, live?_erase,
        live?_erase, if_pos rfl, if_pos rfl]
      exact ⟨rfl, rfl⟩
  · have hother : ¬other.available := hup ▸ havailable
    rw [perform_of_outage now (by simpa using havailable),
      perform_of_outage now (by simpa using hother)]
    exact ⟨rfl, h⟩

/-- Whether a value can be set depends on nothing that the store shows. -/
theorem perform_set_answer (hup : memory.available = other.available) (key value : String)
    (ttl : Duration) (now : Time) :
    (memory.perform now (.set key value ttl)).1 = (other.perform now (.set key value ttl)).1 := by
  simp only [perform, hup]
  split
  · split <;> rfl
  · rfl

end Bearer.Store.Memory
