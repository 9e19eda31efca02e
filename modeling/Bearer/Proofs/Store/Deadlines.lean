import Bearer.Proofs.Store.Eager
import Mathlib.Data.List.Induction

/-!
# Entries without a deadline

Every entry of the table is written with a deadline, but for one case. A first failure writes its
counter before the deadline is known, and if the clock of deadlines does not reach that far, the
call is aborted in between: the counter stays, for good.

Main statements: `expires_operate_iff` for one operation, `expires_throughout_iff` for the
operations of a history, and `unchanged_iff_of_aborted` for what an aborted operation leaves behind.
-/

namespace Bearer.Store.Memory

variable {memory : Memory} {now : Time} {key : String} {entry : Entry} {window : Duration}

/-- Every entry of the table carries a deadline. -/
def Expires (memory : Memory) : Prop := ∀ kept ∈ memory.entries, kept.2.deadline?.isSome

/-- A first failure is counted in a window whose end the clock of deadlines does not reach. -/
def Strands (memory : Memory) (now : Time) : Operation → Prop
  | .call (.increment key window) =>
    memory.available ∧ memory.live? key now = none ∧ now.after? window = none
  | _ => False

instance (memory : Memory) (now : Time) :
    (operation : Operation) → Decidable (memory.Strands now operation)
  | .call (.increment ..) => inferInstanceAs (Decidable (_ ∧ _ ∧ _))
  | .call (.set ..) | .call (.contains _) | .call (.count _) | .call (.delete _) | .timeLeft _
  | .switch _ => .isFalse id

/-- No counter is stranded by an operation whose deadline is in reach. -/
theorem not_strands_of_fits {operation : Operation} (h : operation.Fits now) :
    ¬memory.Strands now operation := by
  unfold Strands
  split
  · rintro ⟨-, -, hnone⟩
    rw [Operation.Fits, hnone] at h
    cases h
  · exact id

/-! ## Changes of the table -/

/-- In an empty store every entry expires. -/
theorem expires_empty : empty.Expires := by
  intro kept hkept
  cases hkept

/-- Erasing leaves no entry without a deadline. -/
theorem Expires.erase (h : memory.Expires) (key : String) : (memory.erase key).Expires := by
  intro kept hkept
  exact h kept (List.mem_filter.mp hkept).1

/-- Evicting leaves no entry without a deadline. -/
theorem Expires.evict (h : memory.Expires) (key : String) (now : Time) :
    (memory.evict key now).Expires := by
  rw [Memory.evict]
  split
  · exact h.erase key
  · exact h

/-- An entry can be written just if it carries a deadline. -/
theorem Expires.insert_iff (h : memory.Expires) (key : String) (entry : Entry) :
    (memory.insert key entry).Expires ↔ entry.deadline?.isSome := by
  constructor
  · intro hexpires
    exact hexpires (key, entry) List.mem_cons_self
  · intro hentry kept hkept
    rcases List.mem_cons.mp hkept with rfl | hmem
    · exact hentry
    · exact h.erase key kept hmem

/-- What is found stands in the table. -/
theorem mem_entries_of_find? (h : memory.find? key = some entry) :
    (key, entry) ∈ memory.entries := by
  obtain ⟨front, rest, heq, -⟩ := List.lookup_eq_some_iff.mp h
  rw [heq]
  exact List.mem_append_right _ List.mem_cons_self

/-- An entry that is shown carries a deadline. -/
theorem Expires.of_live? (h : memory.Expires) (hlive : memory.live? key now = some entry) :
    entry.deadline?.isSome := by
  have hfind := (Option.filter_eq_some_iff.mp hlive).1
  exact h _ (mem_entries_of_find? hfind)

/-! ## Operations -/

/-- Counting keeps the deadlines, except for a first failure whose deadline is out of reach. -/
theorem Expires.increment_iff (h : memory.Expires) (key : String) (window : Duration)
    (now : Time) :
    (memory.increment key window now).2.Expires ↔
      ¬(memory.live? key now = none ∧ now.after? window = none) := by
  have hevict := h.evict key now
  cases hlive : memory.live? key now with
  | none =>
    rw [increment_absent key now hlive, hevict.insert_iff]
    cases now.after? window <;> simp
  | some entry =>
    refine iff_of_true ?_ nofun
    have hdeadline := h.of_live? hlive
    simp only [increment, find?_evict, hlive, Option.getD_some]
    -- the counter keeps the deadline that it has, or gets a new one
    split
    · exact hevict
    · split
      · split
        · exact (hevict.insert_iff _ _).mpr rfl
        · exact (hevict.insert_iff _ _).mpr hdeadline
      · exact (hevict.insert_iff _ _).mpr hdeadline

/-- Where every entry carries a deadline, an operation keeps it so exactly if it strands no
counter. -/
theorem expires_operate_iff (h : memory.Expires) (operation : Operation) :
    (memory.operate now operation).2.Expires ↔ ¬memory.Strands now operation := by
  rcases operation with asked | key | available
  · by_cases hup : memory.available
    · rcases asked with ⟨key, value, ttl⟩ | key | ⟨key, window⟩ | key | key
      · refine iff_of_true ?_ id
        simp only [operate, perform, hup, if_true]
        split
        · exact (h.insert_iff _ _).mpr rfl
        · exact h
      · rw [operate, perform_contains key now hup]
        exact iff_of_true (h.evict key now) id
      · rw [operate, perform_increment key now hup, h.increment_iff, Strands]
        simp only [hup, true_and]
      · rw [operate, perform_count key now hup]
        exact iff_of_true (h.evict key now) id
      · rw [operate, perform_delete key now hup]
        exact iff_of_true (h.erase key) id
    · -- in an outage nothing is written
      rw [operate, perform_of_outage now (by simpa using hup)]
      refine iff_of_true h ?_
      cases asked <;> simp [Strands, hup]
  · exact iff_of_true h id
  · exact iff_of_true h id

/-- Operations after others run on the store that these have left. -/
theorem after_append (memory : Memory) (front rest : List (Time × Operation)) :
    memory.after (front ++ rest) = (memory.after front).after rest :=
  List.foldl_append

/-- Every entry carries a deadline all through a history exactly if no operation of the history
strands a counter. -/
theorem expires_throughout_iff (h : memory.Expires) (history : List (Time × Operation)) :
    (∀ front, front <+: history → (memory.after front).Expires) ↔
      ∀ front now operation, front ++ [(now, operation)] <+: history →
        ¬(memory.after front).Strands now operation := by
  constructor
  · intro hall front now operation hprefix
    have hfront := hall front ((List.prefix_append _ _).trans hprefix)
    have hnext := hall _ hprefix
    rw [after_append] at hnext
    exact (expires_operate_iff hfront operation).mp hnext
  · intro hnone front
    -- by induction on the operations so far, the last one at the end
    induction front using List.reverseRecOn with
    | nil =>
      intro _
      exact h
    | append_singleton front step ih =>
      intro hprefix
      have hfront := ih ((List.prefix_append _ _).trans hprefix)
      rw [after_append]
      exact (expires_operate_iff hfront step.2).mpr (hnone front step.1 step.2 hprefix)

/-- Counting that is aborted has written one under its key, where there was something else or
nothing. -/
theorem find?_increment_ne_of_aborted (h : (memory.increment key window now).1 = none) :
    (memory.increment key window now).2.find? key ≠ memory.find? key := by
  cases hlive : memory.live? key now with
  | none =>
    have hwindow : now.after? window = none := by
      rw [increment_absent key now hlive, Option.map_eq_none_iff] at h
      exact h
    rw [increment_absent key now hlive, find?_insert, if_pos rfl, hwindow]
    -- an entry without a deadline would be shown
    intro heq
    rw [live?, ← heq] at hlive
    cases hlive
  | some entry =>
    have hfind : memory.find? key = some entry := (Option.filter_eq_some_iff.mp hlive).1
    cases hcount : counter? entry.value with
    | none =>
      rw [increment_text key now hlive hcount] at h
      cases h
    | some n =>
      simp only [increment, find?_evict, hlive, Option.getD_some, hcount] at h ⊢
      by_cases hone : n + 1 = 1
      · cases hwindow : now.after? window with
        | some deadline => simp [hone, hwindow] at h
        | none =>
          simp only [hone, if_true, find?_insert, hfind]
          -- the count was zero before, and is one now
          intro heq
          have hvalue : counterText 1 = entry.value := congrArg Entry.value (Option.some.inj heq)
          rw [← hvalue, counter?_counterText] at hcount
          cases hcount
          exact absurd hone (by decide)
      · simp [hone] at h

/-- An aborted operation leaves the table as it is, unless it counts: that has written the count
already. -/
theorem unchanged_iff_of_aborted {operation : Operation}
    (h : (memory.operate now operation).1 = none) :
    (∀ key, (memory.operate now operation).2.find? key = memory.find? key) ↔
      ∀ key window, operation ≠ .call (.increment key window) := by
  rcases operation with asked | key | available
  · by_cases hup : memory.available
    · rcases asked with ⟨key, value, ttl⟩ | key | ⟨key, window⟩ | key | key
      · -- the deadline is computed before anything is written
        refine iff_of_true ?_ nofun
        cases hdeadline : now.after? ttl with
        | none => simp [operate, perform, hup, hdeadline]
        | some deadline =>
          rw [operate, perform_set key now hup hdeadline] at h
          cases h
      · rw [operate, perform_contains key now hup] at h
        cases h
      · rw [operate, perform_increment key now hup] at h ⊢
        -- the count is written before the deadline is computed
        refine iff_of_false ?_ fun hne => hne key window rfl
        exact fun hsame => find?_increment_ne_of_aborted h (hsame key)
      · rw [operate, perform_count key now hup] at h
        cases h
      · rw [operate, perform_delete key now hup] at h
        cases h
    · rw [operate, perform_of_outage now (by simpa using hup)] at h
      cases h
  · cases h
  · cases h

end Bearer.Store.Memory
