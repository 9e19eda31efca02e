import Bearer.Proofs.Store.Live

/-!
# A store that counts

What a store holds under a key that is only ever advanced, asked for and deleted is the number of
times it was advanced since it was last deleted, for as long as its deadline has not come. The
deadline itself is left open here: it is one of those that a caller knows of, and there is none if
the clock of deadlines did not reach it.

Main statements: `Holds.countAt` and `Holds.perform`.
-/

namespace Bearer.Store

/-- How many times a key counts as advanced after a call. -/
def Call.tally (key : String) (n : Nat) : Call → Nat
  | .increment other _ => if other = key then n + 1 else n
  | .delete other => if other = key then 0 else n
  | _ => n

/-- Whether a call sets no key but some, and advances it with its window. -/
def Call.Counts (key : String) (window : Duration) : Call → Prop
  | .set other _ _ => other ≠ key
  | .increment other span => other = key → span = window
  | _ => True

namespace Memory

/-- A store holds a number under a key at a moment: nothing is shown if it is zero, and otherwise
there is a counter, whose deadline is one of some. -/
inductive Holds (memory : Memory) (key : String) (now : Time) (deadlines : Time → Prop) :
    Nat → Prop where
  /-- Nothing is shown. -/
  | zero (h : memory.live? key now = none) : Holds memory key now deadlines 0
  /-- There is a counter. -/
  | succ {n : Nat} {deadline? : Option Time}
      (h : memory.find? key = some ⟨counterText (.ofNat (n + 1)), deadline?⟩)
      (hdeadline : ∀ deadline ∈ deadline?, deadlines deadline) :
      Holds memory key now deadlines (n + 1)

variable {memory : Memory} {key : String} {now later : Time} {deadlines : Time → Prop} {n : Nat}

/-- A count that is held is held until its deadline. -/
theorem Holds.of_le (h : memory.Holds key now deadlines n) (hle : now ≤ later) :
    memory.Holds key later deadlines n := by
  cases h with
  | zero hnone =>
    refine .zero ?_
    rw [live?_of_le memory key hle, hnone]
    rfl
  | succ hsome hdeadline => exact .succ hsome hdeadline

/-- What holds with some deadlines holds with more of them. -/
theorem Holds.mono {other : Time → Prop} (h : memory.Holds key now deadlines n)
    (hle : ∀ deadline, deadlines deadline → other deadline) : memory.Holds key now other n := by
  cases h with
  | zero hnone => exact .zero hnone
  | succ hsome hdeadline =>
    exact .succ hsome fun deadline hmem => hle deadline (hdeadline deadline hmem)

/-- A counter whose deadlines are all to come is shown. -/
theorem Holds.shown (h : memory.Holds key now deadlines (n + 1))
    (hopen : ∀ deadline, deadlines deadline → now < deadline) :
    ∃ deadline?, memory.live? key now = some ⟨counterText (.ofNat (n + 1)), deadline?⟩ ∧
      ∀ deadline ∈ deadline?, deadlines deadline := by
  cases h with
  | @succ _ deadline? hsome hdeadline =>
    refine ⟨deadline?, ?_, hdeadline⟩
    rw [live?, hsome, Option.filter_eq_some_iff, Entry.isLive, Option.all_eq_true]
    refine ⟨rfl, fun deadline hmem => ?_⟩
    rw [decide_eq_true_eq]
    exact hopen deadline (hdeadline deadline hmem)

/-- Whoever asks for the number is told it. -/
theorem Holds.countAt (h : memory.Holds key now deadlines n)
    (hopen : ∀ deadline, deadlines deadline → now < deadline) :
    memory.countAt key now = .ofNat n := by
  cases n with
  | zero =>
    cases h with
    | zero hnone =>
      rw [Memory.countAt, hnone]
      rfl
  | succ n =>
    obtain ⟨deadline?, hlive, -⟩ := h.shown hopen
    rw [Memory.countAt, hlive]
    simp

/-- Evicting what has expired does not touch the number. -/
theorem Holds.evict (h : memory.Holds key now deadlines n)
    (hopen : ∀ deadline, deadlines deadline → now < deadline) :
    (memory.evict key now).Holds key now deadlines n := by
  cases n with
  | zero =>
    cases h with
    | zero hnone => exact .zero ((live?_evict memory key key (Time.le_refl now)).trans hnone)
  | succ n =>
    obtain ⟨deadline?, hlive, hdeadline⟩ := h.shown hopen
    exact .succ ((find?_evict memory key now).trans hlive) hdeadline

/-- Advancing adds one. A deadline is only ever set for the first time. -/
theorem Holds.increment (h : memory.Holds key now deadlines n)
    (hopen : ∀ deadline, deadlines deadline → now < deadline) (hlt : n < UInt64.size)
    (window : Duration) :
    (memory.increment key window now).2.Holds key now
      (fun deadline => deadlines deadline ∨ deadline = now.add window) (n + 1) := by
  cases n with
  | zero =>
    cases h with
    | zero hnone =>
      rw [increment_absent key now hnone]
      refine .succ ((find?_insert _ _ _ _).trans (if_pos rfl)) ?_
      intro deadline hmem
      exact .inr (Time.after?_eq_some.mp hmem).2.symm
  -- the entry keeps the deadline that it got with its first number
  | succ n =>
    obtain ⟨deadline?, hlive, hdeadline⟩ := h.shown hopen
    rw [increment_live key now hlive (Nat.succ_pos n) hlt]
    refine .succ ((find?_insert _ _ _ _).trans (if_pos rfl)) ?_
    intro deadline hmem
    exact .inl (hdeadline deadline hmem)

/-- What a call that counts does to the number. -/
theorem Holds.perform {window : Duration} {call : Call} (h : memory.Holds key now deadlines n)
    (hup : memory.available) (hopen : ∀ deadline, deadlines deadline → now < deadline)
    (hlt : n < UInt64.size) (hcall : call.Counts key window) :
    (memory.perform now call).2.Holds key now
      (fun deadline => deadlines deadline ∨
        call = .increment key window ∧ deadline = now.add window)
      (call.tally key n) := by
  have hkept {memory : Memory} (h : memory.Holds key now deadlines n) :
      memory.Holds key now (fun deadline => deadlines deadline ∨
        call = .increment key window ∧ deadline = now.add window) n :=
    h.mono fun _ => .inl
  by_cases hkey : call.key = key
  · cases call with
    | set other value ttl => exact absurd hkey hcall
    | contains other =>
      obtain rfl : other = key := hkey
      rw [perform_contains _ now hup]
      exact hkept (h.evict hopen)
    | increment other span =>
      obtain rfl : other = key := hkey
      rw [perform_increment _ now hup, Call.tally, if_pos rfl]
      -- the window of the call is the one window that failures are counted with
      refine (h.increment hopen hlt span).mono fun deadline => Or.imp_right fun heq => ⟨?_, ?_⟩
      · rw [hcall rfl]
      · rw [heq, hcall rfl]
    | count other =>
      obtain rfl : other = key := hkey
      rw [perform_count _ now hup]
      exact hkept (h.evict hopen)
    | delete other =>
      obtain rfl : other = key := hkey
      rw [perform_delete _ now hup, Call.tally, if_pos rfl]
      refine .zero ?_
      rw [live?_erase, if_pos rfl]
  · -- a call under another key changes neither the number nor what the table has under this one
    have htally : call.tally key n = n := by
      cases call <;> first | rfl | exact if_neg hkey
    have hfind := find?_perform memory now (Ne.symm hkey)
    rw [htally]
    apply hkept
    cases h with
    | zero hnone =>
      refine .zero ?_
      rw [live?, hfind]
      exact hnone
    | succ hsome hdeadline => exact .succ (hfind.trans hsome) hdeadline

end Memory
end Bearer.Store
