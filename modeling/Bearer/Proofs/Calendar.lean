import Bearer.Claims.Basic

/-!
# The order of moments and the calendar

Moments are ordered by their nanoseconds. The calendar bounds the moments that a clock can show; it
ends long before the clock of deadlines does, so that no lifetime of a token, however long, runs
past the latter.
-/

namespace Bearer

namespace Time

variable {a b c : Time}

theorem le_def : a ≤ b ↔ a.nanos ≤ b.nanos := Iff.rfl

theorem lt_def : a < b ↔ a.nanos < b.nanos := Iff.rfl

theorem le_refl (a : Time) : a ≤ a := Int.le_refl _

theorem le_trans (hab : a ≤ b) (hbc : b ≤ c) : a ≤ c := Int.le_trans hab hbc

theorem le_antisymm (hab : a ≤ b) (hba : b ≤ a) : a = b :=
  congrArg Time.mk (Int.le_antisymm hab hba)

theorem lt_of_le_of_lt (hab : a ≤ b) (hbc : b < c) : a < c := Int.lt_of_le_of_lt hab hbc

/-- No time is before itself with a span added. -/
theorem le_add (a : Time) (d : Duration) : a ≤ a.add d := by
  simp only [le_def, add]
  omega

/-- A span that is not empty leads to a later time. -/
theorem lt_add (a : Time) {d : Duration} (h : d.nanos ≠ 0) : a < a.add d := by
  simp only [lt_def, add]
  omega

/-- A whole second is reached exactly if the seconds of the time are as many. -/
theorem ofSeconds_le_iff (n : Int) (t : Time) : ofSeconds n ≤ t ↔ n ≤ t.seconds := by
  simp only [le_def, ofSeconds, seconds]
  omega

/-- The clock of deadlines ends where seconds do not fit into a signed word. -/
theorem nanos_horizon : horizon.nanos = 9223372036854775808 * 1000000000 := by
  decide

/-- The calendar reaches a moment. -/
def InCalendar (t : Time) : Prop :=
  Claims.firstSecond ≤ t.seconds ∧ t.seconds ≤ Claims.lastSecond

instance (t : Time) : Decidable t.InCalendar := inferInstanceAs (Decidable (_ ∧ _))

/-- The calendar has no gaps. -/
theorem InCalendar.of_le (ha : a.InCalendar) (hc : c.InCalendar) (hab : a ≤ b) (hbc : b ≤ c) :
    b.InCalendar := by
  simp only [InCalendar, seconds, Claims.firstSecond, Claims.lastSecond, le_def] at *
  omega

/-- No time of the calendar is after its last moment. -/
theorem InCalendar.le_lastMoment {t : Time} (h : t.InCalendar) : t ≤ Claims.lastMoment := by
  simp only [InCalendar, seconds, le_def, Claims.lastMoment] at *
  omega

/-- A deadline is the time with the span added, if that is within the clock of deadlines. -/
theorem after?_eq_some {t : Time} {d : Duration} {deadline : Time} :
    t.after? d = some deadline ↔ (t.add d).nanos < horizon.nanos ∧ t.add d = deadline := by
  rw [after?]
  split
  · next h => simp [h]
  · next h => simp [h]

/-- There is a deadline exactly if it lies before the horizon. -/
theorem isSome_after?_iff {t : Time} {d : Duration} :
    (t.after? d).isSome ↔ t.add d < horizon := by
  rw [Option.isSome_iff_exists]
  constructor
  · rintro ⟨deadline, hdeadline⟩
    exact (after?_eq_some.mp hdeadline).1
  · intro h
    exact ⟨_, after?_eq_some.mpr ⟨h, rfl⟩⟩

/-- A span whose deadline the clock still reaches later has one that it reaches now. -/
theorem after?_of_le {d : Duration} (hab : a ≤ b) (hb : (b.after? d).isSome) :
    a.after? d = some (a.add d) := by
  obtain ⟨deadline, hdeadline⟩ := Option.isSome_iff_exists.mp hb
  obtain ⟨hlt, -⟩ := after?_eq_some.mp hdeadline
  refine after?_eq_some.mpr ⟨?_, rfl⟩
  simp only [add, le_def] at *
  omega

end Time
end Bearer
