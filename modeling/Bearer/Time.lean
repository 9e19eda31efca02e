import Bearer.Text.Decimal

/-!
# Spans of time and moments

A span is a number of nanoseconds; a moment is a signed number of nanoseconds from the epoch. Both
are read in whole seconds and milliseconds, rounded down.

The clock that deadlines are measured by holds fewer than `2 ^ 63` seconds: `Time.after?` has no
answer for a deadline beyond it.
-/

namespace Bearer

/-- A span of time. -/
structure Duration where
  /-- Its length in nanoseconds. -/
  nanos : Nat
  deriving DecidableEq, Repr

namespace Duration

def ofSeconds (n : Nat) : Duration := ⟨n * 1000000000⟩

def ofMillis (n : Nat) : Duration := ⟨n * 1000000⟩

def seconds (d : Duration) : Nat := d.nanos / 1000000000

def millis (d : Duration) : Nat := d.nanos / 1000000

/-- The milliseconds that are left over of the whole seconds. -/
def millisOfSecond (d : Duration) : Nat := d.millis % 1000

def isZero (d : Duration) : Bool := d.nanos = 0

/-- A fraction of a given number of places after a point, without the zeros at its end; nothing for
zero. -/
def fractionText (width value : Nat) : List Char :=
  let digits := Text.Decimal.digits value
  let padded := List.replicate (width - digits.length) '0' ++ digits
  if value = 0 then [] else '.' :: (padded.reverse.dropWhile (· = '0')).reverse

/-- The span in its largest unit among seconds, milliseconds, microseconds and nanoseconds that fits
at least once, with a fraction in that unit. -/
def text (d : Duration) : String :=
  let inUnit (width : Nat) (unit : String) : String :=
    -- as many places as the unit has nanoseconds in powers of ten
    String.ofList (Text.Decimal.digits (d.nanos / Nat.pow 10 width) ++
      fractionText width (d.nanos % Nat.pow 10 width)) ++ unit
  if d.nanos ≥ 1000000000 then inUnit 9 "s"
  else if d.nanos ≥ 1000000 then inUnit 6 "ms"
  else if d.nanos ≥ 1000 then inUnit 3 "µs"
  else inUnit 0 "ns"

end Duration

/-- A moment. -/
structure Time where
  /-- Nanoseconds since the epoch. -/
  nanos : Int
  deriving DecidableEq, Repr

namespace Time

def ofSeconds (n : Int) : Time := ⟨n * 1000000000⟩

def ofMillis (n : Int) : Time := ⟨n * 1000000⟩

def seconds (t : Time) : Int := t.nanos / 1000000000

def millis (t : Time) : Int := t.nanos / 1000000

def nanosOfSecond (t : Time) : Nat := (t.nanos % 1000000000).toNat

def add (t : Time) (d : Duration) : Time := ⟨t.nanos + d.nanos⟩

/-- The span from an earlier moment, empty if it is later. -/
def since (t earlier : Time) : Duration := ⟨(t.nanos - earlier.nanos).toNat⟩

/-- The first moment that the clock of deadlines does not reach. -/
def horizon : Time := ofSeconds (Int64.maxValue.toInt + 1)

/-- The moment a span later, if the clock of deadlines reaches it. -/
def after? (t : Time) (d : Duration) : Option Time :=
  if (t.add d).nanos < horizon.nanos then some (t.add d) else none

instance : LT Time := ⟨fun a b => a.nanos < b.nanos⟩

instance : LE Time := ⟨fun a b => a.nanos ≤ b.nanos⟩

instance (a b : Time) : Decidable (a < b) := inferInstanceAs (Decidable (a.nanos < b.nanos))

instance (a b : Time) : Decidable (a ≤ b) := inferInstanceAs (Decidable (a.nanos ≤ b.nanos))

end Time
end Bearer
