/-!
# Spans and points of time

A span of time is a count of nanoseconds.  Clocks tick in whole milliseconds,
so a point of time is a count of milliseconds since the clock started, and a
span that is waited for is rounded up to the next tick.
-/

set_option autoImplicit false

namespace ChatSocket

structure Duration where
  nanoseconds : Nat
  deriving DecidableEq, Repr, Inhabited

/-- Milliseconds since the clock started. -/
abbrev Instant := Nat

namespace Duration

def nanosPerMilli : Nat := 1000000

def nanosPerSecond : Nat := 1000000000

/-- The largest count of milliseconds that travels in a packet or a message. -/
def maxMillis : Nat := 0xffffffffffffffff

def zero : Duration := ⟨0⟩

def ofMillis (millis : Nat) : Duration := ⟨millis * nanosPerMilli⟩

def ofParts (seconds nanos : Nat) : Duration := ⟨seconds * nanosPerSecond + nanos⟩

def isZero (span : Duration) : Bool := span.nanoseconds == 0

/-- Whole milliseconds of a span, at most `maxMillis`. -/
def millis (span : Duration) : Nat :=
  min (span.nanoseconds / nanosPerMilli) maxMillis

/-- The point of time at which a wait that starts at `start` is over: the first
clock tick not before the end of the span. -/
def after (span : Duration) (start : Instant) : Instant :=
  start + (span.nanoseconds + (nanosPerMilli - 1)) / nanosPerMilli

theorem millis_ofMillis (count : Nat) (small : count ≤ maxMillis) :
    (ofMillis count).millis = count := by
  simp only [millis, ofMillis]
  rw [Nat.mul_div_cancel _ (by decide : 0 < nanosPerMilli)]
  exact Nat.min_eq_left small

theorem le_after (span : Duration) (start : Instant) : start ≤ span.after start :=
  Nat.le_add_right _ _

theorem after_ofMillis (count : Nat) (start : Instant) :
    (ofMillis count).after start = start + count := by
  have rounded : (count * nanosPerMilli + (nanosPerMilli - 1)) / nanosPerMilli = count := by
    simp only [nanosPerMilli]
    omega
  simp only [after, ofMillis, rounded]

end Duration

end ChatSocket
