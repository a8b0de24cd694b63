/-!
# Durations

A duration is a whole number of seconds and a part of a second in nanoseconds. Its text uses the
largest unit of s, ms, µs and ns that is not larger than the duration, with as many decimals as
are needed and none that is a trailing zero.
-/

namespace Shortlist

/-- A length of time; `nanos_lt` keeps the two parts unique. -/
structure Duration where
  secs : Nat
  nanos : Nat
  nanos_lt : nanos < 1000000000 := by omega
  deriving DecidableEq

namespace Duration

/-- Seconds and nanoseconds, the latter carried over into seconds. -/
def ofParts (secs nanos : Nat) : Duration where
  secs := secs + nanos / 1000000000
  nanos := nanos % 1000000000

/-- A number of milliseconds. -/
def ofMillis (ms : Nat) : Duration := ofParts (ms / 1000) (ms % 1000 * 1000000)

/-- The number of nanoseconds. -/
def toNanos (d : Duration) : Nat := d.secs * 1000000000 + d.nanos

theorem toNanos_ofMillis (ms : Nat) : (ofMillis ms).toNanos = ms * 1000000 := by
  simp only [ofMillis, ofParts, toNanos]; omega

/-- `whole` units and `part` in `places` decimals of a unit, trailing zeros dropped. -/
def inUnits (whole part places : Nat) (unit : String) : String :=
  let ds := Nat.toDigits 10 part
  let padded := List.replicate (places - ds.length) '0' ++ ds
  let kept := (padded.reverse.dropWhile (· == '0')).reverse
  let decimals := if kept.isEmpty then [] else '.' :: kept
  String.ofList (Nat.toDigits 10 whole ++ decimals) ++ unit

/-- The text of a duration: `1.5s`, `250ms`, `100µs`, `0ns`. -/
def text (d : Duration) : String :=
  if 0 < d.secs then inUnits d.secs d.nanos 9 "s"
  else if 1000000 ≤ d.nanos then inUnits (d.nanos / 1000000) (d.nanos % 1000000) 6 "ms"
  else if 1000 ≤ d.nanos then inUnits (d.nanos / 1000) (d.nanos % 1000) 3 "µs"
  else inUnits d.nanos 0 0 "ns"

end Duration

end Shortlist
