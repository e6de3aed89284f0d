import RobotsExclusion.Number.Powers
import RobotsExclusion.Text.Digits

/-!
# Durations

A duration is written in the largest unit that it fills, with as many decimals as
it needs.
-/

namespace RobotsExclusion

namespace CommandLine

/-- Counts of nanoseconds in units of a power of ten. -/
def inUnits (nanoseconds power : Nat) (unit : String) : String :=
  let whole := toString (nanoseconds / tenTo power)
  let decimals :=
    Text.withoutTrailingZeros (Text.padded power (nanoseconds % tenTo power))
  if decimals.isEmpty then
    whole ++ unit
  else
    whole ++ "." ++ String.ofList decimals ++ unit

def durationText (nanoseconds : Nat) : String :=
  if tenTo 9 ≤ nanoseconds then
    inUnits nanoseconds 9 "s"
  else if tenTo 6 ≤ nanoseconds then
    inUnits nanoseconds 6 "ms"
  else if tenTo 3 ≤ nanoseconds then
    inUnits nanoseconds 3 "µs"
  else
    inUnits nanoseconds 0 "ns"

end CommandLine

end RobotsExclusion
