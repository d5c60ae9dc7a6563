import Telemetry.Duration

/-!
# Durations in words

A duration is written in the largest of the units s, ms, µs and ns of which it holds at least one,
with the rest as a decimal fraction without trailing zeros.
-/
namespace Telemetry.Duration

/-- The digits of `n`, filled up to `width` with zeros on the left. -/
def padded (width n : Nat) : List Char :=
  let digits := Nat.toDigits 10 n
  List.replicate (width - digits.length) '0' ++ digits

def dropTrailingZeros (cs : List Char) : List Char :=
  (cs.reverse.dropWhile (· == '0')).reverse

/-- `whole` and `rest / 10 ^ places`, as a decimal number. -/
def decimal (whole rest places : Nat) : String :=
  let fraction := if rest = 0 then [] else dropTrailingZeros (padded places rest)
  String.ofList (Nat.toDigits 10 whole ++ if fraction.isEmpty then [] else '.' :: fraction)

def text (d : Duration) : String :=
  if nanosPerSecond ≤ d.nanos then decimal d.seconds d.subsecond 9 ++ "s"
  else if 1000000 ≤ d.nanos then decimal (d.nanos / 1000000) (d.nanos % 1000000) 6 ++ "ms"
  else if 1000 ≤ d.nanos then decimal (d.nanos / 1000) (d.nanos % 1000) 3 ++ "µs"
  else decimal d.nanos 0 0 ++ "ns"

end Telemetry.Duration
