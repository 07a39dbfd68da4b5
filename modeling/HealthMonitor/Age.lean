import HealthMonitor.Duration

/-!
# Ages

How long ago something was, as people read it: seconds with three decimals.
An age is shown as a signed 64-bit count of milliseconds, so a count of 2^63
and more appears below zero.
-/

namespace HealthMonitor.Age

/-- A signed number of milliseconds as `S.FFF` seconds; zero has no decimals
and no unit. -/
def text (millis : Int) : String :=
  if millis = 0 then "0"
  else
    let sign := if millis < 0 then "-" else ""
    let size := millis.natAbs
    sign ++ toString (size / 1000) ++ "." ++
      String.ofList (Duration.threeDigits (size % 1000)) ++ "s"

/-- The signed 64-bit number with the same bits as an unsigned one. -/
def ofWord64 (n : Nat) : Int :=
  if 2 * n < UInt64.size then n else (n : Int) - UInt64.size

/-- The age of something `age` milliseconds old. -/
def textOfWord64 (age : Nat) : String :=
  text (ofWord64 age)

end HealthMonitor.Age
