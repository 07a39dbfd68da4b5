import HealthMonitor.Text.Blank
import HealthMonitor.Text.Numeral

/-!
# Durations

Every duration is a whole number of milliseconds, and so is every instant,
counted from the start of a monitor.  A setting writes a duration as a numeral
with a unit: `ms`, `s`, `m`, or nothing for seconds.  A limit may also be
written `none` or `-1`, for no limit at all.
-/

namespace HealthMonitor

/-- The unit a duration is written in. -/
inductive TimeUnit where
  | milliseconds
  | seconds
  | minutes
  deriving DecidableEq, Repr

/-- The duration of `n` units.  Minutes are counted in seconds, so a count
whose seconds do not fit into 64 bits has none. -/
def TimeUnit.amount? (unit : TimeUnit) (n : Nat) : Option Nat :=
  match unit with
  | milliseconds => some n
  | seconds => some (1000 * n)
  | minutes => if 60 * n ≤ Text.maxWord64 then some (60000 * n) else none

namespace Duration

/-- What comes before a last character `c`, if that is the last one. -/
def dropLast? (c : Char) (cs : List Char) : Option (List Char) :=
  if cs.getLast? = some c then some cs.dropLast else none

/-- The unit at the end of a text and what comes before it. -/
def splitUnit (cs : List Char) : TimeUnit × List Char :=
  match dropLast? 's' cs with
  | some rest =>
      match dropLast? 'm' rest with
      | some body => (.milliseconds, body)
      | none => (.seconds, rest)
  | none =>
      match dropLast? 'm' cs with
      | some body => (.minutes, body)
      | none => (.seconds, cs)

/-- The duration that a text without blanks around it writes. -/
def ofChars? (cs : List Char) : Option Nat :=
  let (unit, body) := splitUnit cs
  (Text.unsigned? Text.maxWord64 body).bind unit.amount?

def ofText? (s : String) : Option Nat :=
  ofChars? (Text.trimmed s.toList)

/-- A limit read from a text: `some none` is no limit. -/
def limitOfText? (s : String) : Option (Option Nat) :=
  let body := Text.trimmed s.toList
  if body = ['-', '1'] ∨ body = ['n', 'o', 'n', 'e'] then some none
  else (ofChars? body).map some

/-- The whole milliseconds of a number of microseconds. -/
def ofMicros (micros : Nat) : Nat :=
  micros / 1000

def wholeSeconds (d : Nat) : Nat :=
  d / 1000

/-- What a duration has past its whole seconds, in nanoseconds. -/
def subsecondNanos (d : Nat) : Nat :=
  d % 1000 * 1000000

/-- A number below one thousand in exactly three digits. -/
def threeDigits (n : Nat) : List Char :=
  [Nat.digitChar (n / 100 % 10), Nat.digitChar (n / 10 % 10), Nat.digitChar (n % 10)]

/-- The digits of a fraction without the zeros at its end. -/
def withoutFinalZeros (digits : List Char) : List Char :=
  (digits.reverse.dropWhile (· == '0')).reverse

/-- A duration as messages show it: in seconds with as many decimals as it
needs, in milliseconds below one second, and `0ns` for none at all. -/
def text (d : Nat) : String :=
  if d = 0 then "0ns"
  else if d < 1000 then toString d ++ "ms"
  else
    match withoutFinalZeros (threeDigits (d % 1000)) with
    | [] => toString (d / 1000) ++ "s"
    | decimals => toString (d / 1000) ++ "." ++ String.ofList decimals ++ "s"

end Duration

end HealthMonitor
