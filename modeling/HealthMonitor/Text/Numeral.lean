/-!
# Decimal numerals

A numeral is an optional sign and one or more ASCII digits.  An unsigned
numeral may carry a plus sign only.  Leading zeros are allowed; a value past
the bound of the reader is refused, never wrapped.
-/

namespace HealthMonitor.Text

/-- The value of a digit 0 to 9, if the character is one. -/
def digit? (c : Char) : Option Nat :=
  if '0' ≤ c ∧ c ≤ '9' then some (c.toNat - '0'.toNat) else none

/-- Reads on from `value` to the last digit; any other character refuses the text. -/
def digitsFrom? (value : Nat) : List Char → Option Nat
  | [] => some value
  | c :: rest =>
      match digit? c with
      | some d => digitsFrom? (10 * value + d) rest
      | none => none

/-- The value of one or more digits and nothing else. -/
def digits? : List Char → Option Nat
  | [] => none
  | cs => digitsFrom? 0 cs

/-- An optional plus sign and digits, with a value of at most `bound`. -/
def unsigned? (bound : Nat) (cs : List Char) : Option Nat :=
  let body := match cs with
    | '+' :: rest => rest
    | other => other
  (digits? body).filter (· ≤ bound)

/-- An optional sign and digits, with a value between `-bound - 1` and `bound`. -/
def signed? (bound : Nat) : List Char → Option Int
  | '-' :: rest => ((digits? rest).filter (· ≤ bound + 1)).map fun n => -(n : Int)
  | cs => (unsigned? bound cs).map Int.ofNat

def maxWord16 : Nat := UInt16.size - 1

def maxInt32 : Nat := UInt32.size / 2 - 1

def maxWord64 : Nat := UInt64.size - 1

def maxInt64 : Nat := UInt64.size / 2 - 1

/-- The digits of a number in base sixteen, in lower case. -/
def hexDigits (n : Nat) : List Char :=
  Nat.toDigits 16 n

/-- The value of a digit in base sixteen, of either case. -/
def hexDigit? (c : Char) : Option Nat :=
  if '0' ≤ c ∧ c ≤ '9' then some (c.toNat - '0'.toNat)
  else if 'a' ≤ c ∧ c ≤ 'f' then some (c.toNat - 'a'.toNat + 10)
  else if 'A' ≤ c ∧ c ≤ 'F' then some (c.toNat - 'A'.toNat + 10)
  else none

end HealthMonitor.Text
