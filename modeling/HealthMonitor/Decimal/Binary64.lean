/-!
# Binary floating point of 64 bits

A finite number is a sign and a magnitude `mantissa * 2 ^ exponent` with a
mantissa below 2^53 and an exponent of at least -1074.  The number nearest to
a decimal is found in exact arithmetic; a tie goes to the even mantissa.
-/

namespace HealthMonitor.Decimal

structure Binary64 where
  negative : Bool
  mantissa : Nat
  exponent : Int
  deriving DecidableEq, Repr, Inhabited

/-- `num / den` rounded to the nearest whole number, a tie to the even one. -/
def roundHalfEven (num den : Nat) : Nat :=
  let quotient := num / den
  let twice := 2 * (num % den)
  if twice < den then quotient
  else if den < twice then quotient + 1
  else if quotient % 2 = 0 then quotient
  else quotient + 1

/-- `num / den` in units of `2 ^ exponent`, rounded. -/
def mantissaAt (num den : Nat) (exponent : Int) : Nat :=
  if exponent < 0 then roundHalfEven (num * Nat.pow 2 (-exponent).toNat) den
  else roundHalfEven num (den * Nat.pow 2 exponent.toNat)

/-- Whether `2 ^ k ≤ num / den`. -/
def atLeastPower (num den : Nat) (k : Int) : Bool :=
  if k < 0 then decide (den ≤ num * Nat.pow 2 (-k).toNat)
  else decide (den * Nat.pow 2 k.toNat ≤ num)

/-- The exponent of the leading bit of a positive `num / den`. -/
def leadingBit (num den : Nat) : Int :=
  let guess : Int := (Nat.log2 num : Int) - (Nat.log2 den : Int)
  if atLeastPower num den guess then guess else guess - 1

namespace Binary64

def zero (negative : Bool) : Binary64 :=
  ⟨negative, 0, -1074⟩

/-- The number nearest to `num / den`; none if that is past the largest. -/
def ofRatio? (negative : Bool) (num den : Nat) : Option Binary64 :=
  if num = 0 then some (zero negative)
  else
    let exponent := max (leadingBit num den - 52) (-1074)
    let mantissa := mantissaAt num den exponent
    let (mantissa, exponent) :=
      if mantissa = Nat.pow 2 53 then (Nat.pow 2 52, exponent + 1) else (mantissa, exponent)
    if 971 < exponent then none else some ⟨negative, mantissa, exponent⟩

/-- The number nearest to `digits * 10 ^ scale`.  A magnitude past 10^310 or
below 10^-330 is decided without the power of ten. -/
def ofDecimal? (negative : Bool) (digits : Nat) (scale : Int) : Option Binary64 :=
  if digits = 0 then some (zero negative)
  else
    let size : Int := (Nat.toDigits 10 digits).length + scale
    if 310 < size then none
    else if size < -330 then some (zero negative)
    else if scale < 0 then ofRatio? negative digits (Nat.pow 10 (-scale).toNat)
    else ofRatio? negative (digits * Nat.pow 10 scale.toNat) 1

end Binary64

end HealthMonitor.Decimal
