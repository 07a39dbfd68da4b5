import HealthMonitor.Decimal.Binary64

/-!
# Shortest decimals

The fewest digits that read back as the same floating point number, and of
those the nearest.  A point of a decimal grid lies among the reals that round
to the number only if one of the number's two neighbours on that grid does, so
the grids of 1, 2, … 17 digits are tried in turn at these two points.
-/

namespace HealthMonitor.Decimal

/-- Digits and the exponent of the first: `d.ddd * 10 ^ exponent`. -/
structure Digits where
  digits : List Char
  exponent : Int
  deriving DecidableEq, Repr

namespace Binary64

/-- The magnitude as a ratio of whole numbers. -/
def ratio (x : Binary64) : Nat × Nat :=
  if x.exponent < 0 then (x.mantissa, Nat.pow 2 (-x.exponent).toNat)
  else (x.mantissa * Nat.pow 2 x.exponent.toNat, 1)

/-- Whether `digits * 10 ^ scale` reads back as the magnitude. -/
def readsBack (x : Binary64) (digits : Nat) (scale : Int) : Bool :=
  ofDecimal? false digits scale == some ⟨false, x.mantissa, x.exponent⟩

end Binary64

/-- `num / den` in units of `10 ^ scale`, rounded down, and the numerator and
denominator of that quotient. -/
def unitsAt (num den : Nat) (scale : Int) : Nat × Nat × Nat :=
  let (num, den) :=
    if scale < 0 then (num * Nat.pow 10 (-scale).toNat, den)
    else (num, den * Nat.pow 10 scale.toNat)
  (num / den, num, den)

/-- The decimal exponent of the leading digit of a positive `num / den`, looked
for downwards from `high`. -/
def leadingDigit (num den : Nat) : Nat → Int → Int
  | 0, high => high
  | fuel + 1, high =>
      if 0 < (unitsAt num den high).1 then high else leadingDigit num den fuel (high - 1)

/-- Tries the grids of `count`, `count + 1`, … digits. -/
def shortestFrom (x : Binary64) (num den : Nat) (lead : Int) : Nat → Nat → Option (Nat × Int)
  | 0, _ => none
  | fuel + 1, count =>
      let scale := lead + 1 - count
      let (below, top, bottom) := unitsAt num den scale
      let nearer := if 2 * (top % bottom) ≤ bottom then below else below + 1
      let farther := if nearer = below then below + 1 else below
      if x.readsBack nearer scale then some (nearer, scale)
      else if x.readsBack farther scale then some (farther, scale)
      else shortestFrom x num den lead fuel (count + 1)

/-- The shortest digits of a number other than zero. -/
def shortest (x : Binary64) : Digits :=
  let (num, den) := x.ratio
  let lead := leadingDigit num den 640 309
  let (units, scale) := (shortestFrom x num den lead 17 1).getD (x.mantissa, x.exponent)
  let digits := Nat.toDigits 10 units
  let exponent := scale + digits.length - 1
  { digits := (digits.reverse.dropWhile (· == '0')).reverse, exponent }

/-- A number in positional notation while the exponent of its first digit lies
between -5 and 15, always with a fraction, and else with an exponent. -/
def Binary64.text (x : Binary64) : String :=
  let sign := if x.negative then "-" else ""
  if x.mantissa = 0 then sign ++ "0.0"
  else
    let shown := shortest x
    let digits := shown.digits
    let exponent := shown.exponent
    let zeros := fun count : Nat => List.replicate count '0'
    if 0 ≤ exponent ∧ exponent ≤ 15 then
      let whole := exponent.toNat + 1
      let front := digits.take whole ++ zeros (whole - digits.length)
      let fraction := if digits.length ≤ whole then ['0'] else digits.drop whole
      sign ++ String.ofList (front ++ '.' :: fraction)
    else if -5 ≤ exponent ∧ exponent < 0 then
      sign ++ "0." ++ String.ofList (zeros (-exponent - 1).toNat ++ digits)
    else
      let fraction := match digits.drop 1 with
        | [] => []
        | rest => '.' :: rest
      let power := if exponent < 0 then "e-" else "e+"
      sign ++ String.ofList (digits.take 1 ++ fraction) ++ power ++ toString exponent.natAbs

end HealthMonitor.Decimal
