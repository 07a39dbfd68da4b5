import HealthMonitor.Decimal.Binary64
import HealthMonitor.Toml.Chars
import HealthMonitor.Toml.Value

/-!
# Numbers and dates in TOML documents

Integers have 64 bits and may be written in four bases; a floating point
number must not be past the largest one; a date must be one of the calendar.
Single underscores may stand between digits.
-/

namespace HealthMonitor.Toml

/-- A run of digits with single underscores between them, without these, and
what follows it. -/
def digitRun (isDigit : Char → Bool) : List Char → List Char × List Char
  | [] => ([], [])
  | c :: rest =>
      if isDigit c then
        let (digits, rest) := digitRun isDigit rest
        (c :: digits, rest)
      else
        match c, rest with
        | '_', d :: _ => if isDigit d then digitRun isDigit rest else ([], c :: rest)
        | _, _ => ([], c :: rest)

/-- A run of digits that starts with one. -/
def digits? (isDigit : Char → Bool) (cs : List Char) : Option (List Char × List Char) :=
  match cs with
  | c :: _ => if isDigit c then some (digitRun isDigit cs) else none
  | [] => none

def isDecimal (c : Char) : Bool :=
  (Text.digit? c).isSome

/-- The value of digits in a base. -/
def valueIn (base : Nat) (digits : List Char) : Nat :=
  digits.foldl (fun value c => base * value + (Text.hexDigit? c).getD 0) 0

/-! ## Numbers -/

/-- The base of an integer that starts with a zero and a letter. -/
def base? : Char → Option Nat
  | 'x' => some 16
  | 'o' => some 8
  | 'b' => some 2
  | _ => none

def isDigitIn (base : Nat) (c : Char) : Bool :=
  (Text.hexDigit? c).any fun digit => decide (digit < base)

/-- A sign and what follows it; `true` for a minus. -/
def sign : List Char → Option Bool × List Char
  | '+' :: rest => (some false, rest)
  | '-' :: rest => (some true, rest)
  | cs => (none, cs)

/-- The whole digits of a number: one zero, or a run that starts with another
digit. -/
def wholeDigits? : List Char → Option (List Char × List Char)
  | '0' :: rest => some (['0'], rest)
  | cs => digits? isDecimal cs

/-- The digits after a point, if there is one. -/
def fraction? : List Char → Option (Option (List Char) × List Char)
  | '.' :: rest => (digits? isDecimal rest).map fun (digits, rest) => (some digits, rest)
  | cs => some (none, cs)

/-- The power of ten after an `e`, if there is one. -/
def power? (cs : List Char) : Option (Option Int × List Char) :=
  match cs with
  | 'e' :: rest | 'E' :: rest => do
      let (negative, rest) := sign rest
      let (digits, rest) ← digits? isDecimal rest
      let size : Int := valueIn 10 digits
      return (some (if negative = some true then -size else size), rest)
  | _ => some (none, cs)

/-- An integer with its sign, if it has 64 bits. -/
def integerOf? (negative : Bool) (size : Nat) : Option Toml :=
  if negative then
    if size ≤ Text.maxInt64 + 1 then some (.integer (-(size : Int))) else none
  else if size ≤ Text.maxInt64 then some (.integer size)
  else none

/-- The characters of a text that come before the rest of it. -/
def lexeme (cs rest : List Char) : String :=
  String.ofList (cs.take (cs.length - rest.length))

/-- A number in base ten.  Only a number above the largest one is refused; one
below the least is not. -/
def decimal? (cs : List Char) : Option (Toml × List Char) := do
  let (negative, body) := sign cs
  let negative := negative = some true
  let (whole, rest) ← wholeDigits? body
  let (fraction, rest) ← fraction? rest
  let (power, rest) ← power? rest
  if fraction.isNone ∧ power.isNone then
    let value ← integerOf? negative (valueIn 10 whole)
    return (value, rest)
  else
    let fraction := fraction.getD []
    let size := Decimal.Binary64.ofDecimal? false (valueIn 10 (whole ++ fraction))
      (power.getD 0 - fraction.length)
    if size.isSome ∨ negative then return (.float (lexeme cs rest), rest) else none

/-- A number in one of the other bases, without a sign. -/
def based? (base : Nat) (cs : List Char) : Option (Toml × List Char) := do
  let (digits, rest) ← digits? (isDigitIn base) cs
  let value ← integerOf? false (valueIn base digits)
  return (value, rest)

/-- The two special floating point numbers. -/
def special? (cs : List Char) : Option (Toml × List Char) :=
  let body := (sign cs).2
  let rest := (after? "inf".toList body).or (after? "nan".toList body)
  rest.map fun rest => (.float (lexeme cs rest), rest)

def number? (cs : List Char) : Option (Toml × List Char) :=
  match special? cs with
  | some found => some found
  | none =>
      match cs with
      | '0' :: letter :: rest =>
          match base? letter with
          | some base => based? base rest
          | none => decimal? cs
      | _ => decimal? cs

/-! ## Dates and times -/

/-- The value of exactly `count` digits, if it lies between two bounds. -/
def field? (count low high : Nat) (cs : List Char) : Option (Nat × List Char) := do
  let value ← Text.digits? (cs.take count)
  if (cs.take count).length = count ∧ low ≤ value ∧ value ≤ high then
    return (value, cs.drop count)
  else none

def isLeapYear (year : Nat) : Bool :=
  (year % 4 == 0 && year % 100 != 0) || year % 400 == 0

def daysInMonth (year month : Nat) : Nat :=
  if month = 2 then (if isLeapYear year then 29 else 28)
  else if month ∈ [4, 6, 9, 11] then 30
  else 31

/-- What follows a date of the calendar. -/
def afterDate? (cs : List Char) : Option (List Char) := do
  let (year, rest) ← field? 4 0 9999 cs
  let rest ← after? ['-'] rest
  let (month, rest) ← field? 2 1 12 rest
  let rest ← after? ['-'] rest
  let (_, rest) ← field? 2 1 (daysInMonth year month) rest
  return rest

/-- What follows the decimals of a second, if there are any. -/
def afterDecimals? : List Char → Option (List Char)
  | '.' :: rest =>
      if (rest.takeWhile isDecimal).isEmpty then none else some (rest.dropWhile isDecimal)
  | cs => some cs

/-- What follows a time of day. -/
def afterTime? (cs : List Char) : Option (List Char) := do
  let (_, rest) ← field? 2 0 23 cs
  let rest ← after? [':'] rest
  let (_, rest) ← field? 2 0 59 rest
  let rest ← after? [':'] rest
  let (_, rest) ← field? 2 0 60 rest
  afterDecimals? rest

/-- What follows an offset from universal time, if there is one. -/
def afterOffset? (cs : List Char) : Option (List Char) :=
  match cs with
  | 'Z' :: rest | 'z' :: rest => some rest
  | '+' :: rest | '-' :: rest => do
      let (_, rest) ← field? 2 0 23 rest
      let rest ← after? [':'] rest
      let (_, rest) ← field? 2 0 59 rest
      return rest
  | _ => some cs

/-- Whether a text starts with so many digits and a separator. -/
def startsWithField (count : Nat) (separator : Char) (cs : List Char) : Bool :=
  (cs.take count).all isDecimal && cs[count]? == some separator

/-- What follows a date, and a time on that day if one follows. -/
def afterDateTime? (cs : List Char) : Option (List Char) := do
  let rest ← afterDate? cs
  match rest with
  | delimiter :: time =>
      if delimiter ∈ ['T', 't', ' '] ∧ startsWithField 2 ':' time then
        (afterTime? time).bind afterOffset?
      else return rest
  | [] => return rest

/-- A number, a date, a time of day, or both. -/
def scalar? (cs : List Char) : Option (Toml × List Char) :=
  let dateTime := fun rest => (Toml.dateTime (lexeme cs rest), rest)
  if startsWithField 4 '-' cs then (afterDateTime? cs).map dateTime
  else if startsWithField 2 ':' cs then (afterTime? cs).map dateTime
  else number? cs

end HealthMonitor.Toml
