import HealthMonitor.Json.Value

/-!
# Reading JSON

A reader for whole JSON texts.  It refuses a text that goes on after its
value, control characters inside texts, surrogates that do not pair, numbers
past the largest floating point number, and 128 or more arrays and objects
inside each other.
-/

namespace HealthMonitor.Json

def isSpace (c : Char) : Bool :=
  c == ' ' || c == '\n' || c == '\t' || c == '\r'

def skipSpace (cs : List Char) : List Char :=
  cs.dropWhile isSpace

/-- The number that four digits in base sixteen write. -/
def fourHex? : List Char → Option (Nat × List Char)
  | a :: b :: c :: d :: rest => do
      let a ← Text.hexDigit? a
      let b ← Text.hexDigit? b
      let c ← Text.hexDigit? c
      let d ← Text.hexDigit? d
      return (((a * 16 + b) * 16 + c) * 16 + d, rest)
  | _ => none

/-- The character that `\u` and what follows it write: one unit, or two that
pair as surrogates. -/
def unicodeEscape? (cs : List Char) : Option (Char × List Char) := do
  let (unit, rest) ← fourHex? cs
  if 0xD800 ≤ unit ∧ unit ≤ 0xDBFF then
    match rest with
    | '\\' :: 'u' :: rest =>
        let (low, rest) ← fourHex? rest
        if 0xDC00 ≤ low ∧ low ≤ 0xDFFF then
          return (Char.ofNat (0x10000 + (unit - 0xD800) * 0x400 + (low - 0xDC00)), rest)
        else none
    | _ => none
  else if 0xDC00 ≤ unit ∧ unit ≤ 0xDFFF then none
  else return (Char.ofNat unit, rest)

/-- The character that a backslash and what follows it write. -/
def escape? : List Char → Option (Char × List Char)
  | '"' :: rest => some ('"', rest)
  | '\\' :: rest => some ('\\', rest)
  | '/' :: rest => some ('/', rest)
  | 'b' :: rest => some ('\x08', rest)
  | 'f' :: rest => some ('\x0c', rest)
  | 'n' :: rest => some ('\n', rest)
  | 'r' :: rest => some ('\r', rest)
  | 't' :: rest => some ('\t', rest)
  | 'u' :: rest => unicodeEscape? rest
  | _ => none

/-- The rest of a text after its opening quote, up to the closing one; `done`
holds the characters so far, the last first. -/
def stringRest? : Nat → List Char → List Char → Option (String × List Char)
  | 0, _, _ => none
  | fuel + 1, done, cs =>
      match cs with
      | [] => none
      | '"' :: rest => some (String.ofList done.reverse, rest)
      | '\\' :: rest => do
          let (c, rest) ← escape? rest
          stringRest? fuel (c :: done) rest
      | c :: rest => if c.toNat < 0x20 then none else stringRest? fuel (c :: done) rest

/-- The digits at the front of a text and what follows them. -/
def splitDigits (cs : List Char) : List Char × List Char :=
  cs.span fun c => (Text.digit? c).isSome

/-- The value of a number in parts: its sign, whole digits, fraction digits and
power of ten; `exact` if it has neither fraction nor power. -/
def numberOfParts? (negative exact : Bool) (whole fraction : List Char) (power : Int) :
    Option JsonNumber := do
  let digits ← Text.digits? (whole ++ fraction)
  let real := (Decimal.Binary64.ofDecimal? negative digits (power - fraction.length)).map .real
  if exact then
    if negative then
      if digits = 0 then real
      else if digits ≤ Text.maxInt64 + 1 then return .whole (-(digits : Int))
      else real
    else if digits ≤ Text.maxWord64 then return .whole digits
    else real
  else real

/-- The power of ten after a number, if one is written there. -/
def power? (cs : List Char) : Option (Option Int × List Char) :=
  match cs with
  | 'e' :: rest | 'E' :: rest => do
      let (negative, rest) := match rest with
        | '-' :: rest => (true, rest)
        | '+' :: rest => (false, rest)
        | rest => (false, rest)
      let (digits, rest) := splitDigits rest
      let size ← Text.digits? digits
      return (some (if negative then -(size : Int) else size), rest)
  | _ => some (none, cs)

def number? (cs : List Char) : Option (JsonNumber × List Char) := do
  let (negative, cs) := match cs with
    | '-' :: rest => (true, rest)
    | cs => (false, cs)
  let (whole, cs) := splitDigits cs
  if whole.isEmpty ∨ (whole.length > 1 ∧ whole.head? = some '0') then none
  let (fraction, cs) := match cs with
    | '.' :: rest => (some (splitDigits rest).1, (splitDigits rest).2)
    | cs => (none, cs)
  if fraction = some [] then none
  let (power, cs) ← power? cs
  let exact := fraction.isNone && power.isNone
  let value ← numberOfParts? negative exact whole (fraction.getD []) (power.getD 0)
  return (value, cs)

/-- What follows a fixed word. -/
def after? (word : List Char) (cs : List Char) : Option (List Char) :=
  if word.isPrefixOf cs then some (cs.drop word.length) else none

mutual

/-- A value at the front of a text.  `depth` counts the arrays and objects that
may still open. -/
def value? : Nat → Nat → List Char → Option (Json × List Char)
  | 0, _, _ => none
  | fuel + 1, depth, cs =>
      match skipSpace cs with
      | 'n' :: rest => (after? "ull".toList rest).map fun rest => (.null, rest)
      | 't' :: rest => (after? "rue".toList rest).map fun rest => (.bool true, rest)
      | 'f' :: rest => (after? "alse".toList rest).map fun rest => (.bool false, rest)
      | '"' :: rest =>
          (stringRest? (rest.length + 1) [] rest).map fun (s, rest) => (.string s, rest)
      | '[' :: rest =>
          if depth ≤ 1 then none
          else
            match skipSpace rest with
            | ']' :: rest => some (.array [], rest)
            | rest => items? fuel (depth - 1) [] rest
      | '\x7b' :: rest =>
          if depth ≤ 1 then none
          else
            match skipSpace rest with
            | '\x7d' :: rest => some (.object [], rest)
            | rest => members? fuel (depth - 1) [] rest
      | cs => (number? cs).map fun (n, rest) => (.number n, rest)

/-- The items of an array from the next one on. -/
def items? : Nat → Nat → List Json → List Char → Option (Json × List Char)
  | 0, _, _, _ => none
  | fuel + 1, depth, done, cs => do
      let (item, rest) ← value? fuel depth cs
      match skipSpace rest with
      | ',' :: rest => items? fuel depth (item :: done) rest
      | ']' :: rest => some (.array (item :: done).reverse, rest)
      | _ => none

/-- The members of an object from the next one on. -/
def members? : Nat → Nat → List (String × Json) → List Char → Option (Json × List Char)
  | 0, _, _, _ => none
  | fuel + 1, depth, done, cs =>
      match skipSpace cs with
      | '"' :: rest => do
          let (name, rest) ← stringRest? (rest.length + 1) [] rest
          match skipSpace rest with
          | ':' :: rest => do
              let (value, rest) ← value? fuel depth rest
              match skipSpace rest with
              | ',' :: rest => members? fuel depth (insertMember name value done) rest
              | '\x7d' :: rest => some (.object (insertMember name value done), rest)
              | _ => none
          | _ => none
      | _ => none

end

/-- The value of a whole JSON text. -/
def ofChars? (cs : List Char) : Option Json := do
  let (value, rest) ← value? (2 * cs.length + 1) 128 cs
  if (skipSpace rest).isEmpty then return value else none

def ofText? (s : String) : Option Json :=
  ofChars? s.toList

/-- The value of a JSON text in UTF-8. -/
def ofBytes? (bytes : ByteArray) : Option Json :=
  (String.fromUTF8? bytes).bind ofText?

end HealthMonitor.Json
