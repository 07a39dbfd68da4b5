import HealthMonitor.Json.Value

/-!
# Writing JSON

The compact text of a value: no blanks, names and texts between quotes, with
the quote, the backslash and the control characters behind a backslash and
everything else as it is.
-/

namespace HealthMonitor.Json

/-- What stands in a JSON text for one character. -/
def escapedChar (c : Char) : List Char :=
  if c = '"' then ['\\', '"']
  else if c = '\\' then ['\\', '\\']
  else if c = '\n' then ['\\', 'n']
  else if c = '\r' then ['\\', 'r']
  else if c = '\t' then ['\\', 't']
  else if c = '\x08' then ['\\', 'b']
  else if c = '\x0c' then ['\\', 'f']
  else if c.toNat < 0x20 then
    ['\\', 'u', '0', '0', Nat.digitChar (c.toNat / 16), Nat.digitChar (c.toNat % 16)]
  else [c]

def stringChars (s : String) : List Char :=
  '"' :: s.toList.flatMap escapedChar ++ ['"']

def numberChars : JsonNumber → List Char
  | .whole value => (toString value).toList
  | .real value => value.text.toList

mutual

/-- The compact text of a value, before `rest`. -/
def charsBefore (rest : List Char) : Json → List Char
  | .null => "null".toList ++ rest
  | .bool true => "true".toList ++ rest
  | .bool false => "false".toList ++ rest
  | .number value => numberChars value ++ rest
  | .string value => stringChars value ++ rest
  | .array [] => '[' :: ']' :: rest
  | .array (item :: items) => '[' :: item.charsBefore (itemsBefore rest items)
  | .object [] => '\x7b' :: '\x7d' :: rest
  | .object ((name, value) :: members) =>
      '\x7b' :: (stringChars name ++ ':' :: value.charsBefore (membersBefore rest members))

/-- The items of an array after the first, and its end. -/
def itemsBefore (rest : List Char) : List Json → List Char
  | [] => ']' :: rest
  | item :: items => ',' :: item.charsBefore (itemsBefore rest items)

/-- The members of an object after the first, and its end. -/
def membersBefore (rest : List Char) : List (String × Json) → List Char
  | [] => '\x7d' :: rest
  | (name, value) :: members =>
      ',' :: (stringChars name ++ ':' :: value.charsBefore (membersBefore rest members))

end

def chars (value : Json) : List Char :=
  value.charsBefore []

def text (value : Json) : String :=
  String.ofList value.chars

end HealthMonitor.Json
