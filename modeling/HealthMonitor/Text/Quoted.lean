import HealthMonitor.Text.Numeral
import HealthMonitor.Text.Unprintable

/-!
# Quoted texts

How a text is shown inside a message: between double quotes, with the double
quote, the backslash, the line and tab characters and NUL behind a backslash,
and every other unprintable character by its code point.
-/

namespace HealthMonitor.Text

/-- What stands in a quoted text for one character. -/
def quotedChar (c : Char) : List Char :=
  if c = '"' then ['\\', '"']
  else if c = '\\' then ['\\', '\\']
  else if c = '\n' then ['\\', 'n']
  else if c = '\r' then ['\\', 'r']
  else if c = '\t' then ['\\', 't']
  else if c = '\x00' then ['\\', '0']
  else if isUnprintable c then ['\\', 'u', '\x7b'] ++ hexDigits c.toNat ++ ['\x7d']
  else [c]

def quoted (s : String) : String :=
  String.ofList ('"' :: s.toList.flatMap quotedChar ++ ['"'])

end HealthMonitor.Text
