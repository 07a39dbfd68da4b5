import HealthMonitor.Text.Numeral

/-!
# Characters and blanks of TOML documents

What may stand in comments and texts, and the blanks between other things:
spaces and tabs within a line, and lines and comments where a value may go on
over several lines.
-/

namespace HealthMonitor.Toml

def isSpace (c : Char) : Bool :=
  c == ' ' || c == '\t'

/-- Any character but a control character; the tab is allowed. -/
def isPlain (c : Char) : Bool :=
  c == '\t' || (decide (0x20 ≤ c.toNat) && c.toNat != 0x7F)

def skipSpace (cs : List Char) : List Char :=
  cs.dropWhile isSpace

/-- What follows a line break. -/
def afterBreak? : List Char → Option (List Char)
  | '\n' :: rest => some rest
  | '\r' :: '\n' :: rest => some rest
  | _ => none

/-- What follows a comment, if there is one. -/
def skipComment : List Char → List Char
  | '#' :: rest => rest.dropWhile isPlain
  | cs => cs

/-- What follows the end of a line, which may have blanks and a comment before
it and which the end of the document ends, too. -/
def afterLine? (cs : List Char) : Option (List Char) :=
  match skipComment (skipSpace cs) with
  | [] => some []
  | cs => afterBreak? cs

/-- What follows blanks and line breaks. -/
def skipBreaks : List Char → List Char
  | [] => []
  | '\r' :: '\n' :: rest => skipBreaks rest
  | c :: rest => if isSpace c || c == '\n' then skipBreaks rest else c :: rest

/-- What follows blanks, line breaks and comments; `comment` if the text is in
a comment already. -/
def skipLines (comment : Bool) : List Char → List Char
  | [] => []
  | '\r' :: '\n' :: rest => skipLines false rest
  | c :: rest =>
      if comment && isPlain c then skipLines true rest
      else if isSpace c || c == '\n' then skipLines false rest
      else if c == '#' then skipLines true rest
      else c :: rest

/-- What follows a word. -/
def after? : List Char → List Char → Option (List Char)
  | [], cs => some cs
  | w :: word, c :: cs => if w = c then after? word cs else none
  | _ :: _, [] => none

end HealthMonitor.Toml
