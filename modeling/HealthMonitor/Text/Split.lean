/-!
# Splitting and joining texts

A text is taken apart at the places where a separator stands.  Joining the
parts gives the text back.
-/

namespace HealthMonitor.Text

/-- The parts of a text between its separators; there is always one. -/
def splitAt (separator : Char) : List Char → List (List Char)
  | [] => [[]]
  | c :: rest =>
      if c = separator then [] :: splitAt separator rest
      else (splitAt separator rest).modifyHead (c :: ·)

/-- What stands before and after the last separator, if there is one. -/
def splitAtLast? (separator : Char) (cs : List Char) : Option (List Char × List Char) :=
  match cs.reverse.dropWhile (· ≠ separator) with
  | _ :: before => some (before.reverse, (cs.reverse.takeWhile (· ≠ separator)).reverse)
  | [] => none

/-- What stands after the last separator, or the whole text without one. -/
def afterLast (separator : Char) (cs : List Char) : List Char :=
  (cs.reverse.takeWhile (· ≠ separator)).reverse

/-- A list of texts with a separator between them. -/
def joined (separator : Char) (parts : List (List Char)) : List Char :=
  [separator].intercalate parts

end HealthMonitor.Text
