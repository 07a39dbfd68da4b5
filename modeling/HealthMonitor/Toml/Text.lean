import HealthMonitor.Toml.Chars

/-!
# Texts in TOML documents

A text is basic, with escapes behind a backslash, or literal; either kind may
go over several lines between three quotes.  A line break in a text is always
read as one line feed, and one right after three opening quotes is dropped.
-/

namespace HealthMonitor.Toml

/-- The character with the code that `count` digits in base sixteen write. -/
def codePoint? (count : Nat) (cs : List Char) : Option (Char × List Char) := do
  let digits ← (cs.take count).mapM Text.hexDigit?
  let code := digits.foldl (fun value digit => 16 * value + digit) 0
  if digits.length = count ∧ code.isValidChar then return (Char.ofNat code, cs.drop count)
  else none

/-- The character that a backslash and what follows it write. -/
def escape? : List Char → Option (Char × List Char)
  | 'b' :: rest => some ('\x08', rest)
  | 't' :: rest => some ('\t', rest)
  | 'n' :: rest => some ('\n', rest)
  | 'f' :: rest => some ('\x0c', rest)
  | 'r' :: rest => some ('\r', rest)
  | '"' :: rest => some ('"', rest)
  | '\\' :: rest => some ('\\', rest)
  | 'u' :: rest => codePoint? 4 rest
  | 'U' :: rest => codePoint? 8 rest
  | _ => none

/-- The rest of a basic text on one line, up to its closing quote; `done` holds
the characters so far, the last first. -/
def basicRest? : Nat → List Char → List Char → Option (String × List Char)
  | 0, _, _ => none
  | fuel + 1, done, cs =>
      match cs with
      | [] => none
      | '"' :: rest => some (String.ofList done.reverse, rest)
      | '\\' :: rest => do
          let (c, rest) ← escape? rest
          basicRest? fuel (c :: done) rest
      | c :: rest => if isPlain c then basicRest? fuel (c :: done) rest else none

/-- The rest of a literal text on one line, up to its closing quote. -/
def literalRest? (cs : List Char) : Option (String × List Char) :=
  let body := cs.takeWhile fun c => isPlain c && c != '\x27'
  match cs.drop body.length with
  | '\x27' :: rest => some (String.ofList body, rest)
  | _ => none

/-- The characters of a run of quotes in a text between three quotes, and
whether the run ends the text: the last three do, and up to two before them
belong to it. -/
def splitQuotes (count : Nat) : Nat × Bool :=
  if count < 3 then (count, false) else (min (count - 3) 2, true)

/-- What follows a backslash at the end of a line: all blanks and breaks up to
the next character. -/
def afterLineEnd? (cs : List Char) : Option (List Char) :=
  (afterBreak? (skipSpace cs)).map skipBreaks

/-- The rest of a text between three quotes, up to the closing ones. -/
def linesRest? (quote : Char) : Nat → List Char → List Char → Option (String × List Char)
  | 0, _, _ => none
  | fuel + 1, done, cs =>
      match cs with
      | [] => none
      | c :: rest =>
          if c = quote then
            let run := cs.takeWhile (· = quote)
            let (kept, closed) := splitQuotes run.length
            let done := List.replicate kept quote ++ done
            if closed then some (String.ofList done.reverse, cs.drop (kept + 3))
            else linesRest? quote fuel done (cs.drop kept)
          else if c = '\\' ∧ quote = '"' then
            match afterLineEnd? rest with
            | some rest => linesRest? quote fuel done rest
            | none =>
                match escape? rest with
                | some (c, rest) => linesRest? quote fuel (c :: done) rest
                | none => none
          else
            match afterBreak? cs with
            | some rest => linesRest? quote fuel ('\n' :: done) rest
            | none => if isPlain c then linesRest? quote fuel (c :: done) rest else none

/-- A text on one line. -/
def lineText? : List Char → Option (String × List Char)
  | '"' :: rest => basicRest? (rest.length + 1) [] rest
  | '\x27' :: rest => literalRest? rest
  | _ => none

/-- A text of any kind. -/
def text? (cs : List Char) : Option (String × List Char) :=
  let lines := fun quote rest =>
    linesRest? quote (rest.length + 1) [] ((afterBreak? rest).getD rest)
  match cs with
  | '"' :: '"' :: '"' :: rest => lines '"' rest
  | '\x27' :: '\x27' :: '\x27' :: rest => lines '\x27' rest
  | cs => lineText? cs

end HealthMonitor.Toml
