import HealthMonitor.Toml.Scalar
import HealthMonitor.Toml.Table
import HealthMonitor.Toml.Text

/-!
# Reading TOML

A document is read line by line into statements, each a header or a pair of a
key and a value, and the statements are then put together to one table.  Keys
have fewer than 80 parts, and fewer than 80 arrays and inline tables may stand
inside each other.
-/

namespace HealthMonitor.Toml

/-- From how many parts or levels on a document is refused. -/
def depthLimit : Nat := 80

/-! ## Keys -/

def isBareKeyChar (c : Char) : Bool :=
  c.isAlphanum || c == '-' || c == '_'

/-- One part of a key: a text, or a run of letters, digits, dashes and
underscores. -/
def keyPart? (cs : List Char) : Option (String × List Char) :=
  match cs with
  | '"' :: _ | '\x27' :: _ => lineText? cs
  | _ =>
      let bare := cs.takeWhile isBareKeyChar
      if bare.isEmpty then none else some (String.ofList bare, cs.drop bare.length)

/-- The parts of a key with dots between them, and blanks around each; `done`
holds the parts so far, the last first. -/
def keyParts? : Nat → List String → List Char → Option (List String × List Char)
  | 0, _, _ => none
  | fuel + 1, done, cs => do
      let (part, rest) ← keyPart? (skipSpace cs)
      match skipSpace rest with
      | '.' :: rest => keyParts? fuel (part :: done) rest
      | rest => some (part :: done, rest)

/-- A key: the steps before the last, the last, and what follows. -/
def key? (cs : List Char) : Option (List String × String × List Char) := do
  let (parts, rest) ← keyParts? depthLimit [] cs
  match parts with
  | last :: before =>
      if parts.length < depthLimit then return (before.reverse, last, rest) else none
  | [] => none

/-! ## Values -/

mutual

/-- A value at the front of a text.  `depth` counts the arrays and inline
tables that may still open. -/
def value? : Nat → Nat → List Char → Option (Toml × List Char)
  | 0, _, _ => none
  | fuel + 1, depth, cs =>
      match cs with
      | '"' :: _ | '\x27' :: _ => (text? cs).map fun (s, rest) => (.string s, rest)
      | 't' :: rest => (after? "rue".toList rest).map fun rest => (.boolean true, rest)
      | 'f' :: rest => (after? "alse".toList rest).map fun rest => (.boolean false, rest)
      | '[' :: rest => if depth ≤ 1 then none else items? fuel (depth - 1) [] rest
      | '\x7b' :: rest =>
          if depth ≤ 1 then none
          else
            match skipSpace rest with
            | '\x7d' :: rest => some (.table [], rest)
            | _ => pairs? fuel (depth - 1) [] rest
      | cs => scalar? cs

/-- The items of an array from the next one on, or its end. -/
def items? : Nat → Nat → List Toml → List Char → Option (Toml × List Char)
  | 0, _, _, _ => none
  | fuel + 1, depth, done, cs =>
      match skipLines false cs with
      | ']' :: rest => some (.array done.reverse, rest)
      | cs => do
          let (item, rest) ← value? fuel depth cs
          match skipLines false rest with
          | ',' :: rest => items? fuel depth (item :: done) rest
          | ']' :: rest => some (.array (item :: done).reverse, rest)
          | _ => none

/-- The pairs of an inline table from the next one on. -/
def pairs? : Nat → Nat → List Pair → List Char → Option (Toml × List Char)
  | 0, _, _, _ => none
  | fuel + 1, depth, done, cs => do
      let (path, key, rest) ← key? cs
      let rest ← after? ['='] rest
      let (value, rest) ← value? fuel depth (skipSpace rest)
      let done := ⟨path, key, value⟩ :: done
      match skipSpace rest with
      | ',' :: rest => pairs? fuel depth done rest
      | '\x7d' :: rest =>
          (addPairs? done.reverse []).map fun entries => (.table (finishEntries entries), rest)
      | _ => none

end

/-! ## Statements -/

inductive Statement where
  | table (path : List String) (key : String)
  | item (path : List String) (key : String)
  | pair (pair : Pair)

/-- A header, which has a line of its own. -/
def header? (cs : List Char) : Option (Statement × List Char) :=
  match cs with
  | '[' :: '[' :: rest => do
      let (path, key, rest) ← key? rest
      let rest ← after? [']', ']'] rest
      return (.item path key, ← afterLine? rest)
  | '[' :: rest => do
      let (path, key, rest) ← key? rest
      let rest ← after? [']'] rest
      return (.table path key, ← afterLine? rest)
  | _ => none

/-- A key and its value on a line of their own. -/
def pair? (cs : List Char) : Option (Statement × List Char) := do
  let (path, key, rest) ← key? cs
  let rest ← after? ['='] rest
  let body := skipSpace rest
  let (value, rest) ← value? (2 * body.length + 2) depthLimit body
  return (.pair ⟨path, key, value⟩, ← afterLine? rest)

/-- The statements of a document; `done` holds those so far, the last first. -/
def statements? : Nat → List Statement → List Char → Option (List Statement)
  | 0, _, _ => none
  | fuel + 1, done, cs =>
      match skipSpace cs with
      | [] => some done.reverse
      | '#' :: _ | '\n' :: _ | '\r' :: _ => (afterLine? cs).bind (statements? fuel done)
      | '[' :: rest => do
          let (statement, rest) ← header? ('[' :: rest)
          statements? fuel (statement :: done) rest
      | cs => do
          let (statement, rest) ← pair? cs
          statements? fuel (statement :: done) rest

/-! ## Documents -/

/-- The pairs before the next header, and the statements from there on. -/
def splitPairs : List Statement → List Pair × List Statement
  | .pair pair :: rest =>
      let (pairs, rest) := splitPairs rest
      (pair :: pairs, rest)
  | rest => ([], rest)

/-- Adds sections to a document, each a header with the pairs after it. -/
def addSections? : Nat → List Statement → Entries → Option Entries
  | 0, _, _ => none
  | fuel + 1, statements, entries =>
      match statements with
      | [] => some entries
      | .pair _ :: _ => none
      | .table path key :: rest => do
          let (pairs, rest) := splitPairs rest
          addSections? fuel rest (← entries.changeAt? key (headed? (addPairs? pairs)) path)
      | .item path key :: rest => do
          let (pairs, rest) := splitPairs rest
          addSections? fuel rest (← entries.changeAt? key (appended? (addPairs? pairs)) path)

/-- The document of a list of statements. -/
def ofStatements? (statements : List Statement) : Option Toml := do
  let (pairs, rest) := splitPairs statements
  let entries ← addPairs? pairs []
  let entries ← addSections? (rest.length + 1) rest entries
  return .table (finishEntries entries)

/-- The table of a whole document, which may start with a byte order mark. -/
def ofText? (s : String) : Option Toml := do
  let cs := match s.toList with
    | '\ufeff' :: rest => rest
    | cs => cs
  let statements ← statements? (cs.length + 1) [] cs
  ofStatements? statements

end HealthMonitor.Toml
