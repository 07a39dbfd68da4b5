import HealthMonitor.Text.Numeral
import HealthMonitor.Text.Split

/-!
# Uniform resource identifiers

A reader for absolute identifiers and for the two short forms without a
scheme, a path alone and an authority alone.  The scheme is a run of letters
before `://`; the authority ends at the first slash, question mark or number
sign; the rest is a path and perhaps a query, and a fragment is dropped.
-/

namespace HealthMonitor

inductive Scheme where
  | http
  | https
  | other (name : List Char)
  deriving DecidableEq, Repr

structure Uri where
  scheme : Option Scheme := none
  authority : List Char := []
  /-- The path as it is written; the empty path is shown as a slash. -/
  path : List Char := []
  query : Option (List Char) := none
  deriving DecidableEq, Repr

namespace Uri

/-! ## The scheme -/

def isSchemeChar (c : Char) : Bool :=
  c.isAlphanum || c ∈ ['+', '-', '.', '~']

/-- What follows a word that is written in either case. -/
def afterAnyCase? : List Char → List Char → Option (List Char)
  | [], cs => some cs
  | w :: word, c :: cs => if c.toLower = w then afterAnyCase? word cs else none
  | _ :: _, [] => none

/-- What follows the mark after a scheme. -/
def afterMark? : List Char → Option (List Char)
  | ':' :: '/' :: '/' :: rest => some rest
  | _ => none

/-- The scheme at the front of a text and what follows it; `none` for a scheme
of more than 64 characters. -/
def splitScheme? (cs : List Char) : Option (Option Scheme × List Char) :=
  match afterAnyCase? "http://".toList cs with
  | some rest => some (some .http, rest)
  | none =>
      match afterAnyCase? "https://".toList cs with
      | some rest => some (some .https, rest)
      | none =>
          let name := cs.takeWhile isSchemeChar
          match afterMark? (cs.dropWhile isSchemeChar) with
          | some rest =>
              if cs.length ≤ 3 then some (none, cs)
              else if 64 < name.length then none
              else some (some (.other name), rest)
          | none => some (none, cs)

/-! ## The authority -/

def endsAuthority (c : Char) : Bool :=
  c ∈ ['/', '?', '#']

def isAuthorityChar (c : Char) : Bool :=
  c.isAlphanum || c ∈ "!$&'()*+,-.:;=@[]_~%".toList

/-- What has been seen of an authority so far.  Colons and per cent signs are
forgotten at an at sign, which ends the user, and at a closing bracket. -/
structure AuthorityScan where
  colons : Nat := 0
  percent : Bool := false
  opened : Bool := false
  closed : Bool := false
  deriving DecidableEq, Repr

namespace AuthorityScan

/-- The scan past one more character, or `none` if it cannot stand there. -/
def next? (scan : AuthorityScan) (c : Char) : Option AuthorityScan :=
  match c with
  | ':' => if 8 ≤ scan.colons then none else some { scan with colons := scan.colons + 1 }
  | '[' => if scan.percent || scan.opened then none else some { scan with opened := true }
  | ']' =>
      if !scan.opened || scan.closed then none
      else some { scan with closed := true, colons := 0, percent := false }
  | '@' => some { scan with colons := 0, percent := false }
  | '%' => some { scan with percent := true }
  | _ => if isAuthorityChar c then some scan else none

/-- Whether an authority may end here: with its bracket closed, at most one
colon for a port, and no per cent sign in the host. -/
def mayEnd (scan : AuthorityScan) : Bool :=
  scan.opened == scan.closed && decide (scan.colons ≤ 1) && !scan.percent

end AuthorityScan

def scanAuthority? (cs : List Char) : Option AuthorityScan :=
  cs.foldlM AuthorityScan.next? {}

/-- Whether a text is an authority, which may be empty. -/
def isAuthority (cs : List Char) : Bool :=
  (scanAuthority? cs).any AuthorityScan.mayEnd && cs.getLast? != some '@'

/-! ## The path and the query -/

def isControl (c : Char) : Bool :=
  decide (c.toNat ≤ 32) || c.toNat == 127

def isPathChar (c : Char) : Bool :=
  !isControl c && c ∉ ['<', '>', '\x60']

def isQueryChar (c : Char) : Bool :=
  !isControl c && c ∉ ['"', '<', '>']

/-- The path and the query of what follows an authority. -/
def splitPath? (cs : List Char) : Option (List Char × Option (List Char)) :=
  let body := cs.takeWhile (· ≠ '#')
  let path := body.takeWhile (· ≠ '?')
  if path.all isPathChar then
    match body.dropWhile (· ≠ '?') with
    | _ :: query => if query.all isQueryChar then some (path, some query) else none
    | [] => some (path, none)
  else none

/-! ## Whole identifiers -/

/-- The most bytes that an identifier may have. -/
def maxBytes : Nat := 65534

/-- The identifier after its scheme: an authority, which cannot be empty, and
a path. -/
def afterScheme? (scheme : Scheme) (cs : List Char) : Option Uri := do
  let authority := cs.takeWhile (!endsAuthority ·)
  if authority.isEmpty || !isAuthority authority then none
  let (path, query) ← splitPath? (cs.dropWhile (!endsAuthority ·))
  return { scheme := some scheme, authority, path, query }

def ofChars? (cs : List Char) : Option Uri :=
  match cs with
  | [] => none
  | ['*'] => some { path := ['*'] }
  | '/' :: _ => (splitPath? cs).map fun (path, query) => { path, query }
  | _ => do
      let (scheme, rest) ← splitScheme? cs
      match scheme with
      | some scheme => afterScheme? scheme rest
      | none =>
          if cs.all (!endsAuthority ·) && isAuthority cs then some { authority := cs } else none

def ofText? (s : String) : Option Uri :=
  if s.utf8ByteSize ≤ maxBytes then ofChars? s.toList else none

def schemeChars : Option Scheme → List Char
  | some .http => "http://".toList
  | some .https => "https://".toList
  | some (.other name) => name ++ "://".toList
  | none => []

def queryChars : Option (List Char) → List Char
  | some query => '?' :: query
  | none => []

/-- The path as it is shown: an identifier with a scheme has at least a slash. -/
def shownPath (uri : Uri) : List Char :=
  if uri.path.isEmpty && uri.scheme.isSome then ['/'] else uri.path

def text (uri : Uri) : String :=
  String.ofList
    (schemeChars uri.scheme ++ uri.authority ++ uri.shownPath ++ queryChars uri.query)

/-! ## Host and port -/

/-- The host in an authority: after the user, and up to the port or through the
closing bracket. -/
def hostOf (authority : List Char) : List Char :=
  let place := Text.afterLast '@' authority
  if place.head? = some '[' then place.takeWhile (· ≠ ']') ++ [']']
  else place.takeWhile (· ≠ ':')

/-- The port in an authority: what stands after its last colon, if that is the
numeral of a port. -/
def portOf? (authority : List Char) : Option Nat :=
  (Text.splitAtLast? ':' authority).bind fun (_, port) => Text.unsigned? Text.maxWord16 port

/-- The port of plain requests. -/
def defaultPort : Nat := 80

/-- The host and port to connect to. -/
def target (uri : Uri) : String :=
  String.ofList (hostOf uri.authority) ++ ":" ++
    toString ((portOf? uri.authority).getD defaultPort)

end Uri

end HealthMonitor
