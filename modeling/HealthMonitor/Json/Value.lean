import HealthMonitor.Decimal.Shortest
import HealthMonitor.Text.Numeral

/-!
# JSON values

Objects are lists of members.  A reader keeps them in increasing order of
their names, with the last value of a name that occurs twice; a writer writes
the members in the order it finds them.
-/

namespace HealthMonitor

/-- Whole numbers of 64 bits are kept exactly, all others as the nearest
floating point number. -/
inductive JsonNumber where
  | whole (value : Int)
  | real (value : Decimal.Binary64)
  deriving DecidableEq, Repr

inductive Json where
  | null
  | bool (value : Bool)
  | number (value : JsonNumber)
  | string (value : String)
  | array (items : List Json)
  | object (members : List (String × Json))
  deriving Repr, Inhabited

namespace Json

/-- Puts a member where its name belongs, in the place of one of that name. -/
def insertMember (name : String) (value : Json) :
    List (String × Json) → List (String × Json)
  | [] => [(name, value)]
  | (other, old) :: rest =>
      if name = other then (name, value) :: rest
      else if name < other then (name, value) :: (other, old) :: rest
      else (other, old) :: insertMember name value rest

/-- The number a text writes as an index: digits without a leading zero. -/
def index? (text : String) : Option Nat :=
  match text.toList with
  | ['0'] => some 0
  | '0' :: _ => none
  | digits => Text.digits? digits

/-- The part of a value that one step of a path names: a member of an object
or an item of an array. -/
def child? (value : Json) (name : String) : Option Json :=
  match value with
  | object members => members.lookup name
  | array items => (index? name).bind fun index => items[index]?
  | _ => none

/-- The part of a value at the end of a path. -/
def at? (value : Json) : List String → Option Json
  | [] => some value
  | name :: rest => (value.child? name).bind fun child => child.at? rest

end Json

end HealthMonitor
