import HealthMonitor.Text.Numeral
import HealthMonitor.Toml.Value

/-!
# Sections of a settings file

A section is read field by field.  Usually it is a table, and its fields are
looked up by their names; names that nobody asks for do no harm.  It may also
be an array, whose items are its fields in order.
-/

namespace HealthMonitor

inductive Section where
  | named (entries : List (String × Toml))
  | listed (items : List Toml)

namespace Section

/-- The section in a value.  A date in its place has no field at all. -/
def ofToml? : Toml → Option Section
  | .table entries => some (named entries)
  | .array items => some (listed items)
  | .dateTime _ => some (named [])
  | _ => none

/-- The value of a field, by its place and its name. -/
def field? (fields : Section) (place : Nat) (name : String) : Option Toml :=
  match fields with
  | named entries => entries.lookup name
  | listed items => items[place]?

/-- A field that has to be there. -/
def required {α : Type} (fields : Section) (place : Nat) (name : String)
    (read : Toml → Option α) : Option α :=
  (fields.field? place name).bind read

/-- A field with a default. -/
def defaulted {α : Type} (fields : Section) (place : Nat) (name : String)
    (read : Toml → Option α) (default : α) : Option α :=
  match fields.field? place name with
  | some value => read value
  | none => some default

/-- A field that may be left out, though only of a table. -/
def optional {α : Type} (fields : Section) (place : Nat) (name : String)
    (read : Toml → Option α) : Option (Option α) :=
  match fields.field? place name, fields with
  | some value, _ => (read value).map some
  | none, named _ => some none
  | none, listed _ => none

end Section

namespace Toml

/-! ## Values of fields -/

def string? : Toml → Option String
  | string text => some text
  | _ => none

def boolean? : Toml → Option Bool
  | boolean value => some value
  | _ => none

/-- A whole number from zero to `bound`. -/
def bounded? (bound : Nat) : Toml → Option Nat
  | integer value => if 0 ≤ value ∧ value ≤ bound then some value.toNat else none
  | _ => none

def word16? : Toml → Option Nat :=
  bounded? Text.maxWord16

def word64? : Toml → Option Nat :=
  bounded? Text.maxWord64

def isEmpty : Toml → Bool
  | array items => items.isEmpty
  | table entries => entries.isEmpty
  | _ => false

/-- One of several choices, named by a text or by the one key of a table with
nothing under it. -/
def choice? {α : Type} (ofText? : String → Option α) : Toml → Option α
  | string text => ofText? text
  | table [(key, value)] => if value.isEmpty then ofText? key else none
  | _ => none

end Toml

end HealthMonitor
