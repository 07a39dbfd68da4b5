/-!
# TOML values

What a TOML document holds.  Floating point numbers and dates are kept as they
are written.
-/

namespace HealthMonitor

inductive Toml where
  | string (text : String)
  | integer (value : Int)
  | float (text : String)
  | boolean (value : Bool)
  | dateTime (text : String)
  | array (items : List Toml)
  | table (entries : List (String × Toml))
  deriving Repr, Inhabited

end HealthMonitor
