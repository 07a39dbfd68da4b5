import HealthMonitor.Toml.Value

/-!
# Tables under construction

A document fills its tables piece by piece.  Each table remembers how it came
about, because that decides what may still be added: a table with a header of
its own is complete with that header, one that was only implied by the header
of an inner table may still get its own, and one made by a dotted key grows by
dotted keys alone.
-/

namespace HealthMonitor.Toml

/-- How a table came about. -/
inductive Origin where
  /-- By its own header, or as an item of an array of tables. -/
  | header
  /-- By the header of a table inside it. -/
  | implied
  /-- By a dotted key. -/
  | dotted
  deriving DecidableEq, Repr

/-- What a key stands for so far. -/
inductive Node where
  | value (value : Toml)
  | table (origin : Origin) (entries : List (String × Node))
  /-- An array of tables; the last item is open. -/
  | tables (items : List (List (String × Node)))
  deriving Repr, Inhabited

abbrev Entries := List (String × Node)

namespace Entries

/-- Puts a node under a key, in the place of the one there before. -/
def put (key : String) (node : Node) : Entries → Entries
  | [] => [(key, node)]
  | (other, old) :: rest =>
      if key = other then (key, node) :: rest else (other, old) :: put key node rest

/-- Changes the entries of the last table. -/
def changeLast? (change : Entries → Option Entries) : List Entries → Option (List Entries)
  | [] => none
  | [item] => (change item).map ([·])
  | item :: rest => (changeLast? change rest).map (item :: ·)

/-- Adds a value under a dotted key.  The tables on the way are made where they
are missing; one with a header of its own bars the way, and so does a value.
In the end the key must be new, in a table that dotted keys may still add to:
`open_` says so of the table at hand. -/
def addDotted? (open_ : Bool) (key : String) (value : Toml) :
    List String → Entries → Option Entries
  | [], entries =>
      if open_ ∧ (entries.lookup key).isNone then some (put key (.value value) entries) else none
  | step :: path, entries =>
      match entries.lookup step with
      | none =>
          (addDotted? true key value path []).map fun inner =>
            put step (.table .dotted inner) entries
      | some (.table .header _) | some (.value _) => none
      | some (.table origin inner) =>
          (addDotted? (origin == .dotted) key value path inner).map fun inner =>
            put step (.table origin inner) entries
      | some (.tables items) =>
          (changeLast? (addDotted? false key value path) items).map fun items =>
            put step (.tables items) entries

/-- Changes what is under a key in the table at the end of a path of headers.
Missing tables on the way are implied; the way through an array of tables goes
on in its last one. -/
def changeAt? (key : String) (change : Option Node → Option Node) :
    List String → Entries → Option Entries
  | [], entries => (change (entries.lookup key)).map fun node => put key node entries
  | step :: path, entries =>
      match entries.lookup step with
      | none =>
          (changeAt? key change path []).map fun inner =>
            put step (.table .implied inner) entries
      | some (.value _) => none
      | some (.table origin inner) =>
          (changeAt? key change path inner).map fun inner =>
            put step (.table origin inner) entries
      | some (.tables items) =>
          (changeLast? (changeAt? key change path) items).map fun items =>
            put step (.tables items) entries

end Entries

/-- A value under a dotted key: the steps before the last, the last, the value. -/
structure Pair where
  path : List String
  key : String
  value : Toml

/-- Adds pairs one after the other to a table that is open to them. -/
def addPairs? (pairs : List Pair) (entries : Entries) : Option Entries :=
  pairs.foldlM (fun entries pair => entries.addDotted? true pair.key pair.value pair.path) entries

/-- A table with its own header: it is new, or has been implied before. -/
def headed? (fill : Entries → Option Entries) : Option Node → Option Node
  | none => (fill []).map (.table .header)
  | some (.table .implied entries) => (fill entries).map (.table .header)
  | some _ => none

/-- One more item of an array of tables. -/
def appended? (fill : Entries → Option Entries) : Option Node → Option Node
  | none => (fill []).map fun item => .tables [item]
  | some (.tables items) => (fill []).map fun item => .tables (items ++ [item])
  | some _ => none

mutual

/-- The finished value of a node. -/
def Node.toToml : Node → Toml
  | .value value => value
  | .table _ entries => .table (finishEntries entries)
  | .tables items => .array (finishItems items)

def finishEntries : List (String × Node) → List (String × Toml)
  | [] => []
  | (key, node) :: rest => (key, node.toToml) :: finishEntries rest

def finishItems : List (List (String × Node)) → List Toml
  | [] => []
  | item :: rest => .table (finishEntries item) :: finishItems rest

end

end HealthMonitor.Toml
