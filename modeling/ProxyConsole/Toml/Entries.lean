import ProxyConsole.Toml.Value

/-!
# Building TOML tables

Where a key with a value, or a header, puts its table. A header may open a table that a longer
header implied, and nothing else twice. A dotted key may go on in a table that dotted keys began, and
may pass through one that a header implied. A path that meets an array of tables goes on in its last
table.
-/

namespace ProxyConsole.Toml

abbrev Entries := List (String × Value)

namespace Entries

/-- Replaces the value of a key, or adds the key at the end. -/
def alter (key : String) (change : Option Value → Option Value) : Entries → Option Entries
  | [] => (change none).map fun v => [(key, v)]
  | (k, v) :: es =>
    if k = key then (change (some v)).map fun v' => (k, v') :: es
    else (alter key change es).map ((k, v) :: ·)

def alterLast (change : Entries → Option Entries) : List Entries → Option (List Entries)
  | [] => none
  | [es] => (change es).map fun es' => [es']
  | es :: rest => (alterLast change rest).map (es :: ·)

def addNew (key : String) (v : Value) : Entries → Option Entries :=
  alter key fun
    | none => some v
    | some _ => none

/-- Adds a value at a dotted key. The table that receives it is the one the path began in, or one
that dotted keys began. -/
def insert : List String → Value → Entries → Option Entries
  | [], _, _ => none
  | [key], v, es => addNew key v es
  | key :: path, v, es =>
    alter key (fun
      | none => (insert path v []).map (.table .dotted)
      | some (.table .dotted inner) => (insert path v inner).map (.table .dotted)
      | some (.table .implied inner) =>
        if path.length = 1 then none else (insert path v inner).map (.table .implied)
      | some (.tables elements) =>
        if path.length = 1 then none else (alterLast (insert path v) elements).map .tables
      | some _ => none) es

/-- Changes the table at the end of a path of headers; tables on the way are implied. -/
def atPath (change : Entries → Option Entries) : List String → Entries → Option Entries
  | [], es => change es
  | key :: path, es =>
    alter key (fun
      | none => (atPath change path []).map (.table .implied)
      | some (.table .inline _) => none
      | some (.table origin inner) => (atPath change path inner).map (.table origin)
      | some (.tables elements) => (alterLast (atPath change path) elements).map .tables
      | some _ => none) es

def openTable : Option Value → Option Value
  | none => some (.table .header [])
  | some (.table .implied inner) => some (.table .header inner)
  | some _ => none

def addElement : Option Value → Option Value
  | none => some (.tables [[]])
  | some (.tables elements) => some (.tables (elements ++ [[]]))
  | some _ => none

def atHeader (change : Option Value → Option Value) (path : List String) (es : Entries) :
    Option Entries :=
  match path.getLast? with
  | some key => atPath (alter key change) path.dropLast es
  | none => none

end Entries

end ProxyConsole.Toml
