import ProxyConsole.Toml.Value

/-!
# Reading records from TOML

A record is read from a table by the names of its fields, or from an array by their order. Fields
that are not asked for are passed over. A time counts as a table without known fields.
-/

namespace ProxyConsole.Toml.Value

def string? : Value → Option String
  | string text => some text
  | _ => none

def integer? (lowest highest : Int) : Value → Option Int
  | integer n => if lowest ≤ n ∧ n ≤ highest then some n else none
  | _ => none

def unsigned? (bits : Nat) (v : Value) : Option Nat :=
  (v.integer? 0 (Int.pow 2 bits - 1)).map Int.toNat

/-- The items of an array, however it was written. -/
def items? : Value → Option (List Value)
  | array items => some items
  | tables elements => some (elements.map (table .header))
  | _ => none

/-- The name of a choice without contents: a string, or a table whose one entry is empty. -/
def choice? : Value → Option String
  | string name => some name
  | table _ [(name, table _ [])] => some name
  | table _ [(name, array [])] => some name
  | _ => none

/-- The values of the fields with the given names, in the order of the names. An array has to hold
at least the given number of fields. -/
def fields? (names : List String) (least : Nat) (v : Value) : Option (List (Option Value)) :=
  match v with
  | table _ entries => some (names.map fun name => entries.lookup name)
  | time => some (names.map fun _ => none)
  | v => do
    let items ← v.items?
    if least ≤ items.length then some (names.zipIdx.map fun (_, i) => items[i]?) else none

def required {α : Type} (read : Value → Option α) (field : Option Value) : Option α :=
  field.bind read

def missingOr {α : Type} (read : Value → Option α) (field : Option Value) : Option (Option α) :=
  match field with
  | none => some none
  | some v => (read v).map some

def orElse {α : Type} (standard : α) (read : Value → Option α) (field : Option Value) : Option α :=
  match field with
  | none => some standard
  | some v => read v

end ProxyConsole.Toml.Value
