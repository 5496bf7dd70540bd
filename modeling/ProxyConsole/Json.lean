/-!
# JSON values

The values that records are written to and read from. A number written with a decimal point is kept
apart from an integer, because no field of a record takes one. What reads a member of an object asks
for the one member of that name, so an object that repeats the name is refused.
-/

namespace ProxyConsole

inductive Json where
  | null
  | boolean (value : Bool)
  | integer (value : Int)
  | fraction (mantissa : Int) (places : Nat)
  | string (text : String)
  | array (items : List Json)
  | object (members : List (String × Json))
  deriving Inhabited

namespace Json

def string? : Json → Option String
  | string text => some text
  | _ => none

def unsigned? (bits : Nat) : Json → Option Nat
  | integer n => if 0 ≤ n ∧ n < Int.pow 2 bits then some n.toNat else none
  | _ => none

/-- The value of the one member of a name. There is none if the name is missing or repeated. -/
def member? (name : String) : Json → Option Json
  | object members =>
    match members.filter (·.1 = name) with
    | [(_, value)] => some value
    | _ => none
  | _ => none

/-- The name of a choice without contents: a string, or an object whose one member is null. -/
def choice? : Json → Option String
  | string name => some name
  | object [(name, null)] => some name
  | _ => none

end Json

end ProxyConsole
