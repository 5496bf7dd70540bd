import ProxyConsole.Text.Decimal
import ProxyConsole.Text.Percent
import ProxyConsole.Text.Split
import ProxyConsole.Text.Utf8

/-!
# Form fields

A query as a list of named fields, and the fields that the console looks for in it. A field may be
given once; what is given is never passed over, and fields with other names are.
-/

namespace ProxyConsole

namespace Form

def plusToSpace (b : UInt8) : UInt8 :=
  if b = 0x2B then 0x20 else b

/-- Plus signs are spaces, percent escapes are bytes, and the bytes are UTF-8 where they can be. -/
def decode (cs : List Char) : String :=
  String.ofList (Utf8.decodeLossy (Percent.decode ((Utf8.encode cs).map plusToSpace)))

/-- The name before the first equals sign and the value after it; without one the value is
empty. -/
def field (cs : List Char) : String × String :=
  match Text.cut? '=' cs with
  | some (name, value) => (decode name, decode value)
  | none => (decode cs, "")

/-- The fields between ampersands, in order. Empty ones are left out. -/
def fields (query : Option String) : List (String × String) :=
  match query with
  | none => []
  | some q => ((Text.split '&' q.toList).filter (· ≠ [])).map field

def values (name : String) (fields : List (String × String)) : List String :=
  (fields.filter (·.1 = name)).map (·.2)

end Form

inductive QueryError where
  | duplicate (name : String)
  | misread (name : String) (cause : Decimal.Misread)
  deriving DecidableEq

namespace QueryError

def message : QueryError → String
  | duplicate name => "duplicate field `" ++ name ++ "`"
  | misread name cause => name ++ ": " ++ cause.message

end QueryError

namespace Form

/-- Column counts have 64 bits and a sign. -/
def countField : Decimal.Field := Decimal.Field.signed 64

/-- The column count asked for, if any. The first value is read before a second one is refused. -/
def columns (query : Option String) : Except QueryError (Option Int) :=
  match values "columns" (fields query) with
  | [] => .ok none
  | value :: more =>
    match countField.read value with
    | .error cause => .error (.misread "columns" cause)
    | .ok count => if more.isEmpty then .ok (some count) else .error (.duplicate "columns")

def role (query : Option String) : Except QueryError (Option String) :=
  match values "role" (fields query) with
  | [] => .ok none
  | [value] => .ok (some value)
  | _ => .error (.duplicate "role")

end Form

end ProxyConsole
