import ProxyConsole.Text.Decimal
import ProxyConsole.Text.Quoted

/-!
# Faults

Why the console refuses a record, an argument or a look-up. A fault names its kind and keeps the
cause; each cause has one wording. Text that came from outside is quoted in it, save for server ids.
-/

namespace ProxyConsole

open Quoted (quote)

inductive Violation where
  | emptyServerId
  | emptyAddress
  | duplicateServerId (id : String)
  | emptyName
  | emptyPhone
  | invalidEmail (email : String)
  | malformedId (text : String)
  | unknownRole (name : String)
  deriving DecidableEq

namespace Violation

def message : Violation → String
  | emptyServerId => "server id must not be empty"
  | emptyAddress => "server address must not be empty"
  | duplicateServerId id => "duplicate server id: " ++ id
  | emptyName => "name must not be empty"
  | emptyPhone => "phone must not be empty"
  | invalidEmail email => "invalid email address: " ++ quote email
  | malformedId text => "malformed identifier: " ++ quote text
  | unknownRole name => "unknown role: " ++ quote name

end Violation

structure BadColumns where
  count : Int
  deriving DecidableEq

namespace BadColumns

def message (cause : BadColumns) : String :=
  "columns per row must be a positive integer, got " ++ Decimal.ofInt cause.count

end BadColumns

structure Missing where
  entity : String
  id : String
  deriving DecidableEq

namespace Missing

def message (cause : Missing) : String :=
  cause.entity ++ " " ++ cause.id ++ " not found"

end Missing

inductive Fault where
  | validation (cause : Violation)
  | invalidArgument (cause : BadColumns)
  | notFound (cause : Missing)
  deriving DecidableEq

namespace Fault

def summary : Fault → String
  | validation _ => "validation error"
  | invalidArgument _ => "invalid argument"
  | notFound _ => "not found"

def message : Fault → String
  | validation cause => cause.message
  | invalidArgument cause => cause.message
  | notFound cause => cause.message

end Fault

end ProxyConsole
