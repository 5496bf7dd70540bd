import ProxyConsole.Fault
import ProxyConsole.Json
import ProxyConsole.Text.Blank

/-!
# Servers

A managed proxy server is named by a short code and reached at an address and a port. Its password
is carried along and never looked at.
-/

namespace ProxyConsole

/-- A code that names a server. It is kept as given and is not blank. -/
structure ServerId where
  text : String
  notBlank : Text.isBlank text = false
  deriving DecidableEq

namespace ServerId

def of (text : String) : Except Violation ServerId :=
  if h : Text.isBlank text = false then .ok ⟨text, h⟩ else .error .emptyServerId

def notAfter (a b : ServerId) : Bool :=
  a.text ≤ b.text

def sort (ids : List ServerId) : List ServerId :=
  ids.mergeSort notAfter

def toJson (id : ServerId) : Json :=
  .string id.text

def ofJson? (j : Json) : Option ServerId := do
  (of (← j.string?)).toOption

end ServerId

structure ServerRecord where
  id : ServerId
  address : String
  port : UInt16
  password : String
  deriving DecidableEq

namespace ServerRecord

def validate (r : ServerRecord) : Except Fault Unit :=
  if Text.isBlank r.address then .error (.validation .emptyAddress) else .ok ()

structure Draft where
  id : Option String := none
  address : Option String := none
  port : Option UInt16 := none
  password : Option String := none

/-- The record of a draft, if its id and then its address pass. What is missing is empty, or port
zero. -/
def Draft.build (d : Draft) : Except Fault ServerRecord := do
  let id ← (ServerId.of (d.id.getD "")).mapError .validation
  let record : ServerRecord :=
    ⟨id, d.address.getD "", d.port.getD 0, d.password.getD ""⟩
  record.validate
  return record

def toJson (r : ServerRecord) : Json :=
  .object [("id", r.id.toJson), ("address", .string r.address), ("port", .integer r.port.toNat),
    ("password", .string r.password)]

def ofValues? (id address port password : Json) : Option ServerRecord := do
  let id ← ServerId.ofJson? id
  let address ← address.string?
  let port ← port.unsigned? 16
  let password ← password.string?
  return ⟨id, address, UInt16.ofNat port, password⟩

/-- Reads an object with each of the four fields once, among others, or an array of exactly the
four. -/
def ofJson? : Json → Option ServerRecord
  | .array [id, address, port, password] => ofValues? id address port password
  | .object members => do
    let object := Json.object members
    ofValues? (← object.member? "id") (← object.member? "address") (← object.member? "port")
      (← object.member? "password")
  | _ => none

end ServerRecord

end ProxyConsole
