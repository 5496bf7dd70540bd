import ProxyConsole.Fault
import ProxyConsole.Instant.Printer
import ProxyConsole.Json
import ProxyConsole.Text.Blank
import ProxyConsole.Uuid

/-!
# Accounts

A console account belongs to a regular user or to an administrator. Its password appears in no
output.
-/

namespace ProxyConsole

inductive Role where
  | user
  | admin
  deriving DecidableEq

namespace Role

def name : Role → String
  | user => "user"
  | admin => "admin"

def ofName? : String → Option Role
  | "user" => some user
  | "admin" => some admin
  | _ => none

def of (name : String) : Except Violation Role :=
  match ofName? name with
  | some role => .ok role
  | none => .error (.unknownRole name)

def toJson (role : Role) : Json :=
  .string role.name

def ofJson? (j : Json) : Option Role := do
  ofName? (← j.choice?)

end Role

structure AccountId where
  uuid : Uuid
  deriving DecidableEq

namespace AccountId

def text (id : AccountId) : String :=
  id.uuid.text

def of (text : String) : Except Violation AccountId :=
  match Uuid.ofText? text with
  | some uuid => .ok ⟨uuid⟩
  | none => .error (.malformedId text)

def toJson (id : AccountId) : Json :=
  .string id.text

def ofJson? (j : Json) : Option AccountId := do
  (of (← j.string?)).toOption

end AccountId

structure Account where
  id : AccountId
  role : Role
  nickname : Option String
  phone : String
  email : String
  password : String
  createdAt : Instant
  deriving DecidableEq

namespace Account

/-- Text before the first at sign and text after it. -/
def isEmail (s : String) : Bool :=
  match s.toList.span (· ≠ '@') with
  | (_ :: _, _ :: _ :: _) => true
  | _ => false

def validate (a : Account) : Except Fault Unit :=
  if Text.isBlank a.phone then .error (.validation .emptyPhone)
  else if isEmail a.email then .ok ()
  else .error (.validation (.invalidEmail a.email))

/-- The name in lists: the alias if there is one, else the email. -/
def displayName (a : Account) : String :=
  a.nickname.getD a.email

structure Draft where
  id : Option AccountId := none
  role : Option Role := none
  nickname : Option String := none
  phone : Option String := none
  email : Option String := none
  password : Option String := none
  createdAt : Option Instant := none

/-- The account of a draft, if its phone and then its email pass. An id or a time that is missing
is the one supplied; an empty alias is none. -/
def Draft.build (d : Draft) (freshId : AccountId) (now : Instant) : Except Fault Account := do
  let account : Account :=
    { id := d.id.getD freshId
      role := d.role.getD .user
      nickname := d.nickname.filter (· ≠ "")
      phone := d.phone.getD ""
      email := d.email.getD ""
      password := d.password.getD ""
      createdAt := d.createdAt.getD now }
  account.validate
  return account

def toJson (a : Account) : Json :=
  .object [("id", a.id.toJson), ("role", a.role.toJson),
    ("alias", (a.nickname.map Json.string).getD .null), ("phone", .string a.phone),
    ("email", .string a.email), ("created_at", .string a.createdAt.text)]

end Account

end ProxyConsole
