import ProxyConsole.Json
import ProxyConsole.Page

/-!
# Responses

What the console answers to a request: a status, header fields, and a body that is still a value and
not yet text. The field content-length is left out. It is set when a response is sent, from the body
as text, and for HEAD from the body that GET would have.
-/

namespace ProxyConsole

inductive Status where
  | ok
  | seeOther
  | badRequest
  | notFound
  | methodNotAllowed
  | internalError
  deriving DecidableEq

namespace Status

def code : Status → Nat
  | ok => 200
  | seeOther => 303
  | badRequest => 400
  | notFound => 404
  | methodNotAllowed => 405
  | internalError => 500

/-- A look-up that found nothing is not found; any other fault lies with the request. -/
def ofFault : Fault → Status
  | .validation _ => badRequest
  | .invalidArgument _ => badRequest
  | .notFound _ => notFound

end Status

inductive Body where
  | empty
  | plain (text : String)
  | json (value : Json)
  | page (page : Page)

structure Response where
  status : Status
  contentType : Option String := none
  location : Option String := none
  allow : Option String := none
  body : Body := .empty

namespace Response

def plain (status : Status) (text : String) : Response :=
  { status, contentType := some "text/plain; charset=utf-8", body := .plain text }

def json (status : Status) (value : Json) : Response :=
  { status, contentType := some "application/json", body := .json value }

def page (status : Status) (page : Page) : Response :=
  { status, contentType := some "text/html; charset=utf-8", body := .page page }

def jsonError (status : Status) (message : String) : Response :=
  json status (.object [("error", .string message)])

/-- Characters that a header field can hold: no control characters but the tab. -/
def isHeaderChar (c : Char) : Bool :=
  c = '\t' || (0x20 ≤ c.toNat && c.toNat ≠ 0x7F)

/-- Sends the client elsewhere, if the target fits into a header field. -/
def redirect (target : String) : Response :=
  if target.toList.all isHeaderChar then { status := .seeOther, location := some target }
  else plain .internalError "failed to parse header value"

def methodNotAllowed (allow : String) : Response :=
  { status := .methodNotAllowed, allow := some allow }

def withoutBody (r : Response) : Response :=
  { r with body := .empty }

end Response

end ProxyConsole
