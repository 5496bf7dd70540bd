import ProxyConsole.RouteTable

/-!
# Endpoints

What a path of the console leads to. Paths are compared as they were sent, with nothing decoded and
no letter case folded. The home page, the health check and the programming interface come with the
console; all other pages come from the route table.
-/

namespace ProxyConsole

inductive Endpoint where
  | health
  | home
  | view (view : View)
  | servers
  | serverGrid
  | server (segment : String)
  | queryServers
  | accounts
  | account (segment : String)
  | products
  | unknownCall
  | elsewhere
  deriving DecidableEq

/-- Which requests an endpoint answers: those that read, those that post, or all. -/
inductive Accepts where
  | reading
  | posting
  | all
  deriving DecidableEq

namespace Accepts

def accepts : Accepts → String → Bool
  | reading, method => method = "GET" || method = "HEAD"
  | posting, method => method = "POST"
  | all, _ => true

def names : Accepts → String
  | reading => "GET,HEAD"
  | posting => "POST"
  | all => ""

end Accepts

namespace Endpoint

/-- What the segments of a path under the programming interface lead to. A segment that names a
record is not empty. -/
def ofCallSegments : List String → Endpoint
  | [""] => elsewhere
  | ["servers"] => servers
  | ["servers", "grid"] => serverGrid
  | ["servers", segment] => if segment = "" then unknownCall else server segment
  | ["user", "users"] => queryServers
  | ["accounts"] => accounts
  | ["accounts", segment] => if segment = "" then unknownCall else account segment
  | ["products"] => products
  | _ => unknownCall

def ofSegments : List String → Endpoint
  | "" :: "api" :: rest => ofCallSegments rest
  | _ => elsewhere

def segments (path : String) : List String :=
  (Text.split '/' path.toList).map String.ofList

def ofPath (t : RouteTable) (path : String) : Endpoint :=
  if path = "/health" then health
  else if path = "/" then home
  else match t.viewAt? path with
    | some v => view v
    | none => ofSegments (segments path)

def accepts : Endpoint → Accepts
  | queryServers => .posting
  | unknownCall | elsewhere => .all
  | _ => .reading

end Endpoint

end ProxyConsole
