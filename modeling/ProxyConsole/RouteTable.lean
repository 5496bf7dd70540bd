import ProxyConsole.Text.Quoted
import ProxyConsole.Text.Split

/-!
# The route table

Which view of the console answers at which path, in the order of mounting, and where unknown paths
are sent. Views may be mounted at literal paths that the console does not keep for itself, and
unknown paths may be sent to the home page or to a mounted path.
-/

namespace ProxyConsole

inductive View where
  | manager
  | userList
  | admin
  | login
  | pricing
  deriving DecidableEq

namespace View

def title : View → String
  | manager => "Servers"
  | userList => "Users"
  | admin => "Administrators"
  | login => "Sign in"
  | pricing => "Pricing"

end View

structure ViewRoute where
  path : String
  view : View
  deriving DecidableEq

structure NavItem where
  path : String
  title : String
  active : Bool
  deriving DecidableEq

inductive RouteError where
  | missingLeadingSlash (path : String)
  | reserved (path : String)
  | invalidSegment (path : String)
  | unmountedFallback (path : String)
  deriving DecidableEq

namespace RouteError

open Quoted (quote)

def message : RouteError → String
  | missingLeadingSlash path => "route path must start with '/': " ++ quote path
  | reserved path => "route path is reserved: " ++ quote path
  | invalidSegment path =>
    "route path has an empty, wildcard or capture segment: " ++ quote path
  | unmountedFallback path => "fallback target is not mounted: " ++ quote path

end RouteError

/-- Views by path, in the order of mounting, and the target for unknown paths. -/
structure RouteTable where
  entries : List ViewRoute
  fallback : String
  deriving DecidableEq

namespace RouteTable

/-! ## Starting tables -/

def empty : RouteTable := ⟨[], "/"⟩

def console : RouteTable :=
  ⟨[⟨"/manager", .manager⟩, ⟨"/user", .userList⟩, ⟨"/admin", .admin⟩, ⟨"/login", .login⟩,
    ⟨"/pricing", .pricing⟩], "/"⟩

/-- A table that is not told otherwise has the standard layout. -/
instance : Inhabited RouteTable := ⟨console⟩

/-! ## Paths that can be mounted -/

/-- A segment that stands for itself: not empty, no wildcard or capture sign in front, and no
brace. -/
def isLiteral (segment : List Char) : Bool :=
  match segment with
  | [] => false
  | c :: _ => c ≠ '*' && c ≠ ':' && segment.all fun c => c ≠ '\x7b' && c ≠ '\x7d'

/-- The home page, the health check and all that is under the path of the programming interface. -/
def isReserved (path : String) : Bool :=
  path = "/" || path = "/health" || path = "/api" || "/api/".toList.isPrefixOf path.toList

/-- A path has to begin with a slash, have literal segments only, and not be reserved; what fails
first in this order is the error. The path of the home page has no segment. -/
def checkPath (path : String) : Except RouteError Unit :=
  match path.toList with
  | '/' :: rest =>
    if rest ≠ [] ∧ (Text.split '/' rest).all isLiteral = false then .error (.invalidSegment path)
    else if isReserved path then .error (.reserved path)
    else .ok ()
  | _ => .error (.missingLeadingSlash path)

/-! ## Edits -/

/-- Changes the view at a path in place, or adds the path at the end. -/
def put (path : String) (view : View) : List ViewRoute → List ViewRoute
  | [] => [⟨path, view⟩]
  | e :: es => if e.path = path then ⟨path, view⟩ :: es else e :: put path view es

/-- Mounts a view at a path in the place of what was there. -/
def mount (t : RouteTable) (path : String) (view : View) : Except RouteError RouteTable := do
  checkPath path
  return { t with entries := put path view t.entries }

def viewAt? (t : RouteTable) (path : String) : Option View :=
  (t.entries.find? (·.path = path)).map (·.view)

/-- Sends unknown paths to a target: the home page or a mounted path. -/
def redirectTo (t : RouteTable) (target : String) : Except RouteError RouteTable :=
  if target.toList.head? ≠ some '/' then .error (.missingLeadingSlash target)
  else if target ≠ "/" ∧ (t.viewAt? target).isNone then .error (.unmountedFallback target)
  else .ok { t with fallback := target }

inductive Edit where
  | mount (path : String) (view : View)
  | redirectTo (target : String)
  deriving DecidableEq

def edit (t : RouteTable) : Edit → Except RouteError RouteTable
  | .mount path view => t.mount path view
  | .redirectTo target => t.redirectTo target

/-- The table after an edit; one that is refused leaves it as it was. -/
def apply (t : RouteTable) (e : Edit) : RouteTable :=
  match t.edit e with
  | .ok t' => t'
  | .error _ => t

def applyAll (t : RouteTable) (es : List Edit) : RouteTable :=
  es.foldl apply t

/-! ## Questions -/

def pathOf? (t : RouteTable) (view : View) : Option String :=
  (t.entries.find? (·.view = view)).map (·.path)

/-- One item for each entry, in order. The items of the view being shown are active. -/
def nav (t : RouteTable) (shown : Option View) : List NavItem :=
  t.entries.map fun e => ⟨e.path, e.view.title, some e.view = shown⟩

end RouteTable

end ProxyConsole
