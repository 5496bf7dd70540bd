import ProxyConsole.Browse
import ProxyConsole.Http.Endpoint
import ProxyConsole.Http.Form
import ProxyConsole.Http.Response
import ProxyConsole.Http.Uri

/-!
# The site

How the console answers a request. The path selects an endpoint and the method is checked against
it. An endpoint reads its arguments, consults the source, and shows the result or the fault: as JSON
under the programming interface, as a page elsewhere.
-/

namespace ProxyConsole

structure Site where
  routes : RouteTable
  standardColumns : Columns

structure Request where
  method : String
  uri : Uri

/-- A response and the calls that were made for it, in order. -/
structure Answer where
  calls : List Call
  response : Response

namespace Request

/-- A method is a token: one or more visible characters that are no delimiters. -/
def isMethod (s : String) : Bool :=
  s ≠ "" && s.toList.all fun c => Uri.isLetterOrDigit c || "!#$%&'*+-.^_`|~".toList.contains c

def ofTexts? (method target : String) : Option Request := do
  let uri ← Uri.ofText? target
  if isMethod method then some ⟨method, uri⟩ else none

end Request

namespace Answer

def direct (r : Response) : Answer := ⟨[], r⟩

/-- Consults the source and shows how it ended. -/
def consult {α : Type} (c : Consult α) (shown : α → Response) (failed : Fault → Response)
    (s : Source) : Answer :=
  let outcome := c s
  ⟨outcome.calls, match outcome.result with
    | .ok a => shown a
    | .error e => failed e⟩

end Answer

namespace Site

/-! ## The programming interface -/

def jsonFault (e : Fault) : Response :=
  .jsonError (.ofFault e) e.message

/-- The text of a path segment, if its bytes are UTF-8 once percent escapes are decoded. -/
def segmentText? (segment : String) : Option String :=
  (Utf8.decode? (Percent.decode (Utf8.encode segment.toList))).map String.ofList

def badSegment : Response :=
  .plain .badRequest "Invalid URL: Invalid UTF-8 in `id`"

def badQuery (e : QueryError) : Response :=
  .plain .badRequest ("Failed to deserialize query string: " ++ e.message)

def serversCall : Source → Answer :=
  Answer.consult Browse.servers
    (fun servers => .json .ok (.array (servers.map ServerRecord.toJson))) jsonFault

def gridCall (site : Site) (query : Option String) (s : Source) : Answer :=
  match Form.columns query with
  | .error e => .direct (badQuery e)
  | .ok columns =>
    Answer.consult (Browse.grid site.standardColumns columns) (fun g => .json .ok g.toJson)
      jsonFault s

def serverCall (segment : String) (s : Source) : Answer :=
  match segmentText? segment with
  | none => .direct badSegment
  | some text =>
    Answer.consult
      (do Browse.server (← Consult.ofExcept ((ServerId.of text).mapError .validation)))
      (fun r => .json .ok r.toJson) jsonFault s

def accountsCall (query : Option String) (s : Source) : Answer :=
  match Form.role query with
  | .error e => .direct (badQuery e)
  | .ok name =>
    Answer.consult
      (do Browse.accounts (← Consult.ofExcept ((name.mapM Role.of).mapError .validation)))
      (fun accounts => .json .ok (.array (accounts.map Account.toJson))) jsonFault s

def accountCall (segment : String) (s : Source) : Answer :=
  match segmentText? segment with
  | none => .direct badSegment
  | some text =>
    Answer.consult
      (do Browse.account (← Consult.ofExcept ((AccountId.of text).mapError .validation)))
      (fun a => .json .ok a.toJson) jsonFault s

def productsCall : Source → Answer :=
  Answer.consult Browse.availableProducts
    (fun products => .json .ok (.array (products.map Product.toJson))) jsonFault

/-! ## Pages -/

def page (site : Site) (shown : Option View) (title : String) (content : Content) : Page :=
  ⟨title, site.routes.nav shown, content⟩

/-- The page of a fault keeps the navigation of the page that was asked for. -/
def pageFault (site : Site) (shown : Option View) (e : Fault) : Response :=
  .page (.ofFault e)
    (site.page shown "Error" (.failure (Status.ofFault e).code e.message))

def consultPage (site : Site) (view : View) (c : Consult Content) : Source → Answer :=
  Answer.consult c (fun content => .page .ok (site.page (some view) view.title content))
    (site.pageFault (some view))

def overview (site : Site) : Consult Content := do
  let servers ← Browse.servers
  let users ← Browse.accounts (some .user)
  let admins ← Browse.accounts (some .admin)
  let products ← Browse.availableProducts
  return .overview ⟨site.routes.pathOf? .manager, servers.length, users.length, admins.length,
    products.length⟩

def homePage (site : Site) : Source → Answer :=
  Answer.consult site.overview (fun content => .page .ok (site.page none "Overview" content))
    (site.pageFault none)

def managerPage (site : Site) (query : Option String) (s : Source) : Answer :=
  match Form.columns query with
  | .error e => .direct (badQuery e)
  | .ok columns =>
    site.consultPage .manager
      (do
        let layout ← Browse.grid site.standardColumns columns
        return .cardGrid (.ofLayout layout site.standardColumns)) s

def accountRows (role : Role) : Consult Content := do
  let accounts ← Browse.accounts (some role)
  return .accounts (accounts.map AccountRow.ofAccount)

def plans : Consult Content := do
  let products ← Browse.availableProducts
  return .plans (products.map Plan.ofProduct)

def viewPage (site : Site) (query : Option String) (s : Source) : View → Answer
  | .manager => site.managerPage query s
  | .userList => site.consultPage .userList (accountRows .user) s
  | .admin => site.consultPage .admin (accountRows .admin) s
  | .login => site.consultPage .login (return .signIn) s
  | .pricing => site.consultPage .pricing plans s

/-! ## All requests -/

def answerAt (site : Site) (query : Option String) (s : Source) : Endpoint → Answer
  | .health => .direct (.plain .ok "OK")
  | .home => site.homePage s
  | .view v => site.viewPage query s v
  | .servers => serversCall s
  | .serverGrid => site.gridCall query s
  | .server segment => serverCall segment s
  | .queryServers => serversCall s
  | .accounts => accountsCall query s
  | .account segment => accountCall segment s
  | .products => productsCall s
  | .unknownCall => .direct (.jsonError .notFound "no such endpoint")
  | .elsewhere => .direct (.redirect site.routes.fallback)

/-- The answer to a request. One for the header only is answered like one that reads, without the
body. -/
def answer (site : Site) (s : Source) (r : Request) : Answer :=
  let endpoint := Endpoint.ofPath site.routes r.uri.path
  if endpoint.accepts.accepts r.method then
    let a := site.answerAt r.uri.query s endpoint
    if r.method = "HEAD" then { a with response := a.response.withoutBody } else a
  else .direct (.methodNotAllowed endpoint.accepts.names)

end Site

end ProxyConsole
