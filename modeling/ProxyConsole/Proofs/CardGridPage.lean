import ProxyConsole.Proofs.Consult
import ProxyConsole.Proofs.Dispatch
import ProxyConsole.Proofs.GridPartition
import ProxyConsole.Proofs.PageReading

/-!
# The card grid on its page and as JSON

The page of the manager and the grid call read the same query and ask the same source. What a reader
finds on the page is what stands in the value of the call: the same cards in the same rows, the same
numbers, and the same message if there is none of this to show.
-/

namespace ProxyConsole

open Markup

/-! ## The grid as JSON -/

namespace Json

def integer? : Json → Option Int
  | integer n => some n
  | _ => none

def items? : Json → Option (List Json)
  | array items => some items
  | _ => none

def shownCard? (flex : Int) (server : Json) : Option ShownCard := do
  let id ← (← server.member? "id").string?
  let address ← (← server.member? "address").string?
  let port ← (← server.member? "port").integer?
  return ⟨some ("flex: 0 0 " ++ Decimal.ofInt flex ++ "%;").toList, [id.toList],
    [(address ++ ":" ++ Decimal.ofInt port).toList]⟩

/-- The rows of cards that show a grid. -/
def shownRows? (grid : Json) : Option (List (List ShownCard)) := do
  let flex ← (← grid.member? "card_flex_percent").integer?
  let rows ← (← grid.member? "rows").items?
  rows.mapM fun row => do (← row.items?).mapM (shownCard? flex)

def summary? (servers : Nat) (standard : Columns) (grid : Json) : Option String := do
  let columns ← (← grid.member? "columns_per_row").integer?
  return Decimal.ofNat servers ++ " servers, " ++ Decimal.ofInt columns ++ " per row (default " ++
    Decimal.ofNat standard.count ++ ")"

theorem mapM_map_eq_some {α β : Type} {f : α → Json} {g : Json → Option β} {h : α → β}
    (hg : ∀ a, g (f a) = some (h a)) (l : List α) : (l.map f).mapM g = some (l.map h) := by
  induction l with
  | nil => rfl
  | cons a l ih => rw [List.map_cons, List.mapM_cons, hg, ih]; rfl

theorem shownCard?_server (flex : Nat) (r : ServerRecord) :
    shownCard? flex r.toJson = some (Card.shown flex (Card.ofServer r)) :=
  rfl

theorem shownRows?_layout (g : GridLayout) :
    g.toJson.shownRows? = some (g.rows.map (·.map fun r => Card.shown g.cardFlexPercent (Card.ofServer r))) := by
  have hrow : ∀ row : List ServerRecord,
      (do (← (Json.array (row.map ServerRecord.toJson)).items?).mapM (shownCard? g.cardFlexPercent)) =
        some (row.map fun r => Card.shown g.cardFlexPercent (Card.ofServer r)) :=
    fun row => mapM_map_eq_some (shownCard?_server _) row
  exact mapM_map_eq_some hrow g.rows

theorem summary?_layout (g : GridLayout) (servers : Nat) (standard : Columns) :
    g.toJson.summary? servers standard = some (Decimal.ofNat servers ++ " servers, " ++
      Decimal.ofNat g.columnsPerRow ++ " per row (default " ++ Decimal.ofNat standard.count ++ ")") :=
  rfl

end Json

/-! ## The layout -/

theorem GridLayout.recordCount_of {servers : List ServerRecord} {columns : Int} {g : GridLayout}
    (h : GridLayout.of servers columns = .ok g) : g.recordCount = servers.length := by
  unfold GridLayout.of at h
  cases hc : Columns.of columns with
  | error cause =>
    rw [hc] at h
    cases h
  | ok c =>
    rw [hc] at h
    cases h
    rw [GridLayout.recordCount, GridLayout.ofColumns, Grid.flatten_chunks]

theorem Columns.of_count (c : Columns) : Columns.of c.count = .ok c := by
  have hpos : (0 : Int) < c.count := by exact_mod_cast c.positive
  rw [Columns.of, dif_pos hpos]
  rfl

theorem Browse.layOut_result (c : Columns) (s : Source) :
    (layOut c s).result = s.listServers.map fun servers => GridLayout.ofColumns servers c := by
  rw [layOut_eq]

/-- The columns asked for, or else the standard ones, are checked before the servers are listed. -/
theorem Browse.grid_result (standard : Columns) (columns : Option Int) (s : Source) :
    (grid standard columns s).result =
      (do
        let c ← (Columns.of (columns.getD standard.count)).mapError .invalidArgument
        s.listServers.map fun servers => GridLayout.ofColumns servers c) := by
  cases columns with
  | none =>
    rw [grid_none, Option.getD_none, standard.of_count]
    exact layOut_result standard s
  | some count =>
    rw [grid_some, Option.getD_some]
    cases Columns.of count with
    | error cause => rfl
    | ok c => exact layOut_result c s

theorem Browse.layout_of_grid {standard : Columns} {columns : Option Int} {s : Source} {g : GridLayout}
    (h : (grid standard columns s).result = .ok g) :
    ∃ servers, s.listServers = .ok servers ∧
      GridLayout.of servers (columns.getD standard.count) = .ok g := by
  rw [grid_result] at h
  unfold GridLayout.of
  cases hc : Columns.of (columns.getD standard.count) with
  | error cause =>
    rw [hc] at h
    cases h
  | ok c =>
    rw [hc] at h
    cases hs : s.listServers with
    | error f =>
      rw [hs] at h
      cases h
    | ok servers =>
      rw [hs] at h
      exact ⟨servers, rfl, h⟩

theorem Browse.fault_of_grid {standard : Columns} {columns : Option Int} {s : Source} {f : Fault}
    (h : (grid standard columns s).result = .error f) :
    (∃ cause, Columns.of (columns.getD standard.count) = .error cause ∧ f = .invalidArgument cause) ∨
      s.listServers = .error f := by
  rw [grid_result] at h
  cases hc : Columns.of (columns.getD standard.count) with
  | error cause =>
    rw [hc] at h
    cases h
    exact .inl ⟨cause, rfl, rfl⟩
  | ok c =>
    rw [hc] at h
    cases hs : s.listServers with
    | error f' =>
      rw [hs] at h
      cases h
      exact .inr rfl
    | ok servers =>
      rw [hs] at h
      cases h

/-! ## The two answers -/

namespace Site

open Endpoint

/-- What the answer with the page and the answer with the value have in common. -/
structure ShowsSameGrid (site : Site) (s : Source) (query : Option String) (page call : Answer) : Prop where
  calls : page.calls = call.calls
  status : page.response.status = call.response.status
  shown : call.response.status = .ok → ∃ requested servers layout p,
    Form.columns query = .ok requested ∧ s.listServers = .ok servers ∧
    GridLayout.of servers (requested.getD site.standardColumns.count) = .ok layout ∧
    call.response.body = .json layout.toJson ∧ page.response.body = .page p ∧
    layout.toJson.shownRows? = some (found p.html).rows ∧ (found p.html).cards = [] ∧
    ∃ summary, layout.toJson.summary? servers.length site.standardColumns = some summary ∧
      (found p.html).summaries = [summary.toList]
  failed : call.response.status ≠ .ok →
    (∃ e, Form.columns query = .error e ∧ page = .direct (badQuery e) ∧ call = .direct (badQuery e)) ∨
    ∃ requested f p, Form.columns query = .ok requested ∧
      ((∃ cause, Columns.of (requested.getD site.standardColumns.count) = .error cause ∧
        f = .invalidArgument cause) ∨ s.listServers = .error f) ∧
      call.response.body = .json (.object [("error", .string f.message)]) ∧
      page.response.body = .page p ∧ (found p.html).messages = [f.message.toList]

section
variable {site : Site} {s : Source} {query : Option String} {requested : Option Int}

theorem showsSameGrid_of_shown (hq : Form.columns query = .ok requested) {layout : GridLayout}
    (h : (Browse.grid site.standardColumns requested s).result = .ok layout) :
    site.ShowsSameGrid s query (site.managerPage query s) (site.gridCall query s) := by
  obtain ⟨servers, hservers, hlayout⟩ := Browse.layout_of_grid h
  have hpage : site.managerPage query s = ⟨(Browse.grid site.standardColumns requested s).calls,
      .page .ok (site.page (some .manager) View.manager.title
        (.cardGrid (.ofLayout layout site.standardColumns)))⟩ := by
    simp only [managerPage, hq, consultPage, Answer.consult]
    rw [Consult.bind_of_ok h]
    exact congrArg (Answer.mk · _) (List.append_nil _)
  have hcall : site.gridCall query s = ⟨(Browse.grid site.standardColumns requested s).calls,
      .json .ok layout.toJson⟩ := by
    simp only [gridCall, hq, Answer.consult, h]
  rw [hpage, hcall]
  have hfound := Page.found_cardGrid (p := site.page (some .manager) View.manager.title
    (.cardGrid (.ofLayout layout site.standardColumns))) rfl
  constructor
  case calls => rfl
  case status => rfl
  case failed => exact fun hne => absurd rfl hne
  case shown =>
    intro _
    refine ⟨requested, servers, layout, _, hq, hservers, hlayout, rfl, rfl, ?_, ?_, _,
      Json.summary?_layout layout servers.length site.standardColumns, ?_⟩
    · rw [hfound, Json.shownRows?_layout]
      simp [CardGrid.ofLayout]
    · rw [hfound]
    · rw [hfound, CardGrid.summaryText, ← GridLayout.recordCount_of hlayout]
      rfl

theorem showsSameGrid_of_fault (hq : Form.columns query = .ok requested) {f : Fault}
    (h : (Browse.grid site.standardColumns requested s).result = .error f) :
    site.ShowsSameGrid s query (site.managerPage query s) (site.gridCall query s) := by
  have hpage : site.managerPage query s = ⟨(Browse.grid site.standardColumns requested s).calls,
      site.pageFault (some .manager) f⟩ := by
    simp only [managerPage, hq, consultPage, Answer.consult]
    rw [Consult.bind_of_error h]
  have hcall : site.gridCall query s = ⟨(Browse.grid site.standardColumns requested s).calls,
      jsonFault f⟩ := by
    simp only [gridCall, hq, Answer.consult, h]
  rw [hpage, hcall]
  constructor
  case calls => rfl
  case status => rfl
  case shown =>
    intro hok
    cases f <;> cases hok
  case failed =>
    intro _
    refine .inr ⟨requested, f, _, hq, Browse.fault_of_grid h, rfl, rfl, ?_⟩
    rw [Page.found_failure rfl]

end

/-- Under the same query the page of the manager and the grid call show the same grid. -/
theorem answer_showsSameGrid {site : Site} (ht : site.routes.Reachable) {path : String}
    (hp : ⟨path, .manager⟩ ∈ site.routes.entries) (query : Option String) (s : Source) :
    site.ShowsSameGrid s query (site.answer s ⟨"GET", ⟨path, query⟩⟩)
      (site.answer s ⟨"GET", ⟨"/api/servers/grid", query⟩⟩) := by
  have hpath : ofPath site.routes path = .view .manager :=
    (leads_iff ht.wellFormed).mp (.serves (.view hp))
  have hcall : ofPath site.routes "/api/servers/grid" = .serverGrid :=
    (leads_iff ht.wellFormed).mp (.serves .serverGrid)
  have hget : ("GET" : String) ≠ "HEAD" := by decide
  rw [answer_of_ne_head hpath rfl hget, answer_of_ne_head hcall rfl hget]
  show site.ShowsSameGrid s query (site.managerPage query s) (site.gridCall query s)
  -- both read the columns from the query before they ask for the grid
  cases hq : Form.columns query with
  | error e =>
    simp only [managerPage, gridCall, hq]
    refine ⟨rfl, rfl, ?_, fun _ => .inl ⟨e, hq, rfl, rfl⟩⟩
    intro hok
    cases hok
  | ok requested =>
    cases hg : (Browse.grid site.standardColumns requested s).result with
    | ok layout => exact showsSameGrid_of_shown hq hg
    | error f => exact showsSameGrid_of_fault hq hg

/-- A server whose name looks like markup, on a page at a path of its own, in two columns. -/
theorem showsSameGrid_two_columns :
    let site : Site := ⟨RouteTable.console.applyAll [.mount "/machines" .manager], ⟨5, by decide⟩⟩
    let source := Catalog.source ⟨[⟨⟨"<b>", by decide⟩, "h\"1", 8388, "secret"⟩], [], []⟩
    site.routes.Reachable ∧ ⟨"/machines", .manager⟩ ∈ site.routes.entries ∧
      site.ShowsSameGrid source (some "columns=2")
        (site.answer source ⟨"GET", ⟨"/machines", some "columns=2"⟩⟩)
        (site.answer source ⟨"GET", ⟨"/api/servers/grid", some "columns=2"⟩⟩) := by
  intro site source
  have ht : site.routes.Reachable := ⟨RouteTable.console, List.mem_cons_self .., _, rfl⟩
  have hp : ⟨"/machines", .manager⟩ ∈ site.routes.entries := by decide
  exact ⟨ht, hp, answer_showsSameGrid ht hp (some "columns=2") source⟩

end Site

end ProxyConsole
