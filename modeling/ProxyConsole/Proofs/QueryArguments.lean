import ProxyConsole.Proofs.CardGridPage
import ProxyConsole.Proofs.CatalogCalls
import ProxyConsole.Proofs.FailFast
import ProxyConsole.Proofs.FormFields
import ProxyConsole.Proofs.Numerals

/-!
# Arguments in queries

The grid takes a column count from the query, and the list of accounts a role. Each goes by the field
of its name: without one by what is standard, with one by its value. Anything else is refused before
the source is called, and fields of other names make no difference.
-/

namespace ProxyConsole

/-! ## Values -/

/-- An optional sign and digits, with a value that is positive and fits into 64 bits. -/
def Columns.IsMeantBy (value : String) (c : Columns) : Prop :=
  Decimal.Spells value.toList c.count ∧ c.count ≤ 9223372036854775807

inductive Role.IsMeantBy : String → Role → Prop
  | user : IsMeantBy "user" .user
  | admin : IsMeantBy "admin" .admin

theorem Role.of_eq_ok_iff {value : String} {role : Role} :
    Role.of value = .ok role ↔ IsMeantBy value role := by
  constructor
  · intro h
    unfold Role.of at h
    cases hname : ofName? value with
    | none =>
      rw [hname] at h
      cases h
    | some role' =>
      rw [hname] at h
      cases h
      unfold ofName? at hname
      split at hname
      · cases hname
        exact .user
      · cases hname
        exact .admin
      · cases hname
  · intro h
    cases h <;> rfl

namespace Form

theorem countField_takes_iff {value : String} {c : Columns} :
    countField.Takes value c.count ↔ c.IsMeantBy value := by
  have hlowest : countField.lowest = -9223372036854775808 := rfl
  have hhighest : countField.highest = 9223372036854775807 := rfl
  constructor
  · intro h
    have hfits := h.fits.2
    rw [hhighest] at hfits
    exact ⟨h.spelled, by omega⟩
  · intro h
    have hfits := h.2
    exact ⟨h.1, by rw [hlowest, hhighest]; omega, fun _ => by decide⟩

theorem columns_eq_ok_iff {query : Option String} {count : Option Int} :
    columns query = .ok count ↔ Asks "columns" countField.Takes (fields query) count := by
  have hread : ∀ value n, countField.read value = .ok n ↔ countField.Takes value n :=
    fun _ _ => Decimal.Field.read_eq_ok_iff (by decide) (by decide)
  unfold columns
  cases count with
  | none =>
    rw [asks_none_iff]
    rcases values "columns" (fields query) with _ | ⟨value, more⟩
    · simp
    · cases hvalue : countField.read value with
      | error cause => simp [hvalue]
      | ok n => by_cases hmore : more = [] <;> simp [hvalue, hmore]
  | some n =>
    rw [asks_some_iff]
    simp only [← hread]
    rcases values "columns" (fields query) with _ | ⟨value, _ | ⟨second, more⟩⟩
    · simp
    · cases hvalue : countField.read value <;> simp [hvalue]
    · cases hvalue : countField.read value <;> simp [hvalue]

theorem role_eq_ok_iff {query : Option String} {name : Option String} :
    role query = .ok name ↔ Asks "role" (fun value name => value = name) (fields query) name := by
  unfold role
  cases name with
  | none =>
    rw [asks_none_iff]
    rcases values "role" (fields query) with _ | ⟨value, _ | ⟨second, more⟩⟩ <;> simp
  | some name =>
    rw [asks_some_iff]
    rcases values "role" (fields query) with _ | ⟨value, _ | ⟨second, more⟩⟩ <;> simp

/-- The column count that a query asks for, if it is positive. -/
theorem asks_columns_iff {query : Option String} {want : Option Columns} :
    Asks "columns" Columns.IsMeantBy (fields query) want ↔
      columns query = .ok (want.map fun c => (c.count : Int)) := by
  simp only [columns_eq_ok_iff, asks_map_iff, countField_takes_iff]

theorem asks_role_iff {query : Option String} {want : Option Role} :
    Asks "role" Role.IsMeantBy (fields query) want ↔ Endpoint.role? query = some want := by
  constructor
  · intro h
    cases h with
    | nothing habsent =>
      rw [Endpoint.role?, role_eq_ok_iff.mpr (.nothing habsent)]
      rfl
    | value honce hmeans =>
      rw [Endpoint.role?, role_eq_ok_iff.mpr (.value honce rfl)]
      cases hmeans <;> rfl
  · intro h
    obtain ⟨name, hname, hof⟩ := Option.bind_eq_some_iff.mp h
    have hasks := role_eq_ok_iff.mp (Site.ok_of_toOption hname)
    replace hof := Site.ok_of_toOption hof
    cases hasks with
    | nothing habsent =>
      cases hof
      exact .nothing habsent
    | @value v name honce heq =>
      subst heq
      cases hrole : Role.of v with
      | error e =>
        rw [Option.mapM_some, hrole] at hof
        cases hof
      | ok role =>
        rw [Option.mapM_some, hrole] at hof
        cases hof
        exact .value honce (Role.of_eq_ok_iff.mp hrole)

end Form

namespace Browse

open Consult

theorem grid_asked (standard : Columns) (want : Option Columns) :
    grid standard (want.map fun c => (c.count : Int)) = layOut (want.getD standard) := by
  cases want with
  | none => exact (grid_none standard).trans (ofExcept_ok_bind standard layOut)
  | some c =>
    rw [Option.map_some, grid_some, c.of_count]
    exact ofExcept_ok_bind c layOut

end Browse

namespace Site

open Endpoint
open Form (Asks IsForm fields)

/-! ## Answers -/

/-- The answer to a request that reads, and to one that asks for its header only. -/
structure Answers (site : Site) (s : Source) (path : String) (query : Option String) (a : Answer) :
    Prop where
  get : site.answer s ⟨"GET", ⟨path, query⟩⟩ = a
  head : site.answer s ⟨"HEAD", ⟨path, query⟩⟩ = ⟨a.calls, { a.response with body := .empty }⟩

/-- Requests for a path, also those for its header only, are blamed for the query and make no call. -/
def Rejects (site : Site) (s : Source) (path : String) (query : Option String) : Prop :=
  ∃ r, r.status = .badRequest ∧ site.Answers s path query ⟨[], r⟩

def HasGrid (t : RouteTable) (path : String) : Prop :=
  path = "/api/servers/grid" ∨ ⟨path, .manager⟩ ∈ t.entries

/-- The servers are listed and shown in rows of a column count, also on pages. -/
structure ShowsGrid (site : Site) (query : Option String) (c : Columns) : Prop where
  call : ∀ s, site.Answers s "/api/servers/grid" query ⟨[.listServers],
    match s.listServers with
    | .ok listed => .json .ok (GridLayout.ofColumns listed c).toJson
    | .error f => jsonFault f⟩
  page : ∀ path, ⟨path, .manager⟩ ∈ site.routes.entries → ∀ s,
    site.Answers s path query ⟨[.listServers],
      match s.listServers with
      | .ok listed => .page .ok (site.page (some .manager) View.manager.title
          (.cardGrid (.ofLayout (GridLayout.ofColumns listed c) site.standardColumns)))
      | .error f => site.pageFault (some .manager) f⟩

def RejectsGrid (site : Site) (query : Option String) : Prop :=
  ∀ path, HasGrid site.routes path → ∀ s, site.Rejects s path query

/-- The accounts of a role, or of any, are listed. -/
def ListsAccounts (site : Site) (query : Option String) (role : Option Role) : Prop :=
  ∀ s, site.Answers s "/api/accounts" query ⟨[.listAccounts role],
    match s.listAccounts role with
    | .ok listed => .json .ok (.array ((listed.mergeSort Browse.older).map Account.toJson))
    | .error f => jsonFault f⟩

def RejectsAccounts (site : Site) (query : Option String) : Prop :=
  ∀ s, site.Rejects s "/api/accounts" query

section
variable {site : Site} (ht : site.routes.Reachable)
include ht

theorem answers_of_serves {path : String} {e : Endpoint} (h : Serves site.routes path e)
    (he : e ≠ queryServers) (query : Option String) (s : Source) :
    site.Answers s path query (site.answerAt query s e) := by
  have hpath : ofPath site.routes path = e := h.ofPath_eq ht.wellFormed
  exact ⟨answer_get_of_serves ht h he query s, answer_of_head hpath (accepts_get_head he).2 rfl⟩

theorem rejects_of_refuses {path : String} {e : Endpoint} (h : Serves site.routes path e)
    (he : e ≠ queryServers) {query : Option String} (hr : e.Refuses query) (s : Source) :
    site.Rejects s path query := by
  have hanswers := answers_of_serves ht h he query s
  obtain ⟨hcalls, hstatus⟩ := site.answerAt_isRefusal s hr
  refine ⟨_, hstatus, ?_⟩
  rw [← hcalls]
  exact hanswers

theorem showsGrid_of_asks {query : Option String} {want : Option Columns}
    (h : Form.columns query = .ok (want.map fun c => (c.count : Int))) :
    site.ShowsGrid query (want.getD site.standardColumns) := by
  constructor
  · intro s
    have hanswers := answers_of_serves ht .serverGrid (by decide) query s
    simp only [answerAt, gridCall, h, Answer.consult, Browse.grid_asked, Browse.layOut_eq] at hanswers
    cases hs : s.listServers with
    | ok servers =>
      rw [hs] at hanswers
      exact hanswers
    | error f =>
      rw [hs] at hanswers
      exact hanswers
  · intro path hpath s
    have hanswers := answers_of_serves ht (.view hpath) (by simp) query s
    simp only [answerAt, viewPage, managerPage, h, consultPage, Answer.consult, Browse.grid_asked] at hanswers
    have hgrid := Browse.layOut_eq (want.getD site.standardColumns) s
    cases hs : s.listServers with
    | ok listed =>
      rw [hs] at hgrid
      rw [Consult.bind_of_ok (congrArg Outcome.result hgrid), hgrid] at hanswers
      exact hanswers
    | error f =>
      rw [hs] at hgrid
      rw [Consult.bind_of_error (congrArg Outcome.result hgrid), hgrid] at hanswers
      exact hanswers

theorem listsAccounts_of_asks {query : Option String} {want : Option Role}
    (h : role? query = some want) : site.ListsAccounts query want := by
  intro s
  obtain ⟨name, hname, hof⟩ := Option.bind_eq_some_iff.mp h
  have hcall : accountsCall query s = Answer.consult (Browse.accounts want)
      (fun accounts => .json .ok (.array (accounts.map Account.toJson))) jsonFault s := by
    simp only [accountsCall, ok_of_toOption hname]
    exact consult_of_ok _ _ _ (ok_of_toOption hof)
  have hanswers := answers_of_serves ht .accounts (by decide) query s
  rw [answerAt, hcall, Answer.consult, Browse.accounts_eq] at hanswers
  cases hs : s.listAccounts want with
  | ok listed =>
    rw [hs] at hanswers
    exact hanswers
  | error f =>
    rw [hs] at hanswers
    exact hanswers

theorem rejectsGrid_of_not_asks {query : Option String}
    (h : ∀ want : Option Columns, Form.columns query ≠ .ok (want.map fun c => (c.count : Int))) :
    site.RejectsGrid query := by
  have hrefuses : ∀ e, e = view .manager ∨ e = serverGrid → e.Refuses query := by
    intro e he
    cases hcolumns : Form.columns query with
    | error cause => exact .columns he hcolumns
    | ok count =>
      cases count with
      | none => exact absurd hcolumns (h none)
      | some count =>
        refine .notPositive he hcolumns (Int.not_lt.mp fun hpos => h (some ⟨count.toNat, by omega⟩) ?_)
        rw [hcolumns, Option.map_some, Int.toNat_of_nonneg (by omega)]
  intro path hpath s
  rcases hpath with rfl | hpath
  · exact rejects_of_refuses ht .serverGrid (by decide) (hrefuses _ (.inr rfl)) s
  · exact rejects_of_refuses ht (.view hpath) (by simp) (hrefuses _ (.inl rfl)) s

theorem rejectsAccounts_of_not_asks {query : Option String} (h : ∀ want, role? query ≠ some want) :
    site.RejectsAccounts query := by
  have hrefuses : Endpoint.accounts.Refuses query := .accounts (Option.eq_none_iff_forall_ne_some.mpr h)
  exact fun s => rejects_of_refuses ht .accounts (by decide) hrefuses s

/-- Only the fields of its name matter to an endpoint that takes an argument. -/
theorem answer_congr_query {s : Source} {path : String} {e : Endpoint}
    (h : Serves site.routes path e) {query query' : Option String}
    (hquery : site.answerAt query' s e = site.answerAt query s e) (method : String) :
    site.answer s ⟨method, ⟨path, query'⟩⟩ = site.answer s ⟨method, ⟨path, query⟩⟩ := by
  simp only [answer, h.ofPath_eq ht.wellFormed, hquery]

end

/-! ## Telling answers apart -/

theorem Answers.unique {site : Site} {s : Source} {path : String} {query : Option String} {a a' : Answer}
    (h : site.Answers s path query a) (h' : site.Answers s path query a') : a = a' :=
  h.get.symm.trans h'.get

theorem ShowsGrid.unique {site : Site} {query : Option String} {c c' : Columns}
    (h : site.ShowsGrid query c) (h' : site.ShowsGrid query c') : c = c' := by
  have hanswer := (h.call (Catalog.source ⟨[], [], []⟩)).unique (h'.call _)
  have hbody := Body.json.inj (congrArg (fun a : Answer => a.response.body) hanswer)
  simp only [GridLayout.toJson, GridLayout.ofColumns, Json.object.injEq, List.cons.injEq,
    Prod.mk.injEq, Json.integer.injEq, Nat.cast_inj, and_true, true_and] at hbody
  obtain ⟨_, hcount, _⟩ := hbody
  cases c
  cases c'
  cases hcount
  rfl

theorem ShowsGrid.not_rejects {site : Site} {query : Option String} {c : Columns}
    (h : site.ShowsGrid query c) : ¬ site.RejectsGrid query := by
  intro hrejects
  obtain ⟨r, _, hanswers⟩ := hrejects _ (.inl rfl) (Catalog.source ⟨[], [], []⟩)
  have hcalls := congrArg Answer.calls ((h.call _).unique hanswers)
  cases hcalls

theorem ListsAccounts.unique {site : Site} {query : Option String} {role role' : Option Role}
    (h : site.ListsAccounts query role) (h' : site.ListsAccounts query role') : role = role' := by
  have hcalls := congrArg Answer.calls ((h (Catalog.source ⟨[], [], []⟩)).unique (h' _))
  cases hcalls
  rfl

theorem ListsAccounts.not_rejects {site : Site} {query : Option String} {role : Option Role}
    (h : site.ListsAccounts query role) : ¬ site.RejectsAccounts query := by
  intro hrejects
  obtain ⟨r, _, hanswers⟩ := hrejects (Catalog.source ⟨[], [], []⟩)
  have hcalls := congrArg Answer.calls ((h _).unique hanswers)
  cases hcalls

theorem eq_of_getD_eq {want want' : Option Columns}
    (h : ∀ standard, want.getD standard = want'.getD standard) : want = want' := by
  have hlarger : ∀ c : Columns, ∃ standard, standard ≠ c :=
    fun c => ⟨⟨c.count + 1, by omega⟩, fun heq => by simpa using congrArg Columns.count heq⟩
  cases want with
  | none =>
    cases want' with
    | none => rfl
    | some c =>
      obtain ⟨standard, hne⟩ := hlarger c
      exact absurd (h standard) hne
  | some c =>
    cases want' with
    | none =>
      obtain ⟨standard, hne⟩ := hlarger c
      exact absurd (h standard).symm hne
    | some c' => exact congrArg some (h c)

/-- Where what is asked for is shown, and nothing is shown that is not asked for. -/
theorem iff_of_shown {α : Type} {asks shows : α → Prop} {rejects : Prop}
    (hshows : ∀ a, asks a → shows a) (hrejects : (∀ a, ¬ asks a) → rejects)
    (hunique : ∀ a b, shows a → shows b → a = b) (hnot : ∀ a, shows a → ¬ rejects) :
    (∀ a, shows a ↔ asks a) ∧ (rejects ↔ ∀ a, ¬ asks a) := by
  refine ⟨fun a => ⟨fun ha => ?_, hshows a⟩, fun hr a ha => hnot a (hshows a ha) hr, hrejects⟩
  by_cases hasks : ∃ b, asks b
  · obtain ⟨b, hb⟩ := hasks
    exact hunique b a (hshows b hb) ha ▸ hb
  · exact absurd (hrejects fun b hb => hasks ⟨b, hb⟩) (hnot a ha)

/-! ## All queries -/

section
variable {t : RouteTable} (ht : t.Reachable) (query : Option String) (standard : Columns)
include ht

theorem grid_iff_asks :
    (∀ want, (∀ standard, ShowsGrid ⟨t, standard⟩ query (want.getD standard)) ↔
      Asks "columns" Columns.IsMeantBy (fields query) want) ∧
    (RejectsGrid ⟨t, standard⟩ query ↔ ∀ want, ¬ Asks "columns" Columns.IsMeantBy (fields query) want) := by
  simp only [Form.asks_columns_iff]
  apply iff_of_shown
  · exact fun want h standard => showsGrid_of_asks ht h
  · exact rejectsGrid_of_not_asks ht
  · exact fun want want' h h' => eq_of_getD_eq fun standard => (h standard).unique (h' standard)
  · exact fun want h => (h standard).not_rejects

theorem accounts_iff_asks :
    (∀ want, ListsAccounts ⟨t, standard⟩ query want ↔
      Asks "role" Role.IsMeantBy (fields query) want) ∧
    (RejectsAccounts ⟨t, standard⟩ query ↔ ∀ want, ¬ Asks "role" Role.IsMeantBy (fields query) want) := by
  simp only [Form.asks_role_iff]
  apply iff_of_shown
  · exact fun want h => listsAccounts_of_asks ht h
  · exact rejectsAccounts_of_not_asks ht
  · exact fun want want' h h' => h.unique h'
  · exact fun want h => h.not_rejects

theorem answer_grid_congr {query' : Option String}
    (h : Form.values "columns" (fields query') = Form.values "columns" (fields query)) (s : Source)
    (method : String) {path : String} (hpath : HasGrid t path) :
    answer ⟨t, standard⟩ s ⟨method, ⟨path, query'⟩⟩ = answer ⟨t, standard⟩ s ⟨method, ⟨path, query⟩⟩ := by
  have hcolumns : Form.columns query' = Form.columns query := by simp only [Form.columns, h]
  rcases hpath with rfl | hpath
  · refine answer_congr_query ht .serverGrid ?_ method
    simp only [answerAt, gridCall, hcolumns]
  · have hserves : Serves t path (view .manager) := .view hpath
    refine answer_congr_query ht hserves ?_ method
    simp only [answerAt, viewPage, managerPage, hcolumns]

theorem answer_accounts_congr {query' : Option String}
    (h : Form.values "role" (fields query') = Form.values "role" (fields query)) (s : Source)
    (method : String) : answer ⟨t, standard⟩ s ⟨method, ⟨"/api/accounts", query'⟩⟩ =
      answer ⟨t, standard⟩ s ⟨method, ⟨"/api/accounts", query⟩⟩ := by
  have hrole : Form.role query' = Form.role query := by simp only [Form.role, h]
  refine answer_congr_query ht .accounts ?_ method
  simp only [answerAt, accountsCall, hrole]

end

/-- How the fields of a query decide what is answered, on every console with these routes. -/
structure HeedsFields (t : RouteTable) (query : Option String) (pairs : List (String × String)) :
    Prop where
  grid : ∀ want, (∀ standard, ShowsGrid ⟨t, standard⟩ query (want.getD standard)) ↔
    Asks "columns" Columns.IsMeantBy pairs want
  grid_rejected : ∀ standard, RejectsGrid ⟨t, standard⟩ query ↔
    ∀ want : Option Columns, ¬ Asks "columns" Columns.IsMeantBy pairs want
  accounts : ∀ standard want, ListsAccounts ⟨t, standard⟩ query want ↔
    Asks "role" Role.IsMeantBy pairs want
  accounts_rejected : ∀ standard, RejectsAccounts ⟨t, standard⟩ query ↔
    ∀ want, ¬ Asks "role" Role.IsMeantBy pairs want
  grid_only : ∀ query' pairs', IsForm query' pairs' →
    pairs'.filter (·.1 = "columns") = pairs.filter (·.1 = "columns") →
    ∀ standard s method path, HasGrid t path →
      answer ⟨t, standard⟩ s ⟨method, ⟨path, query'⟩⟩ = answer ⟨t, standard⟩ s ⟨method, ⟨path, query⟩⟩
  accounts_only : ∀ query' pairs', IsForm query' pairs' →
    pairs'.filter (·.1 = "role") = pairs.filter (·.1 = "role") →
    ∀ standard s method, answer ⟨t, standard⟩ s ⟨method, ⟨"/api/accounts", query'⟩⟩ =
      answer ⟨t, standard⟩ s ⟨method, ⟨"/api/accounts", query⟩⟩

/-- Any text is the query of one form, whose fields decide. -/
theorem query_arguments_heeded {t : RouteTable} (ht : t.Reachable) (query : Option String) :
    ∃ pairs, (∀ pairs', IsForm query pairs' ↔ pairs' = pairs) ∧ HeedsFields t query pairs := by
  refine ⟨fields query, fun pairs' => ?_, ?_⟩
  · rw [← Form.fields_eq_iff, eq_comm]
  constructor
  case grid => exact (grid_iff_asks ht query ⟨1, Nat.one_pos⟩).1
  case grid_rejected => exact fun standard => (grid_iff_asks ht query standard).2
  case accounts => exact fun standard => (accounts_iff_asks ht query standard).1
  case accounts_rejected => exact fun standard => (accounts_iff_asks ht query standard).2
  case grid_only =>
    intro query' pairs' hpairs' hfilter standard s method path hpath
    obtain rfl := Form.fields_eq_iff.mpr hpairs'
    have hvalues : Form.values "columns" (fields query') = Form.values "columns" (fields query) := by
      rw [Form.values, hfilter, Form.values]
    exact answer_grid_congr ht query standard hvalues s method hpath
  case accounts_only =>
    intro query' pairs' hpairs' hfilter standard s method
    obtain rfl := Form.fields_eq_iff.mpr hpairs'
    have hvalues : Form.values "role" (fields query') = Form.values "role" (fields query) := by
      rw [Form.values, hfilter, Form.values]
    exact answer_accounts_congr ht query standard hvalues s method

/-- A count with a sign and a zero, behind an escaped name and an escaped sign, and a field of another
name. -/
theorem query_arguments_heeded_with_escapes :
    let t := RouteTable.console
    let query := some "c%6Flumns=%2B07&x"
    t.Reachable ∧ IsForm query [("columns", "+07"), ("x", "")] ∧
      (∀ standard, ShowsGrid ⟨t, standard⟩ query ⟨7, by decide⟩) ∧
      ∀ standard, ListsAccounts ⟨t, standard⟩ query none := by
  intro t query
  have ht : t.Reachable := ⟨RouteTable.console, List.mem_cons_self .., [], rfl⟩
  have hcolumns : Form.IsField "c%6Flumns=%2B07".toList ("columns", "+07") := by
    have hparts : "c%6Flumns=%2B07".toList = "c%6Flumns".toList ++ '=' :: "%2B07".toList := by decide
    rw [hparts]
    exact .pair (by decide) (Form.standsFor_of_decode (by decide +kernel))
      (Form.standsFor_of_decode (by decide +kernel))
  have hother : Form.IsField "x".toList ("x", "") :=
    .bare (by decide) (Form.standsFor_of_decode (by decide +kernel))
  have hform : IsForm query [("columns", "+07"), ("x", "")] := by
    have hfields : List.Forall₂ Form.IsField
        (["c%6Flumns=%2B07".toList, "x".toList].filter (· ≠ [])) [("columns", "+07"), ("x", "")] :=
      .cons hcolumns (.cons hother .nil)
    exact .query (by decide) (by decide) (by decide) hfields
  obtain ⟨pairs, hpairs, hheeds⟩ := query_arguments_heeded ht query
  obtain rfl := (hpairs _).mp hform
  have hmeans : Columns.IsMeantBy "+07" ⟨7, by decide⟩ :=
    ⟨.plus ⟨[0, 7], by decide, by decide, by decide, rfl⟩, by decide⟩
  refine ⟨ht, hform, ?_, fun standard => ?_⟩
  · exact (hheeds.grid (some ⟨7, by decide⟩)).mpr (.value ⟨[], [("x", "")], rfl, by simp [Form.Absent],
      by simp [Form.Absent]⟩ hmeans)
  · exact (hheeds.accounts standard none).mpr (.nothing (by simp [Form.Absent]))

end Site

end ProxyConsole
