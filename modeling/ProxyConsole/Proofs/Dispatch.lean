import ProxyConsole.Catalog
import ProxyConsole.Proofs.EndpointPlans
import ProxyConsole.Proofs.RouteTable

/-!
# What a path leads to

The places of the console as rules in no order: its own pages, the views of the table, the calls of
the programming interface, and what is left over. On a table that edits lead to no two rules meet,
and the endpoint of a path is the one that the rules name. Each endpoint has one handler, which keeps
to the plan of its calls.
-/

namespace ProxyConsole

namespace Endpoint

/-! ## The rules -/

def IsSegment (s : String) : Prop :=
  s ≠ "" ∧ '/' ∉ s.toList

/-- The path of the programming interface and whatever goes on from it. -/
def IsCallPath (path : String) : Prop :=
  path = "/api" ∨ ∃ rest, rest ≠ "" ∧ path = "/api/" ++ rest

/-- The places that have a rule of their own. -/
inductive Serves (t : RouteTable) : String → Endpoint → Prop
  | health : Serves t "/health" health
  | home : Serves t "/" home
  | view {e : ViewRoute} : e ∈ t.entries → Serves t e.path (view e.view)
  | servers : Serves t "/api/servers" servers
  | serverGrid : Serves t "/api/servers/grid" serverGrid
  | server {s : String} : IsSegment s → s ≠ "grid" → Serves t ("/api/servers/" ++ s) (server s)
  | queryServers : Serves t "/api/user/users" queryServers
  | accounts : Serves t "/api/accounts" accounts
  | account {s : String} : IsSegment s → Serves t ("/api/accounts/" ++ s) (account s)
  | products : Serves t "/api/products" products

/-- The places with a rule of their own, and the two kinds of paths that no rule names. -/
inductive Leads (t : RouteTable) (path : String) : Endpoint → Prop
  | serves {e : Endpoint} : Serves t path e → Leads t path e
  | unknownCall : IsCallPath path → (∀ e, ¬ Serves t path e) → Leads t path unknownCall
  | elsewhere : ¬ IsCallPath path → (∀ e, ¬ Serves t path e) → Leads t path elsewhere

def IsKnown (e : Endpoint) : Prop :=
  e ≠ unknownCall ∧ e ≠ elsewhere

theorem Serves.isKnown {t : RouteTable} {path : String} {e : Endpoint} (h : Serves t path e) :
    e.IsKnown := by
  cases h <;> exact ⟨nofun, nofun⟩

/-! ## Calls by their segments -/

theorem ofCallSegments_eq_elsewhere_iff {segments : List String} :
    ofCallSegments segments = elsewhere ↔ segments = [""] := by
  constructor
  · intro h
    unfold ofCallSegments at h
    split at h
    · rfl
    all_goals first | cases h | (split at h <;> cases h)
  · rintro rfl
    rfl

theorem segments_empty : segments "" = [""] :=
  segments_of_not_mem (by decide)

theorem eq_of_segments_pair {text a b : String} (h : segments text = [a, b]) :
    text = a ++ "/" ++ b ∧ '/' ∉ b.toList := by
  have hm : b ∈ segments text := h ▸ List.mem_cons_of_mem a (List.mem_cons_self ..)
  have hb := not_mem_of_mem_segments hm
  obtain ⟨c, rfl, hc⟩ := exists_of_segments_eq_cons h (List.cons_ne_nil b [])
  rw [segments_inj (hc.trans (segments_of_not_mem hb).symm)]
  exact ⟨rfl, hb⟩

theorem eq_of_segments_singleton {text a : String} (h : segments text = [a]) : text = a := by
  have hm : a ∈ segments text := h ▸ List.mem_cons_self ..
  exact segments_inj (h.trans (segments_of_not_mem (not_mem_of_mem_segments hm)).symm)

theorem segments_pair {a b : String} (ha : '/' ∉ a.toList) (hb : '/' ∉ b.toList) :
    segments (a ++ "/" ++ b) = [a, b] := by
  rw [segments_append_slash ha, segments_of_not_mem hb]

theorem serves_ofCallSegments (t : RouteTable) {rest : String} {segs : List String}
    (hs : segments rest = segs) (h : (ofCallSegments segs).IsKnown) :
    Serves t ("/api/" ++ rest) (ofCallSegments segs) := by
  revert h
  unfold ofCallSegments
  split
  · exact fun h => absurd rfl h.2
  · intro _
    obtain rfl := eq_of_segments_singleton hs
    exact .servers
  · intro _
    obtain ⟨rfl, _⟩ := eq_of_segments_pair hs
    exact .serverGrid
  · rename_i s hgrid
    obtain ⟨rfl, hslash⟩ := eq_of_segments_pair hs
    by_cases he : s = ""
    · rw [if_pos he]
      exact fun h => absurd rfl h.1
    · rw [if_neg he, ← String.append_assoc]
      exact fun _ => .server ⟨he, hslash⟩ hgrid
  · intro _
    obtain ⟨rfl, _⟩ := eq_of_segments_pair hs
    exact .queryServers
  · intro _
    obtain rfl := eq_of_segments_singleton hs
    exact .accounts
  · rename_i s
    obtain ⟨rfl, hslash⟩ := eq_of_segments_pair hs
    by_cases he : s = ""
    · rw [if_pos he]
      exact fun h => absurd rfl h.1
    · rw [if_neg he, ← String.append_assoc]
      exact fun _ => .account ⟨he, hslash⟩
  · intro _
    obtain rfl := eq_of_segments_singleton hs
    exact .products
  · exact fun h => absurd rfl h.1

/-! ## Paths under the programming interface -/

theorem ofPath_call {t : RouteTable} (h : t.WellFormed) {rest : String} {segs : List String}
    (hs : segments rest = segs) : ofPath t ("/api/" ++ rest) = ofCallSegments segs := by
  have hlist : ("/api/" ++ rest).toList = "/api/".toList ++ rest.toList := String.toList_append ..
  have hhealth : "/api/" ++ rest ≠ "/health" := fun e => by
    rw [← String.toList_inj, hlist] at e
    simp at e
  have hhome : "/api/" ++ rest ≠ "/" := fun e => by
    rw [← String.toList_inj, hlist] at e
    simp at e
  have hview : t.viewAt? ("/api/" ++ rest) = none :=
    h.viewAt?_reserved (.inr (.inr (.inr (hlist ▸ List.prefix_append ..))))
  have hsegments : segments ("/api/" ++ rest) = "" :: "api" :: segments rest := by
    have : "/api/" ++ rest = "" ++ "/" ++ ("api" ++ "/" ++ rest) := by
      rw [← String.toList_inj]
      simp
    rw [this, segments_append_slash (by decide), segments_append_slash (by decide)]
  rw [ofPath, if_neg hhealth, if_neg hhome, hview, hsegments, hs]
  rfl

theorem ofPath_api {t : RouteTable} (h : t.WellFormed) : ofPath t "/api" = unknownCall := by
  rw [ofPath, if_neg (by decide), if_neg (by decide), h.viewAt?_reserved (.inr (.inr (.inl rfl)))]
  rfl

theorem ofSegments_of_not_isCallPath {path : String} (h : ¬ IsCallPath path) :
    ofSegments (segments path) = elsewhere := by
  unfold ofSegments
  split
  · rename_i rest hs
    obtain ⟨b, rfl, hb⟩ := exists_of_segments_eq_cons hs (List.cons_ne_nil "api" rest)
    cases rest with
    | nil =>
      obtain rfl := eq_of_segments_singleton hb
      exact absurd (.inl rfl) h
    | cons s rest =>
      obtain ⟨c, rfl, hc⟩ := exists_of_segments_eq_cons hb (List.cons_ne_nil s rest)
      by_cases he : c = ""
      · rw [← hc, he, segments_empty]
        rfl
      · refine absurd (.inr ⟨c, he, ?_⟩) h
        rw [← String.toList_inj]
        simp
  · rfl

/-! ## The endpoint of a path -/

theorem Serves.ofPath_eq {t : RouteTable} (h : t.WellFormed) {path : String} {e : Endpoint}
    (hs : Serves t path e) : ofPath t path = e := by
  cases hs with
  | health => rfl
  | home => rfl
  | view he =>
    rename_i e
    have hfree := h.free e.path (List.mem_map_of_mem he)
    have hview : t.viewAt? e.path = some e.view := h.viewAt?_eq_some_iff.mpr he
    rw [ofPath, if_neg fun hp => hfree (.inr (.inl hp)), if_neg fun hp => hfree (.inl hp), hview]
  | servers =>
    have hs : segments "servers" = ["servers"] := segments_of_not_mem (by decide)
    exact ofPath_call h hs
  | serverGrid =>
    have hs : segments ("servers" ++ "/" ++ "grid") = ["servers", "grid"] :=
      segments_pair (by decide) (by decide)
    exact ofPath_call h hs
  | server hs hg =>
    rename_i s
    have hs' : segments ("servers" ++ "/" ++ s) = ["servers", s] := segments_pair (by decide) hs.2
    have := ofPath_call h hs'
    rw [← String.append_assoc] at this
    refine this.trans ?_
    simp [ofCallSegments, hs.1]
  | queryServers =>
    have hs : segments ("user" ++ "/" ++ "users") = ["user", "users"] :=
      segments_pair (by decide) (by decide)
    exact ofPath_call h hs
  | accounts =>
    have hs : segments "accounts" = ["accounts"] := segments_of_not_mem (by decide)
    exact ofPath_call h hs
  | account hs =>
    rename_i s
    have hs' : segments ("accounts" ++ "/" ++ s) = ["accounts", s] := segments_pair (by decide) hs.2
    have := ofPath_call h hs'
    rw [← String.append_assoc] at this
    refine this.trans ?_
    simp [ofCallSegments, hs.1]
  | products =>
    have hs : segments "products" = ["products"] := segments_of_not_mem (by decide)
    exact ofPath_call h hs

theorem ofPath_isKnown_of_serves {t : RouteTable} (h : t.WellFormed) {path : String} {e : Endpoint}
    (hs : Serves t path e) : (ofPath t path).IsKnown := by
  rw [hs.ofPath_eq h]
  exact hs.isKnown

theorem leads_ofPath {t : RouteTable} (h : t.WellFormed) (path : String) :
    Leads t path (ofPath t path) := by
  by_cases hc : IsCallPath path
  · rcases hc with rfl | ⟨rest, hr, rfl⟩
    · have he := ofPath_api h
      rw [he]
      exact .unknownCall (.inl rfl) fun e hs => (ofPath_isKnown_of_serves h hs).1 he
    · -- `rest` is not empty, so the endpoint is a call, known or unknown, and never `elsewhere`
      by_cases hk : (ofPath t ("/api/" ++ rest)).IsKnown
      · rw [ofPath_call h rfl] at hk ⊢
        exact .serves (serves_ofCallSegments t rfl hk)
      · have he : ofPath t ("/api/" ++ rest) = unknownCall := by
          refine Classical.byContradiction fun hu => hk ⟨hu, fun he => hr ?_⟩
          rw [ofPath_call h rfl, ofCallSegments_eq_elsewhere_iff] at he
          exact eq_of_segments_singleton he
        rw [he]
        exact .unknownCall (.inr ⟨rest, hr, rfl⟩) fun e hs => hk (ofPath_isKnown_of_serves h hs)
  · by_cases hhealth : path = "/health"
    · subst hhealth
      exact .serves .health
    by_cases hhome : path = "/"
    · subst hhome
      exact .serves .home
    cases hv : t.viewAt? path with
    | some v =>
      have : ofPath t path = view v := by rw [ofPath, if_neg hhealth, if_neg hhome, hv]
      rw [this]
      exact .serves (.view (h.viewAt?_eq_some_iff.mp hv))
    | none =>
      have he : ofPath t path = elsewhere := by
        rw [ofPath, if_neg hhealth, if_neg hhome, hv]
        exact ofSegments_of_not_isCallPath hc
      rw [he]
      exact .elsewhere hc fun e hs => (ofPath_isKnown_of_serves h hs).2 he

/-- On a table that edits lead to, the rules name one endpoint for each path. -/
theorem leads_iff {t : RouteTable} (h : t.WellFormed) {path : String} {e : Endpoint} :
    Leads t path e ↔ ofPath t path = e := by
  constructor
  · intro hl
    cases hl with
    | serves hs => exact hs.ofPath_eq h
    | unknownCall hc hn =>
      have hl := leads_ofPath h path
      generalize ofPath t path = e at hl ⊢
      cases hl with
      | serves hs => exact absurd hs (hn _)
      | unknownCall => rfl
      | elsewhere hc' => exact absurd hc hc'
    | elsewhere hc hn =>
      have hl := leads_ofPath h path
      generalize ofPath t path = e at hl ⊢
      cases hl with
      | serves hs => exact absurd hs (hn _)
      | unknownCall hc' => exact absurd hc' hc
      | elsewhere => rfl
  · rintro rfl
    exact leads_ofPath h path

theorem ofPath_reserved {t t' : RouteTable} (h : t.WellFormed) (h' : t'.WellFormed) {path : String}
    (hr : RouteTable.IsReserved path) : ofPath t path = ofPath t' path := by
  rw [ofPath, ofPath, h.viewAt?_reserved hr, h'.viewAt?_reserved hr]

/-! ## Methods -/

theorem accepts_get_head {e : Endpoint} (h : e ≠ queryServers) :
    e.accepts.accepts "GET" = true ∧ e.accepts.accepts "HEAD" = true := by
  cases e with
  | queryServers => exact absurd rfl h
  | _ => exact ⟨rfl, rfl⟩

theorem IsKnown.accepts {e : Endpoint} (h : e.IsKnown) (hq : e ≠ queryServers) :
    e.accepts = .reading := by
  cases e with
  | queryServers => exact absurd rfl hq
  | unknownCall => exact absurd rfl h.1
  | elsewhere => exact absurd rfl h.2
  | _ => rfl

end Endpoint

namespace Site

open Endpoint

/-! ## Requests -/

section
variable {site : Site} {s : Source} {r : Request} {e : Endpoint}

theorem answer_refused (he : ofPath site.routes r.uri.path = e)
    (h : e.accepts.accepts r.method = false) :
    site.answer s r = .direct (.methodNotAllowed e.accepts.names) := by
  simp [answer, he, h]

theorem answer_of_ne_head (he : ofPath site.routes r.uri.path = e)
    (h : e.accepts.accepts r.method = true) (hm : r.method ≠ "HEAD") :
    site.answer s r = site.answerAt r.uri.query s e := by
  simp [answer, he, h, hm]

theorem answer_of_head (he : ofPath site.routes r.uri.path = e)
    (h : e.accepts.accepts r.method = true) (hm : r.method = "HEAD") :
    site.answer s r = ⟨(site.answerAt r.uri.query s e).calls,
      (site.answerAt r.uri.query s e).response.withoutBody⟩ := by
  rw [hm] at h
  simp [answer, he, h, hm]

theorem answer_calls (he : ofPath site.routes r.uri.path = e)
    (h : e.accepts.accepts r.method = true) :
    (site.answer s r).calls = (site.answerAt r.uri.query s e).calls := by
  by_cases hm : r.method = "HEAD"
  · rw [answer_of_head he h hm]
  · rw [answer_of_ne_head he h hm]

end

/-- A method that an endpoint does not answer makes no call; any other keeps to the plan. -/
theorem answer_calls_prefix (site : Site) (s : Source) (r : Request) :
    (site.answer s r).calls <+: (ofPath site.routes r.uri.path).plan r.uri.query := by
  cases h : (ofPath site.routes r.uri.path).accepts.accepts r.method with
  | false =>
    rw [answer_refused rfl h]
    exact List.nil_prefix
  | true =>
    rw [answer_calls rfl h]
    exact site.answerAt_calls_prefix ..

/-! ## Handlers -/

/-- What runs at an endpoint. -/
inductive Runs (site : Site) (query : Option String) : Endpoint → (Source → Answer) → Prop
  | health : Runs site query .health fun _ => .direct (.plain .ok "OK")
  | home : Runs site query .home site.homePage
  | manager : Runs site query (.view .manager) (site.managerPage query)
  | userList : Runs site query (.view .userList) (site.consultPage .userList (accountRows .user))
  | admin : Runs site query (.view .admin) (site.consultPage .admin (accountRows .admin))
  | login : Runs site query (.view .login) (site.consultPage .login (return .signIn))
  | pricing : Runs site query (.view .pricing) (site.consultPage .pricing plans)
  | servers : Runs site query .servers serversCall
  | serverGrid : Runs site query .serverGrid (site.gridCall query)
  | server (segment : String) : Runs site query (.server segment) (serverCall segment)
  | queryServers : Runs site query .queryServers serversCall
  | accounts : Runs site query .accounts (accountsCall query)
  | account (segment : String) : Runs site query (.account segment) (accountCall segment)
  | products : Runs site query .products productsCall
  | unknownCall : Runs site query .unknownCall fun _ =>
      .direct (.jsonError .notFound "no such endpoint")
  | elsewhere : Runs site query .elsewhere fun _ => .direct (.redirect site.routes.fallback)

theorem runs_iff {site : Site} {query : Option String} {e : Endpoint} {handler : Source → Answer} :
    site.Runs query e handler ↔ handler = fun s => site.answerAt query s e := by
  constructor
  · intro h
    cases h <;> rfl
  · rintro rfl
    cases e with
    | view v => cases v <;> constructor
    | _ => constructor

/-! ## Answers by method -/

/-- How a path that leads to an endpoint answers, by method. One handler runs there, and no request
asks the source for what is not in the plan. -/
structure AnsweredBy (site : Site) (s : Source) (uri : Uri) (e : Endpoint) : Prop where
  only : ∀ e', Leads site.routes uri.path e' ↔ e' = e
  runs : ∀ handler, site.Runs uri.query e handler ↔ handler = fun s => site.answerAt uri.query s e
  asks : ∀ method, (site.answer s ⟨method, uri⟩).calls <+: e.plan uri.query
  get : e ≠ queryServers → site.answer s ⟨"GET", uri⟩ = site.answerAt uri.query s e
  head : e ≠ queryServers →
    (site.answer s ⟨"HEAD", uri⟩).calls = (site.answer s ⟨"GET", uri⟩).calls ∧
    (site.answer s ⟨"HEAD", uri⟩).response = { (site.answer s ⟨"GET", uri⟩).response with body := .empty }
  post : e = queryServers → site.answer s ⟨"POST", uri⟩ = site.answerAt uri.query s e
  refused : e.IsKnown → ∀ method,
    (if e = queryServers then method ≠ "POST" else method ≠ "GET" ∧ method ≠ "HEAD") →
    site.answer s ⟨method, uri⟩ =
      ⟨[], { status := .methodNotAllowed, allow := some (if e = queryServers then "POST" else "GET,HEAD") }⟩
  missing : e = unknownCall → ∀ method, method ≠ "HEAD" →
    site.answer s ⟨method, uri⟩ = ⟨[], .jsonError .notFound "no such endpoint"⟩
  redirected : e = elsewhere → ∀ method, method ≠ "HEAD" →
    site.answer s ⟨method, uri⟩ = ⟨[], .redirect site.routes.fallback⟩
  fixed : RouteTable.IsReserved uri.path →
    ∀ t : RouteTable, t.Reachable → ∀ e', Leads t uri.path e' ↔ e' = e

theorem answer_head {site : Site} {s : Source} {uri : Uri}
    (h : ofPath site.routes uri.path ≠ queryServers) :
    (site.answer s ⟨"HEAD", uri⟩).calls = (site.answer s ⟨"GET", uri⟩).calls ∧
    (site.answer s ⟨"HEAD", uri⟩).response =
      { (site.answer s ⟨"GET", uri⟩).response with body := .empty } := by
  obtain ⟨hget, hhead⟩ := accepts_get_head h
  rw [answer_of_head rfl hhead rfl, answer_of_ne_head rfl hget (show "GET" ≠ "HEAD" by decide)]
  exact ⟨rfl, rfl⟩

/-- On a table that edits lead to, every path leads to one endpoint, whose handler answers the methods
it is for; nothing else is done for the others. The table has no say in the paths of the console
itself. -/
theorem exists_answeredBy {site : Site} (h : site.routes.Reachable) (s : Source) (uri : Uri) :
    ∃ e, site.AnsweredBy s uri e := by
  refine ⟨ofPath site.routes uri.path, ?_⟩
  constructor
  case only => exact fun e' => (leads_iff h.wellFormed).trans eq_comm
  case runs => exact fun handler => runs_iff
  case asks => exact fun method => site.answer_calls_prefix s ⟨method, uri⟩
  case get => exact fun hq => answer_of_ne_head rfl (accepts_get_head hq).1 (show "GET" ≠ "HEAD" by decide)
  case head => exact answer_head
  case post =>
    intro hq
    exact answer_of_ne_head rfl (by rw [hq]; rfl) (show "POST" ≠ "HEAD" by decide)
  case refused =>
    intro hk method hm
    by_cases hq : ofPath site.routes uri.path = queryServers
    · simp only [hq, if_true] at hm ⊢
      rw [answer_refused rfl (by simp [hq, Endpoint.accepts, Accepts.accepts, hm]), hq]
      rfl
    · simp only [hq, if_false] at hm ⊢
      have ha := hk.accepts hq
      rw [answer_refused rfl (by simp [ha, Accepts.accepts, hm]), ha]
      rfl
  case missing =>
    intro he method hm
    rw [answer_of_ne_head rfl (by rw [he]; rfl) hm, he]
    rfl
  case redirected =>
    intro he method hm
    rw [answer_of_ne_head rfl (by rw [he]; rfl) hm, he]
    rfl
  case fixed =>
    intro hr t ht e'
    rw [leads_iff ht.wellFormed, ofPath_reserved ht.wellFormed h.wellFormed hr, eq_comm]

/-- A path that only starts like the grid names a server, also beside views at paths that start like
the paths of the console. -/
theorem answeredBy_server_beside_views :
    let routes := RouteTable.console.applyAll
      [.mount "/apix" .pricing, .mount "/health/x" .login, .redirectTo "/apix"]
    let site : Site := ⟨routes, ⟨5, by decide⟩⟩
    site.routes.Reachable ∧
      site.AnsweredBy (Catalog.source ⟨[], [], []⟩) ⟨"/api/servers/gri", none⟩ (.server "gri") := by
  intro routes site
  have hr : site.routes.Reachable := ⟨RouteTable.console, List.mem_cons_self .., _, rfl⟩
  obtain ⟨e, he⟩ := exists_answeredBy hr (Catalog.source ⟨[], [], []⟩) ⟨"/api/servers/gri", none⟩
  have hgri : Leads site.routes "/api/servers/gri" (.server "gri") :=
    .serves (.server (s := "gri") ⟨by decide, by decide⟩ (by decide))
  rw [(he.only _).mp hgri]
  exact ⟨hr, he⟩

end Site

end ProxyConsole
