import ProxyConsole.Proofs.Dispatch

/-!
# Failing fast

A request makes the calls of the plan of its endpoint in order, up to the first that fails, and the
fault of that call is shown: as JSON under the programming interface, as a page elsewhere. A request
that is refused makes none.
-/

namespace ProxyConsole

namespace Site

open Endpoint

/-! ## Requests -/

theorem isReserved_of_isCallPath {path : String} (h : IsCallPath path) :
    RouteTable.IsReserved path := by
  rcases h with rfl | ⟨rest, _, rfl⟩
  · exact .inr (.inr (.inl rfl))
  · rw [RouteTable.IsReserved, String.toList_append]
    exact .inr (.inr (.inr (List.prefix_append ..)))

theorem isCallPath_of_serves {t : RouteTable} {path : String} {e : Endpoint} (hs : Serves t path e)
    (h : e ≠ .health) (hh : e ≠ .home) (hv : e.view? = none) : IsCallPath path := by
  cases hs with
  | health => exact absurd rfl h
  | home => exact absurd rfl hh
  | view => cases hv
  | servers => exact .inr ⟨"servers", by decide, rfl⟩
  | serverGrid => exact .inr ⟨"servers/grid", by decide, rfl⟩
  | @server s =>
    refine .inr ⟨"servers/" ++ s, by simp, ?_⟩
    rw [← String.append_assoc]
    rfl
  | queryServers => exact .inr ⟨"user/users", by decide, rfl⟩
  | accounts => exact .inr ⟨"accounts", by decide, rfl⟩
  | @account s =>
    refine .inr ⟨"accounts/" ++ s, by simp, ?_⟩
    rw [← String.append_assoc]
    rfl
  | products => exact .inr ⟨"products", by decide, rfl⟩

theorem not_isCallPath_of_serves {t : RouteTable} (ht : t.WellFormed) {path : String} {e : Endpoint}
    (hs : Serves t path e) (h : e = .home ∨ e.view?.isSome) : ¬ IsCallPath path := by
  intro hc
  cases hs with
  | home =>
    rcases hc with hc | ⟨rest, _, hc⟩
    · exact absurd hc (by decide)
    · rw [← String.toList_inj, String.toList_append] at hc
      simp at hc
  | view he => exact ht.free _ (List.mem_map_of_mem he) (isReserved_of_isCallPath hc)
  | _ => simp [view?] at h

theorem faultShown_of_page (site : Site) {e : Endpoint} (h : e = .home ∨ e.view?.isSome) (f : Fault) :
    site.faultShown e f = site.pageFault e.view? f := by
  cases e with
  | home | view => rfl
  | _ => simp [view?] at h

theorem faultShown_of_call (site : Site) {e : Endpoint} (h : ¬ (e = .home ∨ e.view?.isSome))
    (f : Fault) : site.faultShown e f = jsonFault f := by
  cases e with
  | home => exact absurd (.inl rfl) h
  | view => exact absurd (.inr rfl) h
  | _ => rfl

/-- How a fault is shown: to a caller of the programming interface as JSON, to others on a page. -/
structure ShowsFault (site : Site) (path : String) (v : Option View) (f : Fault) (r : Response) : Prop where
  status : r.status = match f with | .notFound _ => .notFound | _ => .badRequest
  json : IsCallPath path → r = .json r.status (.object [("error", .string f.message)])
  page : ¬ IsCallPath path →
    r = .page r.status ⟨"Error", site.routes.nav v, .failure r.status.code f.message⟩

theorem showsFault_of_leads {site : Site} (ht : site.routes.WellFormed) (query : Option String)
    {path : String} {e : Endpoint} (hl : Leads site.routes path e) (hp : e.plan query ≠ []) (f : Fault) :
    site.ShowsFault path e.view? f (site.faultShown e f) := by
  have hstatus : Status.ofFault f = match f with | .notFound _ => .notFound | _ => .badRequest := by
    cases f <;> rfl
  cases hl with
  | unknownCall => exact absurd rfl hp
  | elsewhere => exact absurd rfl hp
  | serves hs =>
    by_cases hpage : e = .home ∨ e.view?.isSome
    · have hno := not_isCallPath_of_serves ht hs hpage
      rw [faultShown_of_page site hpage]
      exact ⟨hstatus, fun hc => absurd hc hno, fun _ => rfl⟩
    · have hcall : IsCallPath path := by
        rw [not_or, Option.not_isSome_iff_eq_none] at hpage
        exact isCallPath_of_serves hs (fun he => hp (he ▸ rfl)) hpage.1 hpage.2
      rw [faultShown_of_call site hpage]
      exact ⟨hstatus, fun _ => rfl, fun hno => absurd hcall hno⟩

/-- What becomes of a request whose path leads to an endpoint. -/
structure FailsFast (site : Site) (s : Source) (r : Request) (e : Endpoint) : Prop where
  calls_prefix : (site.answer s r).calls <+: e.plan r.uri.query
  once : (site.answer s r).calls.Nodup
  earlier : ∀ call ∈ (site.answer s r).calls.dropLast, s.fault? call = none
  refused : e.Refuses r.uri.query → (site.answer s r).calls = []
  method : e.accepts.accepts r.method = false → (site.answer s r).calls = []
  through : ¬ e.Refuses r.uri.query → e.accepts.accepts r.method = true →
    (∀ call ∈ e.plan r.uri.query, s.fault? call = none) →
    (site.answer s r).calls = e.plan r.uri.query
  failed : ∀ call ∈ (site.answer s r).calls, ∀ f, s.fault? call = some f →
    (site.answer s r).calls.getLast? = some call ∧
    ∃ shown, site.ShowsFault r.uri.path e.view? f shown ∧
      (site.answer s r).response = if r.method = "HEAD" then { shown with body := .empty } else shown

theorem failsFast_of_no_calls {site : Site} {s : Source} {r : Request} {e : Endpoint}
    (h : (site.answer s r).calls = [])
    (hn : e.Refuses r.uri.query ∨ e.accepts.accepts r.method = false) : site.FailsFast s r e := by
  constructor
  case calls_prefix => exact h ▸ List.nil_prefix
  case once => exact h ▸ List.nodup_nil
  case earlier => rw [h]; nofun
  case refused => exact fun _ => h
  case method => exact fun _ => h
  case through =>
    intro hr ha
    rcases hn with hn | hn
    · exact absurd hn hr
    · rw [ha] at hn
      cases hn
  case failed => rw [h]; nofun

/-- On a table that edits lead to, a request makes each call of a plan at most once and none behind one
that fails, and shows the fault of that call; if none fails, the whole plan is carried out. -/
theorem answer_failsFast {site : Site} (ht : site.routes.Reachable) (s : Source) (r : Request)
    {e : Endpoint} (hl : Leads site.routes r.uri.path e) : site.FailsFast s r e := by
  have hpath := (leads_iff ht.wellFormed).mp hl
  cases ha : e.accepts.accepts r.method with
  | false =>
    refine failsFast_of_no_calls ?_ (.inr ha)
    rw [answer_refused hpath ha]
    rfl
  | true =>
    have hprefix : (site.answer s r).calls <+: e.plan r.uri.query :=
      hpath ▸ site.answer_calls_prefix s r
    have hcalls := answer_calls (s := s) hpath ha
    by_cases hr : e.Refuses r.uri.query
    · exact failsFast_of_no_calls (hcalls.trans (site.answerAt_isRefusal s hr).1) (.inl hr)
    -- what is left is a request that attempts its plan
    have hattempt := site.attempts_answerAt r.uri.query s hr
    rw [hattempt.calls] at hcalls
    constructor
    case calls_prefix => exact hprefix
    case once => exact (plan_nodup r.uri.query e).sublist hprefix.sublist
    case earlier =>
      rw [hcalls]
      exact fun call hcall => Source.fault?_of_mem_dropLast hcall
    case refused => exact fun h => absurd h hr
    case method =>
      intro h
      rw [ha] at h
      cases h
    case through =>
      intro _ _ hall
      rw [hcalls, Source.attempt_of_forall hall]
    case failed =>
      rw [hcalls]
      intro call hcall f hf
      obtain ⟨hlast, hfirst⟩ := Source.getLast?_of_fault? hcall hf
      have hplan : e.plan r.uri.query ≠ [] := by
        intro hp
        rw [hp] at hcall
        cases hcall
      refine ⟨hlast, site.faultShown e f, showsFault_of_leads ht.wellFormed _ hl hplan f, ?_⟩
      rw [← hattempt.fault f hfirst]
      by_cases hm : r.method = "HEAD"
      · rw [answer_of_head hpath ha hm, if_pos hm]
        rfl
      · rw [answer_of_ne_head hpath ha hm, if_neg hm]

theorem answer_failsFast_on_overview :
    let site : Site := ⟨RouteTable.console, ⟨5, by decide⟩⟩
    let missing : Fault := .notFound ⟨"Account", "admin"⟩
    let s : Source :=
      { Catalog.source ⟨[], [], []⟩ with
        listAccounts := fun role => if role = some .admin then .error missing else .ok [] }
    let r : Request := ⟨"GET", ⟨"/", none⟩⟩
    site.routes.Reachable ∧ Endpoint.Leads site.routes r.uri.path .home ∧
      (site.answer s r).calls =
        [.listServers, .listAccounts (some .user), .listAccounts (some .admin)] ∧
      site.FailsFast s r .home := by
  intro site missing s r
  have ht : site.routes.Reachable := ⟨RouteTable.console, List.mem_cons_self .., [], rfl⟩
  exact ⟨ht, .serves .home, rfl, answer_failsFast ht s r (.serves .home)⟩

end Site

end ProxyConsole
