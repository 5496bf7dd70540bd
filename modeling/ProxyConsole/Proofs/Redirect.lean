import ProxyConsole.Proofs.FailFast

/-!
# Where a redirect lands

A client that is sent to the fallback asks for what a request target of that text names: a path, up
to a question mark, and a query, up to a hash sign. The redirect lands on a page just when the whole
text can be sent and the path that is left of it still leads to the page that was meant.
-/

namespace ProxyConsole

namespace Uri

/-! ## Request targets -/

theorem isPathChar_ne {c : Char} (h : isPathChar c = true) : c ≠ '#' ∧ c ≠ '?' := by
  constructor
  · rintro rfl
    cases h
  · rintro rfl
    cases h

theorem isQueryChar_ne {c : Char} (h : isQueryChar c = true) : c ≠ '#' := by
  rintro rfl
  cases h

theorem isHeaderChar_of_isPathChar {c : Char} (h : isPathChar c = true) :
    Response.isHeaderChar c = true := by
  by_cases heq : c = '='
  · rw [heq]
    rfl
  · simp only [isPathChar, inRange, heq, Bool.or_eq_true, Bool.and_eq_true, decide_eq_true_eq,
      or_false] at h
    simp only [Response.isHeaderChar, Bool.or_eq_true, Bool.and_eq_true, decide_eq_true_eq]
    right
    omega

def IsFragment (cs : List Char) : Prop :=
  cs = [] ∨ cs.head? = some '#'

theorem dropFragment_append {cs fragment : List Char} (h : '#' ∉ cs) (hf : IsFragment fragment) :
    dropFragment (cs ++ fragment) = cs := by
  have hall : ∀ c ∈ cs, decide (c ≠ '#') = true := fun c hc => decide_eq_true fun e => h (e ▸ hc)
  rw [dropFragment, List.takeWhile_append_of_pos hall]
  rcases hf with rfl | hf
  · simp
  · obtain ⟨rest, rfl⟩ := List.head?_eq_some_iff.mp hf
    simp

theorem exists_fragment (cs : List Char) : '#' ∉ dropFragment cs ∧
    ∃ fragment, IsFragment fragment ∧ cs = dropFragment cs ++ fragment := by
  by_cases h : '#' ∈ cs
  · obtain ⟨before, after, rfl, hb⟩ := List.eq_append_cons_of_mem h
    rw [dropFragment_append hb (.inr rfl)]
    exact ⟨hb, _, .inr rfl, rfl⟩
  · have hcs := dropFragment_append h (.inl rfl)
    rw [List.append_nil] at hcs
    rw [hcs]
    exact ⟨h, [], .inl rfl, (List.append_nil cs).symm⟩

def spelling (uri : Uri) : List Char :=
  uri.path.toList ++ match uri.query with
    | none => []
    | some query => '?' :: query.toList

structure Allowed (uri : Uri) : Prop where
  path : ∀ c ∈ uri.path.toList, isPathChar c = true
  query : ∀ query, uri.query = some query → ∀ c ∈ query.toList, isQueryChar c = true

theorem Allowed.not_mem_spelling {uri : Uri} (h : uri.Allowed) : '#' ∉ uri.spelling := by
  rw [spelling, List.mem_append, not_or]
  refine ⟨fun hc => (isPathChar_ne (h.path _ hc)).1 rfl, ?_⟩
  cases hq : uri.query with
  | none => exact List.not_mem_nil
  | some query =>
    rw [List.mem_cons, not_or]
    exact ⟨by decide, fun hc => isQueryChar_ne (h.query query hq _ hc) rfl⟩

theorem ofPathAndQuery?_eq_some_iff {cs : List Char} {uri : Uri} :
    ofPathAndQuery? cs = some uri ↔
      uri.Allowed ∧ ∃ fragment, IsFragment fragment ∧ cs = uri.spelling ++ fragment := by
  constructor
  · intro h
    obtain ⟨_, fragment, hf, hcs⟩ := exists_fragment cs
    rw [ofPathAndQuery?] at h
    -- the first question mark in front of the fragment parts the path from the query
    by_cases hmark : '?' ∈ dropFragment cs
    · obtain ⟨path, query, hsplit, hpath⟩ := List.eq_append_cons_of_mem hmark
      have hcut : Text.cut? '?' (dropFragment cs) = some (path, query) := by
        rw [Text.cut?, hsplit, Text.span_ne_append_cons hpath]
      simp only [hcut, Bool.and_eq_true, Option.ite_none_right_eq_some, Option.some.injEq] at h
      obtain ⟨⟨hp, hq⟩, rfl⟩ := h
      refine ⟨⟨?_, ?_⟩, fragment, hf, ?_⟩
      · simpa using hp
      · rintro _ ⟨⟩
        simpa using hq
      · rw [hcs, hsplit]
        simp [spelling]
    · have hcut : Text.cut? '?' (dropFragment cs) = none := by
        rw [Text.cut?, Text.span_ne_of_not_mem hmark]
      simp only [hcut, Option.ite_none_right_eq_some, Option.some.injEq] at h
      obtain ⟨hp, rfl⟩ := h
      refine ⟨⟨?_, ?_⟩, fragment, hf, ?_⟩
      · simpa using hp
      · intro query hq
        cases hq
      · have hspelling : spelling ⟨String.ofList (dropFragment cs), none⟩ = dropFragment cs := by
          simp [spelling]
        rw [hspelling]
        exact hcs
  · rintro ⟨ha, fragment, hf, rfl⟩
    rw [ofPathAndQuery?, dropFragment_append ha.not_mem_spelling hf]
    have hpath : uri.path.toList.all isPathChar = true := List.all_eq_true.mpr ha.path
    have hmark : '?' ∉ uri.path.toList := fun hc => (isPathChar_ne (ha.path _ hc)).2 rfl
    obtain ⟨path, query⟩ := uri
    cases query with
    | none =>
      simp only [spelling, List.append_nil, Text.cut?, Text.span_ne_of_not_mem hmark, hpath, if_true,
        String.ofList_toList]
    | some query =>
      have hquery : query.toList.all isQueryChar = true := List.all_eq_true.mpr (ha.query query rfl)
      simp only [spelling, Text.cut?, Text.span_ne_append_cons hmark, hpath, hquery, Bool.and_true,
        if_true, String.ofList_toList]

/-- The path and the query that a target with a slash in front names. -/
structure IsNamedBy (uri : Uri) (target : String) : Prop where
  fits : target.utf8ByteSize ≤ maxBytes
  allowed : uri.Allowed
  spelled : ∃ fragment, IsFragment fragment ∧ target.toList = uri.spelling ++ fragment

theorem ofText?_eq_some_iff {target : String} (h : target.toList.head? = some '/') {uri : Uri} :
    ofText? target = some uri ↔ uri.IsNamedBy target := by
  obtain ⟨rest, hrest⟩ := List.head?_eq_some_iff.mp h
  have hof : ofText? target =
      if maxBytes < target.utf8ByteSize then none else ofPathAndQuery? target.toList := by
    simp only [ofText?, hrest]
  rw [hof]
  constructor
  · intro ht
    split at ht
    · cases ht
    · rename_i hfits
      obtain ⟨ha, hs⟩ := ofPathAndQuery?_eq_some_iff.mp ht
      exact ⟨Nat.not_lt.mp hfits, ha, hs⟩
  · rintro ⟨hfits, ha, hs⟩
    rw [if_neg (Nat.not_lt.mpr hfits)]
    exact ofPathAndQuery?_eq_some_iff.mpr ⟨ha, hs⟩

theorem isNamedBy_of_path_chars {target : String} (hfits : target.utf8ByteSize ≤ maxBytes)
    (hpath : ∀ c ∈ target.toList, isPathChar c = true) : IsNamedBy ⟨target, none⟩ target :=
  ⟨hfits, ⟨hpath, nofun⟩, [], .inl rfl, by simp [spelling]⟩

/-- A target without a character that ends a path is all path. -/
theorem ofText?_path_eq_some_iff {target : String} (h : target.toList.head? = some '/')
    (hpath : ∀ c ∈ target.toList, isPathChar c = true) {uri : Uri} :
    ofText? target = some uri ↔ target.utf8ByteSize ≤ maxBytes ∧ uri = ⟨target, none⟩ := by
  constructor
  · intro hu
    have hfits := ((ofText?_eq_some_iff h).mp hu).fits
    rw [(ofText?_eq_some_iff h).mpr (isNamedBy_of_path_chars hfits hpath), Option.some.injEq] at hu
    exact ⟨hfits, hu.symm⟩
  · intro hu
    rw [hu.2]
    exact (ofText?_eq_some_iff h).mpr (isNamedBy_of_path_chars hu.1 hpath)

end Uri

namespace Request

theorem ofTexts?_get_eq_some_iff {target : String} {r : Request} :
    ofTexts? "GET" target = some r ↔ ∃ uri, Uri.ofText? target = some uri ∧ r = ⟨"GET", uri⟩ := by
  have hget : isMethod "GET" = true := by decide
  cases h : Uri.ofText? target with
  | none => simp [ofTexts?, h]
  | some uri => simp [ofTexts?, h, hget, eq_comm]

end Request

namespace Endpoint

theorem leads_home_iff {t : RouteTable} {path : String} : Leads t path home ↔ path = "/" := by
  constructor
  · rintro (hs | _)
    cases hs
    rfl
  · rintro rfl
    exact .serves .home

theorem leads_view_iff {t : RouteTable} {path : String} {v : View} :
    Leads t path (view v) ↔ ⟨path, v⟩ ∈ t.entries := by
  constructor
  · rintro (hs | _)
    cases hs with
    | view he => exact he
  · intro he
    exact .serves (.view he)

end Endpoint

namespace Source

def IsSound (s : Source) : Prop :=
  ∀ call, s.fault? call = none

theorem IsSound.firstFault? {s : Source} (h : s.IsSound) (plan : List Call) :
    s.firstFault? plan = none :=
  List.findSome?_eq_none_iff.mpr fun call _ => h call

end Source

namespace Site

open Consult Browse Endpoint

/-! ## Pages that answer -/

theorem consult_of_completes {α : Type} {plan : List Call} {c : Consult α} (h : Completes plan c)
    (shown : α → Response) (failed : Fault → Response) {s : Source} (hs : s.IsSound) :
    ∃ a, (Answer.consult c shown failed s).response = shown a := by
  obtain ⟨a, ha⟩ := h.ok s (hs.firstFault? plan)
  exact ⟨a, by simp only [Answer.consult, ha]⟩

theorem consultPage_of_completes (site : Site) (v : View) {plan : List Call} {c : Consult Content}
    (h : Completes plan c) {s : Source} (hs : s.IsSound) :
    ∃ p, (site.consultPage v c s).response = .page .ok p := by
  obtain ⟨content, hc⟩ := consult_of_completes h
    (fun content => Response.page .ok (site.page (some v) v.title content)) (site.pageFault (some v)) hs
  exact ⟨_, hc⟩

theorem homePage_response (site : Site) {s : Source} (hs : s.IsSound) :
    ∃ p, (site.homePage s).response = .page .ok p := by
  obtain ⟨content, hc⟩ := consult_of_completes (site.overview_completes none)
    (fun content => Response.page .ok (site.page none "Overview" content)) (site.pageFault none) hs
  exact ⟨_, hc⟩

/-- If no call fails, a view shows its page unless it does not take the query. -/
theorem viewPage_response_iff (site : Site) {query : Option String} {s : Source} (hs : s.IsSound)
    (v : View) : (∃ p, (site.viewPage query s v).response = .page .ok p) ↔
      ¬ (Endpoint.view v).Refuses query := by
  constructor
  · rintro ⟨p, hp⟩ hr
    have hstatus := (site.answerAt_isRefusal s hr).2
    rw [answerAt, hp] at hstatus
    cases hstatus
  · intro h
    cases v with
    | manager =>
      obtain ⟨columns, hc, hpos⟩ := columns_of_not_refuses (.inl rfl) h
      simp only [viewPage, managerPage, hc]
      exact site.consultPage_of_completes .manager
        ((completes_grid _ hpos).bind fun _ => completes_pure _) hs
    | userList =>
      exact site.consultPage_of_completes .userList
        ((completes_accounts _).bind fun _ => completes_pure _) hs
    | admin =>
      exact site.consultPage_of_completes .admin
        ((completes_accounts _).bind fun _ => completes_pure _) hs
    | login => exact site.consultPage_of_completes .login (completes_pure Content.signIn) hs
    | pricing =>
      exact site.consultPage_of_completes .pricing
        (completes_availableProducts.bind fun _ => completes_pure _) hs

/-! ## Following a redirect -/

theorem redirect_location_iff {target location : String} :
    (Response.redirect target).location = some location ↔
      (∀ c ∈ target.toList, Response.isHeaderChar c = true) ∧ location = target := by
  rw [← List.all_eq_true, Response.redirect]
  split
  · rename_i h
    simp [h, eq_comm]
  · rename_i h
    simp [h, Response.plain]

theorem redirect_status {target location : String}
    (h : (Response.redirect target).location = some location) :
    (Response.redirect target).status = .seeOther := by
  rw [redirect_location_iff, ← List.all_eq_true] at h
  rw [Response.redirect, if_pos h.1]

theorem answer_elsewhere {site : Site} (ht : site.routes.WellFormed) (s : Source) {r : Request}
    (hr : Leads site.routes r.uri.path .elsewhere) :
    (site.answer s r).response.status = (Response.redirect site.routes.fallback).status ∧
      (site.answer s r).response.location = (Response.redirect site.routes.fallback).location := by
  have hpath := (leads_iff ht).mp hr
  by_cases hm : r.method = "HEAD"
  · rw [answer_of_head hpath rfl hm]
    exact ⟨rfl, rfl⟩
  · rw [answer_of_ne_head hpath rfl hm]
    exact ⟨rfl, rfl⟩

/-- The request is sent on with a location that is accepted as the next request, and that one is
answered with the home page or the page of the view at the fallback. -/
structure Lands (site : Site) (s : Source) (r next : Request) (e : Endpoint) : Prop where
  status : (site.answer s r).response.status = .seeOther
  accepted : ∃ location, (site.answer s r).response.location = some location ∧
    Request.ofTexts? "GET" location = some next
  leads : Leads site.routes next.uri.path e
  meant : e = .home ∨ ∃ v, ⟨site.routes.fallback, v⟩ ∈ site.routes.entries ∧ e = .view v
  answered : site.answer s next = site.answerAt next.uri.query s e
  page : ∃ p, (site.answer s next).response = .page .ok p

end Site

namespace RouteTable

/-- A fallback that can be sent and asked for, and whose path alone leads to the page that was meant,
whatever has become of its query. -/
structure IsFollowed (t : RouteTable) (uri : Uri) : Prop where
  sent : ∀ c ∈ t.fallback.toList, Response.isHeaderChar c = true
  named : uri.IsNamedBy t.fallback
  meant : uri.path = "/" ∨ ∃ v, ⟨t.fallback, v⟩ ∈ t.entries ∧ ⟨uri.path, v⟩ ∈ t.entries ∧
    ¬ (Endpoint.view v).Refuses uri.query

theorem WellFormed.fallback_head? {t : RouteTable} (h : t.WellFormed) :
    t.fallback.toList.head? = some '/' := by
  rcases h.landing with hf | hf
  · rw [hf]
    rfl
  · exact (h.plain _ hf).head?

end RouteTable

namespace Site

open Endpoint

theorem Lands.isFollowed {site : Site} (ht : site.routes.WellFormed) {s : Source} (hs : s.IsSound)
    {r next : Request} (hr : Leads site.routes r.uri.path .elsewhere) {e : Endpoint}
    (h : site.Lands s r next e) : site.routes.IsFollowed next.uri := by
  obtain ⟨location, hlocation, hnext⟩ := h.accepted
  rw [(answer_elsewhere ht s hr).2, redirect_location_iff] at hlocation
  obtain ⟨hsent, rfl⟩ := hlocation
  obtain ⟨uri, huri, rfl⟩ := Request.ofTexts?_get_eq_some_iff.mp hnext
  refine ⟨hsent, (Uri.ofText?_eq_some_iff ht.fallback_head?).mp huri, ?_⟩
  -- the endpoint that was meant is the one that the path of the new request leads to
  rcases h.meant with rfl | ⟨v, hv, rfl⟩
  · exact .inl (leads_home_iff.mp h.leads)
  · refine .inr ⟨v, hv, leads_view_iff.mp h.leads, (site.viewPage_response_iff hs v).mp ?_⟩
    have hpage := h.page
    rwa [h.answered] at hpage

theorem exists_lands {site : Site} (ht : site.routes.WellFormed) {s : Source} (hs : s.IsSound)
    {r : Request} (hr : Leads site.routes r.uri.path .elsewhere) {uri : Uri}
    (h : site.routes.IsFollowed uri) : ∃ e, site.Lands s r ⟨"GET", uri⟩ e := by
  have hlocation : (site.answer s r).response.location = some site.routes.fallback := by
    rw [(answer_elsewhere ht s hr).2]
    exact redirect_location_iff.mpr ⟨h.sent, rfl⟩
  have hstatus : (site.answer s r).response.status = .seeOther := by
    rw [(answer_elsewhere ht s hr).1]
    exact redirect_status (redirect_location_iff.mpr ⟨h.sent, rfl⟩)
  have haccepted : Request.ofTexts? "GET" site.routes.fallback = some ⟨"GET", uri⟩ :=
    Request.ofTexts?_get_eq_some_iff.mpr ⟨uri, (Uri.ofText?_eq_some_iff ht.fallback_head?).mpr h.named, rfl⟩
  have hget : ("GET" : String) ≠ "HEAD" := by decide
  rcases h.meant with hpath | ⟨v, hv, hpath, htaken⟩
  · have hleads : Leads site.routes uri.path .home := leads_home_iff.mpr hpath
    have hanswer : site.answer s ⟨"GET", uri⟩ = site.answerAt uri.query s .home :=
      answer_of_ne_head ((leads_iff ht).mp hleads) rfl hget
    refine ⟨.home, hstatus, ⟨_, hlocation, haccepted⟩, hleads, .inl rfl, hanswer, ?_⟩
    rw [hanswer]
    exact site.homePage_response hs
  · have hleads : Leads site.routes uri.path (.view v) := leads_view_iff.mpr hpath
    have hanswer : site.answer s ⟨"GET", uri⟩ = site.answerAt uri.query s (.view v) :=
      answer_of_ne_head ((leads_iff ht).mp hleads) rfl hget
    refine ⟨.view v, hstatus, ⟨_, hlocation, haccepted⟩, hleads, .inr ⟨v, hv, rfl⟩, hanswer, ?_⟩
    rw [hanswer]
    exact (site.viewPage_response_iff hs v).mpr htaken

/-- A request for an unknown path lands on the page that was meant just when the fallback can be
followed to it. -/
theorem lands_iff_isFollowed {site : Site} (ht : site.routes.Reachable) {s : Source} (hs : s.IsSound)
    {r : Request} (hr : Leads site.routes r.uri.path .elsewhere) :
    (∃ next e, site.Lands s r next e) ↔ ∃ uri, site.routes.IsFollowed uri := by
  constructor
  · rintro ⟨next, e, h⟩
    exact ⟨next.uri, h.isFollowed ht.wellFormed hs hr⟩
  · rintro ⟨uri, h⟩
    obtain ⟨e, he⟩ := exists_lands ht.wellFormed hs hr h
    exact ⟨_, e, he⟩

theorem not_refuses_none (v : View) : ¬ (Endpoint.view v).Refuses none := by
  rintro (⟨_, hc⟩ | ⟨_, hc, _⟩) <;> cases hc

theorem isFollowed_of_path_chars {t : RouteTable} (ht : t.WellFormed)
    (hfits : t.fallback.utf8ByteSize ≤ Uri.maxBytes)
    (hpath : ∀ c ∈ t.fallback.toList, Uri.isPathChar c = true) : t.IsFollowed ⟨t.fallback, none⟩ := by
  refine ⟨fun c hc => Uri.isHeaderChar_of_isPathChar (hpath c hc),
    Uri.isNamedBy_of_path_chars hfits hpath, ht.landing.imp_right fun hm => ?_⟩
  obtain ⟨e, he, hp⟩ := List.mem_map.mp hm
  rw [← hp]
  exact ⟨e.view, he, he, not_refuses_none e.view⟩

theorem lands_on_pricing :
    let site : Site := ⟨RouteTable.console.applyAll [.redirectTo "/pricing"], ⟨5, by decide⟩⟩
    let s := Catalog.source ⟨[], [], []⟩
    let r : Request := ⟨"POST", ⟨"/prices", none⟩⟩
    site.routes.Reachable ∧ s.IsSound ∧ Leads site.routes r.uri.path .elsewhere ∧
      ∃ next e, site.Lands s r next e := by
  intro site s r
  have ht : site.routes.Reachable := ⟨RouteTable.console, List.mem_cons_self .., _, rfl⟩
  have hs : s.IsSound := by
    intro call
    cases call <;> rfl
  have hr : Leads site.routes r.uri.path .elsewhere := (leads_iff ht.wellFormed).mpr (by decide)
  have hpath : site.routes.fallback.toList.all Uri.isPathChar = true := by decide
  refine ⟨ht, hs, hr, (lands_iff_isFollowed ht hs hr).mpr ⟨_, isFollowed_of_path_chars ht.wellFormed ?_ ?_⟩⟩
  · decide
  · exact List.all_eq_true.mp hpath

/-- A view may be mounted at a path with a question mark in it. To be sent there is to ask for the
path in front of the question mark, which leads nowhere, and to be sent there again. -/
theorem redirect_loops_at_question_mark :
    let site : Site := ⟨RouteTable.empty.applyAll [.mount "/a?b" .login, .redirectTo "/a?b"], ⟨3, by decide⟩⟩
    let s := Catalog.source ⟨[], [], []⟩
    let r : Request := ⟨"GET", ⟨"/x", none⟩⟩
    let next : Request := ⟨"GET", ⟨"/a", some "b"⟩⟩
    site.routes.Reachable ∧ s.IsSound ∧ Leads site.routes r.uri.path .elsewhere ∧
      (site.answer s r).response = .redirect "/a?b" ∧
      Request.ofTexts? "GET" "/a?b" = some next ∧
      (site.answer s next).response = .redirect "/a?b" ∧
      ¬ ∃ next e, site.Lands s r next e := by
  intro site s r next
  have ht : site.routes.Reachable := ⟨RouteTable.empty, by simp, _, rfl⟩
  have hs : s.IsSound := by
    intro call
    cases call <;> rfl
  have hr : Leads site.routes r.uri.path .elsewhere := (leads_iff ht.wellFormed).mpr (by decide)
  have hagain : ∀ r' : Request, ofPath site.routes r'.uri.path = .elsewhere → r'.method = "GET" →
      (site.answer s r').response = .redirect "/a?b" := by
    intro r' hpath hget
    have hfallback : site.routes.fallback = "/a?b" := by decide
    rw [answer_of_ne_head hpath rfl (hget ▸ by decide), answerAt, hfallback]
    rfl
  have hsent := hagain r ((leads_iff ht.wellFormed).mp hr) rfl
  have hnext : Request.ofTexts? "GET" "/a?b" = some next :=
    Request.ofTexts?_get_eq_some_iff.mpr ⟨⟨"/a", some "b"⟩, by decide, rfl⟩
  have hlooped := hagain next (by decide) rfl
  refine ⟨ht, hs, hr, hsent, hnext, hlooped, ?_⟩
  -- there is no other request to be sent on to than `next`
  rintro ⟨next', e, h⟩
  obtain ⟨location, hlocation, haccepted⟩ := h.accepted
  rw [hsent, redirect_location_iff] at hlocation
  rw [hlocation.2, hnext] at haccepted
  cases haccepted
  obtain ⟨p, hp⟩ := h.page
  rw [hlooped] at hp
  cases congrArg Response.status hp

end Site

end ProxyConsole
