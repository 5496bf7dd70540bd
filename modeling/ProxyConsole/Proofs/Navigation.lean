import ProxyConsole.Proofs.CatalogCalls
import ProxyConsole.Proofs.PageReading

/-!
# The navigation of a page

A page at a path of the table has an item for each entry, and marks those of the view it shows. The
navigation is read back from the markup: a reader looks for items and the links in them, and forgets
what stands behind the end of the navigation, so the content of the page plays no part.
-/

namespace ProxyConsole

namespace Markup

/-! ## Reading items -/

structure Link where
  attributes : List (List Char × List Char)
  label : List Char

def Link.isCurrent (l : Link) : Bool :=
  l.attributes.contains ("aria-current".toList, "page".toList)

/-- The items from some place of a navigation on, each with its links, and the links that are in no
item yet. -/
structure Items where
  links : List Link := []
  items : List (List Link) := []

namespace Items

def add (f : Items) (behind : List Char) (t : Tag) : Items :=
  match t.name with
  | ['a'] => { f with links := ⟨t.attributes, behind⟩ :: f.links }
  | ['/', 'l', 'i'] => { f with links := [] }
  | ['l', 'i'] => { links := [], items := f.links :: f.items }
  | ['/', 'n', 'a', 'v'] => {}
  | _ => f

def back : List Char × Items → Token → List Char × Items
  | (_, f), .text s => (s, f)
  | (behind, f), .tag t => ([], f.add behind t)

theorem passesHead : PassesHead back where
  text _ _ _ := rfl
  tag behind f t h := by
    have hadd : f.add behind t = f := by
      unfold add
      split
      case h_5 => rfl
      all_goals
        rename_i heq
        rw [heq] at h
        simp at h
    show ([], f.add behind t) = _
    rw [hadd]

end Items

def items (html : String) : List (List Link) :=
  ((read html).reverse.foldl Items.back ([], {})).2.items

def currentLinks (html : String) : List Link :=
  (items html).flatten.filter Link.isCurrent

/-! ## What stands behind -/

namespace Reading

theorem tokens_takeAll (r : Reading) (cs : List Char) :
    ∃ more, (r.takeAll cs).tokens = more ++ r.tokens := by
  induction cs generalizing r with
  | nil => exact ⟨[], rfl⟩
  | cons c cs ih =>
    obtain ⟨more, hmore⟩ := ih (r.take c)
    refine ⟨more ++ (r.place.step c).1.toList, ?_⟩
    rw [takeAll, List.foldl_cons, List.append_assoc]
    exact hmore

theorem tokens_pieces (r : Reading) (ps : List Piece) :
    ∃ more, (r.pieces ps).tokens = more ++ r.tokens := by
  rw [← takeAll_renderAll]
  exact r.tokens_takeAll _

end Reading

/-- Pieces that keep nothing of what is found behind them show the same whatever follows. -/
theorem foldl_back_of_shows_const {F : Type} {back : List Char × F → Token → List Char × F}
    {ps : List Piece} {shown : F} (h : Shows back ps fun _ => shown) (qs : List Piece) (f : F) :
    ((read (Piece.renderAll (ps ++ qs))).reverse.foldl back ([], f)).2 = shown := by
  obtain ⟨_, _, hback⟩ := h [] []
  obtain ⟨more, hmore⟩ := (Reading.pieces ⟨[], .text []⟩ ps).tokens_pieces qs
  obtain ⟨behind, hbehind⟩ := hback (more.foldl back ([], f))
  rw [read, Reading.takeAll_renderAll, Reading.pieces_append, List.reverse_reverse, hmore,
    List.foldl_append, hbehind]
  rfl

end Markup

open Markup
open Piece (markup text)

/-! ## The items of a page -/

theorem Piece.renderAll_split (before between after : List Piece) (a b : String) :
    renderAll (before ++ (markup (a ++ b) :: between) ++ after) =
      renderAll (before ++ [markup a] ++ (markup b :: between ++ after)) := by
  unfold renderAll
  simp only [List.map_append, List.map_cons, List.map_nil, render]
  rw [← String.toList_inj]
  simp [String.toList_join]

namespace NavItem

def link (i : NavItem) : Link :=
  ⟨i.attributes, i.title.toList⟩

theorem isCurrent_link (i : NavItem) : i.link.isCurrent = i.active := by
  unfold Link.isCurrent link attributes
  by_cases h : i.active = true
  · simp [h]
  · simp [h]

theorem items_pieces (i : NavItem) :
    Shows Items.back i.pieces fun f => { links := [], items := [i.link] :: f.items } :=
  shows_of_tokens fun _ _ => ⟨_, rfl⟩

end NavItem

namespace Page

theorem items_nav (nav : List NavItem) : Shows Items.back
    (nav.flatMap NavItem.pieces ++ [markup "\n    </ul>\n  </nav>"])
    fun _ => { items := nav.map fun i => [i.link] } := by
  have hend : Shows Items.back [markup "\n    </ul>\n  </nav>"] fun _ => {} :=
    shows_one rfl (fun _ _ => rfl) fun _ _ _ => ⟨_, rfl⟩
  have hfold : nav.foldr (fun i f => { links := [], items := [i.link] :: f.items }) ({} : Items) =
      { items := nav.map fun i => [i.link] } := by
    induction nav with
    | nil => rfl
    | cons i nav ih => rw [List.foldr_cons, ih, List.map_cons]
  rw [← hfold]
  exact (shows_flatMap NavItem.items_pieces nav).append hend

theorem items_html (p : Page) : items p.html = p.nav.map fun i => [i.link] := by
  have hmiddle : "\n    </ul>\n  </nav>\n  <main>\n    <h1>" =
      "\n    </ul>\n  </nav>" ++ "\n  <main>\n    <h1>" := rfl
  have hhead := shows_head Items.passesHead (fun _ => rfl) p.title
  rw [items, html, pieces, hmiddle, List.append_assoc (_ ++ _) p.content.pieces, Piece.renderAll_split,
    List.append_assoc _ (p.nav.flatMap NavItem.pieces),
    foldl_back_of_shows_const (hhead.append (items_nav p.nav))]

theorem currentLinks_html (p : Page) :
    currentLinks p.html = (p.nav.filter (·.active)).map NavItem.link := by
  have hflat : (p.nav.map fun i => [i.link]).flatten = p.nav.map NavItem.link := by
    rw [← List.flatMap_def, List.map_eq_flatMap]
  rw [currentLinks, items_html, hflat, List.filter_map]
  simp only [Function.comp_def, NavItem.isCurrent_link]

end Page

/-! ## The entries of a table -/

def ViewRoute.link (e : ViewRoute) (current : Bool) : Link :=
  NavItem.link ⟨e.path, e.view.title, current⟩

theorem RouteTable.filter_active_nav (t : RouteTable) (v : View) :
    ((t.nav (some v)).filter (·.active)).map NavItem.link =
      (t.entries.filter (·.view = v)).map (·.link true) := by
  unfold nav
  rw [List.filter_map, List.map_map]
  have hactive : ∀ e : ViewRoute, decide (some e.view = some v) = decide (e.view = v) := by simp
  simp only [Function.comp_def, hactive]
  refine List.map_congr_left fun e he => ?_
  rw [(List.mem_filter.mp he).2]
  rfl

theorem RouteTable.WellFormed.filter_view_eq_singleton_iff {t : RouteTable} (h : t.WellFormed)
    {e : ViewRoute} (he : e ∈ t.entries) : t.entries.filter (·.view = e.view) = [e] ↔
      ∀ e' ∈ t.entries, e'.view = e.view → e' = e := by
  have hmem : ∀ e', e' ∈ t.entries.filter (·.view = e.view) ↔ e' ∈ t.entries ∧ e'.view = e.view := by
    simp
  constructor
  · intro hfilter e' he' hview
    have hboth := (hmem e').mpr ⟨he', hview⟩
    rwa [hfilter, List.mem_singleton] at hboth
  · intro honly
    have hnodup : t.entries.Nodup := List.Nodup.of_map _ h.distinct
    refine List.perm_singleton.mp ((List.perm_ext_iff_of_nodup (hnodup.filter _)
      (List.nodup_singleton e)).mpr fun e' => ?_)
    rw [hmem, List.mem_singleton]
    exact ⟨fun hboth => honly e' hboth.1 hboth.2, fun heq => heq.symm ▸ ⟨he, rfl⟩⟩

/-! ## Answers -/

namespace Site

/-- A page with an item for each entry, marked where the entry has the view at `e`. That is the one
item of `e` just if no other path has its view. -/
structure Marks (site : Site) (e : ViewRoute) (html : String) : Prop where
  items : items html = site.routes.entries.map fun e' => [e'.link (e'.view = e.view)]
  current : currentLinks html = (site.routes.entries.filter (·.view = e.view)).map (·.link true)
  itself : e.link true ∈ currentLinks html
  alone : currentLinks html = [e.link true] ↔
    ∀ e' ∈ site.routes.entries, e'.view = e.view → e' = e

theorem marks_of_nav {site : Site} (ht : site.routes.WellFormed) {e : ViewRoute}
    (he : e ∈ site.routes.entries) {p : Page} (hnav : p.nav = site.routes.nav (some e.view)) :
    site.Marks e p.html := by
  have hcurrent : currentLinks p.html =
      (site.routes.entries.filter (·.view = e.view)).map (·.link true) := by
    rw [p.currentLinks_html, hnav, RouteTable.filter_active_nav]
  have hmem : e ∈ site.routes.entries.filter (·.view = e.view) := by simp [he]
  constructor
  case items =>
    rw [p.items_html, hnav, RouteTable.nav, List.map_map]
    refine List.map_congr_left fun e' _ => ?_
    simp [ViewRoute.link]
  case current => exact hcurrent
  case itself =>
    rw [hcurrent]
    exact List.mem_map_of_mem hmem
  case alone =>
    rw [hcurrent, ← ht.filter_view_eq_singleton_iff he, List.map_eq_singleton_iff]
    constructor
    · intro hlinks
      obtain ⟨e', hfilter, _⟩ := hlinks
      rw [hfilter, List.mem_singleton] at hmem
      rw [hfilter, hmem]
    · intro hfilter
      exact ⟨e, hfilter, rfl⟩

theorem consultPage_nav (site : Site) (v : View) (c : Consult Content) (s : Source) : ∃ status p,
    (site.consultPage v c s).response = .page status p ∧ p.nav = site.routes.nav (some v) := by
  unfold consultPage Answer.consult
  cases h : (c s).result with
  | ok content =>
    refine ⟨.ok, site.page (some v) v.title content, ?_, rfl⟩
    simp only [h]
  | error e =>
    refine ⟨.ofFault e, site.page (some v) "Error" (.failure (Status.ofFault e).code e.message), ?_, rfl⟩
    simp only [h, pageFault]

/-- What is shown at the path of a view, unless a query is refused that the manager cannot read. -/
theorem viewPage_nav (site : Site) (query : Option String) (s : Source) (v : View) :
    (∃ status p, (site.viewPage query s v).response = .page status p ∧
      p.nav = site.routes.nav (some v)) ∨
    v = .manager ∧ ∃ cause, Form.columns query = .error cause ∧
      site.viewPage query s v = .direct (badQuery cause) := by
  cases v with
  | manager =>
    unfold viewPage managerPage
    cases hcolumns : Form.columns query with
    | error cause => exact .inr ⟨rfl, cause, rfl, rfl⟩
    | ok columns => exact .inl (consultPage_nav ..)
  | userList => exact .inl (consultPage_nav ..)
  | admin => exact .inl (consultPage_nav ..)
  | login => exact .inl (consultPage_nav ..)
  | pricing => exact .inl (consultPage_nav ..)

/-- Whatever a source answers, the page at the path of an entry marks the items of its view. Only the
manager may answer without a page, to a query it cannot read. -/
theorem page_marks_view {site : Site} (ht : site.routes.Reachable) {e : ViewRoute}
    (he : e ∈ site.routes.entries) (query : Option String) (s : Source) :
    (∃ status p, (site.answer s ⟨"GET", ⟨e.path, query⟩⟩).response = .page status p ∧
      site.Marks e p.html) ∨
    e.view = .manager ∧ ∃ cause, Form.columns query = .error cause ∧
      site.answer s ⟨"GET", ⟨e.path, query⟩⟩ = .direct (badQuery cause) := by
  have hserves : Endpoint.Serves site.routes e.path (.view e.view) := .view he
  rw [answer_get_of_serves ht hserves (by simp), answerAt]
  apply (site.viewPage_nav query s e.view).imp_left
  intro hpage
  obtain ⟨status, p, hp, hnav⟩ := hpage
  exact ⟨status, p, hp, marks_of_nav ht.wellFormed he hnav⟩

/-- The manager at two paths, asked at the second for a count of columns that is refused. -/
theorem error_page_marks_both_managers :
    let site : Site :=
      ⟨RouteTable.console.applyAll [.mount "/console/servers" .manager], ⟨5, by decide⟩⟩
    let s := Catalog.source ⟨[], [], []⟩
    let e : ViewRoute := ⟨"/console/servers", .manager⟩
    let r : Request := ⟨"GET", ⟨e.path, some "columns=0"⟩⟩
    site.routes.Reachable ∧ e ∈ site.routes.entries ∧
      Request.ofTexts? "GET" "/console/servers?columns=0" = some r ∧ ∃ status p,
        (site.answer s r).response = .page status p ∧
        site.Marks e p.html ∧ currentLinks p.html ≠ [e.link true] := by
  intro site s e r
  have ht : site.routes.Reachable := ⟨RouteTable.console, List.mem_cons_self .., _, rfl⟩
  have he : e ∈ site.routes.entries := by decide
  have huri : Uri.ofText? "/console/servers?columns=0" = some r.uri := by decide +kernel
  have hr : Request.ofTexts? "GET" "/console/servers?columns=0" = some r := by
    rw [Request.ofTexts?, huri]
    rfl
  have hcolumns : Form.columns (some "columns=0") = .ok (some 0) := by decide +kernel
  rcases page_marks_view ht he (some "columns=0") s with ⟨status, p, hp, hmarks⟩ | ⟨_, cause, hcause, _⟩
  · refine ⟨ht, he, hr, status, p, hp, hmarks, fun honly => ?_⟩
    have hsame := hmarks.alone.mp honly ⟨"/manager", .manager⟩ (by decide) rfl
    exact absurd hsame (by decide)
  · rw [hcolumns] at hcause
    cases hcause

/-- The prices at a second path, and both items marked there. -/
theorem pricing_at_second_path_marks_two :
    let site : Site := ⟨RouteTable.console.applyAll [.mount "/console/pricing" .pricing], ⟨5, by decide⟩⟩
    let s := Catalog.source ⟨[], [], []⟩
    let e : ViewRoute := ⟨"/console/pricing", .pricing⟩
    let r : Request := ⟨"GET", ⟨e.path, none⟩⟩
    site.routes.Reachable ∧ e ∈ site.routes.entries ∧ Request.ofTexts? "GET" e.path = some r ∧
      ∃ p, (site.answer s r).response = .page .ok p ∧
        currentLinks p.html = [ViewRoute.link ⟨"/pricing", .pricing⟩ true, e.link true] ∧
        currentLinks p.html ≠ [e.link true] := by
  intro site s e r
  have ht : site.routes.Reachable := ⟨RouteTable.console, List.mem_cons_self .., _, rfl⟩
  have he : e ∈ site.routes.entries := by decide
  have huri : Uri.ofText? e.path = some r.uri := by decide +kernel
  have hr : Request.ofTexts? "GET" e.path = some r := by
    rw [Request.ofTexts?, huri]
    rfl
  have hserves : Endpoint.Serves site.routes e.path (.view .pricing) := .view he
  have hentries : site.routes.entries.filter (·.view = .pricing) =
      [⟨"/pricing", .pricing⟩, ⟨"/console/pricing", .pricing⟩] := by decide
  have hcurrent : ∀ p : Page, p.nav = site.routes.nav (some .pricing) →
      currentLinks p.html = [ViewRoute.link ⟨"/pricing", .pricing⟩ true, e.link true] := by
    intro p hnav
    rw [p.currentLinks_html, hnav, RouteTable.filter_active_nav, hentries]
    rfl
  refine ⟨ht, he, hr, site.page (some .pricing) View.pricing.title
    (.plans ((Browse.offered []).map Plan.ofProduct)), ?_, hcurrent _ rfl, ?_⟩
  · rw [answer_get_of_serves ht hserves (by decide), answerAt]
    rfl
  · rw [hcurrent _ rfl]
    simp

end Site

end ProxyConsole
