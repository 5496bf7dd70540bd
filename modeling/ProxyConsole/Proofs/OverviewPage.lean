import ProxyConsole.Proofs.CatalogCalls
import ProxyConsole.Proofs.PageReading

/-!
# The overview agrees with the calls

The overview shows how many records the calls of the programming interface list, and links to the
first path that leads to the servers. It is read back from its markup: a reader looks for links with
their labels and for terms with what is said of them.
-/

namespace ProxyConsole

namespace Markup

/-- What there is to see from some place of a page on: links as labels and targets, what is said of a
term further up, and terms with what is said of them. -/
structure Seen where
  links : List (List Char × List Char) := []
  said : List (List Char) := []
  terms : List (List Char × List (List Char)) := []

namespace Seen

def add (f : Seen) (t : Tag) (behind : List Char) : Seen :=
  match t.name with
  | ['a'] => { f with links := (behind, (t.value? ['h', 'r', 'e', 'f']).getD []) :: f.links }
  | ['d', 'd'] => { f with said := behind :: f.said }
  | ['d', 't'] => { f with said := [], terms := (behind, f.said) :: f.terms }
  | _ => f

def back : List Char × Seen → Token → List Char × Seen
  | (_, f), .text s => (s, f)
  | (behind, f), .tag t => ([], f.add t behind)

def link (label target : String) (f : Seen) : Seen :=
  { f with links := (label.toList, target.toList) :: f.links }

/-- Goes back over what is said of a term and over the term. -/
def term (name value : String) (f : Seen) : Seen :=
  { f with said := [], terms := (name.toList, value.toList :: f.said) :: f.terms }

def withLinks (links : List (String × String)) (f : Seen) : Seen :=
  links.foldr (fun l => link l.1 l.2) f

def withTerms (terms : List (String × String)) (f : Seen) : Seen :=
  terms.foldr (fun t => term t.1 t.2) f

theorem withLinks_eq (links : List (String × String)) (f : Seen) : withLinks links f =
    { f with links := links.map (fun l => (l.1.toList, l.2.toList)) ++ f.links } := by
  unfold withLinks
  induction links with
  | nil => rfl
  | cons l links ih =>
    rw [List.foldr_cons, ih]
    rfl

theorem withTerms_eq (terms : List (String × String)) {f : Seen} (h : f.said = []) :
    withTerms terms f =
      { f with terms := terms.map (fun t => (t.1.toList, [t.2.toList])) ++ f.terms } := by
  unfold withTerms
  induction terms with
  | nil => rfl
  | cons t terms ih =>
    rw [List.foldr_cons, ih, term, h]
    rfl

end Seen

def seen (html : String) : Seen :=
  ((read html).reverse.foldl Seen.back ([], {})).2

end Markup

open Markup
open Piece (markup text)

/-! ## Around the content -/

theorem NavItem.sees_pieces (i : NavItem) : Shows Seen.back i.pieces (Seen.link i.title i.path) :=
  shows_of_tokens fun _ _ => ⟨_, rfl⟩

theorem Markup.Seen.passesLayout : PassesLayout Seen.back := by
  constructor
  case text => exact fun _ _ _ => rfl
  case tag =>
    intro behind f t hname
    have hadd : f.add t behind = f := by
      unfold Seen.add
      split
      case h_4 => rfl
      all_goals
        rename_i heq
        rw [heq] at hname
        cases hname
    show ([], f.add t behind) = _
    rw [hadd]

namespace Overview

theorem sees_managerLink (path : String) :
    Shows Seen.back (managerLink path) (Seen.link "Manage servers" path) := by
  intro ts read
  rw [managerLink]
  refine shows_markup rfl rfl ?_
  refine shows_text_quoted ?_
  refine shows_markup rfl rfl ?_
  refine shows_end fun f => ?_
  simp only [List.foldl_cons, Seen.back, content_escape]
  exact ⟨_, rfl⟩

def figures (o : Overview) : List Piece :=
  [markup "\n<dl class=\"overview\">\n  <dt>Servers</dt><dd>", text (Decimal.ofNat o.servers),
    markup "</dd>\n  <dt>Users</dt><dd>", text (Decimal.ofNat o.users),
    markup "</dd>\n  <dt>Administrators</dt><dd>", text (Decimal.ofNat o.admins),
    markup "</dd>\n  <dt>Plans</dt><dd>", text (Decimal.ofNat o.products),
    markup "</dd>\n</dl>\n"]

def terms (o : Overview) : List (String × String) :=
  [("Servers", Decimal.ofNat o.servers), ("Users", Decimal.ofNat o.users),
    ("Administrators", Decimal.ofNat o.admins), ("Plans", Decimal.ofNat o.products)]

def links (o : Overview) : List (String × String) :=
  match o.managerPath with
  | some path => [("Manage servers", path)]
  | none => []

theorem sees_figures (o : Overview) : Shows Seen.back o.figures (Seen.withTerms o.terms) := by
  have hrun : ∀ n, [text (Decimal.ofNat n)].flatMap plain = (Decimal.ofNat n).toList := by simp [plain]
  have hterms : Seen.withTerms o.terms = Seen.term "Servers" (Decimal.ofNat o.servers) ∘
      Seen.term "Users" (Decimal.ofNat o.users) ∘
      Seen.term "Administrators" (Decimal.ofNat o.admins) ∘
      Seen.term "Plans" (Decimal.ofNat o.products) := rfl
  intro ts read
  rw [figures, hterms]
  refine shows_markup rfl rfl ?_
  refine shows_run (hrun _) (by simp [IsRun]) rfl rfl rfl ?_
  refine shows_run (hrun _) (by simp [IsRun]) rfl rfl rfl ?_
  refine shows_run (hrun _) (by simp [IsRun]) rfl rfl rfl ?_
  refine shows_run (hrun _) (by simp [IsRun]) rfl rfl rfl ?_
  refine shows_end fun f => ?_
  simp only [List.foldl_cons, Seen.back]
  exact ⟨_, rfl⟩

theorem sees_pieces (o : Overview) :
    Shows Seen.back o.pieces (Seen.withTerms o.terms ∘ Seen.withLinks o.links) := by
  have hend : Shows Seen.back [markup "\n"] id := shows_one rfl (fun _ _ => rfl) fun _ _ f => ⟨f.1, rfl⟩
  refine (o.sees_figures.append (?_ : Shows Seen.back _ (Seen.withLinks o.links))).append hend
  unfold links
  cases o.managerPath with
  | none => exact shows_nil
  | some path => exact sees_managerLink path

end Overview

/-! ## What is seen -/

namespace Page

theorem sees_pieces {p : Page} {o : Overview} (h : p.content = .overview o) :
    Shows Seen.back p.pieces (Seen.link "ssmgr" "/" ∘
      Seen.withLinks (p.nav.map fun i => (i.title, i.path)) ∘ Seen.withTerms o.terms ∘
      Seen.withLinks o.links) := by
  have hnav : Shows Seen.back (p.nav.flatMap NavItem.pieces)
      (Seen.withLinks (p.nav.map fun i => (i.title, i.path))) := by
    have hitems := shows_flatMap NavItem.sees_pieces p.nav
    unfold Seen.withLinks
    simp only [List.foldr_map]
    exact hitems
  have hcontent : Shows Seen.back p.content.pieces (Seen.withTerms o.terms ∘ Seen.withLinks o.links) := by
    rw [h, Content.pieces]
    exact o.sees_pieces
  have hhead : Shows Seen.back _ (Seen.link "ssmgr" "/") :=
    shows_head Seen.passesLayout.passesHead (fun _ => rfl) p.title
  exact (((hhead.append hnav).append
    (shows_middle Seen.passesLayout p.title)).append hcontent).append (shows_tail Seen.passesLayout)

theorem seen_overview {p : Page} {o : Overview} (h : p.content = .overview o) :
    seen p.html =
      { links := (("ssmgr", "/") :: p.nav.map (fun i => (i.title, i.path)) ++ o.links).map
          fun l => (l.1.toList, l.2.toList)
        terms := o.terms.map fun t => (t.1.toList, [t.2.toList]) } := by
  rw [seen, html, foldl_back_of_shows (sees_pieces h)]
  simp only [Function.comp_apply, Seen.withLinks_eq, Seen.withTerms_eq]
  simp [Seen.link]

end Page

/-! ## What it sums up -/

def Markup.targets (label html : String) : List (List Char) :=
  ((seen html).links.filter (·.1 = label.toList)).map (·.2)

theorem Page.targets_overview {p : Page} {o : Overview} (h : p.content = .overview o)
    (hnav : ∀ i ∈ p.nav, i.title ≠ "Manage servers") :
    targets "Manage servers" p.html = o.managerPath.toList.map String.toList := by
  have hitems : (p.nav.map fun i => (i.title, i.path)).filter (·.1 = "Manage servers") = [] := by
    rw [List.filter_eq_nil_iff]
    intro l hl
    obtain ⟨i, hi, rfl⟩ := List.mem_map.mp hl
    rw [decide_eq_true_eq]
    exact hnav i hi
  have hlinks : o.links.filter (·.1 = "Manage servers") = o.links := by
    unfold Overview.links
    cases o.managerPath <;> rfl
  have hspelled : ∀ l : String × String,
      decide (l.1.toList = "Manage servers".toList) = decide (l.1 = "Manage servers") := by
    simp only [String.toList_inj, implies_true]
  unfold targets
  rw [seen_overview h, List.filter_map, List.map_map]
  simp only [Function.comp_def, hspelled]
  rw [List.cons_append, List.filter_cons_of_neg (by decide), List.filter_append, hitems, hlinks,
    List.nil_append]
  unfold Overview.links
  cases o.managerPath <;> rfl

theorem RouteTable.pathOf?_toList (t : RouteTable) (v : View) :
    (t.pathOf? v).toList = ((t.entries.filter (·.view = v)).take 1).map (·.path) := by
  rw [pathOf?, ← List.head?_filter]
  cases t.entries.filter (·.view = v) <;> rfl

def Catalog.overview (c : Catalog) (t : RouteTable) : Overview :=
  ⟨t.pathOf? .manager, c.servers.length, (c.accountsOf (some .user)).length,
    (c.accountsOf (some .admin)).length, (Browse.offered c.products).length⟩

theorem Site.homePage_catalog (site : Site) (c : Catalog) : site.homePage c.source =
    ⟨[.listServers, .listAccounts (some .user), .listAccounts (some .admin), .listProducts],
      .page .ok (site.page none "Overview" (.overview (c.overview site.routes)))⟩ := by
  have hlength : ∀ role, (c.accountsOf role).length =
      ((c.accountsOf role).mergeSort Browse.older).length := fun _ => (List.length_mergeSort _).symm
  unfold Catalog.overview
  rw [hlength, hlength]
  rfl

theorem Catalog.length_accountsOf (c : Catalog) :
    (c.accountsOf (some .user)).length + (c.accountsOf (some .admin)).length = c.accounts.length := by
  have hadmin : c.accountsOf (some .admin) = c.accounts.filter fun a => !decide (a.role = .user) := by
    refine List.filter_congr fun a _ => ?_
    cases a.role <;> rfl
  rw [hadmin]
  exact (List.length_eq_length_filter_add _).symm

/-- The lists that the calls of the programming interface answer with. -/
structure Listings where
  servers : List Json
  users : List Json
  admins : List Json
  accounts : List Json
  products : List Json

namespace Site

open Endpoint

structure AnswersWith (site : Site) (s : Source) (l : Listings) : Prop where
  servers : ∀ query, (site.answer s ⟨"GET", ⟨"/api/servers", query⟩⟩).response =
    .json .ok (.array l.servers)
  users : (site.answer s ⟨"GET", ⟨"/api/accounts", some "role=user"⟩⟩).response =
    .json .ok (.array l.users)
  admins : (site.answer s ⟨"GET", ⟨"/api/accounts", some "role=admin"⟩⟩).response =
    .json .ok (.array l.admins)
  accounts : (site.answer s ⟨"GET", ⟨"/api/accounts", none⟩⟩).response = .json .ok (.array l.accounts)
  products : ∀ query, (site.answer s ⟨"GET", ⟨"/api/products", query⟩⟩).response =
    .json .ok (.array l.products)

/-- An overview that shows how long the lists are, and links to the first path of the manager if it
has one. -/
structure SumsUp (site : Site) (s : Source) (l : Listings) (html : String) : Prop where
  accounts : l.users.length + l.admins.length = l.accounts.length
  terms : (seen html).terms = [("Servers".toList, [(Decimal.ofNat l.servers.length).toList]),
    ("Users".toList, [(Decimal.ofNat l.users.length).toList]),
    ("Administrators".toList, [(Decimal.ofNat l.admins.length).toList]),
    ("Plans".toList, [(Decimal.ofNat l.products.length).toList])]
  link : targets "Manage servers" html =
    ((site.routes.entries.filter (·.view = .manager)).take 1).map (·.path.toList)
  followed : ∀ e ∈ site.routes.entries, e.view = .manager →
    Leads site.routes e.path (.view .manager) ∧
      ∀ query, site.answer s ⟨"GET", ⟨e.path, query⟩⟩ = site.managerPage query s

theorem nav_title_ne (t : RouteTable) (shown : Option View) :
    ∀ i ∈ t.nav shown, i.title ≠ "Manage servers" := by
  intro i hi
  obtain ⟨e, _, rfl⟩ := List.mem_map.mp hi
  show e.view.title ≠ _
  cases e.view <;> decide

theorem answersWith_catalog {site : Site} (ht : site.routes.Reachable) (c : Catalog) :
    site.AnswersWith c.source
      { servers := c.servers.map ServerRecord.toJson
        users := ((c.accountsOf (some .user)).mergeSort Browse.older).map Account.toJson
        admins := ((c.accountsOf (some .admin)).mergeSort Browse.older).map Account.toJson
        accounts := (c.accounts.mergeSort Browse.older).map Account.toJson
        products := (Browse.offered c.products).map Product.toJson } := by
  have huser : Form.role (some "role=user") = .ok ((some Role.user).map Role.name) := by decide +kernel
  have hadmin : Form.role (some "role=admin") = .ok ((some Role.admin).map Role.name) := by
    decide +kernel
  have hany : Form.role none = .ok ((none : Option Role).map Role.name) := rfl
  constructor
  case servers => exact fun query => congrArg Answer.response (answer_servers ht query)
  case users => exact congrArg Answer.response (answer_accounts ht huser)
  case admins => exact congrArg Answer.response (answer_accounts ht hadmin)
  case accounts => exact congrArg Answer.response (answer_accounts ht hany)
  case products => exact fun query => congrArg Answer.response (answer_products ht query)

/-- The overview agrees with the calls: it shows how many records they list, and its link to the
servers leads to the page of the first entry that has them. -/
theorem overview_sumsUp {site : Site} (ht : site.routes.Reachable) (c : Catalog) :
    ∃ p l, (∀ query, (site.answer c.source ⟨"GET", ⟨"/", query⟩⟩).response = .page .ok p) ∧
      site.AnswersWith c.source l ∧ site.SumsUp c.source l p.html := by
  have hcontent : (site.page none "Overview" (.overview (c.overview site.routes))).content =
      .overview (c.overview site.routes) := rfl
  refine ⟨site.page none "Overview" (.overview (c.overview site.routes)), _, fun query => ?_,
    answersWith_catalog ht c, ?_⟩
  · rw [answer_get_of_serves ht .home (by decide), answerAt, homePage_catalog]
  · constructor
    case accounts =>
      simp only [List.length_map, List.length_mergeSort]
      exact c.length_accountsOf
    case terms =>
      rw [Page.seen_overview hcontent]
      simp [Overview.terms, Catalog.overview]
    case link =>
      rw [Page.targets_overview hcontent (nav_title_ne _ _)]
      simp [Catalog.overview, RouteTable.pathOf?_toList, Function.comp_def]
    case followed =>
      intro e he hview
      have hserves : Serves site.routes e.path (.view .manager) := hview ▸ .view he
      exact ⟨.serves hserves, fun query => answer_get_of_serves ht hserves (by decide) query _⟩

/-- The standard path of the manager may be given to another view, and the manager have others. -/
theorem overview_links_moved_manager :
    let routes := RouteTable.console.applyAll
      [.mount "/manager" .pricing, .mount "/a?b" .manager, .mount "/c" .manager]
    let site : Site := ⟨routes, ⟨5, by decide⟩⟩
    let c : Catalog := ⟨[⟨⟨"HK", rfl⟩, "10.0.0.1", 8388, "one"⟩], [], []⟩
    site.routes.Reachable ∧ ∃ p l,
      (∀ query, (site.answer c.source ⟨"GET", ⟨"/", query⟩⟩).response = .page .ok p) ∧
      site.AnswersWith c.source l ∧ site.SumsUp c.source l p.html ∧
      targets "Manage servers" p.html = ["/a?b".toList] := by
  intro routes site c
  have ht : site.routes.Reachable := ⟨RouteTable.console, List.mem_cons_self .., _, rfl⟩
  obtain ⟨p, l, hhome, hanswers, hsums⟩ := overview_sumsUp ht c
  have hfirst : (site.routes.entries.filter (·.view = .manager)).take 1 = [⟨"/a?b", .manager⟩] := by
    decide
  have hlink := hsums.link
  rw [hfirst] at hlink
  exact ⟨ht, p, l, hhome, hanswers, hsums, hlink⟩

end Site

end ProxyConsole
