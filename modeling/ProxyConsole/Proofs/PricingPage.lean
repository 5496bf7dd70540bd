import ProxyConsole.Proofs.CatalogCalls
import ProxyConsole.Proofs.PageReading
import ProxyConsole.Proofs.StableOrder

/-!
# Products on offer

The products that can be ordered are those that are available, cheapest first. The call and the pages
with the prices show all of them in this order. A page is read back from its markup: a reader looks
for articles with a heading, a price and a paragraph.
-/

namespace ProxyConsole

/-! ## The offer -/

def Product.cents (p : Product) : Nat :=
  p.priceCents.toNat

/-- The available products of a list, each as often as in the list, by their prices. -/
structure IsOffer (products offered : List Product) : Prop where
  count : ∀ p, offered.count p = if p.status = .available then products.count p else 0
  ordered : offered.Pairwise fun p q => p.cents ≤ q.cents
  stable : ∀ price, offered.filter (·.cents = price) =
    (products.filter (·.status = .available)).filter (·.cents = price)
  filtered : ∃ sorted, InOrder Product.cents products sorted ∧
    offered = sorted.filter (·.status = .available)

namespace Browse

theorem cheaper_iff (p q : Product) : cheaper p q = true ↔ p.cents ≤ q.cents := by
  simp [cheaper, Product.cents, UInt32.le_iff_toNat_le]

theorem inOrder_offered (products : List Product) :
    InOrder Product.cents (products.filter Product.isAvailable) (offered products) :=
  inOrder_mergeSort cheaper_iff _

theorem isOffer_offered (products : List Product) : IsOffer products (offered products) := by
  have horder := inOrder_offered products
  constructor
  case count =>
    intro p
    rw [horder.perm.count_eq]
    by_cases hp : p.status = .available
    · rw [if_pos hp, List.count_filter (by simp [Product.isAvailable, hp])]
    · rw [if_neg hp, List.count_eq_zero]
      simp [Product.isAvailable, hp]
  case ordered => exact horder.ordered
  case stable => exact horder.stable
  case filtered =>
    have hsorted := inOrder_mergeSort cheaper_iff products
    exact ⟨_, hsorted, horder.unique (hsorted.filter Product.isAvailable)⟩

theorem availableProducts_of_ok {s : Source} {products : List Product}
    (h : s.listProducts = .ok products) :
    availableProducts s = ⟨[.listProducts], .ok (offered products)⟩ := by
  have hask : (Consult.ask .listProducts (·.listProducts) s).result = .ok products := h
  unfold availableProducts
  rw [Consult.bind_of_ok hask]
  rfl

end Browse

/-! ## Reading plans -/

namespace Markup

structure ShownPlan where
  names : List (List Char)
  prices : List (List Char)
  descriptions : List (List Char)

/-- What has been found from some place of a page on: names, prices and descriptions that are in no
plan yet, and plans. -/
structure Shelf where
  names : List (List Char) := []
  prices : List (List Char) := []
  descriptions : List (List Char) := []
  plans : List ShownPlan := []

namespace Shelf

def add (f : Shelf) (behind : List Char) (t : Tag) : Shelf :=
  match t.name with
  | ['a', 'r', 't', 'i', 'c', 'l', 'e'] => { plans := ⟨f.names, f.prices, f.descriptions⟩ :: f.plans }
  | ['h', '2'] => { f with names := behind :: f.names }
  | ['p'] =>
    match t.value? ['c', 'l', 'a', 's', 's'] with
    | none => { f with descriptions := behind :: f.descriptions }
    | some ['p', 'r', 'i', 'c', 'e'] => { f with prices := behind :: f.prices }
    | some _ => f
  | _ => f

def back : List Char × Shelf → Token → List Char × Shelf
  | (_, f), .text s => (s, f)
  | (behind, f), .tag t => ([], f.add behind t)

theorem add_eq_self {t : Tag} (h : [['a', 'r', 't', 'i', 'c', 'l', 'e'], ['h', '2'], ['p']].contains
    t.name = false) (f : Shelf) (behind : List Char) : f.add behind t = f := by
  unfold add
  split
  case h_4 => rfl
  all_goals
    rename_i heq
    rw [heq] at h
    cases h

theorem passesFrame : PassesFrame back := by
  have hback : ∀ behind f t, back (behind, f) (.tag t) = ([], f.add behind t) := fun _ _ _ => rfl
  refine ⟨⟨fun _ _ _ => rfl, fun behind f t hname => ?_⟩, fun behind f t hname => ?_⟩
  · rw [hback, add_eq_self]
    simp at hname
    simp [hname]
  · rw [hback, add_eq_self]
    simp [hname]

end Shelf

def shelf (html : String) : Shelf :=
  ((read html).reverse.foldl Shelf.back ([], {})).2

end Markup

open Markup
open Piece (markup text)

namespace Plan

def change (p : Plan) (f : Shelf) : Shelf :=
  { plans := ⟨p.name.toList :: f.names, ("$" ++ p.priceLabel).toList :: f.prices,
      p.description.toList :: f.descriptions⟩ :: f.plans }

theorem content_price (label : String) :
    content ((Piece.escape label).toList.reverse ++ ['$']) = ("$" ++ label).toList := by
  simp [content, unescape_cons, unescape_escape_all]

theorem shows_pieces (p : Plan) : Shows Shelf.back p.pieces p.change := by
  intro ts read
  rw [pieces]
  refine shows_markup rfl rfl ?_
  refine shows_text ?_
  refine shows_markup rfl rfl ?_
  refine shows_text ?_
  refine shows_markup rfl rfl ?_
  refine shows_text ?_
  refine shows_markup rfl rfl ?_
  refine shows_end fun f => ?_
  simp only [List.foldl_cons, Shelf.back, content_escape, content_price]
  exact ⟨_, rfl⟩

def shown (p : Plan) : ShownPlan :=
  ⟨[p.name.toList], [("$" ++ p.priceLabel).toList], [p.description.toList]⟩

theorem foldr_change (plans : List Plan) : plans.foldr change {} = { plans := plans.map shown } := by
  induction plans with
  | nil => rfl
  | cons p plans ih =>
    rw [List.foldr_cons, ih]
    rfl

end Plan

theorem Content.shows_planPieces (plans : List Plan) :
    Shows Shelf.back (planPieces plans) fun f => plans.foldr Plan.change f := by
  unfold planPieces
  by_cases hplans : plans.isEmpty
  · rw [if_pos hplans, List.isEmpty_iff.mp hplans]
    exact shows_one rfl (fun _ _ => rfl) fun _ _ _ => ⟨_, rfl⟩
  · have hopening : Shows Shelf.back [markup "\n\n<section class=\"plans\">\n  "] id :=
      shows_one rfl (fun _ _ => rfl) fun _ _ _ => ⟨_, rfl⟩
    have hclosing : Shows Shelf.back [markup "\n</section>\n\n"] id :=
      shows_one rfl (fun _ _ => rfl) fun _ _ _ => ⟨_, rfl⟩
    rw [if_neg hplans]
    exact (hopening.append (shows_flatMap Plan.shows_pieces plans)).append hclosing

theorem Page.shelf_plans {p : Page} {plans : List Plan} (h : p.content = .plans plans) :
    shelf p.html = { plans := plans.map Plan.shown } := by
  have hcontent : Shows Shelf.back p.content.pieces fun f => plans.foldr Plan.change f := by
    rw [h, Content.pieces]
    exact Content.shows_planPieces plans
  rw [shelf, html, foldl_back_of_shows (Page.shows_pieces Shelf.passesFrame p hcontent),
    Plan.foldr_change]

/-! ## Answers -/

namespace Site

/-- The offer is what the console finds available in a source, what the call answers with, and what
the pages at the paths of the view show. -/
structure ShowsOffer (site : Site) (s : Source) (offered : List Product) : Prop where
  available : Browse.availableProducts s = ⟨[.listProducts], .ok offered⟩
  call : ∀ query, site.answer s ⟨"GET", ⟨"/api/products", query⟩⟩ =
    ⟨[.listProducts], .json .ok (.array (offered.map Product.toJson))⟩
  page : ∀ path query, ⟨path, .pricing⟩ ∈ site.routes.entries → ∃ p,
    site.answer s ⟨"GET", ⟨path, query⟩⟩ = ⟨[.listProducts], .page .ok p⟩ ∧
    (shelf p.html).plans = offered.map fun product =>
      ⟨[product.name.toList], [("$" ++ product.priceLabel).toList], [product.description.toList]⟩

/-- Whatever products a source lists, the call and the pages show the offer made of them. -/
theorem offer_shown_in_order {site : Site} (ht : site.routes.Reachable) {s : Source}
    {products : List Product} (hs : s.listProducts = .ok products) :
    ∃ offered, IsOffer products offered ∧ site.ShowsOffer s offered := by
  have havailable := Browse.availableProducts_of_ok hs
  refine ⟨Browse.offered products, Browse.isOffer_offered products, ?_⟩
  constructor
  case available => exact havailable
  case call =>
    intro query
    rw [answer_get_of_serves ht .products (by decide), answerAt, productsCall, Answer.consult, havailable]
  case page =>
    intro path query hpath
    have hserves : Endpoint.Serves site.routes path (.view .pricing) := .view hpath
    have hplans : plans s = ⟨[.listProducts],
        .ok (.plans ((Browse.offered products).map Plan.ofProduct))⟩ := by
      unfold plans
      rw [Consult.bind_of_ok (congrArg _ havailable), havailable]
      rfl
    refine ⟨site.page (some .pricing) View.pricing.title
      (.plans ((Browse.offered products).map Plan.ofProduct)), ?_, ?_⟩
    · rw [answer_get_of_serves ht hserves (by decide), answerAt, viewPage, consultPage, Answer.consult,
        hplans]
    · rw [Page.shelf_plans rfl, List.map_map]
      rfl

/-- Two products of one price behind a dearer one, and a product that is not offered any more. -/
theorem offer_shown_in_order_with_tie :
    let product (id : BitVec 128) (name : String) (cents : UInt32) (status : ProductStatus) : Product :=
      ⟨⟨⟨id⟩⟩, name, cents, "R&D", status⟩
    let site : Site := ⟨RouteTable.console.applyAll [.mount "/plans" .pricing], ⟨5, by decide⟩⟩
    let c : Catalog := ⟨[], [], [product 1 "large" 1999 .available, product 2 "old" 99 .discontinued,
      product 3 "<small>" 499 .available, product 4 "mini" 499 .available]⟩
    site.routes.Reachable ∧ c.source.listProducts = .ok c.products ∧
      ⟨"/plans", .pricing⟩ ∈ site.routes.entries ∧
      ∃ offered, IsOffer c.products offered ∧ site.ShowsOffer c.source offered := by
  intro product site c
  have ht : site.routes.Reachable := ⟨RouteTable.console, List.mem_cons_self .., _, rfl⟩
  have hs : c.source.listProducts = .ok c.products := rfl
  exact ⟨ht, hs, by decide, offer_shown_in_order ht hs⟩

end Site

end ProxyConsole
