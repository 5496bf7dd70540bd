import ProxyConsole.Proofs.Passwords

/-!
# Products that are not offered

No answer tells whether the source keeps discontinued products. Taking them out of a source changes
neither what any computation of the console returns nor which calls it makes, so sources that are
left with the same products cannot be told apart.
-/

namespace ProxyConsole

/-! ## What is left of a source -/

def Source.onOffer (s : Source) : Source :=
  { s with listProducts := s.listProducts.map (List.filter Product.isAvailable) }

def Catalog.onOffer (c : Catalog) : Catalog :=
  { c with products := c.products.filter Product.isAvailable }

theorem Catalog.source_onOffer (c : Catalog) : c.source.onOffer = c.onOffer.source := rfl

/-- Catalogs that differ in nothing but discontinued products and where in the list these are. -/
structure Catalog.SameOffer (c c' : Catalog) : Prop where
  servers : c.servers = c'.servers
  accounts : c.accounts = c'.accounts
  products : c.products.filter Product.isAvailable = c'.products.filter Product.isAvailable

theorem Catalog.SameOffer.source_onOffer {c c' : Catalog} (h : c.SameOffer c') :
    c.source.onOffer = c'.source.onOffer := by
  rw [Catalog.source_onOffer, Catalog.source_onOffer]
  unfold onOffer
  rw [h.servers, h.accounts, h.products]

namespace Consult

/-- Cannot tell a source from what is left of it. -/
def Blind {α : Type} (c : Consult α) : Prop :=
  ∀ s : Source, c s.onOffer = c s

theorem blind_pure {α : Type} (a : α) : Blind (Pure.pure a) :=
  fun _ => rfl

theorem blind_ofExcept {α : Type} (r : Except Fault α) : Blind (ofExcept r) :=
  fun _ => rfl

theorem Blind.bind {α β : Type} {c : Consult α} {next : α → Consult β} (h : Blind c)
    (hn : ∀ a, Blind (next a)) : Blind (c >>= next) :=
  fun s => bind_congr (h s) fun a => hn a s

end Consult

/-! ## What the console asks -/

namespace Browse

open Consult

theorem servers_blind : Blind servers :=
  fun _ => rfl

theorem grid_blind (standard : Columns) (columns : Option Int) : Blind (grid standard columns) := by
  intro s
  have h : s.onOffer.listServers = s.listServers := rfl
  exact grid_congr h standard columns

theorem server_blind (id : ServerId) : Blind (server id) :=
  Blind.bind (fun _ => rfl) fun _ => blind_ofExcept _

theorem accounts_blind (role : Option Role) : Blind (accounts role) :=
  Blind.bind (fun _ => rfl) fun _ => blind_pure _

theorem account_blind (id : AccountId) : Blind (account id) :=
  Blind.bind (fun _ => rfl) fun _ => blind_ofExcept _

/-- Products are filtered before they are sorted, so it does not matter what else was in the list. -/
theorem offered_filter (products : List Product) :
    offered (products.filter Product.isAvailable) = offered products := by
  unfold offered
  rw [List.filter_filter]
  simp only [Bool.and_self]

theorem availableProducts_blind : Blind availableProducts := by
  intro s
  have hfilter : s.onOffer.listProducts = s.listProducts.map (List.filter Product.isAvailable) := rfl
  unfold availableProducts
  cases h : s.listProducts with
  | error e =>
    rw [h] at hfilter
    rw [bind_of_error (e := e) hfilter, bind_of_error (e := e) h]
    rfl
  | ok products =>
    rw [h] at hfilter
    rw [bind_of_ok (a := products.filter Product.isAvailable) hfilter, bind_of_ok (a := products) h,
      offered_filter]
    rfl

end Browse

/-! ## Answers -/

theorem Answer.consult_blind {α : Type} {c : Consult α} (h : c.Blind) (shown : α → Response)
    (failed : Fault → Response) (s : Source) :
    consult c shown failed s.onOffer = consult c shown failed s := by
  unfold consult
  rw [h s]

namespace Site

open Consult Browse

theorem overview_blind (site : Site) : Blind site.overview :=
  servers_blind.bind fun _ => (accounts_blind _).bind fun _ => (accounts_blind _).bind fun _ =>
    availableProducts_blind.bind fun _ => blind_pure _

theorem accountRows_blind (role : Role) : Blind (accountRows role) :=
  (accounts_blind _).bind fun _ => blind_pure _

theorem plans_blind : Blind plans :=
  availableProducts_blind.bind fun _ => blind_pure _

theorem viewPage_onOffer (site : Site) (query : Option String) (s : Source) (v : View) :
    site.viewPage query s.onOffer v = site.viewPage query s v := by
  have hpage : ∀ (v : View) {c : Consult Content}, Blind c →
      site.consultPage v c s.onOffer = site.consultPage v c s :=
    fun _ _ hc => Answer.consult_blind hc _ _ s
  cases v with
  | manager =>
    simp only [viewPage, managerPage]
    cases Form.columns query with
    | error e => rfl
    | ok columns => exact hpage .manager ((grid_blind _ columns).bind fun _ => blind_pure _)
  | userList => exact hpage .userList (accountRows_blind .user)
  | admin => exact hpage .admin (accountRows_blind .admin)
  | login => exact hpage .login (blind_pure _)
  | pricing => exact hpage .pricing plans_blind

theorem answerAt_onOffer (site : Site) (query : Option String) (s : Source) (e : Endpoint) :
    site.answerAt query s.onOffer e = site.answerAt query s e := by
  cases e with
  | health | unknownCall | elsewhere => rfl
  | home => exact Answer.consult_blind site.overview_blind _ _ s
  | view v => exact viewPage_onOffer site query s v
  | servers | queryServers => exact Answer.consult_blind servers_blind _ _ s
  | serverGrid =>
    simp only [answerAt, gridCall]
    cases Form.columns query with
    | error e => rfl
    | ok columns => exact Answer.consult_blind (grid_blind _ columns) _ _ s
  | server segment =>
    simp only [answerAt, serverCall]
    cases segmentText? segment with
    | none => rfl
    | some text =>
      exact Answer.consult_blind ((blind_ofExcept _).bind fun id => server_blind id) _ _ s
  | accounts =>
    simp only [answerAt, accountsCall]
    cases Form.role query with
    | error e => rfl
    | ok name =>
      exact Answer.consult_blind ((blind_ofExcept _).bind fun role => accounts_blind role) _ _ s
  | account segment =>
    simp only [answerAt, accountCall]
    cases segmentText? segment with
    | none => rfl
    | some text =>
      exact Answer.consult_blind ((blind_ofExcept _).bind fun id => account_blind id) _ _ s
  | products => exact Answer.consult_blind availableProducts_blind _ _ s

theorem answer_onOffer (site : Site) (s : Source) (r : Request) :
    site.answer s.onOffer r = site.answer s r := by
  simp only [answer, answerAt_onOffer]

/-- Catalogs with the same offer give every request the same answer, made with the same calls, and
list the same products. -/
theorem answer_of_sameOffer {c c' : Catalog} (h : c.SameOffer c') (site : Site) :
    (∀ r, site.answer c.source r = site.answer c'.source r) ∧
      Browse.availableProducts c.source = Browse.availableProducts c'.source := by
  constructor
  · intro r
    rw [← answer_onOffer site c.source, h.source_onOffer, answer_onOffer]
  · rw [← availableProducts_blind c.source, h.source_onOffer, availableProducts_blind]

theorem answer_of_retired_plans :
    let plan (id : BitVec 128) (name : String) (priceCents : UInt32) (status : ProductStatus) :
        Product :=
      ⟨⟨⟨id⟩⟩, name, priceCents, "", status⟩
    let monthly := plan 1 "Monthly" 500 .available
    let yearly := plan 2 "Yearly" 500 .available
    let c : Catalog := ⟨[], [], [monthly, yearly]⟩
    let c' : Catalog := ⟨[], [], [plan 3 "Trial" 0 .discontinued, monthly,
      plan 4 "Weekly" 500 .discontinued, yearly]⟩
    let site : Site := ⟨RouteTable.console, ⟨5, by decide⟩⟩
    c.SameOffer c' ∧ c.products ≠ c'.products ∧
      (∀ r, site.answer c.source r = site.answer c'.source r) ∧
      Browse.availableProducts c.source = Browse.availableProducts c'.source := by
  intro plan monthly yearly c c' site
  have h : c.SameOffer c' := ⟨rfl, rfl, rfl⟩
  exact ⟨h, by decide, answer_of_sameOffer h site⟩

end Site

end ProxyConsole
