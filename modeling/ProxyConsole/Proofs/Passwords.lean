import ProxyConsole.Catalog
import ProxyConsole.Proofs.Consult
import ProxyConsole.Proofs.Dispatch

/-!
# Passwords in answers

Blanking the passwords of a source blanks those in the answers and changes nothing else. Only the
calls that hand out whole servers have passwords to blank, so sources that agree up to passwords
answer alike everywhere else.
-/

namespace ProxyConsole

/-! ## Blank passwords -/

def ServerRecord.masked (r : ServerRecord) : ServerRecord := { r with password := "" }

def Account.masked (a : Account) : Account := { a with password := "" }

def GridLayout.masked (g : GridLayout) : GridLayout :=
  { g with rows := g.rows.map (·.map ServerRecord.masked) }

def Catalog.masked (c : Catalog) : Catalog :=
  { c with servers := c.servers.map ServerRecord.masked, accounts := c.accounts.map Account.masked }

/-- What a source would hand out if its passwords were blank. -/
def Source.masked (s : Source) : Source where
  listServers := s.listServers.map (List.map ServerRecord.masked)
  getServer id := (s.getServer id).map (Option.map ServerRecord.masked)
  listAccounts role := (s.listAccounts role).map (List.map Account.masked)
  getAccount id := (s.getAccount id).map (Option.map Account.masked)
  listProducts := s.listProducts

namespace Json

mutual

/-- Blanks every text that is a member named `password` of an object, however deep. -/
def masked : Json → Json
  | .array items => .array (maskedItems items)
  | .object members => .object (maskedMembers members)
  | j => j

def maskedItems : List Json → List Json
  | [] => []
  | j :: js => masked j :: maskedItems js

def maskedMember : String × Json → String × Json
  | (name, .string text) => (name, .string (if name = "password" then "" else text))
  | (name, j) => (name, masked j)

def maskedMembers : List (String × Json) → List (String × Json)
  | [] => []
  | m :: ms => maskedMember m :: maskedMembers ms

end

theorem maskedItems_eq_map (items : List Json) : maskedItems items = items.map masked := by
  induction items with
  | nil => rfl
  | cons j js ih => rw [maskedItems, ih, List.map_cons]

theorem array_map_masked {α : Type} {f : α → α} {toJson : α → Json}
    (h : ∀ a, toJson (f a) = (toJson a).masked) (l : List α) :
    array ((l.map f).map toJson) = (array (l.map toJson)).masked := by
  rw [masked, maskedItems_eq_map, List.map_map, List.map_map]
  congr 2
  exact funext h

end Json

/-- Both succeed with JSON, and the JSON is the same once passwords are blank. -/
def Response.SameButPasswords (r r' : Response) : Prop :=
  ∃ v v', r = .json .ok v ∧ r' = .json .ok v' ∧ v.masked = v'.masked

/-! ## Records -/

theorem Catalog.source_masked (c : Catalog) : c.source.masked = c.masked.source := by
  have hservers : ∀ id : ServerId, (c.servers.find? (·.id = id)).map ServerRecord.masked =
      (c.servers.map ServerRecord.masked).find? (·.id = id) :=
    fun _ => by rw [List.find?_map]; rfl
  have haccounts : ∀ id : AccountId, (c.accounts.find? (·.id = id)).map Account.masked =
      (c.accounts.map Account.masked).find? (·.id = id) :=
    fun _ => by rw [List.find?_map]; rfl
  have hroles : ∀ role, (c.accountsOf role).map Account.masked = c.masked.accountsOf role := by
    intro role
    cases role with
    | none => rfl
    | some role =>
      show (c.accounts.filter _).map _ = (c.accounts.map _).filter _
      rw [List.filter_map]
      rfl
  simp [source, Source.masked, Except.map, hservers, haccounts, hroles, masked]

theorem ServerRecord.toJson_masked (r : ServerRecord) : r.masked.toJson = r.toJson.masked := by
  simp [toJson, masked, ServerId.toJson, Json.masked, Json.maskedMembers, Json.maskedMember]

theorem GridLayout.toJson_masked (g : GridLayout) : g.masked.toJson = g.toJson.masked := by
  simp [toJson, masked, Json.masked, Json.maskedMembers, Json.maskedMember,
    Json.maskedItems_eq_map, ServerRecord.toJson_masked, Function.comp_def]

theorem CardGrid.ofLayout_masked (g : GridLayout) (standard : Columns) :
    ofLayout g.masked standard = ofLayout g standard := by
  simp [ofLayout, GridLayout.masked, GridLayout.recordCount, Function.comp_def, Card.ofServer,
    ServerRecord.masked]

/-! ## Consultations -/

namespace Consult

/-- On a source with blank passwords the second computation makes the calls that the first makes on
the source itself, and ends with its result after `f`. -/
def MaskedBy {α : Type} (f : α → α) (c c' : Consult α) : Prop :=
  ∀ s : Source, c' s.masked = ⟨(c s).calls, (c s).result.map f⟩

theorem maskedBy_pure {α : Type} (f : α → α) (a : α) :
    MaskedBy f (Pure.pure a) (Pure.pure (f a)) :=
  fun _ => rfl

theorem maskedBy_ofExcept {α : Type} (f : α → α) (r : Except Fault α) :
    MaskedBy f (ofExcept r) (ofExcept (r.map f)) :=
  fun _ => rfl

theorem maskedBy_id_iff {α : Type} {c c' : Consult α} :
    MaskedBy id c c' ↔ ∀ s : Source, c' s.masked = c s := by
  refine forall_congr' fun s => ?_
  rcases c s with ⟨calls, e | a⟩ <;> rfl

theorem bind_congr {α β : Type} {c : Consult α} {next : α → Consult β} {s s' : Source}
    (h : c s = c s') (hn : ∀ a, next a s = next a s') : (c >>= next) s = (c >>= next) s' := by
  show Consult.bind c next s = Consult.bind c next s'
  unfold Consult.bind
  rw [h]
  rcases c s' with ⟨calls, e | a⟩
  · rfl
  · simp only [hn]

theorem MaskedBy.bind {α β : Type} {f : α → α} {g : β → β} {c c' : Consult α}
    {next next' : α → Consult β} (h : MaskedBy f c c')
    (hn : ∀ a, MaskedBy g (next a) (next' (f a))) : MaskedBy g (c >>= next) (c' >>= next') := by
  intro s
  have hs := h s
  cases hr : (c s).result with
  | error e =>
    rw [hr] at hs
    rw [bind_of_error hr, bind_of_error (by rw [hs]; rfl), hs]
    rfl
  | ok a =>
    rw [hr] at hs
    rw [bind_of_ok hr, bind_of_ok (a := f a) (by rw [hs]; rfl), hs, hn a s]

theorem maskedBy_ofExcept_bind {α β : Type} {f : β → β} (r : Except Fault α) {next : α → Consult β}
    (h : ∀ a, MaskedBy f (next a) (next a)) :
    MaskedBy f (Consult.ofExcept r >>= next) (Consult.ofExcept r >>= next) := by
  refine MaskedBy.bind (f := id) (maskedBy_id_iff.mpr fun _ => rfl) h

end Consult

namespace Browse

open Consult

theorem servers_masked : MaskedBy (List.map ServerRecord.masked) servers servers :=
  fun _ => rfl

theorem chunks_map {α β : Type} (f : α → β) (c : Columns) (xs : List α) :
    Grid.chunks c (xs.map f) = (Grid.chunks c xs).map (List.map f) := by
  induction xs using Grid.chunks.induct c with
  | case1 => simp [Grid.chunks]
  | case2 x xs ih => simp [Grid.chunks, ← List.map_take, ← List.map_drop, ih]

theorem layOut_masked (c : Columns) : MaskedBy GridLayout.masked (layOut c) (layOut c) := by
  refine servers_masked.bind fun servers => ?_
  have : GridLayout.ofColumns (servers.map ServerRecord.masked) c =
      (GridLayout.ofColumns servers c).masked := by
    rw [GridLayout.ofColumns, chunks_map]
    rfl
  rw [this]
  exact maskedBy_pure _ _

theorem grid_masked (standard : Columns) (columns : Option Int) :
    MaskedBy GridLayout.masked (grid standard columns) (grid standard columns) := by
  cases columns with
  | none => exact (maskedBy_pure id standard).bind layOut_masked
  | some count =>
    rw [grid_some]
    refine MaskedBy.bind (f := id) ?_ layOut_masked
    intro s
    cases Columns.of count <;> rfl

theorem foundOr_map {α : Type} (f : α → α) (missing : Missing) (found : Option α) :
    foundOr missing (found.map f) = (foundOr missing found).map f := by
  cases found <;> rfl

theorem server_masked (id : ServerId) :
    MaskedBy ServerRecord.masked (server id) (server id) := by
  refine MaskedBy.bind (f := Option.map ServerRecord.masked) (fun _ => rfl) fun found => ?_
  rw [foundOr_map]
  exact maskedBy_ofExcept _ _

theorem account_masked (id : AccountId) : MaskedBy Account.masked (account id) (account id) := by
  refine MaskedBy.bind (f := Option.map Account.masked) (fun _ => rfl) fun found => ?_
  rw [foundOr_map]
  exact maskedBy_ofExcept _ _

theorem accounts_masked (role : Option Role) :
    MaskedBy (List.map Account.masked) (accounts role) (accounts role) := by
  refine MaskedBy.bind (f := List.map Account.masked) (fun _ => rfl) fun found => ?_
  have : (found.map Account.masked).mergeSort older = (found.mergeSort older).map Account.masked :=
    (List.map_mergeSort (r := older) (f := Account.masked) fun _ _ _ _ => rfl).symm
  rw [this]
  exact maskedBy_pure _ _

theorem availableProducts_masked : MaskedBy id availableProducts availableProducts :=
  maskedBy_id_iff.mpr fun _ => rfl

variable {s s' : Source}

theorem servers_congr (h : s.listServers = s'.listServers) : servers s = servers s' :=
  congrArg (Outcome.mk _) h

theorem grid_congr (h : s.listServers = s'.listServers) (standard : Columns)
    (columns : Option Int) : grid standard columns s = grid standard columns s' := by
  have hrows : ∀ c, layOut c s = layOut c s' := fun _ => bind_congr (servers_congr h) fun _ => rfl
  cases columns with
  | none => exact bind_congr rfl hrows
  | some count => exact bind_congr rfl hrows

theorem server_congr (h : s.getServer = s'.getServer) (id : ServerId) : server id s = server id s' :=
  bind_congr (congrArg (Outcome.mk _) (congrFun h id)) fun _ => rfl

end Browse

/-! ## Answers -/

/-- The same calls, and the same response up to passwords of servers. -/
structure Answer.Alike (a a' : Answer) : Prop where
  calls : a.calls = a'.calls
  response : a.response = a'.response ∨ a.response.SameButPasswords a'.response

theorem Answer.Alike.withoutBody {a a' : Answer} (h : a.Alike a') :
    a.response.withoutBody = a'.response.withoutBody := by
  rcases h.response with heq | ⟨v, v', hv, hv', _⟩
  · rw [heq]
  · rw [hv, hv']
    rfl

section
variable {s s' : Source} (h : s.masked = s'.masked)
include h

theorem Consult.MaskedBy.outcome_cases {α : Type} {f : α → α} {c : Consult α} (hc : c.MaskedBy f c) :
    (c s).calls = (c s').calls ∧
      ((∃ e, (c s).result = .error e ∧ (c s').result = .error e) ∨
        ∃ a a', (c s).result = .ok a ∧ (c s').result = .ok a' ∧ f a = f a') := by
  have ho := hc s'
  rw [← h, hc s, Outcome.mk.injEq] at ho
  obtain ⟨hcalls, hresult⟩ := ho
  refine ⟨hcalls, ?_⟩
  cases hr : (c s).result with
  | error e =>
    cases hr' : (c s').result with
    | error e' =>
      rw [hr, hr'] at hresult
      exact .inl ⟨e, rfl, hresult.symm⟩
    | ok a' => simp [hr, hr', Except.map] at hresult
  | ok a =>
    cases hr' : (c s').result with
    | error e' => simp [hr, hr', Except.map] at hresult
    | ok a' =>
      rw [hr, hr'] at hresult
      exact .inr ⟨a, a', rfl, rfl, Except.ok.inj hresult⟩

theorem Answer.consult_eq {α : Type} {f : α → α} {c : Consult α} (hc : c.MaskedBy f c)
    {shown : α → Response} (hs : ∀ a, shown (f a) = shown a) (failed : Fault → Response) :
    consult c shown failed s = consult c shown failed s' := by
  unfold consult
  obtain ⟨hcalls, ⟨e, hr, hr'⟩ | ⟨a, a', hr, hr', hf⟩⟩ := hc.outcome_cases h
  · simp only [hcalls, hr, hr']
  · have : shown a = shown a' := by rw [← hs a, hf, hs]
    simp only [hcalls, hr, hr', this]

theorem Answer.consult_alike {α : Type} {f : α → α} {c : Consult α} (hc : c.MaskedBy f c)
    {toJson : α → Json} (hj : ∀ a, toJson (f a) = (toJson a).masked) (failed : Fault → Response) :
    (consult c (fun a => .json .ok (toJson a)) failed s).Alike
      (consult c (fun a => .json .ok (toJson a)) failed s') := by
  obtain ⟨hcalls, ⟨e, hr, hr'⟩ | ⟨a, a', hr, hr', hf⟩⟩ := hc.outcome_cases h
  · exact ⟨hcalls, .inl (by simp only [consult, hr, hr'])⟩
  · refine ⟨hcalls, .inr ⟨toJson a, toJson a', ?_, ?_, ?_⟩⟩
    · simp only [consult, hr]
    · simp only [consult, hr']
    · rw [← hj, hf, hj]

end

namespace Site

open Consult Browse Endpoint

theorem overview_masked (site : Site) : MaskedBy id site.overview site.overview := by
  refine servers_masked.bind fun servers => (accounts_masked _).bind fun users =>
    (accounts_masked _).bind fun admins => availableProducts_masked.bind fun products => ?_
  simp only [List.length_map]
  exact maskedBy_pure id _

theorem accountRows_masked (role : Role) : MaskedBy id (accountRows role) (accountRows role) := by
  refine (accounts_masked _).bind fun accounts => ?_
  rw [List.map_map]
  exact maskedBy_pure id _

theorem plans_masked : MaskedBy id plans plans :=
  availableProducts_masked.bind fun _ => maskedBy_pure id _

/-- The calls that hand out whole servers. -/
def showsServers : Endpoint → Bool
  | .servers | .serverGrid | .server _ | .queryServers => true
  | _ => false

section
variable {s s' : Source} (h : s.masked = s'.masked)
include h

theorem consultPage_eq (site : Site) (v : View) {c : Consult Content} (hc : MaskedBy id c c) :
    site.consultPage v c s = site.consultPage v c s' :=
  Answer.consult_eq h hc (fun _ => rfl) _

theorem managerPage_eq (site : Site) (query : Option String) :
    site.managerPage query s = site.managerPage query s' := by
  unfold managerPage
  cases Form.columns query with
  | error e => rfl
  | ok columns =>
    refine consultPage_eq h site .manager ((grid_masked _ columns).bind fun layout => ?_)
    rw [CardGrid.ofLayout_masked]
    exact maskedBy_pure id _

theorem viewPage_eq (site : Site) (query : Option String) (v : View) :
    site.viewPage query s v = site.viewPage query s' v := by
  cases v with
  | manager => exact managerPage_eq h site query
  | userList => exact consultPage_eq h site .userList (accountRows_masked .user)
  | admin => exact consultPage_eq h site .admin (accountRows_masked .admin)
  | login => exact consultPage_eq h site .login (maskedBy_pure id _)
  | pricing => exact consultPage_eq h site .pricing plans_masked

theorem accountsCall_eq (query : Option String) : accountsCall query s = accountsCall query s' := by
  unfold accountsCall
  cases Form.role query with
  | error e => rfl
  | ok name =>
    refine Answer.consult_eq h (maskedBy_ofExcept_bind _ accounts_masked) (fun accounts => ?_) _
    rw [List.map_map]
    rfl

theorem accountCall_eq (segment : String) : accountCall segment s = accountCall segment s' := by
  unfold accountCall
  cases segmentText? segment with
  | none => rfl
  | some text =>
    exact Answer.consult_eq h (maskedBy_ofExcept_bind _ account_masked) (fun _ => rfl) _

theorem answerAt_eq (site : Site) (query : Option String) {e : Endpoint}
    (he : showsServers e = false) : site.answerAt query s e = site.answerAt query s' e := by
  cases e with
  | health | unknownCall | elsewhere => rfl
  | home => exact Answer.consult_eq h site.overview_masked (fun _ => rfl) _
  | view v => exact viewPage_eq h site query v
  | accounts => exact accountsCall_eq h query
  | account segment => exact accountCall_eq h segment
  | products => exact Answer.consult_eq h availableProducts_masked (fun _ => rfl) _
  | servers | serverGrid | server _ | queryServers => cases he

theorem serversCall_alike : (serversCall s).Alike (serversCall s') :=
  Answer.consult_alike h servers_masked (Json.array_map_masked ServerRecord.toJson_masked) _

theorem gridCall_alike (site : Site) (query : Option String) :
    (site.gridCall query s).Alike (site.gridCall query s') := by
  unfold gridCall
  cases Form.columns query with
  | error e => exact ⟨rfl, .inl rfl⟩
  | ok columns => exact Answer.consult_alike h (grid_masked _ columns) GridLayout.toJson_masked _

theorem serverCall_alike (segment : String) : (serverCall segment s).Alike (serverCall segment s') := by
  unfold serverCall
  cases segmentText? segment with
  | none => exact ⟨rfl, .inl rfl⟩
  | some text =>
    exact Answer.consult_alike h (maskedBy_ofExcept_bind _ server_masked) ServerRecord.toJson_masked _

theorem answerAt_alike (site : Site) (query : Option String) {e : Endpoint}
    (he : showsServers e = true) : (site.answerAt query s e).Alike (site.answerAt query s' e) := by
  cases e with
  | servers | queryServers => exact serversCall_alike h
  | serverGrid => exact gridCall_alike h site query
  | server segment => exact serverCall_alike h segment
  | _ => cases he

end

theorem answerAt_congr (site : Site) (query : Option String) {s s' : Source} {e : Endpoint}
    (h : showsServers e = true) (hl : s.listServers = s'.listServers)
    (hg : s.getServer = s'.getServer) : site.answerAt query s e = site.answerAt query s' e := by
  have hservers := servers_congr hl
  cases e with
  | servers | queryServers => simp only [answerAt, serversCall, Answer.consult, hservers]
  | serverGrid => simp only [answerAt, gridCall, Answer.consult, grid_congr hl]
  | server segment =>
    have hserver : ∀ r : Except Fault ServerId,
        (Consult.ofExcept r >>= Browse.server) s = (Consult.ofExcept r >>= Browse.server) s' :=
      fun _ => bind_congr rfl fun id => server_congr hg id
    simp only [answerAt, serverCall, Answer.consult, hserver]
  | _ => cases h

/-- The requests that hand out whole servers. -/
def AsksForServers (r : Request) : Prop :=
  (r.method = "GET" ∧ (r.uri.path = "/api/servers" ∨ r.uri.path = "/api/servers/grid" ∨
    ∃ id, Endpoint.IsSegment id ∧ r.uri.path = "/api/servers/" ++ id)) ∨
  (r.method = "POST" ∧ r.uri.path = "/api/user/users")

theorem asksForServers_of_leads {t : RouteTable} {r : Request} {e : Endpoint}
    (hl : Leads t r.uri.path e) (h : showsServers e = true)
    (ha : e.accepts.accepts r.method = true) (hm : r.method ≠ "HEAD") : AsksForServers r := by
  have hget : e.accepts = .reading → r.method = "GET" := by
    intro he
    rw [he] at ha
    simpa [Accepts.accepts, hm] using ha
  cases hl with
  | serves hs =>
    generalize hp : r.uri.path = path at hs
    cases hs with
    | servers => exact .inl ⟨hget rfl, .inl hp⟩
    | serverGrid => exact .inl ⟨hget rfl, .inr (.inl hp)⟩
    | server hid _ => exact .inl ⟨hget rfl, .inr (.inr ⟨_, hid, hp⟩)⟩
    | queryServers => exact .inr ⟨of_decide_eq_true ha, hp⟩
    | _ => cases h
  | _ => cases h

/-- Two sources that agree up to passwords get the same calls and the same answers, except that the
calls that hand out whole servers hand out their passwords. -/
theorem answer_up_to_passwords {site : Site} (ht : site.routes.Reachable) {s s' : Source}
    (h : s.masked = s'.masked) (r : Request) :
    (site.answer s r).calls = (site.answer s' r).calls ∧
    ((site.answer s r).response = (site.answer s' r).response ∨
      AsksForServers r ∧ (site.answer s r).response.SameButPasswords (site.answer s' r).response) ∧
    (s.listServers = s'.listServers → s.getServer = s'.getServer →
      site.answer s r = site.answer s' r) := by
  obtain ⟨e, he⟩ : ∃ e, ofPath site.routes r.uri.path = e := ⟨_, rfl⟩
  cases ha : e.accepts.accepts r.method with
  | false =>
    rw [answer_refused he ha, answer_refused he ha]
    exact ⟨rfl, .inl rfl, fun _ _ => rfl⟩
  | true =>
    cases hs : showsServers e with
    | false =>
      have heq := answerAt_eq h site r.uri.query hs
      have hanswer : site.answer s r = site.answer s' r := by
        simp only [answer, he, heq]
      rw [hanswer]
      exact ⟨rfl, .inl rfl, fun _ _ => rfl⟩
    | true =>
      have halike := answerAt_alike h site r.uri.query hs
      have hcongr : s.listServers = s'.listServers → s.getServer = s'.getServer →
          site.answerAt r.uri.query s e = site.answerAt r.uri.query s' e :=
        site.answerAt_congr r.uri.query hs
      by_cases hm : r.method = "HEAD"
      · rw [answer_of_head he ha hm, answer_of_head he ha hm, halike.withoutBody]
        exact ⟨halike.calls, .inl rfl, fun hl hg => by rw [hcongr hl hg]⟩
      · rw [answer_of_ne_head he ha hm, answer_of_ne_head he ha hm]
        have hasks := asksForServers_of_leads ((leads_iff ht.wellFormed).mpr he) hs ha hm
        exact ⟨halike.calls, halike.response.imp_right fun hr => ⟨hasks, hr⟩, hcongr⟩

theorem answer_up_to_passwords_of_catalogs :
    let site : Site := ⟨RouteTable.console, ⟨5, by decide⟩⟩
    let server (password : String) : ServerRecord := ⟨⟨"HK", rfl⟩, "10.0.0.1", 8388, password⟩
    let joined : Instant :=
      ⟨⟨1970, 1, 1, by decide⟩, 0, 0, 0, 0, by decide, by decide, by decide, by decide⟩
    let owner (password : String) : Account := ⟨⟨⟨0⟩⟩, .admin, none, "5550100", "a@b", password, joined⟩
    let s := Catalog.source ⟨[server "one"], [owner "two"], []⟩
    let s' := Catalog.source ⟨[server "six"], [owner "ten"], []⟩
    let r : Request := ⟨"GET", ⟨"/api/servers", none⟩⟩
    site.routes.Reachable ∧ s.masked = s'.masked ∧
      (site.answer s r).calls = (site.answer s' r).calls ∧
      ((site.answer s r).response = (site.answer s' r).response ∨
        (site.answer s r).response.SameButPasswords (site.answer s' r).response) := by
  intro site server joined owner s s' r
  have ht : site.routes.Reachable := ⟨RouteTable.console, List.mem_cons_self .., [], rfl⟩
  have hm : s.masked = s'.masked := by
    rw [Catalog.source_masked, Catalog.source_masked]
    rfl
  obtain ⟨hcalls, hresponse, _⟩ := answer_up_to_passwords ht hm r
  exact ⟨ht, hm, hcalls, hresponse.imp_right (·.2)⟩

end Site

end ProxyConsole
