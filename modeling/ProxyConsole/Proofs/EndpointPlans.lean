import Mathlib.Data.List.Nodup
import ProxyConsole.Http.Site
import ProxyConsole.Proofs.Consult

/-!
# Plans of endpoints

Every endpoint has a plan of calls. Arguments that it does not take are refused without a call. With
any others it makes the calls of the plan in order, up to the first that fails, and then shows the
fault of that call.
-/

namespace ProxyConsole

namespace Endpoint

/-! ## Arguments -/

def serverId? (segment : String) : Option ServerId := do
  (ServerId.of (← Site.segmentText? segment)).toOption

def accountId? (segment : String) : Option AccountId := do
  (AccountId.of (← Site.segmentText? segment)).toOption

/-- The role that a query asks for; without a name in the query it is any role. -/
def role? (query : Option String) : Option (Option Role) := do
  let name ← (Form.role query).toOption
  (name.mapM Role.of).toOption

/-- The arguments that an endpoint does not take. -/
inductive Refuses (query : Option String) : Endpoint → Prop
  | columns {e : Endpoint} {cause : QueryError} : e = view .manager ∨ e = serverGrid →
      Form.columns query = .error cause → Refuses query e
  | notPositive {e : Endpoint} {count : Int} : e = view .manager ∨ e = serverGrid →
      Form.columns query = .ok (some count) → count ≤ 0 → Refuses query e
  | server {segment : String} : serverId? segment = none → Refuses query (server segment)
  | accounts : role? query = none → Refuses query accounts
  | account {segment : String} : accountId? segment = none → Refuses query (account segment)

/-! ## Plans -/

/-- The calls of an endpoint, in order. -/
def plan (query : Option String) : Endpoint → List Call
  | home => [.listServers, .listAccounts (some .user), .listAccounts (some .admin), .listProducts]
  | view .manager | servers | serverGrid | queryServers => [.listServers]
  | view .userList => [.listAccounts (some .user)]
  | view .admin => [.listAccounts (some .admin)]
  | view .pricing | products => [.listProducts]
  | server segment => ((serverId? segment).map Call.getServer).toList
  | accounts => ((role? query).map Call.listAccounts).toList
  | account segment => ((accountId? segment).map Call.getAccount).toList
  | health | view .login | unknownCall | elsewhere => []

theorem plan_nodup (query : Option String) (e : Endpoint) : (e.plan query).Nodup := by
  have hopt : ∀ {α : Type} (f : α → Call) (a : Option α), (a.map f).toList.Nodup := by
    intro α f a
    cases a with
    | none => exact List.nodup_nil
    | some a => exact List.pairwise_singleton _ _
  cases e with
  | view v => cases v <;> simp [plan]
  | server segment | accounts | account segment => exact hopt ..
  | _ => simp [plan]

def view? : Endpoint → Option View
  | view v => some v
  | _ => none

end Endpoint

namespace Site

open Consult Browse Endpoint

/-! ## Endpoints -/

def faultShown (site : Site) (e : Endpoint) (f : Fault) : Response :=
  match e with
  | .home | .view _ => site.pageFault e.view? f
  | _ => jsonFault f

/-- What follows a plan and shows how it ended. -/
structure Attempts (plan : List Call) (failed : Fault → Response) (s : Source) (a : Answer) : Prop where
  calls : a.calls = s.attempt plan
  fault : ∀ f, s.firstFault? plan = some f → a.response = failed f

theorem attempts_direct (failed : Fault → Response) (s : Source) (r : Response) :
    Attempts [] failed s (.direct r) :=
  ⟨rfl, fun _ h => nomatch h⟩

theorem attempts_consult {α : Type} {plan : List Call} {c : Consult α} (h : Follows plan c)
    (shown : α → Response) (failed : Fault → Response) (s : Source) :
    Attempts plan failed s (Answer.consult c shown failed s) := by
  refine ⟨h.calls s, fun f hf => ?_⟩
  simp only [Answer.consult, h.fault s f hf]

theorem overview_completes (site : Site) (query : Option String) :
    Completes (Endpoint.home.plan query) site.overview :=
  completes_servers.bind fun _ => (completes_accounts _).bind fun _ =>
    (completes_accounts _).bind fun _ => completes_availableProducts.bind fun _ => completes_pure _

theorem ok_of_toOption {ε α : Type} {r : Except ε α} {a : α} (h : r.toOption = some a) : r = .ok a := by
  cases r with
  | error e => cases h
  | ok a' =>
    cases h
    rfl

theorem columns_of_not_refuses {query : Option String} {e : Endpoint}
    (he : e = .view .manager ∨ e = .serverGrid) (h : ¬ e.Refuses query) :
    ∃ columns, Form.columns query = .ok columns ∧ ∀ count, columns = some count → 0 < count := by
  cases hc : Form.columns query with
  | error cause => exact absurd (.columns he hc) h
  | ok columns =>
    refine ⟨columns, rfl, fun count hcount => ?_⟩
    subst hcount
    exact Int.not_le.mp fun hle => h (.notPositive he hc hle)

theorem attempts_viewPage (site : Site) (query : Option String) (s : Source) (v : View)
    (h : ¬ (Endpoint.view v).Refuses query) :
    Attempts (Endpoint.plan query (.view v)) (site.pageFault (some v)) s
      (site.viewPage query s v) := by
  cases v with
  | manager =>
    obtain ⟨columns, hc, hpos⟩ := columns_of_not_refuses (.inl rfl) h
    simp only [viewPage, managerPage, hc]
    exact attempts_consult ((completes_grid _ hpos).bind fun _ => completes_pure _).toFollows ..
  | userList | admin =>
    exact attempts_consult ((completes_accounts _).bind fun _ => completes_pure _).toFollows ..
  | login =>
    simp only [viewPage, consultPage]
    exact attempts_consult (completes_pure Content.signIn).toFollows ..
  | pricing =>
    exact attempts_consult (completes_availableProducts.bind fun _ => completes_pure _).toFollows ..

theorem attempts_gridCall (site : Site) (query : Option String) (s : Source)
    (h : ¬ Endpoint.serverGrid.Refuses query) :
    Attempts (Endpoint.serverGrid.plan query) jsonFault s (site.gridCall query s) := by
  obtain ⟨columns, hc, hpos⟩ := columns_of_not_refuses (.inr rfl) h
  simp only [gridCall, hc]
  exact attempts_consult (completes_grid _ hpos).toFollows ..

theorem attempts_serverCall (query : Option String) (segment : String) (s : Source)
    (h : ¬ (Endpoint.server segment).Refuses query) :
    Attempts (Endpoint.plan query (.server segment)) jsonFault s (serverCall segment s) := by
  cases hid : serverId? segment with
  | none => exact absurd (.server hid) h
  | some id =>
    obtain ⟨text, htext, hof⟩ := Option.bind_eq_some_iff.mp hid
    have hr := ok_of_toOption hof
    simp only [serverCall, htext, hr, plan, hid, Except.mapError, ofExcept_ok_bind]
    exact attempts_consult (follows_server id) ..

theorem attempts_accountCall (query : Option String) (segment : String) (s : Source)
    (h : ¬ (Endpoint.account segment).Refuses query) :
    Attempts (Endpoint.plan query (.account segment)) jsonFault s (accountCall segment s) := by
  cases hid : accountId? segment with
  | none => exact absurd (.account hid) h
  | some id =>
    obtain ⟨text, htext, hof⟩ := Option.bind_eq_some_iff.mp hid
    have hr := ok_of_toOption hof
    simp only [accountCall, htext, hr, plan, hid, Except.mapError, ofExcept_ok_bind]
    exact attempts_consult (follows_account id) ..

theorem attempts_accountsCall (query : Option String) (s : Source)
    (h : ¬ Endpoint.accounts.Refuses query) :
    Attempts (Endpoint.accounts.plan query) jsonFault s (accountsCall query s) := by
  cases hrole : role? query with
  | none => exact absurd (.accounts hrole) h
  | some role =>
    obtain ⟨name, hname, hof⟩ := Option.bind_eq_some_iff.mp hrole
    have hn := ok_of_toOption hname
    have hr := ok_of_toOption hof
    simp only [accountsCall, hn, hr, plan, hrole, Except.mapError, ofExcept_ok_bind]
    exact attempts_consult (completes_accounts role).toFollows ..

theorem attempts_answerAt (site : Site) (query : Option String) (s : Source) {e : Endpoint}
    (h : ¬ e.Refuses query) :
    Attempts (e.plan query) (site.faultShown e) s (site.answerAt query s e) := by
  cases e with
  | health | unknownCall | elsewhere => exact attempts_direct ..
  | home => exact attempts_consult (site.overview_completes query).toFollows ..
  | view v => exact site.attempts_viewPage query s v h
  | servers | queryServers => exact attempts_consult completes_servers.toFollows ..
  | serverGrid => exact site.attempts_gridCall query s h
  | server segment => exact attempts_serverCall query segment s h
  | accounts => exact attempts_accountsCall query s h
  | account segment => exact attempts_accountCall query segment s h
  | products => exact attempts_consult completes_availableProducts.toFollows ..

/-! ## Refused arguments -/

/-- What an endpoint gives for arguments that it does not take: the status blames the request, and no
call was made. -/
def IsRefusal (a : Answer) : Prop :=
  a.calls = [] ∧ a.response.status = .badRequest

section
variable {α β : Type} {r : Except Violation α} (next : α → Consult β) (shown : β → Response) (s : Source)

theorem consult_of_error {v : Violation} (hr : r = .error v) :
    Answer.consult (Consult.ofExcept (r.mapError .validation) >>= next) shown jsonFault s =
      ⟨[], .jsonError .badRequest v.message⟩ := by
  rw [hr]
  simp only [Except.mapError, ofExcept_error_bind]
  rfl

theorem consult_of_ok {a : α} (hr : r = .ok a) :
    Answer.consult (Consult.ofExcept (r.mapError .validation) >>= next) shown jsonFault s =
      Answer.consult (next a) shown jsonFault s := by
  rw [hr]
  simp only [Except.mapError, ofExcept_ok_bind]

theorem isRefusal_of_error {v : Violation} (hr : r = .error v) :
    IsRefusal (Answer.consult (Consult.ofExcept (r.mapError .validation) >>= next) shown jsonFault s) := by
  rw [consult_of_error next shown s hr]
  exact ⟨rfl, rfl⟩

end

theorem error_of_toOption {ε α : Type} {r : Except ε α} (h : r.toOption = none) : ∃ e, r = .error e := by
  cases r with
  | error e => exact ⟨e, rfl⟩
  | ok a => cases h

theorem serverCall_isRefusal {segment : String} (h : serverId? segment = none) (s : Source) :
    IsRefusal (serverCall segment s) := by
  unfold serverCall
  cases ht : segmentText? segment with
  | none => exact ⟨rfl, rfl⟩
  | some text =>
    simp only [serverId?, ht, Option.bind_eq_bind, Option.bind_some] at h
    obtain ⟨v, hv⟩ := error_of_toOption h
    exact isRefusal_of_error _ _ s hv

theorem accountCall_isRefusal {segment : String} (h : accountId? segment = none) (s : Source) :
    IsRefusal (accountCall segment s) := by
  unfold accountCall
  cases ht : segmentText? segment with
  | none => exact ⟨rfl, rfl⟩
  | some text =>
    simp only [accountId?, ht, Option.bind_eq_bind, Option.bind_some] at h
    obtain ⟨v, hv⟩ := error_of_toOption h
    exact isRefusal_of_error _ _ s hv

theorem accountsCall_isRefusal {query : Option String} (h : role? query = none) (s : Source) :
    IsRefusal (accountsCall query s) := by
  unfold accountsCall
  cases hn : Form.role query with
  | error e => exact ⟨rfl, rfl⟩
  | ok name =>
    simp only [role?, hn, Except.toOption, Option.bind_eq_bind, Option.bind_some] at h
    obtain ⟨v, hv⟩ := error_of_toOption h
    exact isRefusal_of_error _ _ s hv

theorem answerAt_isRefusal (site : Site) {query : Option String} (s : Source) {e : Endpoint}
    (h : e.Refuses query) : IsRefusal (site.answerAt query s e) := by
  cases h with
  | columns he hc =>
    rcases he with rfl | rfl
    · simp only [answerAt, viewPage, managerPage, hc]
      exact ⟨rfl, rfl⟩
    · simp only [answerAt, gridCall, hc]
      exact ⟨rfl, rfl⟩
  | notPositive he hc hle =>
    have hgrid := grid_of_not_pos site.standardColumns (Int.not_lt.mpr hle) s
    rcases he with rfl | rfl
    · simp only [answerAt, viewPage, managerPage, hc, consultPage, Answer.consult]
      rw [bind_of_error (by rw [hgrid]), hgrid]
      exact ⟨rfl, rfl⟩
    · simp only [answerAt, gridCall, hc, Answer.consult, hgrid]
      exact ⟨rfl, rfl⟩
  | server h => exact serverCall_isRefusal h s
  | accounts h => exact accountsCall_isRefusal h s
  | account h => exact accountCall_isRefusal h s

theorem answerAt_calls_prefix (site : Site) (query : Option String) (s : Source) (e : Endpoint) :
    (site.answerAt query s e).calls <+: e.plan query := by
  by_cases h : e.Refuses query
  · rw [(site.answerAt_isRefusal s h).1]
    exact List.nil_prefix
  · rw [(site.attempts_answerAt query s h).calls]
    exact s.attempt_prefix _

end Site

end ProxyConsole
