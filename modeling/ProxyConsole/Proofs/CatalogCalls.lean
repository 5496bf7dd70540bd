import ProxyConsole.Proofs.Consult
import ProxyConsole.Proofs.Dispatch

/-!
# Calls on a catalog

A catalog never fails, so the calls of the programming interface that ask for nothing else than what
is there are answered with the records of the catalog, and a record with an id of its own is found
under that id.
-/

namespace ProxyConsole

theorem Catalog.getServer_of_mem {c : Catalog} (h : (c.servers.map (·.id)).Nodup) {r : ServerRecord}
    (hr : r ∈ c.servers) : c.source.getServer r.id = .ok (some r) := by
  have hfind : c.servers.find? (·.id = r.id) = some r := find?_of_nodup_map h hr
  exact congrArg Except.ok hfind

namespace Site

open Consult Endpoint

theorem answer_get_of_serves {site : Site} (ht : site.routes.Reachable) {path : String} {e : Endpoint}
    (h : Serves site.routes path e) (he : e ≠ queryServers) (query : Option String) (s : Source) :
    site.answer s ⟨"GET", ⟨path, query⟩⟩ = site.answerAt query s e := by
  have hpath : ofPath site.routes path = e := h.ofPath_eq ht.wellFormed
  have hne : "GET" ≠ "HEAD" := by decide
  exact answer_of_ne_head hpath (accepts_get_head he).1 hne

theorem serverCall_of_mem {c : Catalog} (h : (c.servers.map (·.id)).Nodup) {r : ServerRecord}
    (hr : r ∈ c.servers) {segment : String} (htext : segmentText? segment = some r.id.text) :
    serverCall segment c.source = ⟨[.getServer r.id], .json .ok r.toJson⟩ := by
  have hof : ServerId.of r.id.text = .ok r.id := dif_pos r.id.notBlank
  have hserver : Browse.server r.id c.source = ⟨[.getServer r.id], .ok r⟩ := by
    rw [Browse.server_eq, c.getServer_of_mem h hr]
    rfl
  simp only [serverCall, htext, hof, Except.mapError, ofExcept_ok_bind, Answer.consult, hserver]

section
variable {site : Site} (ht : site.routes.Reachable) {c : Catalog}
include ht

theorem answer_servers (query : Option String) :
    site.answer c.source ⟨"GET", ⟨"/api/servers", query⟩⟩ =
      ⟨[.listServers], .json .ok (.array (c.servers.map ServerRecord.toJson))⟩ :=
  answer_get_of_serves ht .servers (by decide) query _

theorem answer_serverGrid : site.answer c.source ⟨"GET", ⟨"/api/servers/grid", none⟩⟩ =
    ⟨[.listServers], .json .ok (GridLayout.ofColumns c.servers site.standardColumns).toJson⟩ :=
  answer_get_of_serves ht .serverGrid (by decide) none _

theorem answer_server (h : (c.servers.map (·.id)).Nodup) {r : ServerRecord}
    (hr : r ∈ c.servers) {segment : String} (hs : IsSegment segment) (hgrid : segment ≠ "grid")
    (htext : segmentText? segment = some r.id.text) (query : Option String) :
    site.answer c.source ⟨"GET", ⟨"/api/servers/" ++ segment, query⟩⟩ =
      ⟨[.getServer r.id], .json .ok r.toJson⟩ := by
  rw [answer_get_of_serves ht (.server hs hgrid) (by simp), answerAt]
  exact serverCall_of_mem h hr htext

theorem answer_accounts {query : Option String} {role : Option Role}
    (h : Form.role query = .ok (role.map Role.name)) :
    site.answer c.source ⟨"GET", ⟨"/api/accounts", query⟩⟩ =
      ⟨[.listAccounts role],
        .json .ok (.array (((c.accountsOf role).mergeSort Browse.older).map Account.toJson))⟩ := by
  have hof : (role.map Role.name).mapM Role.of = .ok role := by
    cases role with
    | none => rfl
    | some role => cases role <;> rfl
  rw [answer_get_of_serves ht .accounts (by decide), answerAt, accountsCall]
  simp only [h, hof, Except.mapError, ofExcept_ok_bind]
  rfl

theorem answer_products (query : Option String) :
    site.answer c.source ⟨"GET", ⟨"/api/products", query⟩⟩ =
      ⟨[.listProducts], .json .ok (.array ((Browse.offered c.products).map Product.toJson))⟩ :=
  answer_get_of_serves ht .products (by decide) query _

end

end Site

end ProxyConsole
