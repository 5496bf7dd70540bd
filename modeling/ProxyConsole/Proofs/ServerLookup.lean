import ProxyConsole.Proofs.CatalogCalls
import ProxyConsole.Proofs.PercentCoding
import ProxyConsole.Proofs.Redirect
import ProxyConsole.Proofs.SeedLoading

/-!
# Fetching the servers that are listed

The list of servers names each by its id. Written into the path with escapes, an id comes back as it
was, whatever characters are in it, and the catalog has one server for it. Only the name of the grid
is taken: a server with that id is listed, but to fetch it is to ask for the grid.
-/

namespace ProxyConsole

namespace Site

open Endpoint

def serverTarget (id : ServerId) : String :=
  "/api/servers/" ++ Percent.encode id.text

theorem segmentText?_encode (text : String) : segmentText? (Percent.encode text) = some text := by
  rw [segmentText?, Percent.decode_encode, Utf8.decode?_encode, Option.map_some, String.ofList_toList]

theorem isSegment_encode (id : ServerId) : IsSegment (Percent.encode id.text) := by
  refine ⟨fun h => ?_, fun h => (Percent.isPathChar_of_mem_encode h).2 rfl⟩
  have hempty : Percent.encode "" = "" := rfl
  have hblank := id.notBlank
  rw [Percent.encode_injective (h.trans hempty.symm)] at hblank
  cases hblank

theorem encode_eq_grid_iff {text : String} : Percent.encode text = "grid" ↔ text = "grid" := by
  have hgrid : Percent.encode "grid" = "grid" := by decide
  rw [← hgrid, Percent.encode_injective.eq_iff, hgrid]

theorem isPathChar_of_mem_serverTarget {id : ServerId} {c : Char} (h : c ∈ (serverTarget id).toList) :
    Uri.isPathChar c = true := by
  have hprefix : "/api/servers/".toList.all Uri.isPathChar = true := by decide
  rw [serverTarget, String.toList_append, List.mem_append] at h
  rcases h with h | h
  · exact List.all_eq_true.mp hprefix c h
  · exact (Percent.isPathChar_of_mem_encode h).1

/-- A request for a server by its id can be made unless the target is too long, and is all path. -/
theorem ofTexts?_serverTarget_iff {id : ServerId} {r : Request} :
    Request.ofTexts? "GET" (serverTarget id) = some r ↔
      (serverTarget id).utf8ByteSize ≤ Uri.maxBytes ∧ r = ⟨"GET", ⟨serverTarget id, none⟩⟩ := by
  have hslash : (serverTarget id).toList.head? = some '/' := by
    rw [serverTarget, String.toList_append]
    rfl
  have huri : ∀ uri, Uri.ofText? (serverTarget id) = some uri ↔ _ :=
    fun uri => Uri.ofText?_path_eq_some_iff hslash fun _ => isPathChar_of_mem_serverTarget
  rw [Request.ofTexts?_get_eq_some_iff]
  simp only [huri]
  constructor
  · intro h
    obtain ⟨uri, ⟨hfits, rfl⟩, hr⟩ := h
    exact ⟨hfits, hr⟩
  · intro h
    exact ⟨_, ⟨h.1, rfl⟩, h.2⟩

end Site

theorem Seed.nodup_ids_of_catalog {seed : Seed} {fresh : Fresh} {c : Catalog}
    (h : seed.catalog fresh = .ok c) : (c.servers.map (·.id)).Nodup := by
  obtain ⟨hvalid, hservers, _⟩ := records_eq_ok_iff.mp (catalog_eq_ok_iff.mp h)
  exact (nodup_ids_iff hservers).mpr hvalid.distinct

namespace Site

/-- A catalog that is loaded lists its servers, and each of them can be fetched by its id, except one
with the name of the grid. -/
theorem listed_is_fetched {seed : Seed} {fresh : Fresh} {c : Catalog}
    (hc : seed.catalog fresh = .ok c) {site : Site} (ht : site.routes.Reachable) :
    site.answer c.source ⟨"GET", ⟨"/api/servers", none⟩⟩ =
        ⟨[.listServers], .json .ok (.array (c.servers.map ServerRecord.toJson))⟩ ∧
      ∀ r ∈ c.servers, ∀ request, Request.ofTexts? "GET" (serverTarget r.id) = some request →
        (r.id.text ≠ "grid" →
          site.answer c.source request = ⟨[.getServer r.id], .json .ok r.toJson⟩) ∧
        (r.id.text = "grid" → site.answer c.source request =
          ⟨[.listServers], .json .ok (GridLayout.ofColumns c.servers site.standardColumns).toJson⟩) := by
  refine ⟨answer_servers ht none, fun r hr request hrequest => ?_⟩
  obtain ⟨_, rfl⟩ := ofTexts?_serverTarget_iff.mp hrequest
  constructor
  · intro hgrid
    have hsegment : Percent.encode r.id.text ≠ "grid" := fun h => hgrid (encode_eq_grid_iff.mp h)
    exact answer_server ht (Seed.nodup_ids_of_catalog hc) hr (isSegment_encode r.id) hsegment
      (segmentText?_encode _) none
  · intro hgrid
    rw [serverTarget, encode_eq_grid_iff.mpr hgrid]
    exact answer_serverGrid ht

theorem fetched_with_escapes :
    let now : Instant :=
      ⟨⟨1970, 1, 1, by decide⟩, 0, 0, 0, 0, by decide, by decide, by decide, by decide⟩
    let fresh : Fresh := ⟨fun n => ⟨⟨.ofNat 128 n⟩⟩, fun n => ⟨⟨.ofNat 128 n⟩⟩, fun _ => now⟩
    let seed : Seed := { servers := [⟨"grid", "10.0.0.1", 1, ""⟩, ⟨"1/2 é", "10.0.0.2", 2, ""⟩] }
    let r : ServerRecord := ⟨⟨"1/2 é", rfl⟩, "10.0.0.2", 2, ""⟩
    let c : Catalog := ⟨[⟨⟨"grid", rfl⟩, "10.0.0.1", 1, ""⟩, r], [], []⟩
    let site : Site := ⟨RouteTable.console, ⟨5, by decide⟩⟩
    let request : Request := ⟨"GET", ⟨"/api/servers/1%2F2%20%C3%A9", none⟩⟩
    seed.catalog fresh = .ok c ∧ site.routes.Reachable ∧
      Request.ofTexts? "GET" (serverTarget r.id) = some request ∧
      site.answer c.source request = ⟨[.getServer r.id], .json .ok r.toJson⟩ := by
  intro now fresh seed r c site request
  have hc : seed.catalog fresh = .ok c := rfl
  have ht : site.routes.Reachable := ⟨RouteTable.console, List.mem_cons_self .., [], rfl⟩
  have hr : r ∈ c.servers := by simp [c]
  have htarget : serverTarget r.id = "/api/servers/1%2F2%20%C3%A9" := by decide
  have hrequest : Request.ofTexts? "GET" (serverTarget r.id) = some request :=
    ofTexts?_serverTarget_iff.mpr ⟨by decide, by rw [htarget]⟩
  have hfetched := ((listed_is_fetched hc ht).2 r hr request hrequest).1
  exact ⟨hc, ht, hrequest, hfetched (by decide)⟩

theorem grid_toJson_ne (g : GridLayout) (r : ServerRecord) : g.toJson ≠ r.toJson := by
  simp [GridLayout.toJson, ServerRecord.toJson]

/-- A seed may name a server like the grid. It is listed, and a request for it is answered with the
grid. -/
theorem server_named_grid_is_not_fetched :
    let now : Instant :=
      ⟨⟨1970, 1, 1, by decide⟩, 0, 0, 0, 0, by decide, by decide, by decide, by decide⟩
    let fresh : Fresh := ⟨fun n => ⟨⟨.ofNat 128 n⟩⟩, fun n => ⟨⟨.ofNat 128 n⟩⟩, fun _ => now⟩
    let seed : Seed := { servers := [⟨"grid", "10.0.0.1", 1, ""⟩] }
    let r : ServerRecord := ⟨⟨"grid", rfl⟩, "10.0.0.1", 1, ""⟩
    let c : Catalog := ⟨[r], [], []⟩
    let site : Site := ⟨RouteTable.console, ⟨3, by decide⟩⟩
    let request : Request := ⟨"GET", ⟨"/api/servers/grid", none⟩⟩
    seed.catalog fresh = .ok c ∧ site.routes.Reachable ∧
      site.answer c.source ⟨"GET", ⟨"/api/servers", none⟩⟩ =
        ⟨[.listServers], .json .ok (.array [r.toJson])⟩ ∧
      Request.ofTexts? "GET" (serverTarget r.id) = some request ∧
      site.answer c.source request =
        ⟨[.listServers], .json .ok (GridLayout.ofColumns [r] site.standardColumns).toJson⟩ ∧
      (site.answer c.source request).response ≠ .json .ok r.toJson := by
  intro now fresh seed r c site request
  have ht : site.routes.Reachable := ⟨RouteTable.console, List.mem_cons_self .., [], rfl⟩
  have htarget : serverTarget r.id = "/api/servers/grid" := by decide
  have hrequest : Request.ofTexts? "GET" (serverTarget r.id) = some request :=
    ofTexts?_serverTarget_iff.mpr ⟨by decide, by rw [htarget]⟩
  have hgrid : site.answer c.source request = _ := answer_serverGrid ht
  refine ⟨rfl, ht, answer_servers ht none, hrequest, hgrid, ?_⟩
  rw [hgrid]
  intro h
  have hbody := congrArg Response.body h
  exact grid_toJson_ne _ r (Body.json.inj hbody)

end Site

end ProxyConsole
