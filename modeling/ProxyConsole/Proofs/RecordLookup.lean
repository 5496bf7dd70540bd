import ProxyConsole.Proofs.FailFast
import ProxyConsole.Proofs.ServerLookup
import ProxyConsole.Proofs.UuidSpelling

/-!
# Looking up records

A segment of a path stands for bytes, and the bytes may be the UTF-8 of a text. A server is looked
up by that text as it is, and an account by the UUID that the text spells. A segment that cannot
name a record is refused before the source is called.
-/

namespace ProxyConsole

namespace Site

open Endpoint Consult

/-! ## What a segment stands for -/

/-- The bytes that a segment stands for are the UTF-8 of the text. -/
def StandsFor (segment text : String) : Prop :=
  Percent.Decodes (Utf8.encode segment.toList) (Utf8.encode text.toList)

theorem segmentText?_eq_some_iff {segment text : String} :
    segmentText? segment = some text ↔ StandsFor segment text := by
  unfold StandsFor
  rw [← Percent.decode_eq_iff, ← Utf8.decode?_eq_some_iff, segmentText?, Option.map_eq_some_iff]
  constructor
  · intro h
    obtain ⟨cs, hcs, rfl⟩ := h
    rw [hcs, String.toList_ofList]
  · intro h
    exact ⟨text.toList, h, String.ofList_toList⟩

theorem StandsFor.unique {segment text text' : String} (h : StandsFor segment text)
    (h' : StandsFor segment text') : text = text' := by
  rw [← segmentText?_eq_some_iff] at h h'
  exact Option.some.inj (h.symm.trans h')

theorem segmentText?_eq_none {segment : String} (h : ∀ text, ¬ StandsFor segment text) :
    segmentText? segment = none :=
  Option.eq_none_iff_forall_ne_some.mpr fun text ht => h text (segmentText?_eq_some_iff.mp ht)

/-! ## Servers -/

/-- The answer to a request for the server that a segment names. -/
structure FetchesServer (c : Catalog) (segment : String) (a : Answer) : Prop where
  unread : (∀ text, ¬ StandsFor segment text) →
    a = ⟨[], .plain .badRequest "Invalid URL: Invalid UTF-8 in `id`"⟩
  blank : ∀ text, StandsFor segment text → IsBlank text →
    a = ⟨[], .jsonError .badRequest "server id must not be empty"⟩
  found : ∀ r ∈ c.servers, StandsFor segment r.id.text →
    a = ⟨[.getServer r.id], .json .ok r.toJson⟩ ∧ ∀ r' ∈ c.servers, r'.id.text = r.id.text → r' = r
  missing : ∀ text, StandsFor segment text → ¬ IsBlank text → (∀ r ∈ c.servers, r.id.text ≠ text) →
    (∃ id : ServerId, id.text = text ∧ a.calls = [.getServer id]) ∧
    a.response = .jsonError .notFound ("Server " ++ text ++ " not found")

theorem serverCall_fetches {c : Catalog} (h : (c.servers.map (·.id)).Nodup) (segment : String) :
    FetchesServer c segment (serverCall segment c.source) := by
  have hcall : ∀ text, StandsFor segment text → serverCall segment c.source =
      Answer.consult
        (Consult.ofExcept ((ServerId.of text).mapError .validation) >>= Browse.server)
        (fun r => .json .ok r.toJson) jsonFault c.source := by
    intro text htext
    rw [serverCall, segmentText?_eq_some_iff.mpr htext]
  constructor
  case unread =>
    intro hno
    rw [serverCall, segmentText?_eq_none hno]
    rfl
  case blank =>
    intro text htext hblank
    have hrefused : ServerId.of text = .error .emptyServerId :=
      dif_neg fun hn => not_isBlank_iff.mp hn hblank
    rw [hcall text htext, consult_of_error _ _ _ hrefused]
    rfl
  case found =>
    intro r hr htext
    refine ⟨?_, fun r' hr' hid => ?_⟩
    · exact serverCall_of_mem h hr (segmentText?_eq_some_iff.mpr htext)
    · exact List.inj_on_of_nodup_map h hr' hr (Seed.text_injective hid)
  case missing =>
    intro text htext hblank hnone
    have hid : ∃ id : ServerId, id.text = text := ⟨⟨text, not_isBlank_iff.mpr hblank⟩, rfl⟩
    obtain ⟨id, rfl⟩ := hid
    have hnothing : c.source.getServer id = .ok none := by
      refine congrArg Except.ok (List.find?_eq_none.mpr fun r hr hrid => ?_)
      rw [decide_eq_true_eq] at hrid
      exact hnone r hr (congrArg ServerId.text hrid)
    have hof : ServerId.of id.text = .ok id := dif_pos id.notBlank
    rw [hcall _ htext, consult_of_ok _ _ _ hof, Answer.consult, Browse.server_eq, hnothing]
    exact ⟨⟨id, rfl, rfl⟩, rfl⟩

/-! ## Accounts -/

/-- The answer to a request for the account that a segment names. -/
structure FetchesAccount (c : Catalog) (segment : String) (a : Answer) : Prop where
  unread : (∀ text, ¬ StandsFor segment text) →
    a = ⟨[], .plain .badRequest "Invalid URL: Invalid UTF-8 in `id`"⟩
  malformed : ∀ text, StandsFor segment text → (∀ u : Uuid, ¬ u.Spells text.toList) →
    a = ⟨[], .jsonError .badRequest ("malformed identifier: " ++ Quoted.quote text)⟩
  found : ∀ text (u : Uuid), StandsFor segment text → u.Spells text.toList →
    ∀ before account after, c.accounts = before ++ account :: after → account.id = ⟨u⟩ →
    (∀ b ∈ before, b.id ≠ ⟨u⟩) → a = ⟨[.getAccount ⟨u⟩], .json .ok account.toJson⟩
  missing : ∀ text (u : Uuid), StandsFor segment text → u.Spells text.toList →
    (∀ account ∈ c.accounts, account.id ≠ ⟨u⟩) → ∃ canonical, u.IsCanonical canonical ∧
    a = ⟨[.getAccount ⟨u⟩], .jsonError .notFound ("Account " ++ canonical ++ " not found")⟩

theorem accountCall_of_spells {segment text : String} {u : Uuid} (ht : StandsFor segment text)
    (hu : u.Spells text.toList) (s : Source) : accountCall segment s =
      Answer.consult (Browse.account ⟨u⟩) (fun a => .json .ok a.toJson) jsonFault s := by
  have hof : AccountId.of text = .ok ⟨u⟩ := by rw [AccountId.of, Uuid.ofText?_eq_some_iff.mpr hu]
  simp only [accountCall, segmentText?_eq_some_iff.mpr ht]
  exact consult_of_ok _ _ _ hof

theorem accountCall_fetches (c : Catalog) (segment : String) :
    FetchesAccount c segment (accountCall segment c.source) := by
  constructor
  case unread =>
    intro hno
    rw [accountCall, segmentText?_eq_none hno]
    rfl
  case malformed =>
    intro text htext hno
    have hnone : Uuid.ofText? text = none :=
      Option.eq_none_iff_forall_ne_some.mpr fun u hu => hno u (Uuid.ofText?_eq_some_iff.mp hu)
    have hrefused : AccountId.of text = .error (.malformedId text) := by rw [AccountId.of, hnone]
    simp only [accountCall, segmentText?_eq_some_iff.mpr htext]
    exact consult_of_error _ _ _ hrefused
  case found =>
    intro text u htext hu before account after haccounts hid hfirst
    have hfound : c.source.getAccount ⟨u⟩ = .ok (some account) := by
      refine congrArg Except.ok (List.find?_eq_some_iff_append.mpr ⟨decide_eq_true hid, before, after,
        haccounts, fun b hb => ?_⟩)
      rw [decide_eq_false (hfirst b hb)]
      rfl
    rw [accountCall_of_spells htext hu, Answer.consult, Browse.account_eq, hfound]
    rfl
  case missing =>
    intro text u htext hu hnone
    have hnothing : c.source.getAccount ⟨u⟩ = .ok none := by
      refine congrArg Except.ok (List.find?_eq_none.mpr fun a ha haid => ?_)
      exact hnone a ha (of_decide_eq_true haid)
    refine ⟨u.text, Uuid.isCanonical_iff.mpr rfl, ?_⟩
    rw [accountCall_of_spells htext hu, Answer.consult, Browse.account_eq, hnothing]
    rfl

/-! ## Requests -/

/-- How the records of a catalog that was loaded are looked up, for any segment of a path. -/
theorem records_looked_up {seed : Seed} {fresh : Fresh} {c : Catalog}
    (hc : seed.catalog fresh = .ok c) {site : Site} (ht : site.routes.Reachable) {segment : String}
    (hs : IsSegment segment) (query : Option String) :
    (∀ text text', StandsFor segment text → StandsFor segment text' → text = text') ∧
    (segment ≠ "grid" → FetchesServer c segment
      (site.answer c.source ⟨"GET", ⟨"/api/servers/" ++ segment, query⟩⟩)) ∧
    FetchesAccount c segment
      (site.answer c.source ⟨"GET", ⟨"/api/accounts/" ++ segment, query⟩⟩) ∧
    ∀ text (u : Uuid), StandsFor segment text → u.Spells text.toList →
      ∀ segment' text' query', IsSegment segment' → StandsFor segment' text' →
        u.Spells text'.toList →
        site.answer c.source ⟨"GET", ⟨"/api/accounts/" ++ segment', query'⟩⟩ =
          site.answer c.source ⟨"GET", ⟨"/api/accounts/" ++ segment, query⟩⟩ := by
  have haccount : ∀ segment, IsSegment segment → ∀ query,
      site.answer c.source ⟨"GET", ⟨"/api/accounts/" ++ segment, query⟩⟩ =
        accountCall segment c.source :=
    fun segment hs query => answer_get_of_serves ht (.account hs) (by simp) query _
  refine ⟨fun _ _ h h' => h.unique h', fun hgrid => ?_, ?_, ?_⟩
  · rw [answer_get_of_serves ht (.server hs hgrid) (by simp)]
    exact serverCall_fetches (Seed.nodup_ids_of_catalog hc) segment
  · rw [haccount segment hs]
    exact accountCall_fetches c segment
  · intro text u htext hu segment' text' query' hs' htext' hu'
    rw [haccount segment hs, haccount segment' hs', accountCall_of_spells htext hu,
      accountCall_of_spells htext' hu']

/-- A UUID in braces and in capitals, escaped, under which there is an account and no server. -/
theorem records_looked_up_in_braces :
    let now : Instant :=
      ⟨⟨1970, 1, 1, by decide⟩, 0, 0, 0, 0, by decide, by decide, by decide, by decide⟩
    let id : AccountId := ⟨⟨0x67e5504410b1426f9247bb680e5fe0c8⟩⟩
    let fresh : Fresh := ⟨fun _ => id, fun n => ⟨⟨.ofNat 128 n⟩⟩, fun _ => now⟩
    let seed : Seed := { accounts := [{ phone := "555-0100", email := "a@example.net" }] }
    let account : Account := ⟨id, .user, none, "555-0100", "a@example.net", "", now⟩
    let c : Catalog := ⟨[], [account], []⟩
    let site : Site := ⟨RouteTable.console, ⟨5, by decide⟩⟩
    let segment := "%7B67E55044-10B1-426F-9247-BB680E5FE0C8%7d"
    let text := "\x7b67E55044-10B1-426F-9247-BB680E5FE0C8\x7d"
    seed.catalog fresh = .ok c ∧ site.routes.Reachable ∧ IsSegment segment ∧
      site.answer c.source ⟨"GET", ⟨"/api/accounts/" ++ segment, none⟩⟩ =
        ⟨[.getAccount id], .json .ok account.toJson⟩ ∧
      (site.answer c.source ⟨"GET", ⟨"/api/servers/" ++ segment, none⟩⟩).response =
        .jsonError .notFound ("Server " ++ text ++ " not found") := by
  intro now id fresh seed account c site segment text
  have hc : seed.catalog fresh = .ok c := by
    unfold seed fresh c account id now
    rfl
  have ht : site.routes.Reachable := ⟨RouteTable.console, List.mem_cons_self .., [], rfl⟩
  have hs : IsSegment segment := ⟨by decide, by decide⟩
  have htext : StandsFor segment text := Percent.decode_eq_iff.mp (by decide +kernel)
  have hspells : id.uuid.Spells text.toList := Uuid.ofText?_eq_some_iff.mp (by decide)
  obtain ⟨_, hserver, haccount, _⟩ := records_looked_up hc ht hs none
  have hblank : ¬ IsBlank text := not_isBlank_iff.mp (by decide)
  refine ⟨hc, ht, hs, ?_, ?_⟩
  · exact haccount.found text id.uuid htext hspells [] account [] rfl rfl (by simp)
  · exact ((hserver (by decide)).missing text htext hblank (by simp [c])).2

end Site

end ProxyConsole
