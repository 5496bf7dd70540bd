import ProxyConsole.Proofs.SeedLoading

/-!
# Server records as JSON

A value is read as a record if it holds the four values of one, each once, as members of an object or
as the items of an array, and the id is not blank. What is written is read back. The address is not looked
at in reading, only in validation; with it, a value is read as the record that a draft of the same
values builds, and an entry of a seed.
-/

namespace ProxyConsole

namespace Json

theorem string?_eq_some_iff {j : Json} {s : String} : j.string? = some s ↔ j = .string s := by
  cases j <;> simp [string?]

theorem unsigned?_eq_some_iff {j : Json} {n : Nat} :
    j.unsigned? 16 = some n ↔ j = .integer n ∧ n < UInt16.size := by
  have hsize : Int.pow 2 16 = UInt16.size := rfl
  cases j with
  | integer m =>
    simp only [unsigned?, hsize, integer.injEq]
    split
    · simp only [Option.some.injEq]
      omega
    · simp only [reduceCtorEq, false_iff]
      omega
  | _ => simp [unsigned?]

end Json

theorem ServerId.ofJson?_eq_some_iff {j : Json} {id : ServerId} :
    ofJson? j = some id ↔ j = .string id.text := by
  simp only [ofJson?, Option.bind_eq_bind, Option.bind_eq_some_iff, Json.string?_eq_some_iff]
  constructor
  · intro h
    obtain ⟨text, rfl, hof⟩ := h
    unfold of at hof
    split at hof
    · cases hof
      rfl
    · cases hof
  · rintro rfl
    refine ⟨id.text, rfl, ?_⟩
    rw [of, dif_pos id.notBlank]
    rfl

namespace ServerRecord

/-- The values of the four fields, as members of an object with names that are not repeated, among
others, or as the items of an array in the order of the fields. -/
inductive Holds : Json → String → String → Int → String → Prop
  | object {members : List (String × Json)} {id address : String} {port : Int} {password : String} :
      (Json.object members).member? "id" = some (.string id) →
      (Json.object members).member? "address" = some (.string address) →
      (Json.object members).member? "port" = some (.integer port) →
      (Json.object members).member? "password" = some (.string password) →
      Holds (.object members) id address port password
  | array {id address : String} {port : Int} {password : String} :
      Holds (.array [.string id, .string address, .integer port, .string password])
        id address port password

theorem ofValues?_eq_some_iff {id address port password : Json} {r : ServerRecord} :
    ofValues? id address port password = some r ↔ id = .string r.id.text ∧
      address = .string r.address ∧ port = .integer r.port.toNat ∧ password = .string r.password := by
  simp only [ofValues?, Option.bind_eq_bind, Option.bind_eq_some_iff, ServerId.ofJson?_eq_some_iff,
    Json.string?_eq_some_iff, Json.unsigned?_eq_some_iff, Option.pure_def, Option.some.injEq]
  constructor
  · intro h
    obtain ⟨i, rfl, a, rfl, n, ⟨rfl, hn⟩, p, rfl, rfl⟩ := h
    rw [UInt16.toNat_ofNat_of_lt' hn]
    exact ⟨rfl, rfl, rfl, rfl⟩
  · intro h
    obtain ⟨rfl, rfl, rfl, rfl⟩ := h
    exact ⟨_, rfl, _, rfl, _, ⟨rfl, r.port.toNat_lt⟩, _, rfl, by rw [UInt16.ofNat_toNat]⟩

theorem ofJson?_eq_some_iff {v : Json} {r : ServerRecord} :
    ofJson? v = some r ↔ Holds v r.id.text r.address r.port.toNat r.password := by
  constructor
  · intro h
    unfold ofJson? at h
    split at h
    · obtain ⟨rfl, rfl, rfl, rfl⟩ := ofValues?_eq_some_iff.mp h
      exact .array
    · simp only [Option.bind_eq_bind, Option.bind_eq_some_iff] at h
      obtain ⟨_, hid, _, haddress, _, hport, _, hpassword, h⟩ := h
      obtain ⟨rfl, rfl, rfl, rfl⟩ := ofValues?_eq_some_iff.mp h
      exact .object hid haddress hport hpassword
    · cases h
  · intro h
    generalize hid : r.id.text = id at h
    generalize haddress : r.address = address at h
    generalize hport : (r.port.toNat : Int) = port at h
    generalize hpassword : r.password = password at h
    cases h with
    | array =>
      rw [ofJson?, ofValues?_eq_some_iff, hid, haddress, hport, hpassword]
      exact ⟨rfl, rfl, rfl, rfl⟩
    | object hid' haddress' hport' hpassword' =>
      simp only [ofJson?, hid', haddress', hport', hpassword', Option.bind_eq_bind, Option.bind_some]
      rw [ofValues?_eq_some_iff, hid, haddress, hport, hpassword]
      exact ⟨rfl, rfl, rfl, rfl⟩

example : ofJson? (.object [("id", .string "JP"), ("address", .string "jp.proxy.example.net"),
    ("port", .integer 8388), ("password", .string ""), ("id", .string "US")]) = none :=
  rfl

theorem ofJson?_toJson (r : ServerRecord) : ofJson? r.toJson = some r := by
  rw [ofJson?_eq_some_iff]
  exact .object rfl rfl rfl rfl

/-- Of the values only the port and the id are looked at. -/
theorem exists_ofJson?_iff {v : Json} : (∃ r, ofJson? v = some r) ↔
    ∃ id address port password, Holds v id address port password ∧ (0 ≤ port ∧ port ≤ 65535) ∧
      ¬ IsBlank id := by
  constructor
  · intro h
    obtain ⟨r, hr⟩ := h
    have hport := r.port.toNat_lt
    exact ⟨_, _, _, _, ofJson?_eq_some_iff.mp hr, by omega, not_isBlank_iff.mp r.id.notBlank⟩
  · intro h
    obtain ⟨id, address, port, password, hv, hport, hid⟩ := h
    lift port to Nat using hport.1
    have hlt : port < UInt16.size := by
      have hsize : UInt16.size = 65536 := rfl
      omega
    refine ⟨⟨⟨id, not_isBlank_iff.mpr hid⟩, address, UInt16.ofNat port, password⟩, ?_⟩
    rw [ofJson?_eq_some_iff, UInt16.toNat_ofNat_of_lt' hlt]
    exact hv

/-! ## Other ways to make a record -/

def Draft.ofEntry (e : ServerSeed) : Draft :=
  { id := some e.id, address := some e.address, port := some e.port, password := some e.password }

theorem Draft.build_ofEntry_eq_ok_iff {e : ServerSeed} {r : ServerRecord} :
    (ofEntry e).build = .ok r ↔ (¬ IsBlank e.id ∧ ¬ IsBlank e.address) ∧ e.Keeps r := by
  have hbuild : e.build = .ok r ↔ (∀ w, ¬ e.Lacks w) ∧ e.Keeps r := ServerSeed.makes_build.ok_iff
  have hnone : (∀ w, ¬ e.Lacks w) ↔ ¬ IsBlank e.id ∧ ¬ IsBlank e.address := by
    have h := @Seed.noneLacks_servers_iff [e]
    simpa [NoneLacks] using h
  rw [← hnone]
  exact hbuild

theorem catalog_of_build {e : ServerSeed} {r : ServerRecord} (h : (Draft.ofEntry e).build = .ok r)
    (fresh : Fresh) : Seed.catalog { servers := [e] } fresh = .ok ⟨[r], [], []⟩ := by
  have hbuild : e.build = .ok r := h
  have hservers : [e].mapM ServerSeed.build = .ok [r] := by
    rw [List.mapM_cons, hbuild]
    rfl
  rw [Seed.catalog, Seed.records, hservers]
  rfl

theorem validated_iff {v : Json} {r : ServerRecord} :
    (ofJson? v = some r ∧ r.validate = .ok ()) ↔
      ∃ e : ServerSeed, Holds v e.id e.address e.port.toNat e.password ∧
        (Draft.ofEntry e).build = .ok r ∧
        ∀ fresh, Seed.catalog { servers := [e] } fresh = .ok ⟨[r], [], []⟩ := by
  constructor
  · intro h
    obtain ⟨hread, hvalid⟩ := h
    have hbuild : (Draft.ofEntry ⟨r.id.text, r.address, r.port, r.password⟩).build = .ok r := by
      rw [Draft.build_ofEntry_eq_ok_iff]
      exact ⟨⟨not_isBlank_iff.mp r.id.notBlank, validate_eq_ok_iff.mp hvalid⟩, rfl, rfl, rfl, rfl⟩
    exact ⟨_, ofJson?_eq_some_iff.mp hread, hbuild, catalog_of_build hbuild⟩
  · intro h
    obtain ⟨e, hv, hbuild, _⟩ := h
    obtain ⟨⟨_, haddress⟩, hkeeps⟩ := Draft.build_ofEntry_eq_ok_iff.mp hbuild
    rw [ofJson?_eq_some_iff, validate_eq_ok_iff, hkeeps.id, hkeeps.address, hkeeps.port,
      hkeeps.password]
    exact ⟨hv, haddress⟩

/-- Reading undoes writing; a value is read as a record if it holds an id that is not blank, an
address, a port and a password, and the record has just these; and if the record is valid, it is the
one that a draft of these values builds, and that a seed with this entry lists. -/
theorem json_exact :
    (∀ r : ServerRecord, ofJson? r.toJson = some r) ∧
      (∀ v, (∃ r, ofJson? v = some r) ↔ ∃ id address port password,
        Holds v id address port password ∧ (0 ≤ port ∧ port ≤ 65535) ∧ ¬ IsBlank id) ∧
      (∀ v r, ofJson? v = some r ↔ Holds v r.id.text r.address r.port.toNat r.password) ∧
      ∀ v r, (ofJson? v = some r ∧ r.validate = .ok ()) ↔
        ∃ e : ServerSeed, Holds v e.id e.address e.port.toNat e.password ∧
          (Draft.ofEntry e).build = .ok r ∧
          ∀ fresh, Seed.catalog { servers := [e] } fresh = .ok ⟨[r], [], []⟩ := by
  refine ⟨ofJson?_toJson, ?_, ?_, ?_⟩
  · exact fun v => exists_ofJson?_iff
  · exact fun v r => ofJson?_eq_some_iff
  · exact fun v r => validated_iff

end ServerRecord

end ProxyConsole
