import Mathlib.Data.List.Nodup
import ProxyConsole.Proofs.Segments
import ProxyConsole.Proofs.Sequencing
import ProxyConsole.Seed

/-!
# Loading a seed

Entries are made into records one by one, up to the first that lacks something. A seed loads if no
entry lacks anything and no two servers share an id; its catalog then lists one record for each
entry, in order. Otherwise the error is that of the first stage in which something is amiss.
-/

namespace ProxyConsole

/-! ## What entries lack -/

section
variable {α β : Type}

theorem exists_of_mem_right {R : α → β → Prop} {l : List α} {bs : List β} (h : List.Forall₂ R l bs)
    {b : β} (hb : b ∈ bs) : ∃ a ∈ l, R a b := by
  induction h with
  | nil => cases hb
  | @cons a b' l bs hab _ ih =>
    rcases List.mem_cons.mp hb with rfl | hb
    · exact ⟨a, List.mem_cons_self .., hab⟩
    · obtain ⟨a', ha', hR⟩ := ih hb
      exact ⟨a', List.mem_cons_of_mem _ ha', hR⟩

def NoneLacks (lacks : α → Violation → Prop) (l : List α) : Prop :=
  ∀ a ∈ l, ∀ v, ¬ lacks a v

/-- What the first entry that lacks something lacks. -/
def FirstLack (lacks : α → Violation → Prop) (l : List α) (v : Violation) : Prop :=
  ∃ before a after, l = before ++ a :: after ∧ NoneLacks lacks before ∧ lacks a v

theorem noneLacks_cons {lacks : α → Violation → Prop} {a : α} {l : List α} :
    NoneLacks lacks (a :: l) ↔ (∀ v, ¬ lacks a v) ∧ NoneLacks lacks l :=
  List.forall_mem_cons

theorem firstLack_cons {lacks : α → Violation → Prop} {a : α} {l : List α} {v : Violation} :
    FirstLack lacks (a :: l) v ↔ lacks a v ∨ (∀ w, ¬ lacks a w) ∧ FirstLack lacks l v := by
  constructor
  · rintro ⟨before, b, after, hl, hnone, hb⟩
    cases before with
    | nil =>
      cases hl
      exact .inl hb
    | cons c before =>
      cases hl
      rw [noneLacks_cons] at hnone
      exact .inr ⟨hnone.1, before, b, after, rfl, hnone.2, hb⟩
  · rintro (ha | ⟨hnone, before, b, after, rfl, hbefore, hb⟩)
    · exact ⟨[], a, l, rfl, nofun, ha⟩
    · exact ⟨a :: before, b, after, rfl, noneLacks_cons.mpr ⟨hnone, hbefore⟩, hb⟩

theorem firstLack_map {γ : Type} {lacks : α → Violation → Prop} (g : γ → α) {l : List γ} {v : Violation} :
    FirstLack lacks (l.map g) v ↔ FirstLack (fun c => lacks (g c)) l v := by
  induction l with
  | nil => simp [FirstLack]
  | cons c l ih => rw [List.map_cons, firstLack_cons, firstLack_cons, ih]

theorem noneLacks_zipIdx {lacks : α → Violation → Prop} {l : List α} :
    NoneLacks (fun e : α × Nat => lacks e.1) l.zipIdx ↔ NoneLacks lacks l := by
  conv_rhs => rw [← List.zipIdx_map_fst 0 l, NoneLacks, List.forall_mem_map]
  rfl

theorem firstLack_zipIdx {lacks : α → Violation → Prop} {l : List α} {v : Violation} :
    FirstLack (fun e : α × Nat => lacks e.1) l.zipIdx v ↔ FirstLack lacks l v := by
  rw [← firstLack_map, List.zipIdx_map_fst]

theorem FirstLack.not_noneLacks {lacks : α → Violation → Prop} {l : List α} {v : Violation}
    (h : FirstLack lacks l v) : ¬ NoneLacks lacks l := by
  obtain ⟨before, a, after, rfl, _, ha⟩ := h
  exact fun hl => hl a (List.mem_append_right _ (List.mem_cons_self ..)) v ha

/-- Refuses an entry for the one thing that it lacks, or makes the one record that keeps it. -/
def Makes (f : α → Except Fault β) (lacks : α → Violation → Prop) (keeps : α → β → Prop) : Prop :=
  ∀ a, (∃ v, f a = .error (.validation v) ∧ ∀ w, lacks a w ↔ w = v) ∨
    ∃ b, f a = .ok b ∧ (∀ w, ¬ lacks a w) ∧ ∀ c, keeps a c ↔ c = b

namespace Makes

variable {f : α → Except Fault β} {lacks : α → Violation → Prop} {keeps : α → β → Prop}

theorem ok_iff (h : Makes f lacks keeps) {a : α} {b : β} :
    f a = .ok b ↔ (∀ w, ¬ lacks a w) ∧ keeps a b := by
  rcases h a with ⟨v, hf, hlacks⟩ | ⟨c, hf, hnone, hkeeps⟩
  · rw [hf]
    exact ⟨nofun, fun hb => absurd ((hlacks v).mpr rfl) (hb.1 v)⟩
  · rw [hf, hkeeps, Except.ok.injEq]
    exact ⟨fun hb => ⟨hnone, hb.symm⟩, fun hb => hb.2.symm⟩

theorem error_iff (h : Makes f lacks keeps) {a : α} {e : Fault} :
    f a = .error e ↔ ∃ v, e = .validation v ∧ lacks a v := by
  rcases h a with ⟨v, hf, hlacks⟩ | ⟨c, hf, hnone, _⟩
  · rw [hf, Except.error.injEq]
    constructor
    · rintro rfl
      exact ⟨v, rfl, (hlacks v).mpr rfl⟩
    · rintro ⟨w, rfl, hw⟩
      rw [(hlacks w).mp hw]
  · rw [hf]
    exact ⟨nofun, fun ⟨v, _, hv⟩ => absurd hv (hnone v)⟩

theorem mapM_ok_iff (h : Makes f lacks keeps) {l : List α} {bs : List β} :
    l.mapM f = .ok bs ↔ NoneLacks lacks l ∧ List.Forall₂ keeps l bs := by
  rw [mapM_eq_ok_iff, NoneLacks, ← List.forall₂_and_left]
  simp only [h.ok_iff]

theorem mapM_error_iff (h : Makes f lacks keeps) {l : List α} {e : Fault} :
    l.mapM f = .error e ↔ ∃ v, e = .validation v ∧ FirstLack lacks l v := by
  induction l with
  | nil => simp [FirstLack, pure, Except.pure]
  | cons a l ih =>
    rw [List.mapM_cons, except_bind_eq_error_iff, h.error_iff]
    -- what is done with the records of the rest cannot fail
    have hrest : ∀ b, (l.mapM f >>= fun bs => pure (b :: bs)) = .error e ↔ l.mapM f = .error e := by
      intro b
      rw [except_bind_eq_error_iff]
      exact or_iff_left fun ⟨_, _, he⟩ => nomatch he
    simp only [hrest, ih, firstLack_cons, h.ok_iff]
    constructor
    · rintro (⟨v, rfl, hv⟩ | ⟨b, ⟨hnone, _⟩, v, rfl, hv⟩)
      · exact ⟨v, rfl, .inl hv⟩
      · exact ⟨v, rfl, .inr ⟨hnone, hv⟩⟩
    · rintro ⟨v, rfl, hv | ⟨hnone, hv⟩⟩
      · exact .inl ⟨v, rfl, hv⟩
      · rcases h a with ⟨w, _, hlacks⟩ | ⟨b, _, _, hkeeps⟩
        · exact absurd ((hlacks w).mpr rfl) (hnone w)
        · exact .inr ⟨b, ⟨hnone, (hkeeps b).mpr rfl⟩, v, rfl, hv⟩

theorem exists_keeps (h : Makes f lacks keeps) {l : List α} (hl : NoneLacks lacks l) :
    ∃ bs, List.Forall₂ keeps l bs := by
  cases hm : l.mapM f with
  | ok bs => exact ⟨bs, (h.mapM_ok_iff.mp hm).2⟩
  | error e =>
    obtain ⟨v, _, hv⟩ := h.mapM_error_iff.mp hm
    exact absurd hl hv.not_noneLacks

end Makes

end

/-! ## Entries -/

def IsBlank (s : String) : Prop :=
  ∀ c ∈ s.toList, Text.isSpace c = true

theorem isBlank_iff {s : String} : Text.isBlank s = true ↔ IsBlank s :=
  List.all_eq_true

theorem not_isBlank_iff {s : String} : Text.isBlank s = false ↔ ¬ IsBlank s := by
  rw [← isBlank_iff, Bool.not_eq_true]

/-- Something before the first at sign and something after it. -/
def IsAddress (s : String) : Prop :=
  ∃ user domain, user ≠ "" ∧ '@' ∉ user.toList ∧ domain ≠ "" ∧ s = user ++ "@" ++ domain

theorem Account.isEmail_iff {s : String} : isEmail s = true ↔ IsAddress s := by
  constructor
  · intro h
    by_cases hat : '@' ∈ s.toList
    · obtain ⟨before, after, hs, hbefore⟩ := List.eq_append_cons_of_mem hat
      rw [isEmail, hs, Text.span_ne_append_cons hbefore] at h
      cases before with
      | nil => cases h
      | cons c before =>
        cases after with
        | nil => cases h
        | cons d after =>
          refine ⟨String.ofList (c :: before), String.ofList (d :: after), ?_, ?_, ?_, ?_⟩
          · simp
          · rwa [String.toList_ofList]
          · simp
          · rw [← String.toList_inj, hs]
            simp
    · rw [isEmail, Text.span_ne_of_not_mem hat] at h
      cases hs : s.toList <;> rw [hs] at h <;> cases h
  · rintro ⟨user, domain, huser, hno, hdomain, rfl⟩
    have hs : (user ++ "@" ++ domain).toList = user.toList ++ '@' :: domain.toList := by simp
    rw [isEmail, hs, Text.span_ne_append_cons hno]
    rw [Ne, ← String.toList_eq_nil_iff] at huser hdomain
    obtain ⟨c, user', hu⟩ := List.exists_cons_of_ne_nil huser
    obtain ⟨d, domain', hd⟩ := List.exists_cons_of_ne_nil hdomain
    rw [hu, hd]

theorem ServerRecord.validate_eq_ok_iff {r : ServerRecord} :
    r.validate = .ok () ↔ ¬ IsBlank r.address := by
  rw [validate, ← isBlank_iff]
  split
  · simp [*]
  · simp [*]

theorem Account.validate_eq_ok_iff {a : Account} :
    a.validate = .ok () ↔ ¬ IsBlank a.phone ∧ IsAddress a.email := by
  rw [validate, ← isBlank_iff, ← isEmail_iff]
  split
  · simp [*]
  · split
    · simp [*]
    · simp [*]

theorem Product.validate_eq_ok_iff {p : Product} : p.validate = .ok () ↔ ¬ IsBlank p.name := by
  rw [validate, ← isBlank_iff]
  split
  · simp [*]
  · simp [*]

namespace ServerSeed

inductive Lacks (e : ServerSeed) : Violation → Prop
  -- an address is looked at only behind an id that passes
  | id : IsBlank e.id → Lacks e .emptyServerId
  | address : ¬ IsBlank e.id → IsBlank e.address → Lacks e .emptyAddress

structure Keeps (e : ServerSeed) (r : ServerRecord) : Prop where
  id : r.id.text = e.id
  address : r.address = e.address
  port : r.port = e.port
  password : r.password = e.password

theorem makes_build : Makes build Lacks Keeps := by
  intro e
  by_cases hid : IsBlank e.id
  · refine .inl ⟨.emptyServerId, ?_, fun w => ⟨?_, ?_⟩⟩
    · simp [build, ServerRecord.Draft.build, ServerId.of, isBlank_iff.mpr hid, Except.mapError,
        bind, Except.bind]
    · rintro (_ | ⟨hno, _⟩)
      · rfl
      · exact absurd hid hno
    · rintro rfl
      exact .id hid
  · have hof : ServerId.of e.id = .ok ⟨e.id, not_isBlank_iff.mpr hid⟩ := dif_pos _
    by_cases haddress : IsBlank e.address
    · refine .inl ⟨.emptyAddress, ?_, fun w => ⟨?_, ?_⟩⟩
      · simp [build, ServerRecord.Draft.build, hof, ServerRecord.validate, isBlank_iff.mpr haddress,
          Except.mapError, bind, Except.bind]
      · rintro (h | _)
        · exact absurd h hid
        · rfl
      · rintro rfl
        exact .address hid haddress
    · refine .inr ⟨⟨⟨e.id, not_isBlank_iff.mpr hid⟩, e.address, e.port, e.password⟩, ?_, ?_, ?_⟩
      · simp [build, ServerRecord.Draft.build, hof, ServerRecord.validate,
          not_isBlank_iff.mpr haddress, Except.mapError, bind, Except.bind, pure, Except.pure]
      · rintro w (h | ⟨_, h⟩)
        · exact hid h
        · exact haddress h
      · rintro ⟨⟨text, hblank⟩, address, port, password⟩
        constructor
        · rintro ⟨rfl, rfl, rfl, rfl⟩
          rfl
        · rintro h
          cases h
          exact ⟨rfl, rfl, rfl, rfl⟩

end ServerSeed

namespace AccountSeed

inductive Lacks (e : AccountSeed) : Violation → Prop
  | phone : IsBlank e.phone → Lacks e .emptyPhone
  | email : ¬ IsBlank e.phone → ¬ IsAddress e.email → Lacks e (.invalidEmail e.email)

structure Keeps (fresh : Fresh) (e : AccountSeed × Nat) (a : Account) : Prop where
  id : a.id = fresh.accountId e.2
  role : a.role = e.1.role
  nickname : a.nickname = if e.1.nickname = some "" then none else e.1.nickname
  phone : a.phone = e.1.phone
  email : a.email = e.1.email
  password : a.password = e.1.password
  createdAt : a.createdAt = e.1.createdAt.getD (fresh.now e.2)

def account (e : AccountSeed) (fresh : Fresh) (place : Nat) : Account :=
  { id := fresh.accountId place, role := e.role, nickname := e.nickname.filter (· ≠ "")
    phone := e.phone, email := e.email, password := e.password
    createdAt := e.createdAt.getD (fresh.now place) }

theorem build_eq (e : AccountSeed) (fresh : Fresh) (place : Nat) :
    e.build fresh place = (e.account fresh place).validate >>= fun _ => .ok (e.account fresh place) :=
  rfl

theorem keeps_iff {fresh : Fresh} {e : AccountSeed} {place : Nat} {a : Account} :
    Keeps fresh (e, place) a ↔ a = e.account fresh place := by
  have hnickname : e.nickname.filter (· ≠ "") = if e.nickname = some "" then none else e.nickname := by
    cases e.nickname with
    | none => rfl
    | some text => by_cases h : text = "" <;> simp [h]
  constructor
  · rintro ⟨hid, hrole, hnick, hphone, hemail, hpassword, hcreated⟩
    rw [← hnickname] at hnick
    cases a
    cases hid
    cases hrole
    cases hnick
    cases hphone
    cases hemail
    cases hpassword
    cases hcreated
    rfl
  · rintro rfl
    exact ⟨rfl, rfl, hnickname, rfl, rfl, rfl, rfl⟩

theorem makes_build (fresh : Fresh) :
    Makes (fun e : AccountSeed × Nat => e.1.build fresh e.2) (fun e => Lacks e.1) (Keeps fresh) := by
  rintro ⟨e, place⟩
  simp only [build_eq]
  by_cases hphone : IsBlank e.phone
  · refine .inl ⟨.emptyPhone, ?_, fun w => ⟨?_, ?_⟩⟩
    · simp [account, Account.validate, isBlank_iff.mpr hphone, bind, Except.bind]
    · rintro (_ | ⟨hno, _⟩)
      · rfl
      · exact absurd hphone hno
    · rintro rfl
      exact .phone hphone
  · by_cases hemail : IsAddress e.email
    · have hvalid : (e.account fresh place).validate = .ok () :=
        Account.validate_eq_ok_iff.mpr ⟨hphone, hemail⟩
      refine .inr ⟨e.account fresh place, by rw [hvalid]; rfl, ?_, fun a => keeps_iff⟩
      rintro w (h | ⟨_, h⟩)
      · exact hphone h
      · exact h hemail
    · refine .inl ⟨.invalidEmail e.email, ?_, fun w => ⟨?_, ?_⟩⟩
      · have hno : Account.isEmail e.email = false := by
          rw [← Bool.not_eq_true, Account.isEmail_iff]
          exact hemail
        simp [account, Account.validate, not_isBlank_iff.mpr hphone, hno, bind, Except.bind]
      · rintro (h | _)
        · exact absurd h hphone
        · rfl
      · rintro rfl
        exact .email hphone hemail

end AccountSeed

namespace ProductSeed

inductive Lacks (e : ProductSeed) : Violation → Prop
  | name : IsBlank e.name → Lacks e .emptyName

structure Keeps (fresh : Fresh) (e : ProductSeed × Nat) (p : Product) : Prop where
  id : p.id = fresh.productId e.2
  name : p.name = e.1.name
  priceCents : p.priceCents = e.1.priceCents
  description : p.description = e.1.description
  status : p.status = e.1.status

theorem makes_build (fresh : Fresh) :
    Makes (fun e : ProductSeed × Nat => e.1.build fresh e.2) (fun e => Lacks e.1) (Keeps fresh) := by
  rintro ⟨e, place⟩
  by_cases hname : IsBlank e.name
  · refine .inl ⟨.emptyName, ?_, fun w => ⟨?_, ?_⟩⟩
    · simp [build, Product.Draft.build, Product.validate, isBlank_iff.mpr hname, bind, Except.bind]
    · rintro ⟨⟩
      rfl
    · rintro rfl
      exact .name hname
  · refine .inr ⟨⟨fresh.productId place, e.name, e.priceCents, e.description, e.status⟩, ?_, ?_, ?_⟩
    · simp [build, Product.Draft.build, Product.validate, not_isBlank_iff.mpr hname, bind,
        Except.bind, pure, Except.pure]
    · rintro w ⟨h⟩
      exact hname h
    · rintro ⟨id, name, priceCents, description, status⟩
      constructor
      · rintro ⟨rfl, rfl, rfl, rfl, rfl⟩
        rfl
      · rintro h
        cases h
        exact ⟨rfl, rfl, rfl, rfl, rfl⟩

end ProductSeed

/-! ## Ids -/

/-- The first element that equals an earlier one. -/
def FirstRepeated {α : Type} (l : List α) (a : α) : Prop :=
  ∃ before after, l = before ++ a :: after ∧ before.Nodup ∧ a ∈ before

theorem firstRepeated_map_iff {α β : Type} {f : α → β} (hf : Function.Injective f) {l : List α} {b : β} :
    FirstRepeated (l.map f) b ↔ ∃ a, b = f a ∧ FirstRepeated l a := by
  constructor
  · rintro ⟨before, after, hl, hn, hb⟩
    obtain ⟨l₁, l₂, rfl, rfl, hl₂⟩ := List.map_eq_append_iff.mp hl
    obtain ⟨a, l₃, rfl, rfl, rfl⟩ := List.map_eq_cons_iff.mp hl₂
    exact ⟨a, rfl, l₁, l₃, rfl, (List.nodup_map_iff hf).mp hn, (List.mem_map_of_injective hf).mp hb⟩
  · rintro ⟨a, rfl, before, after, rfl, hn, ha⟩
    refine ⟨before.map f, after.map f, ?_, (List.nodup_map_iff hf).mpr hn, List.mem_map_of_mem ha⟩
    rw [List.map_append, List.map_cons]

namespace Seed

theorem repeated?_eq_some_iff {seen ids : List ServerId} {id : ServerId} (hseen : seen.Nodup) :
    repeated? seen ids = some id ↔ ∃ before after, ids = before ++ id :: after ∧
      (before.reverse ++ seen).Nodup ∧ id ∈ before.reverse ++ seen := by
  -- what was seen is the part in front, last id first, and has no repetition
  induction ids generalizing seen with
  | nil => simp [repeated?]
  | cons a ids ih =>
    rw [repeated?]
    by_cases ha : a ∈ seen
    · rw [if_pos ha, Option.some.injEq]
      constructor
      · rintro rfl
        exact ⟨[], ids, rfl, hseen, ha⟩
      · rintro ⟨before, after, hids, hn, _⟩
        cases before with
        | nil => exact (List.cons.inj hids).1
        | cons b before =>
          -- `a` would stand in front of what was seen, and among it
          obtain ⟨rfl, rfl⟩ := List.cons.inj hids
          exact absurd rfl ((List.nodup_append.mp hn).2.2 a (by simp) a ha)
    · rw [if_neg ha, ih (List.nodup_cons.mpr ⟨ha, hseen⟩)]
      constructor
      · rintro ⟨before, after, rfl, hn, hid⟩
        refine ⟨a :: before, after, rfl, ?_, ?_⟩
        · simpa using hn
        · simpa using hid
      · rintro ⟨before, after, hids, hn, hid⟩
        cases before with
        | nil =>
          obtain ⟨rfl, rfl⟩ := List.cons.inj hids
          exact absurd hid ha
        | cons b before =>
          obtain ⟨rfl, rfl⟩ := List.cons.inj hids
          refine ⟨before, after, rfl, ?_, ?_⟩
          · simpa using hn
          · simpa using hid

theorem repeated?_eq_none_iff {seen ids : List ServerId} (hseen : seen.Nodup) :
    repeated? seen ids = none ↔ (ids.reverse ++ seen).Nodup := by
  induction ids generalizing seen with
  | nil => simpa [repeated?] using hseen
  | cons a ids ih =>
    rw [repeated?]
    by_cases ha : a ∈ seen
    · rw [if_pos ha]
      refine ⟨nofun, fun hn => ?_⟩
      exact absurd rfl ((List.nodup_append.mp hn).2.2 a (by simp) a ha)
    · rw [if_neg ha, ih (List.nodup_cons.mpr ⟨ha, hseen⟩)]
      simp

theorem text_injective : Function.Injective ServerId.text := by
  rintro ⟨text, _⟩ ⟨text', _⟩ h
  cases h
  rfl

theorem checkUnique_eq_ok_iff {servers : List ServerRecord} {u : Unit} :
    checkUnique servers = .ok u ↔ (servers.map (·.id)).Nodup := by
  have hnone : repeated? [] (servers.map (·.id)) = none ↔ (servers.map (·.id)).Nodup := by
    rw [repeated?_eq_none_iff List.nodup_nil, List.append_nil, List.nodup_reverse]
  rw [← hnone, checkUnique]
  split
  · simp [*]
  · simp [*]

theorem checkUnique_eq_error_iff {servers : List ServerRecord} {e : Fault} :
    checkUnique servers = .error e ↔ ∃ id, e = .validation (.duplicateServerId id) ∧
      FirstRepeated (servers.map (·.id.text)) id := by
  have htexts : servers.map (·.id.text) = (servers.map (·.id)).map ServerId.text := by
    rw [List.map_map]
    rfl
  have hsome : ∀ id, repeated? [] (servers.map (·.id)) = some id ↔
      FirstRepeated (servers.map (·.id)) id := by
    intro id
    rw [repeated?_eq_some_iff List.nodup_nil]
    simp [FirstRepeated]
  rw [htexts, checkUnique]
  simp only [firstRepeated_map_iff text_injective, ← hsome]
  cases repeated? [] (servers.map (·.id)) with
  | none => simp
  | some id =>
    constructor
    · rintro h
      cases h
      exact ⟨id.text, rfl, id, rfl, rfl⟩
    · rintro ⟨_, rfl, id', rfl, hid⟩
      cases hid
      rfl

theorem map_text_of_keeps {es : List ServerSeed} {rs : List ServerRecord}
    (h : List.Forall₂ ServerSeed.Keeps es rs) : rs.map (·.id.text) = es.map (·.id) := by
  induction h with
  | nil => rfl
  | cons hkeeps _ ih => rw [List.map_cons, List.map_cons, hkeeps.id, ih]

theorem nodup_ids_iff {es : List ServerSeed} {rs : List ServerRecord}
    (h : List.Forall₂ ServerSeed.Keeps es rs) :
    (rs.map (·.id)).Nodup ↔ (es.map (·.id)).Nodup := by
  rw [← map_text_of_keeps h, ← List.nodup_map_iff text_injective, List.map_map]
  rfl

/-! ## Seeds -/

structure Valid (s : Seed) : Prop where
  ids : ∀ e ∈ s.servers, ¬ IsBlank e.id
  addresses : ∀ e ∈ s.servers, ¬ IsBlank e.address
  distinct : (s.servers.map (·.id)).Nodup
  phones : ∀ e ∈ s.accounts, ¬ IsBlank e.phone
  emails : ∀ e ∈ s.accounts, IsAddress e.email
  names : ∀ e ∈ s.products, ¬ IsBlank e.name

/-- A source lists one valid record for each entry of a seed, in order. -/
structure Lists (s : Seed) (fresh : Fresh) (source : Source) : Prop where
  servers : ∃ l, source.listServers = .ok l ∧ List.Forall₂ ServerSeed.Keeps s.servers l ∧
    (∀ r ∈ l, r.validate = .ok ()) ∧ (l.map (·.id)).Nodup
  accounts : ∃ l, source.listAccounts none = .ok l ∧
    List.Forall₂ (AccountSeed.Keeps fresh) s.accounts.zipIdx l ∧ ∀ a ∈ l, a.validate = .ok ()
  products : ∃ l, source.listProducts = .ok l ∧
    List.Forall₂ (ProductSeed.Keeps fresh) s.products.zipIdx l ∧ ∀ p ∈ l, p.validate = .ok ()

/-- What is amiss with a seed: the first fault of the first stage that has one. -/
inductive Fails (s : Seed) : Violation → Prop
  | server {v : Violation} : FirstLack ServerSeed.Lacks s.servers v → Fails s v
  | repeated {id : String} : NoneLacks ServerSeed.Lacks s.servers →
      FirstRepeated (s.servers.map (·.id)) id → Fails s (.duplicateServerId id)
  | account {v : Violation} : NoneLacks ServerSeed.Lacks s.servers → (s.servers.map (·.id)).Nodup →
      FirstLack AccountSeed.Lacks s.accounts v → Fails s v
  | product {v : Violation} : NoneLacks ServerSeed.Lacks s.servers → (s.servers.map (·.id)).Nodup →
      NoneLacks AccountSeed.Lacks s.accounts → FirstLack ProductSeed.Lacks s.products v → Fails s v

theorem noneLacks_servers_iff {es : List ServerSeed} : NoneLacks ServerSeed.Lacks es ↔
    (∀ e ∈ es, ¬ IsBlank e.id) ∧ ∀ e ∈ es, ¬ IsBlank e.address := by
  rw [← forall₂_and]
  refine forall₂_congr fun e _ => ⟨fun h => ?_, ?_⟩
  · have hid : ¬ IsBlank e.id := fun hid => h _ (.id hid)
    exact ⟨hid, fun haddress => h _ (.address hid haddress)⟩
  · rintro ⟨hid, haddress⟩ v (h | ⟨_, h⟩)
    · exact hid h
    · exact haddress h

theorem noneLacks_accounts_iff {es : List AccountSeed} : NoneLacks AccountSeed.Lacks es ↔
    (∀ e ∈ es, ¬ IsBlank e.phone) ∧ ∀ e ∈ es, IsAddress e.email := by
  rw [← forall₂_and]
  refine forall₂_congr fun e _ => ⟨fun h => ?_, ?_⟩
  · have hphone : ¬ IsBlank e.phone := fun hphone => h _ (.phone hphone)
    exact ⟨hphone, Classical.not_not.mp fun hemail => h _ (.email hphone hemail)⟩
  · rintro ⟨hphone, hemail⟩ v (h | ⟨_, h⟩)
    · exact hphone h
    · exact h hemail

theorem noneLacks_products_iff {es : List ProductSeed} : NoneLacks ProductSeed.Lacks es ↔
    ∀ e ∈ es, ¬ IsBlank e.name := by
  refine forall₂_congr fun e _ => ⟨fun h hname => h _ (.name hname), ?_⟩
  rintro hname v ⟨h⟩
  exact hname h

theorem valid_iff {s : Seed} : s.Valid ↔ NoneLacks ServerSeed.Lacks s.servers ∧
    (s.servers.map (·.id)).Nodup ∧ NoneLacks AccountSeed.Lacks s.accounts ∧
    NoneLacks ProductSeed.Lacks s.products := by
  rw [noneLacks_servers_iff, noneLacks_accounts_iff, noneLacks_products_iff]
  constructor
  · rintro ⟨hids, haddresses, hdistinct, hphones, hemails, hnames⟩
    exact ⟨⟨hids, haddresses⟩, hdistinct, ⟨hphones, hemails⟩, hnames⟩
  · rintro ⟨⟨hids, haddresses⟩, hdistinct, ⟨hphones, hemails⟩, hnames⟩
    exact ⟨hids, haddresses, hdistinct, hphones, hemails, hnames⟩

theorem records_eq_ok_iff {s : Seed} {fresh : Fresh} {c : Catalog} :
    s.records fresh = .ok c ↔ s.Valid ∧ List.Forall₂ ServerSeed.Keeps s.servers c.servers ∧
      List.Forall₂ (AccountSeed.Keeps fresh) s.accounts.zipIdx c.accounts ∧
      List.Forall₂ (ProductSeed.Keeps fresh) s.products.zipIdx c.products := by
  have haccounts := AccountSeed.makes_build fresh
  have hproducts := ProductSeed.makes_build fresh
  rw [valid_iff, records, except_bind_eq_ok_iff]
  simp only [except_bind_eq_ok_iff, ServerSeed.makes_build.mapM_ok_iff, haccounts.mapM_ok_iff,
    hproducts.mapM_ok_iff, checkUnique_eq_ok_iff, noneLacks_zipIdx]
  constructor
  · rintro ⟨servers, ⟨hs, hservers⟩, _, hunique, accounts, ⟨ha, hkept⟩, products, ⟨hp, hmade⟩, hc⟩
    cases hc
    exact ⟨⟨hs, (nodup_ids_iff hservers).mp hunique, ha, hp⟩, hservers, hkept, hmade⟩
  · rintro ⟨⟨hs, hunique, ha, hp⟩, hservers, hkept, hmade⟩
    exact ⟨c.servers, ⟨hs, hservers⟩, (), (nodup_ids_iff hservers).mpr hunique, c.accounts, ⟨ha, hkept⟩,
      c.products, ⟨hp, hmade⟩, rfl⟩

theorem records_eq_error_iff {s : Seed} {fresh : Fresh} {e : Fault} :
    s.records fresh = .error e ↔ ∃ v, e = .validation v ∧ s.Fails v := by
  have haccounts := AccountSeed.makes_build fresh
  have hproducts := ProductSeed.makes_build fresh
  rw [records]
  simp only [except_bind_eq_error_iff, ServerSeed.makes_build.mapM_error_iff,
    ServerSeed.makes_build.mapM_ok_iff, haccounts.mapM_error_iff, haccounts.mapM_ok_iff,
    hproducts.mapM_error_iff, hproducts.mapM_ok_iff, checkUnique_eq_error_iff, checkUnique_eq_ok_iff,
    noneLacks_zipIdx, firstLack_zipIdx]
  constructor
  · rintro (⟨v, rfl, hv⟩ | ⟨servers, ⟨hs, hservers⟩, ⟨id, rfl, hid⟩ | ⟨_, hunique, hlater⟩⟩)
    · exact ⟨v, rfl, .server hv⟩
    · -- the records keep the ids of the entries, so they repeat the same one first
      exact ⟨_, rfl, .repeated hs (map_text_of_keeps hservers ▸ hid)⟩
    · have hdistinct := (nodup_ids_iff hservers).mp hunique
      rcases hlater with ⟨v, rfl, hv⟩ | ⟨_, ⟨ha, _⟩, ⟨v, rfl, hv⟩ | ⟨_, _, hpure⟩⟩
      · exact ⟨v, rfl, .account hs hdistinct hv⟩
      · exact ⟨v, rfl, .product hs hdistinct ha hv⟩
      · cases hpure
  · rintro ⟨v, rfl, hv⟩
    cases hv with
    | server hv => exact .inl ⟨v, rfl, hv⟩
    | repeated hs hid =>
      obtain ⟨servers, hservers⟩ := ServerSeed.makes_build.exists_keeps hs
      exact .inr ⟨servers, ⟨hs, hservers⟩, .inl ⟨_, rfl, map_text_of_keeps hservers ▸ hid⟩⟩
    | account hs hdistinct hv =>
      obtain ⟨servers, hservers⟩ := ServerSeed.makes_build.exists_keeps hs
      have hunique := (nodup_ids_iff hservers).mpr hdistinct
      exact .inr ⟨servers, ⟨hs, hservers⟩, .inr ⟨(), hunique, .inl ⟨v, rfl, hv⟩⟩⟩
    | product hs hdistinct ha hv =>
      obtain ⟨servers, hservers⟩ := ServerSeed.makes_build.exists_keeps hs
      obtain ⟨accounts, hkept⟩ := haccounts.exists_keeps (noneLacks_zipIdx.mpr ha)
      have hunique := (nodup_ids_iff hservers).mpr hdistinct
      exact .inr ⟨servers, ⟨hs, hservers⟩, .inr ⟨(), hunique, .inr ⟨accounts, ⟨ha, hkept⟩,
        .inl ⟨v, rfl, hv⟩⟩⟩⟩

theorem catalog_eq_ok_iff {s : Seed} {fresh : Fresh} {c : Catalog} :
    s.catalog fresh = .ok c ↔ s.records fresh = .ok c := by
  rw [catalog]
  cases s.records fresh <;> simp [Except.mapError]

theorem catalog_eq_error_iff {s : Seed} {fresh : Fresh} {e : SeedError} :
    s.catalog fresh = .error e ↔ ∃ f, e = .invalid f ∧ s.records fresh = .error f := by
  rw [catalog]
  cases s.records fresh <;> simp [Except.mapError, eq_comm]

theorem lists_iff {s : Seed} {fresh : Fresh} {c : Catalog} (h : s.Valid) :
    s.Lists fresh c.source ↔ List.Forall₂ ServerSeed.Keeps s.servers c.servers ∧
      List.Forall₂ (AccountSeed.Keeps fresh) s.accounts.zipIdx c.accounts ∧
      List.Forall₂ (ProductSeed.Keeps fresh) s.products.zipIdx c.products := by
  constructor
  · rintro ⟨⟨servers, hs, hservers, _⟩, ⟨accounts, ha, haccounts, _⟩, products, hp, hproducts, _⟩
    cases hs
    cases ha
    cases hp
    exact ⟨hservers, haccounts, hproducts⟩
  · rintro ⟨hservers, haccounts, hproducts⟩
    refine ⟨⟨_, rfl, hservers, ?_, (nodup_ids_iff hservers).mpr h.distinct⟩, ⟨_, rfl, haccounts, ?_⟩,
      _, rfl, hproducts, ?_⟩
    · intro r hr
      obtain ⟨e, he, hkeeps⟩ := exists_of_mem_right hservers hr
      rw [ServerRecord.validate_eq_ok_iff, hkeeps.address]
      exact h.addresses e he
    · intro a ha
      obtain ⟨e, he, hkeeps⟩ := exists_of_mem_right haccounts ha
      have hmem := List.fst_mem_of_mem_zipIdx he
      rw [Account.validate_eq_ok_iff, hkeeps.phone, hkeeps.email]
      exact ⟨h.phones _ hmem, h.emails _ hmem⟩
    · intro p hp
      obtain ⟨e, he, hkeeps⟩ := exists_of_mem_right hproducts hp
      rw [Product.validate_eq_ok_iff, hkeeps.name]
      exact h.names _ (List.fst_mem_of_mem_zipIdx he)

theorem exists_catalog {s : Seed} (h : s.Valid) (fresh : Fresh) : ∃ c, s.catalog fresh = .ok c := by
  obtain ⟨hs, _, ha, hp⟩ := valid_iff.mp h
  obtain ⟨servers, hservers⟩ := ServerSeed.makes_build.exists_keeps hs
  obtain ⟨accounts, haccounts⟩ := (AccountSeed.makes_build fresh).exists_keeps (noneLacks_zipIdx.mpr ha)
  obtain ⟨products, hproducts⟩ := (ProductSeed.makes_build fresh).exists_keeps (noneLacks_zipIdx.mpr hp)
  refine ⟨⟨servers, accounts, products⟩, ?_⟩
  rw [catalog_eq_ok_iff, records_eq_ok_iff]
  exact ⟨h, hservers, haccounts, hproducts⟩

/-- Loading is exact: it succeeds for the valid seeds only, its catalog is the one that lists the
entries of the seed, and its error says what is amiss first. -/
theorem catalog_exact (s : Seed) (fresh : Fresh) :
    ((∃ c, s.catalog fresh = .ok c) ↔ s.Valid) ∧
      (∀ c, s.catalog fresh = .ok c ↔ s.Valid ∧ s.Lists fresh c.source) ∧
      ∀ e, s.catalog fresh = .error e ↔ ∃ v, e = .invalid (.validation v) ∧ s.Fails v := by
  refine ⟨⟨?_, fun h => exists_catalog h fresh⟩, fun c => ?_, fun e => ?_⟩
  · rintro ⟨c, hc⟩
    exact (records_eq_ok_iff.mp (catalog_eq_ok_iff.mp hc)).1
  · rw [catalog_eq_ok_iff, records_eq_ok_iff]
    exact and_congr_right fun h => (lists_iff h).symm
  · simp only [catalog_eq_error_iff, records_eq_error_iff]
    constructor
    · rintro ⟨_, rfl, v, rfl, hv⟩
      exact ⟨v, rfl, hv⟩
    · rintro ⟨v, rfl, hv⟩
      exact ⟨_, rfl, v, rfl, hv⟩

example (fresh : Fresh) :
    let first : ServerSeed := ⟨"JP", "jp.proxy.example.net", 8388, ""⟩
    let again : ServerSeed := ⟨"JP", "203.0.113.10", 8389, ""⟩
    let nameless : ServerSeed := ⟨" \t", "us.proxy.example.net", 8388, ""⟩
    catalog { servers := [first, again] } fresh =
        .error (.invalid (.validation (.duplicateServerId "JP"))) ∧
      catalog { servers := [first, again, nameless] } fresh =
        .error (.invalid (.validation .emptyServerId)) :=
  ⟨rfl, rfl⟩

end Seed

end ProxyConsole
