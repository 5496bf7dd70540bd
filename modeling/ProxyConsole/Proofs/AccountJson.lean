import ProxyConsole.Proofs.InstantText
import ProxyConsole.Proofs.UuidSpelling

/-!
# Accounts as JSON

An account is written with all it has except the password. Its id, its role and its time are written
as texts that readers undo, so no two of them have the same text.
-/

namespace ProxyConsole

/-- Where reading undoes writing, nothing else is written alike. -/
theorem write_inj {α β : Type} {write : α → β} {read : β → Option α}
    (h : ∀ a, read (write a) = some a) {a b : α} : write a = write b ↔ a = b := by
  constructor
  · intro heq
    have hread := h a
    rw [heq, h b, Option.some.injEq] at hread
    exact hread.symm
  · exact congrArg write

theorem Uuid.ofText?_text (id : Uuid) : ofText? id.text = some id := by
  rw [ofText?_eq_some_iff]
  exact .grouped (isCanonical_iff.mpr rfl).1

theorem Role.ofJson?_toJson (role : Role) : ofJson? role.toJson = some role := by
  cases role <;> rfl

theorem Role.toJson_inj {a b : Role} : a.toJson = b.toJson ↔ a = b :=
  write_inj ofJson?_toJson

namespace AccountId

theorem of_text (id : AccountId) : of id.text = .ok id := by
  rw [of, text, Uuid.ofText?_text]

theorem ofJson?_toJson (id : AccountId) : ofJson? id.toJson = some id := by
  simp [ofJson?, toJson, Json.string?, of_text, Except.toOption]

theorem toJson_inj {a b : AccountId} : a.toJson = b.toJson ↔ a = b :=
  write_inj ofJson?_toJson

end AccountId

theorem Instant.text_inj {s t : Instant} : s.text = t.text ↔ s = t :=
  write_inj ofText?_text

namespace Account

theorem alias_inj {a b : Option String} :
    (a.map Json.string).getD .null = (b.map Json.string).getD .null ↔ a = b := by
  cases a <;> cases b <;> simp

/-- Accounts that may differ in their passwords only. -/
structure SameButPassword (a b : Account) : Prop where
  id : a.id = b.id
  role : a.role = b.role
  nickname : a.nickname = b.nickname
  phone : a.phone = b.phone
  email : a.email = b.email
  createdAt : a.createdAt = b.createdAt

theorem toJson_eq_iff {a b : Account} : a.toJson = b.toJson ↔ SameButPassword a b := by
  simp only [toJson, Json.object.injEq, List.cons.injEq, Prod.mk.injEq, true_and, and_true,
    AccountId.toJson_inj, Role.toJson_inj, alias_inj, Json.string.injEq, Instant.text_inj]
  constructor
  · intro h
    obtain ⟨hid, hrole, halias, hphone, hemail, htime⟩ := h
    exact ⟨hid, hrole, halias, hphone, hemail, htime⟩
  · intro h
    exact ⟨h.id, h.role, h.nickname, h.phone, h.email, h.createdAt⟩

/-- Two accounts are written alike if and only if they agree on everything but the password, and the
texts of the id and of the time of creation are read as these. -/
theorem json_lacks_password_only :
    (∀ a b : Account, a.toJson = b.toJson ↔ SameButPassword a b) ∧
      ∀ a : Account, ∃ id createdAt : String,
        a.toJson.member? "id" = some (.string id) ∧ AccountId.of id = .ok a.id ∧
        AccountId.ofJson? (.string id) = some a.id ∧
        a.toJson.member? "created_at" = some (.string createdAt) ∧
        Instant.ofText? createdAt = some a.createdAt := by
  refine ⟨fun a b => toJson_eq_iff, fun a => ?_⟩
  exact ⟨a.id.text, a.createdAt.text, rfl, a.id.of_text, a.id.ofJson?_toJson, rfl,
    a.createdAt.ofText?_text⟩

end Account

end ProxyConsole
