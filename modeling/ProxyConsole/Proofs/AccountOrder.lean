import Mathlib.Data.Int.Order.Basic
import Mathlib.Data.List.Lex
import ProxyConsole.Catalog
import ProxyConsole.Proofs.Consult
import ProxyConsole.Proofs.StableOrder

/-!
# Accounts in the order of their age

Accounts are listed oldest first, and those that were created at one time in the order of the source.
Users and administrators are listed in the order that they have among all accounts.
-/

namespace ProxyConsole

namespace Instant

theorem key_injective : Function.Injective key := by
  intro s t h
  obtain ⟨⟨year, month, day, _⟩, hour, minute, second, nanos, _, _, _, _⟩ := s
  obtain ⟨⟨year', month', day', _⟩, hour', minute', second', nanos', _, _, _, _⟩ := t
  simp only [key, List.cons.injEq, Int.natCast_inj, and_true] at h
  obtain ⟨rfl, rfl, rfl, rfl, rfl, rfl, rfl⟩ := h
  rfl

/-- Instants are ordered by their parts, from the year on. -/
instance : LinearOrder Instant := LinearOrder.lift' key key_injective

theorem notAfter_iff {s t : Instant} : s.notAfter t = true ↔ s ≤ t := by
  have hle : s ≤ t ↔ ¬ t.key < s.key := not_lt.symm
  rw [hle, notAfter, Bool.not_eq_true', ← List.lex_eq_true_iff_lt, Bool.not_eq_true]

end Instant

/-- A source that keeps one list of accounts, and lists those of a role in its order. -/
structure Source.KeepsAccounts (s : Source) (l : List Account) : Prop where
  all : s.listAccounts none = .ok l
  ofRole : ∀ role, s.listAccounts (some role) = .ok (l.filter (·.role = role))

theorem Catalog.source_keepsAccounts (c : Catalog) : c.source.KeepsAccounts c.accounts :=
  ⟨rfl, fun _ => rfl⟩

namespace Browse

open Consult

theorem older_iff (a b : Account) : older a b = true ↔ a.createdAt ≤ b.createdAt :=
  Instant.notAfter_iff

theorem accounts_of_ok {s : Source} {role : Option Role} {l : List Account}
    (h : s.listAccounts role = .ok l) :
    accounts role s = ⟨[.listAccounts role], .ok (l.mergeSort older)⟩ := by
  rw [accounts_eq, h]
  rfl

theorem filter_user_append_admin (l : List Account) :
    (l.filter (·.role = .user) ++ l.filter (·.role = .admin)).Perm l := by
  have hadmin : l.filter (·.role = .admin) = l.filter fun a => !decide (a.role = .user) := by
    apply List.filter_congr
    intro a _
    cases a.role <;> rfl
  rw [hadmin]
  exact List.filter_append_perm _ l

/-- The list of all accounts, oldest first, and the lists of its users and its administrators. -/
structure ListsByAge (l all users admins : List Account) : Prop where
  perm : all.Perm l
  ordered : all.Pairwise fun a b => a.createdAt ≤ b.createdAt
  stable : ∀ t, all.filter (·.createdAt = t) = l.filter (·.createdAt = t)
  users_eq : users = all.filter (·.role = .user)
  admins_eq : admins = all.filter (·.role = .admin)
  together : (users ++ admins).Perm all

/-- The three lists over a source that keeps one list. If no two accounts were created at one time,
they would be the same over a source that keeps the accounts in another order. -/
theorem accounts_listed_by_age {s : Source} {l : List Account} (h : s.KeepsAccounts l) :
    (∃ all users admins, ListsByAge l all users admins ∧
      accounts none s = ⟨[.listAccounts none], .ok all⟩ ∧
      accounts (some .user) s = ⟨[.listAccounts (some .user)], .ok users⟩ ∧
      accounts (some .admin) s = ⟨[.listAccounts (some .admin)], .ok admins⟩) ∧
    ((l.map (·.createdAt)).Nodup → ∀ (s' : Source) (l' : List Account), s'.KeepsAccounts l' →
      l'.Perm l → ∀ role, accounts role s' = accounts role s) := by
  have hsorted : ∀ l : List Account, InOrder (·.createdAt) l (l.mergeSort older) :=
    inOrder_mergeSort older_iff
  have hfilter : ∀ (role : Role) (l : List Account),
      (l.mergeSort older).filter (·.role = role) = (l.filter (·.role = role)).mergeSort older :=
    fun role => filter_mergeSort older_iff (·.role = role)
  constructor
  · refine ⟨_, _, _, ?_, accounts_of_ok h.all, accounts_of_ok (h.ofRole .user),
      accounts_of_ok (h.ofRole .admin)⟩
    rw [← hfilter, ← hfilter]
    exact ⟨(hsorted l).perm, (hsorted l).ordered, (hsorted l).stable, rfl, rfl,
      filter_user_append_admin _⟩
  · intro hn s' l' h' hp role
    have hsame : l'.mergeSort older = l.mergeSort older :=
      (hsorted l').unique ((hsorted l).of_perm hn hp)
    cases role with
    | none => rw [accounts_of_ok h'.all, accounts_of_ok h.all, hsame]
    | some role =>
      rw [accounts_of_ok (h'.ofRole role), accounts_of_ok (h.ofRole role), ← hfilter, ← hfilter, hsame]

/-- An administrator and a user who were created at one time, and a user from the day before. -/
theorem accounts_listed_by_age_with_tie :
    let at8 (day : Nat) (h : Date.IsDay 2017 3 day) : Instant :=
      ⟨⟨2017, 3, day, h⟩, 8, 0, 0, 0, by decide, by decide, by decide, by decide⟩
    let account (id : BitVec 128) (role : Role) (createdAt : Instant) : Account :=
      ⟨⟨⟨id⟩⟩, role, none, "555-0100", "a@example.net", "", createdAt⟩
    let second := at8 2 (by decide)
    let c : Catalog :=
      ⟨[], [account 1 .admin second, account 2 .user second, account 3 .user (at8 1 (by decide))], []⟩
    c.source.KeepsAccounts c.accounts ∧
      ∃ all users admins, ListsByAge c.accounts all users admins ∧
        accounts none c.source = ⟨[.listAccounts none], .ok all⟩ ∧
        accounts (some .user) c.source = ⟨[.listAccounts (some .user)], .ok users⟩ ∧
        accounts (some .admin) c.source = ⟨[.listAccounts (some .admin)], .ok admins⟩ := by
  intro at8 account second c
  have h := c.source_keepsAccounts
  exact ⟨h, (accounts_listed_by_age h).1⟩

end Browse

end ProxyConsole
