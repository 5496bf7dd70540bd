import Mathlib.Data.List.Forall2

/-!
# Steps that can fail

Steps that are done one after the other succeed if all of them do, and otherwise fail like the first
that does not.
-/

namespace ProxyConsole

variable {ε α β : Type}

theorem except_bind_eq_ok_iff {x : Except ε α} {f : α → Except ε β} {b : β} :
    x >>= f = .ok b ↔ ∃ a, x = .ok a ∧ f a = .ok b := by
  cases x with
  | error e => simp [bind, Except.bind]
  | ok a => simp [bind, Except.bind]

theorem except_bind_eq_error_iff {x : Except ε α} {f : α → Except ε β} {e : ε} :
    x >>= f = .error e ↔ x = .error e ∨ ∃ a, x = .ok a ∧ f a = .error e := by
  cases x with
  | error e' => simp [bind, Except.bind]
  | ok a => simp [bind, Except.bind]

theorem mapM_eq_ok_iff {f : α → Except ε β} {l : List α} {bs : List β} :
    l.mapM f = .ok bs ↔ List.Forall₂ (fun a b => f a = .ok b) l bs := by
  induction l generalizing bs with
  | nil => simp [pure, Except.pure, eq_comm]
  | cons a l ih =>
    rw [List.mapM_cons, List.forall₂_cons_left_iff, except_bind_eq_ok_iff]
    constructor
    · rintro ⟨b, ha, h⟩
      obtain ⟨bs', hl, hbs⟩ := except_bind_eq_ok_iff.mp h
      exact ⟨b, bs', ha, ih.mp hl, (Except.ok.inj hbs).symm⟩
    · rintro ⟨b, bs', ha, hl, rfl⟩
      exact ⟨b, ha, except_bind_eq_ok_iff.mpr ⟨bs', ih.mpr hl, rfl⟩⟩

theorem option_mapM_eq_ok_iff {f : α → Except ε β} {R : α → β → Prop}
    (h : ∀ a b, f a = .ok b ↔ R a b) {o : Option α} {r : Option β} :
    o.mapM f = .ok r ↔ Option.Rel R o r := by
  cases o with
  | none =>
    constructor
    · intro hr
      cases hr
      exact .none
    · intro hr
      cases hr
      rfl
  | some a =>
    rw [Option.mapM_some]
    constructor
    · intro hr
      cases hf : f a with
      | error e =>
        rw [hf] at hr
        cases hr
      | ok b =>
        rw [hf] at hr
        cases hr
        exact .some ((h a b).mp hf)
    · intro hr
      cases hr with
      | some hab =>
        rw [(h a _).mpr hab]
        rfl

theorem option_mapM_eq_error_iff {f : α → Except ε β} {o : Option α}
    {e : ε} : o.mapM f = .error e ↔ ∃ a, o = some a ∧ f a = .error e := by
  cases o with
  | none => simp [pure, Except.pure]
  | some a =>
    rw [Option.mapM_some]
    cases hf : f a <;> simp [hf]

end ProxyConsole
