import Mathlib.Data.List.Basic
import Mathlib.Data.List.Induction
import ProxyConsole.Proofs.Numerals

/-!
# Numbers as they are written

What is written for a number is a numeral of it, with or without zeros in front. A number below a
power of ten has as many digits as a width asks for. Of all numerals of a number only the written one
has no zero in front that it could do without.
-/

namespace ProxyConsole.Decimal

theorem IsNumeral.concat {cs : List Char} {n d : Nat} (h : IsNumeral cs n) (hd : d < 10) :
    IsNumeral (cs ++ [digitChar d]) (10 * n + d) := by
  obtain ⟨ds, _, hds, rfl, rfl⟩ := h
  refine ⟨ds ++ [d], by simp, ?_, by simp, ?_⟩
  · rw [List.forall_mem_append, List.forall_mem_singleton]
    exact ⟨hds, hd⟩
  · simp [valueFrom]

theorem IsNumeral.cons_zero {cs : List Char} {n : Nat} (h : IsNumeral cs n) :
    IsNumeral ('0' :: cs) n := by
  obtain ⟨ds, _, hds, rfl, rfl⟩ := h
  refine ⟨0 :: ds, by simp, ?_, rfl, rfl⟩
  rw [List.forall_mem_cons]
  exact ⟨by decide, hds⟩

theorem isNumeral_digits (n : Nat) : IsNumeral (digits n) n := by
  induction n using digits.induct with
  | case1 n h =>
    rw [digits, if_pos h]
    exact ⟨[n], by simp, by simpa using h, rfl, by simp [valueFrom]⟩
  | case2 n h ih =>
    have hvalue : 10 * (n / 10) + n % 10 = n := by omega
    have hlast := ih.concat (Nat.mod_lt n (by decide))
    rw [hvalue] at hlast
    rwa [digits, if_neg h]

theorem isNumeral_padded (w n : Nat) : IsNumeral (padded w n) n := by
  unfold padded
  induction w - (digits n).length with
  | zero => exact isNumeral_digits n
  | succ k ih => exact ih.cons_zero

theorem spells_ofInt (n : Int) : Spells (ofInt n).toList n := by
  cases n with
  | ofNat n =>
    rw [ofInt, ofNat, String.toList_ofList]
    exact .plain (isNumeral_digits n)
  | negSucc n =>
    rw [ofInt, String.toList_ofList]
    exact .minus (isNumeral_digits (n + 1))

theorem length_digits_le {n w : Nat} (hw : 0 < w) (h : n < Nat.pow 10 w) : (digits n).length ≤ w := by
  induction w generalizing n with
  | zero => cases hw
  | succ w ih =>
    rw [digits]
    by_cases hn : n < 10
    · simp [hn]
    · have hpow : Nat.pow 10 (w + 1) = Nat.pow 10 w * 10 := rfl
      have hw : 0 < w := by
        rcases Nat.eq_zero_or_pos w with rfl | hw
        · exact absurd h hn
        · exact hw
      have hrest := ih (n := n / 10) hw (by omega)
      simp only [hn, if_false, List.length_append, List.length_singleton]
      omega

theorem length_padded {n w : Nat} (hw : 0 < w) (h : n < Nat.pow 10 w) : (padded w n).length = w := by
  have hle := length_digits_le hw h
  simp only [padded, List.length_append, List.length_replicate]
  omega

theorem IsNumeral.not_mem {cs : List Char} {n : Nat} (h : IsNumeral cs n) {c : Char}
    (hc : digit? c = none) : c ∉ cs := by
  intro hmem
  obtain ⟨ds, _, hds, rfl, _⟩ := h
  obtain ⟨d, hd, rfl⟩ := List.mem_map.mp hmem
  rw [digit?_digitChar (hds d hd)] at hc
  cases hc

/-! ## The canonical numeral -/

/-- A numeral that begins with a zero only if it is no more than that zero. -/
def IsCanonical (cs : List Char) (n : Nat) : Prop :=
  IsNumeral cs n ∧ (cs.head? = some '0' → cs = ['0'])

theorem digits_ne_nil (n : Nat) : digits n ≠ [] := by
  unfold digits
  split <;> simp

theorem head?_digits {n : Nat} (h : 0 < n) : (digits n).head? ≠ some '0' := by
  have hdigit : ∀ d < 10, 0 < d → digitChar d ≠ '0' := by decide
  induction n using digits.induct with
  | case1 n hlt =>
    rw [digits, if_pos hlt]
    simpa using hdigit n hlt h
  | case2 n hlt ih =>
    rw [digits, if_neg hlt, List.head?_append_of_ne_nil _ (digits_ne_nil _)]
    exact ih (by omega)

theorem isCanonical_digits (n : Nat) : IsCanonical (digits n) n := by
  refine ⟨isNumeral_digits n, fun hzero => ?_⟩
  by_cases hn : n = 0
  · subst hn
    simp [digits, digitChar]
  · exact absurd hzero (head?_digits (by omega))

theorem valueFrom_concat (seen d : Nat) (ds : List Nat) :
    valueFrom seen (ds ++ [d]) = 10 * valueFrom seen ds + d := by
  simp [valueFrom]

theorem digits_valueFrom {ds : List Nat} (hne : ds ≠ []) (hds : ∀ d ∈ ds, d < 10)
    (hlead : ds.head? = some 0 → ds = [0]) : digits (valueFrom 0 ds) = ds.map digitChar := by
  -- from the last digit to the first, as digits are written
  induction ds using List.reverseRecOn with
  | nil => exact absurd rfl hne
  | append_singleton ds d ih =>
    simp only [List.forall_mem_append, List.forall_mem_singleton] at hds
    obtain ⟨hrest, hd⟩ := hds
    by_cases hnil : ds = []
    · subst hnil
      simp [valueFrom, digits, hd]
    · have hfirst : ds.head? ≠ some 0 := by
        intro hzero
        rw [List.head?_append_of_ne_nil _ hnil] at hlead
        have hlength := congrArg List.length (hlead hzero)
        exact hnil (by simpa using hlength)
      have hpos : 0 < valueFrom 0 ds := by
        obtain ⟨first, more, rfl⟩ := List.exists_cons_of_ne_nil hnil
        have hle : first ≤ valueFrom 0 (first :: more) := by
          have hle := le_valueFrom first more
          simpa [valueFrom] using hle
        have hnonzero : first ≠ 0 := by simpa using hfirst
        omega
      have hdiv : (10 * valueFrom 0 ds + d) / 10 = valueFrom 0 ds := by omega
      have hmod : (10 * valueFrom 0 ds + d) % 10 = d := by omega
      rw [valueFrom_concat, digits, if_neg (by omega), hdiv, hmod,
        ih hnil hrest fun hzero => absurd hzero hfirst, List.map_append, List.map_singleton]

theorem isCanonical_iff {cs : List Char} {n : Nat} : IsCanonical cs n ↔ cs = digits n := by
  constructor
  · intro h
    obtain ⟨⟨ds, hne, hds, rfl, rfl⟩, hlead⟩ := h
    refine (digits_valueFrom hne hds fun hzero => ?_).symm
    obtain ⟨more, rfl⟩ := List.head?_eq_some_iff.mp hzero
    exact congrArg (0 :: ·) (List.map_eq_nil_iff.mp (List.cons.inj (hlead rfl)).2)
  · intro h
    rw [h]
    exact isCanonical_digits n

end ProxyConsole.Decimal
