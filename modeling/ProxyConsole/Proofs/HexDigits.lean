import Mathlib.Data.List.Induction
import Mathlib.Tactic.IntervalCases
import ProxyConsole.Text.Hex

/-!
# Hexadecimal numerals

What is read as a digit is that digit in either letter case. A number has one numeral of each length
that is large enough, and the numeral has the value of the number. So has the numeral that is written
without leading zeros.
-/

namespace ProxyConsole.Hex

/-! ## Digits -/

theorem value?_digit {n : Nat} (h : n < 16) : value? (digit n) = some n := by
  interval_cases n <;> rfl

theorem toLower_of_not_ascii {c : Char} (h : 128 ≤ c.toNat) : c.toLower = c := by
  unfold Char.toLower
  apply dif_neg
  intro hupper
  have hle : c.toNat ≤ 90 := hupper.2
  omega

theorem value?_toLower (c : Char) : value? c.toLower = value? c := by
  by_cases h : c.toNat < 128
  · have hall : ∀ k < 128, value? (Char.ofNat k).toLower = value? (Char.ofNat k) := by decide
    rw [← Char.ofNat_toNat c]
    exact hall c.toNat h
  · rw [toLower_of_not_ascii (Nat.le_of_not_lt h)]

/-- A character is read as a digit if it is that digit but for its case. -/
theorem value?_eq_some_iff {c : Char} {n : Nat} : value? c = some n ↔ n < 16 ∧ c.toLower = digit n := by
  constructor
  · intro h
    have hascii : c.toNat < 128 := by
      by_contra hlarge
      have hno : ∀ d : Char, d.toNat < 128 → ¬ c ≤ d := by
        intro d hd hle
        have hle' : c.toNat ≤ d.toNat := hle
        omega
      rw [value?, if_neg fun hc => hno '9' (by decide) hc.2, if_neg fun hc => hno 'f' (by decide) hc.2,
        if_neg fun hc => hno 'F' (by decide) hc.2] at h
      cases h
    have hall : ∀ k < 128, ∀ n ∈ value? (Char.ofNat k), n < 16 ∧ (Char.ofNat k).toLower = digit n := by
      decide
    have hc := hall c.toNat hascii
    rw [Char.ofNat_toNat] at hc
    exact hc n h
  · intro h
    rw [← value?_toLower, h.2, value?_digit h.1]

/-! ## Numerals -/

/-- The digits of a number at its lowest `k` places, the highest of them first. -/
def places (k n : Nat) : List Nat :=
  (List.range k).map fun i => n / Nat.pow 16 (k - 1 - i) % 16

theorem places_succ (k n : Nat) : places (k + 1) n = places k (n / 16) ++ [n % 16] := by
  have hlast : n / Nat.pow 16 (k + 1 - 1 - k) % 16 = n % 16 := by
    have hzero : k + 1 - 1 - k = 0 := by omega
    have hone : Nat.pow 16 0 = 1 := rfl
    rw [hzero, hone, Nat.div_one]
  unfold places
  rw [List.range_succ, List.map_append, List.map_singleton, hlast]
  congr 1
  apply List.map_congr_left
  intro i hi
  have hplace : k + 1 - 1 - i = k - 1 - i + 1 := by
    rw [List.mem_range] at hi
    omega
  have hpow : Nat.pow 16 (k - 1 - i + 1) = 16 * Nat.pow 16 (k - 1 - i) := Nat.mul_comm ..
  rw [hplace, hpow, Nat.div_div_eq_div_mul]

theorem value_append (ds : List Nat) (d : Nat) : value (ds ++ [d]) = 16 * value ds + d := by
  rw [value, List.foldl_append]
  rfl

theorem value_places (k n : Nat) : value (places k n) = n % Nat.pow 16 k := by
  induction k generalizing n with
  | zero =>
    have hone : Nat.pow 16 0 = 1 := rfl
    rw [hone, Nat.mod_one]
    rfl
  | succ k ih =>
    have hpow : Nat.pow 16 (k + 1) = 16 * Nat.pow 16 k := Nat.mul_comm ..
    rw [places_succ, value_append, ih, hpow, Nat.mod_mul]
    omega

theorem places_value {ds : List Nat} (h : ∀ d ∈ ds, d < 16) : places ds.length (value ds) = ds := by
  induction ds using List.reverseRecOn with
  | nil => rfl
  | append_singleton ds d ih =>
    rw [List.forall_mem_append, List.forall_mem_singleton] at h
    have hrest : (16 * value ds + d) / 16 = value ds := by omega
    have hlast : (16 * value ds + d) % 16 = d := by omega
    rw [List.length_append, List.length_singleton, value_append, places_succ, hrest, hlast, ih h.1]

theorem value_lt {ds : List Nat} (h : ∀ d ∈ ds, d < 16) : value ds < Nat.pow 16 ds.length := by
  have hmod := value_places ds.length (value ds)
  rw [places_value h] at hmod
  rw [hmod]
  exact Nat.mod_lt _ (Nat.pow_pos (by decide))

/-! ## Written numerals -/

theorem digits_eq_map (n : Nat) : ∃ ds : List Nat, (∀ d ∈ ds, d < 16) ∧ digits n = ds.map digit ∧
    n = value ds := by
  induction n using digits.induct with
  | case1 n h =>
    rw [digits, if_pos h]
    exact ⟨[n], by simpa using h, rfl, by simp [value]⟩
  | case2 n h ih =>
    obtain ⟨ds, hds, hdigits, hvalue⟩ := ih
    have hlast : n % 16 < 16 := Nat.mod_lt _ (by decide)
    rw [digits, if_neg h, hdigits]
    refine ⟨ds ++ [n % 16], ?_, by simp, ?_⟩
    · rw [List.forall_mem_append, List.forall_mem_singleton]
      exact ⟨hds, hlast⟩
    · rw [value_append, ← hvalue]
      omega

theorem mapM_value?_digit {ds : List Nat} (h : ∀ d ∈ ds, d < 16) :
    (ds.map digit).mapM value? = some ds := by
  induction ds with
  | nil => rfl
  | cons d ds ih =>
    rw [List.forall_mem_cons] at h
    simp [value?_digit h.1, ih h.2]

end ProxyConsole.Hex
