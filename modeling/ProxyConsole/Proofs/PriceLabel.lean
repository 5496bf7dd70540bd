import Mathlib.Algebra.Order.Field.Rat
import Mathlib.Tactic.NormNum
import Mathlib.Tactic.Ring
import ProxyConsole.Proofs.PricingPage
import ProxyConsole.Proofs.WrittenNumerals

/-!
# Prices as labels

A label is an amount with two places: no zero to spare in front of the point, and behind it the cents
that are left over. An amount tells how many hundredths it stands for, so a label is read back as the
price, and two prices never share one. Products on offer stand in the order of what their labels say.
-/

namespace ProxyConsole

/-! ## Amounts -/

namespace Decimal

/-- A canonical numeral, a point and two digits, and the hundredths that they make. -/
def IsAmount (cs : List Char) (n : Nat) : Prop :=
  ∃ whole places w p, cs = whole ++ '.' :: places ∧ IsCanonical whole w ∧ IsNumeral places p ∧
    places.length = 2 ∧ n = w * 100 + p

/-- Digits on both sides of a point, however many, and their value. -/
def HasValue (cs : List Char) (v : ℚ) : Prop :=
  ∃ whole places w p, cs = whole ++ '.' :: places ∧ IsNumeral whole w ∧ IsNumeral places p ∧
    v = w + p / 10 ^ places.length

theorem HasValue.unique {cs : List Char} {u v : ℚ} (hu : HasValue cs u) (hv : HasValue cs v) :
    u = v := by
  obtain ⟨whole, places, w, p, rfl, hw, hp, rfl⟩ := hu
  obtain ⟨whole', places', w', p', hcs, hw', hp', rfl⟩ := hv
  -- no digit is a point, so both readings have the point at one place
  rw [List.append_cons_inj_of_notMem (hw.not_mem rfl) (hp.not_mem rfl)] at hcs
  obtain ⟨rfl, _, rfl⟩ := hcs
  rw [hw.unique hw', hp.unique hp']

theorem IsAmount.hasValue {cs : List Char} {n : Nat} (h : IsAmount cs n) : HasValue cs (n / 100) := by
  obtain ⟨whole, places, w, p, hcs, hw, hp, hlength, rfl⟩ := h
  refine ⟨whole, places, w, p, hcs, hw.1, hp, ?_⟩
  rw [hlength]
  push_cast
  ring

theorem IsAmount.unique {cs : List Char} {m n : Nat} (hm : IsAmount cs m) (hn : IsAmount cs n) :
    m = n := by
  have hvalue : (m : ℚ) / 100 = n / 100 := hm.hasValue.unique hn.hasValue
  rw [div_left_inj' (by norm_num)] at hvalue
  exact Nat.cast_injective hvalue

end Decimal

open Decimal

/-! ## Labels -/

namespace Product

theorem isAmount_priceLabel (p : Product) : IsAmount p.priceLabel.toList p.cents := by
  have hplaces : p.cents % 100 < Nat.pow 10 2 := Nat.mod_lt _ (by decide)
  refine ⟨digits (p.cents / 100), padded 2 (p.cents % 100), p.cents / 100, p.cents % 100, ?_,
    isCanonical_digits _, isNumeral_padded 2 _, length_padded (by decide) hplaces, ?_⟩
  · rw [priceLabel, String.toList_ofList]
    rfl
  · omega

theorem isAmount_priceLabel_iff {p : Product} {n : Nat} :
    IsAmount p.priceLabel.toList n ↔ n = p.cents := by
  constructor
  · intro h
    exact h.unique p.isAmount_priceLabel
  · intro h
    rw [h]
    exact p.isAmount_priceLabel

theorem hasValue_priceLabel_iff {p : Product} {v : ℚ} :
    HasValue p.priceLabel.toList v ↔ v = p.cents / 100 := by
  constructor
  · intro h
    exact h.unique p.isAmount_priceLabel.hasValue
  · intro h
    rw [h]
    exact p.isAmount_priceLabel.hasValue

theorem priceLabel_inj {p q : Product} : p.priceLabel = q.priceLabel ↔ p.priceCents = q.priceCents := by
  constructor
  · intro h
    have hq : IsAmount p.priceLabel.toList q.cents := by
      rw [h]
      exact q.isAmount_priceLabel
    exact UInt32.toNat_inj.mp (isAmount_priceLabel_iff.mp hq).symm
  · intro h
    rw [priceLabel, priceLabel, h]

end Product

/-- The labels of products, one after the other, have values that never fall. -/
def LabelsAscend (products : List Product) : Prop :=
  ∃ values : List ℚ, List.Forall₂ (fun p v => HasValue p.priceLabel.toList v) products values ∧
    values.Pairwise (· ≤ ·)

theorem labelsAscend_of_ordered {products : List Product}
    (h : products.Pairwise fun p q => p.cents ≤ q.cents) : LabelsAscend products := by
  refine ⟨products.map fun p => (p.cents : ℚ) / 100, ?_, ?_⟩
  · rw [List.forall₂_map_right_iff, List.forall₂_same]
    intro p _
    exact p.isAmount_priceLabel.hasValue
  · rw [List.pairwise_map]
    refine h.imp fun {p q} hle => ?_
    have hcents : (p.cents : ℚ) ≤ q.cents := Nat.cast_le.mpr hle
    exact div_le_div_of_nonneg_right hcents (by norm_num)

/-- Every label is an amount, the price in hundredths and nothing else, so prices that differ have
labels that differ. Whatever products a source lists, the offer that is made of them shows values that
never fall. -/
theorem Product.priceLabel_exact :
    (∀ (p : Product) (n : Nat), IsAmount p.priceLabel.toList n ↔ n = p.priceCents.toNat) ∧
    (∀ (p : Product) (v : ℚ), HasValue p.priceLabel.toList v ↔ v = p.priceCents.toNat / 100) ∧
    (∀ p q : Product, p.priceLabel = q.priceLabel ↔ p.priceCents = q.priceCents) ∧
    ∀ (s : Source) (products : List Product), s.listProducts = .ok products →
      ∃ offered, Browse.availableProducts s = ⟨[.listProducts], .ok offered⟩ ∧
        IsOffer products offered ∧ LabelsAscend offered := by
  refine ⟨fun _ _ => isAmount_priceLabel_iff, fun _ _ => hasValue_priceLabel_iff,
    fun _ _ => priceLabel_inj, ?_⟩
  intro s products hs
  have hoffer := Browse.isOffer_offered products
  exact ⟨_, Browse.availableProducts_of_ok hs, hoffer, labelsAscend_of_ordered hoffer.ordered⟩

/-- The highest price of all, two that are equal, and one whose cents need a zero in front. -/
theorem Product.priceLabel_exact_up_to_highest :
    let product (id : BitVec 128) (name : String) (cents : UInt32) : Product :=
      ⟨⟨⟨id⟩⟩, name, cents, "", .available⟩
    let c : Catalog := ⟨[], [], [product 1 "estate" 4294967295, product 2 "large" 1000,
      product 3 "small" 905, product 4 "mini" 905]⟩
    c.source.listProducts = .ok c.products ∧
      ∃ offered, Browse.availableProducts c.source = ⟨[.listProducts], .ok offered⟩ ∧
        IsOffer c.products offered ∧ LabelsAscend offered := by
  intro product c
  have hs : c.source.listProducts = .ok c.products := rfl
  exact ⟨hs, priceLabel_exact.2.2.2 c.source c.products hs⟩

example : (⟨⟨⟨1⟩⟩, "small", 905, "", .available⟩ : Product).priceLabel = "9.05" := by
  cbv

end ProxyConsole
