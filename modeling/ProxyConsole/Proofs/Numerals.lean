import ProxyConsole.Text.Decimal

/-!
# What a field reads

A field takes an optional sign and one or more digits whose value lies within its bounds. It looks at
the digits one by one and checks its bounds at each, which comes to the same, since the value only
grows away from zero.
-/

namespace ProxyConsole.Decimal

/-- One or more digits, most significant first, and their value. -/
def IsNumeral (cs : List Char) (n : Nat) : Prop :=
  ∃ ds : List Nat, ds ≠ [] ∧ (∀ d ∈ ds, d < 10) ∧ cs = ds.map digitChar ∧ n = valueFrom 0 ds

/-- An optional sign and a numeral. -/
inductive Spells : List Char → Int → Prop
  | plain {cs : List Char} {n : Nat} : IsNumeral cs n → Spells cs n
  | plus {cs : List Char} {n : Nat} : IsNumeral cs n → Spells ('+' :: cs) n
  | minus {cs : List Char} {n : Nat} : IsNumeral cs n → Spells ('-' :: cs) (-n)

/-! ## Digits -/

theorem digit?_digitChar {d : Nat} (h : d < 10) : digit? (digitChar d) = some d := by
  have hall : ∀ d < 10, digit? (digitChar d) = some d := by decide
  exact hall d h

theorem digit?_eq_some_iff {c : Char} {d : Nat} : digit? c = some d ↔ d < 10 ∧ c = digitChar d := by
  constructor
  · intro h
    unfold digit? at h
    split at h
    · rename_i hc
      have hlow : '0'.toNat ≤ c.toNat := hc.1
      have hhigh : c.toNat ≤ '9'.toNat := hc.2
      simp only [Char.reduceToNat] at hlow hhigh
      simp only [Option.some.injEq, Char.reduceToNat] at h
      subst h
      refine ⟨by omega, ?_⟩
      have hsum : 48 + (c.toNat - 48) = c.toNat := by omega
      simp only [digitChar, Char.reduceToNat, hsum, Char.ofNat_toNat]
    · cases h
  · intro h
    obtain ⟨hd, rfl⟩ := h
    exact digit?_digitChar hd

theorem not_isNumeral_cons {c : Char} (h : digit? c = none) (cs : List Char) (n : Nat) :
    ¬ IsNumeral (c :: cs) n := by
  intro hn
  obtain ⟨ds, hne, hds, hcs, _⟩ := hn
  cases ds with
  | nil => exact hne rfl
  | cons d ds =>
    rw [List.map_cons, List.cons.injEq] at hcs
    rw [hcs.1, digit?_digitChar (hds d (List.mem_cons_self ..))] at h
    cases h

/-- Digits tell what number they are a numeral of. -/
theorem IsNumeral.unique {cs : List Char} {m n : Nat} (hm : IsNumeral cs m) (hn : IsNumeral cs n) :
    m = n := by
  have hread : ∀ ds : List Nat, (∀ d ∈ ds, d < 10) → (ds.map digitChar).map digit? = ds.map some := by
    intro ds hds
    rw [List.map_map]
    apply List.map_congr_left
    intro d hd
    exact digit?_digitChar (hds d hd)
  obtain ⟨ds, _, hds, hcs, rfl⟩ := hm
  obtain ⟨es, _, hes, hcs', rfl⟩ := hn
  have hsome : ds.map some = es.map some := by
    rw [← hread ds hds, ← hread es hes, ← hcs, ← hcs']
  rw [(List.map_inj_right fun _ _ => Option.some.inj).mp hsome]

theorem le_valueFrom (seen : Nat) (ds : List Nat) : seen ≤ valueFrom seen ds := by
  induction ds generalizing seen with
  | nil => exact Nat.le_refl seen
  | cons d ds ih =>
    have hrest : 10 * seen + d ≤ valueFrom seen (d :: ds) := ih (10 * seen + d)
    omega

/-! ## Digit after digit -/

/-- Takes a digit onto a number with the sign `s`, if what comes out fits. -/
def TakesDigits (take : Int → Char → Except Misread Int) (s : Int) (fits : Int → Prop) : Prop :=
  ∀ n c m, take n c = .ok m ↔ ∃ d < 10, c = digitChar d ∧ m = 10 * n + s * d ∧ fits m

theorem takesDigits_of_digit? {take : Int → Char → Except Misread Int} {s : Int} {fits : Int → Prop}
    (hnone : ∀ n c, digit? c = none → take n c = .error .invalidDigit)
    (hsome : ∀ n d, d < 10 → ∀ m, take n (digitChar d) = .ok m ↔ m = 10 * n + s * d ∧ fits m) :
    TakesDigits take s fits := by
  intro n c m
  constructor
  · intro h
    cases hc : digit? c with
    | none =>
      rw [hnone n c hc] at h
      cases h
    | some d =>
      obtain ⟨hd, rfl⟩ := digit?_eq_some_iff.mp hc
      exact ⟨d, hd, rfl, (hsome n d hd m).mp h⟩
  · intro h
    obtain ⟨d, hd, rfl, hm⟩ := h
    exact (hsome n d hd m).mpr hm

theorem TakesDigits.foldlM_eq_ok_iff {take : Int → Char → Except Misread Int} {s : Int}
    {fits : Int → Prop} (h : TakesDigits take s fits)
    (hfits : ∀ a b : Nat, a ≤ b → fits (s * b) → fits (s * a)) {cs : List Char} {seen : Nat}
    (hseen : fits (s * seen)) {m : Int} :
    cs.foldlM take (s * seen) = .ok m ↔ ∃ ds : List Nat, (∀ d ∈ ds, d < 10) ∧
      cs = ds.map digitChar ∧ m = s * valueFrom seen ds ∧ fits m := by
  -- on the characters that are left; what was read before them is a number that fits
  induction cs generalizing seen with
  | nil =>
    constructor
    · intro hm
      cases hm
      exact ⟨[], by simp, rfl, rfl, hseen⟩
    · intro hm
      obtain ⟨ds, _, hds, rfl, _⟩ := hm
      rw [List.map_eq_nil_iff.mp hds.symm]
      rfl
  | cons c cs ih =>
    have hvalue : ∀ d : Nat, 10 * (s * seen) + s * d = s * (10 * seen + d : Nat) := by
      intro d
      push_cast
      rw [Int.mul_left_comm, ← Int.mul_add]
    constructor
    · intro hm
      cases hc : take (s * seen) c with
      | error e =>
        rw [List.foldlM_cons, hc] at hm
        cases hm
      | ok m' =>
        rw [List.foldlM_cons, hc] at hm
        obtain ⟨d, hd, rfl, rfl, hm'⟩ := (h _ _ _).mp hc
        rw [hvalue] at hm hm'
        obtain ⟨ds, hds, rfl, rfl, hlast⟩ := (ih hm').mp hm
        exact ⟨d :: ds, List.forall_mem_cons.mpr ⟨hd, hds⟩, rfl, rfl, hlast⟩
    · intro hm
      obtain ⟨ds, hds, hcs, rfl, hlast⟩ := hm
      cases ds with
      | nil => cases hcs
      | cons d ds =>
        rw [List.map_cons, List.cons.injEq] at hcs
        obtain ⟨rfl, rfl⟩ := hcs
        rw [List.forall_mem_cons] at hds
        have hd : fits (s * (10 * seen + d : Nat)) := hfits _ _ (le_valueFrom _ ds) hlast
        have htake := (h (s * seen) (digitChar d) _).mpr ⟨d, hds.1, rfl, rfl, (hvalue d) ▸ hd⟩
        rw [List.foldlM_cons, htake, hvalue]
        exact (ih hd).mpr ⟨ds, hds.2, rfl, rfl, hlast⟩

theorem TakesDigits.foldlM_zero_eq_ok_iff {take : Int → Char → Except Misread Int} {s : Int}
    {fits : Int → Prop} (h : TakesDigits take s fits)
    (hfits : ∀ a b : Nat, a ≤ b → fits (s * b) → fits (s * a)) (hzero : fits 0) {cs : List Char}
    (hcs : cs ≠ []) {m : Int} :
    cs.foldlM take 0 = .ok m ↔ ∃ n : Nat, IsNumeral cs n ∧ m = s * n ∧ fits m := by
  have hseen : fits (s * (0 : Nat)) := by simpa using hzero
  have hfold : cs.foldlM take (s * (0 : Nat)) = .ok m ↔ _ := h.foldlM_eq_ok_iff hfits hseen
  rw [Int.natCast_zero, Int.mul_zero] at hfold
  rw [hfold]
  constructor
  · intro hm
    obtain ⟨ds, hds, rfl, rfl, hlast⟩ := hm
    exact ⟨valueFrom 0 ds, ⟨ds, fun e => hcs (e ▸ rfl), hds, rfl, rfl⟩, rfl, hlast⟩
  · intro hm
    obtain ⟨n, ⟨ds, _, hds, rfl, rfl⟩, rfl, hlast⟩ := hm
    exact ⟨ds, hds, rfl, rfl, hlast⟩

namespace Field

variable {f : Field}

theorem takesDigits_addDigit : TakesDigits f.addDigit 1 (· ≤ f.highest) := by
  apply takesDigits_of_digit?
  · intro n c hc
    simp only [addDigit, hc]
  · intro n d hd m
    simp only [addDigit, digit?_digitChar hd, Int.one_mul]
    split
    · simp only [Except.ok.injEq]
      omega
    · simp only [reduceCtorEq, false_iff]
      omega

theorem takesDigits_subDigit : TakesDigits f.subDigit (-1) (f.lowest ≤ ·) := by
  apply takesDigits_of_digit?
  · intro n c hc
    simp only [subDigit, hc]
  · intro n d hd m
    simp only [subDigit, digit?_digitChar hd]
    split
    · simp only [Except.ok.injEq]
      omega
    · simp only [reduceCtorEq, false_iff]
      omega

/-- The texts that a field takes for a number. Without negative numbers it does not take a minus
sign, not even in front of zero. -/
structure Takes (f : Field) (text : String) (n : Int) : Prop where
  spelled : Spells text.toList n
  fits : f.lowest ≤ n ∧ n ≤ f.highest
  signed : text.toList.head? = some '-' → f.lowest < 0

theorem foldlM_addDigit_eq_ok_iff (h : 0 ≤ f.highest) {cs : List Char} (hcs : cs ≠ []) {n : Int} :
    cs.foldlM f.addDigit 0 = .ok n ↔ ∃ m : Nat, IsNumeral cs m ∧ n = m ∧ n ≤ f.highest := by
  rw [takesDigits_addDigit.foldlM_zero_eq_ok_iff (fun _ _ _ _ => by omega) h hcs]
  simp only [Int.one_mul]

theorem foldlM_subDigit_eq_ok_iff (h : f.lowest ≤ 0) {cs : List Char} (hcs : cs ≠ []) {n : Int} :
    cs.foldlM f.subDigit 0 = .ok n ↔ ∃ m : Nat, IsNumeral cs m ∧ n = -m ∧ f.lowest ≤ n := by
  rw [takesDigits_subDigit.foldlM_zero_eq_ok_iff (fun _ _ _ _ => by omega) h hcs]
  simp only [Int.neg_one_mul]

theorem not_isNumeral_nil (n : Nat) : ¬ IsNumeral [] n := by
  intro h
  obtain ⟨ds, hne, _, hds, _⟩ := h
  exact hne (List.map_eq_nil_iff.mp hds.symm)

theorem spells_plus_iff {cs : List Char} {n : Int} :
    Spells ('+' :: cs) n ↔ ∃ m : Nat, IsNumeral cs m ∧ n = m := by
  constructor
  · intro h
    cases h with
    | plain hn => exact absurd hn (not_isNumeral_cons rfl _ _)
    | plus hn => exact ⟨_, hn, rfl⟩
  · intro h
    obtain ⟨m, hm, rfl⟩ := h
    exact .plus hm

theorem spells_minus_iff {cs : List Char} {n : Int} :
    Spells ('-' :: cs) n ↔ ∃ m : Nat, IsNumeral cs m ∧ n = -m := by
  constructor
  · intro h
    cases h with
    | plain hn => exact absurd hn (not_isNumeral_cons rfl _ _)
    | minus hn => exact ⟨_, hn, rfl⟩
  · intro h
    obtain ⟨m, hm, rfl⟩ := h
    exact .minus hm

theorem spells_iff_of_unsigned {cs : List Char} (hplus : cs.head? ≠ some '+')
    (hminus : cs.head? ≠ some '-') {n : Int} :
    Spells cs n ↔ ∃ m : Nat, IsNumeral cs m ∧ n = m := by
  constructor
  · intro h
    cases h with
    | plain hn => exact ⟨_, hn, rfl⟩
    | plus => exact absurd rfl hplus
    | minus => exact absurd rfl hminus
  · intro h
    obtain ⟨m, hm, rfl⟩ := h
    exact .plain hm

/-- A field reads just the texts that it takes, as the numbers that they spell. -/
theorem read_eq_ok_iff (hlow : f.lowest ≤ 0) (hhigh : 0 ≤ f.highest) {text : String} {n : Int} :
    f.read text = .ok n ↔ f.Takes text n := by
  have htakes : f.Takes text n ↔ Spells text.toList n ∧ (f.lowest ≤ n ∧ n ≤ f.highest) ∧
      (text.toList.head? = some '-' → f.lowest < 0) :=
    ⟨fun h => ⟨h.spelled, h.fits, h.signed⟩, fun h => ⟨h.1, h.2.1, h.2.2⟩⟩
  -- a number without a minus sign is not below the lowest
  have hnatural : ∀ cs, (∃ m : Nat, IsNumeral cs m ∧ n = m ∧ n ≤ f.highest) ↔
      (∃ m : Nat, IsNumeral cs m ∧ n = m) ∧ f.lowest ≤ n ∧ n ≤ f.highest := by
    intro cs
    constructor
    · intro h
      obtain ⟨m, hm, rfl, hfits⟩ := h
      exact ⟨⟨m, hm, rfl⟩, by omega, hfits⟩
    · intro h
      obtain ⟨⟨m, hm, rfl⟩, _, hfits⟩ := h
      exact ⟨m, hm, rfl, hfits⟩
  rw [htakes]
  unfold read
  split
  case h_1 heq =>
    rw [heq, spells_iff_of_unsigned (by simp) (by simp)]
    simp [not_isNumeral_nil]
  case h_2 heq =>
    rw [heq, spells_plus_iff]
    simp [not_isNumeral_nil]
  case h_3 heq =>
    rw [heq, spells_minus_iff]
    simp [not_isNumeral_nil]
  case h_4 ds hds heq =>
    rw [heq, spells_plus_iff, foldlM_addDigit_eq_ok_iff hhigh hds, hnatural]
    simp
  case h_5 ds hds heq =>
    rw [heq, spells_minus_iff]
    by_cases hneg : f.lowest < 0
    · rw [if_pos hneg, foldlM_subDigit_eq_ok_iff hlow hds]
      constructor
      · intro h
        obtain ⟨m, hm, rfl, hfits⟩ := h
        exact ⟨⟨m, hm, rfl⟩, ⟨hfits, by omega⟩, fun _ => hneg⟩
      · intro h
        obtain ⟨⟨m, hm, rfl⟩, hfits, _⟩ := h
        exact ⟨m, hm, rfl, hfits.1⟩
    · simp [hneg]
  case h_6 hnil _ _ hplus hminus =>
    have hheads : text.toList.head? ≠ some '+' ∧ text.toList.head? ≠ some '-' := by
      simp only [ne_eq, List.head?_eq_some_iff, not_exists]
      exact ⟨hplus, hminus⟩
    rw [spells_iff_of_unsigned hheads.1 hheads.2, foldlM_addDigit_eq_ok_iff hhigh hnil, hnatural]
    simp [hheads.2]

theorem Takes.unique (hlow : f.lowest ≤ 0) (hhigh : 0 ≤ f.highest) {text : String} {m n : Int}
    (hm : f.Takes text m) (hn : f.Takes text n) : m = n := by
  rw [← read_eq_ok_iff hlow hhigh] at hm hn
  rw [hm] at hn
  exact Except.ok.inj hn

end Field

end ProxyConsole.Decimal
