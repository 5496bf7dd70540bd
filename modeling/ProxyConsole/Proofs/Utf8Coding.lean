import Mathlib
import ProxyConsole.Text.Utf8

/-!
# Well-formed UTF-8

The strict reading takes just the bytes that a text is written with, and gives the text back.
-/

namespace ProxyConsole

namespace Utf8

/-! ## Reading UTF-8 that was written -/

theorem continuation_succ (n bits : Nat) {x : Nat} (h : x < 64) (bs : List UInt8) :
    continuation (n + 1) bits (UInt8.ofNat (x + 128) :: bs) = continuation n (64 * bits + x) bs := by
  have hx : (UInt8.ofNat (x + 128)).toNat = x + 128 :=
    UInt8.toNat_ofNat_of_lt' (by simp only [UInt8.size]; omega)
  have hrange : 0x80 ≤ UInt8.ofNat (x + 128) ∧ UInt8.ofNat (x + 128) ≤ 0xBF := by
    simp only [UInt8.le_iff_toNat_le, hx]
    exact ⟨by show 128 ≤ x + 128; omega, by show x + 128 ≤ 191; omega⟩
  rw [continuation, if_pos hrange, hx, Nat.add_sub_cancel]

theorem step_ascii {n : Nat} (h : n < 128) (bs : List UInt8) :
    step (UInt8.ofNat n) bs = (some (Char.ofNat n), bs) := by
  have hn : (UInt8.ofNat n).toNat = n :=
    UInt8.toNat_ofNat_of_lt' (by simp only [UInt8.size]; omega)
  have hlt : UInt8.ofNat n < 0x80 := by
    rw [UInt8.lt_iff_toNat_lt, hn]
    exact h
  rw [step, if_pos hlt, hn]

/-- A leading byte and a first continuation byte within its bounds; what is left is continuation. -/
theorem step_of_lead {b : UInt8} {l : Lead} {x : Nat} (hb : 128 ≤ b.toNat) (hl : lead? b = some l)
    (hx : x < 64) (hlow : l.lowest.toNat ≤ x + 128) (hhigh : x + 128 ≤ l.highest.toNat)
    (bs : List UInt8) : step b (UInt8.ofNat (x + 128) :: bs) =
      continuation (l.following - 1) (64 * l.bits + x) bs := by
  have hx' : (UInt8.ofNat (x + 128)).toNat = x + 128 :=
    UInt8.toNat_ofNat_of_lt' (by simp only [UInt8.size]; omega)
  have hascii : ¬ b < 0x80 := by
    rw [UInt8.lt_iff_toNat_lt]
    show ¬ b.toNat < 128
    omega
  have hrange : l.lowest ≤ UInt8.ofNat (x + 128) ∧ UInt8.ofNat (x + 128) ≤ l.highest := by
    rw [UInt8.le_iff_toNat_le, UInt8.le_iff_toNat_le, hx']
    exact ⟨hlow, hhigh⟩
  simp only [step, if_neg hascii, hl, if_pos hrange, hx', Nat.add_sub_cancel]

/-- The bits that a leading byte announces, and bounds on the first byte that follows it. -/
theorem lead?_two {x : Nat} (hlow : 2 ≤ x) (hx : x < 32) :
    lead? (UInt8.ofNat (x + 192)) = some ⟨1, 0x80, 0xBF, x⟩ := by
  interval_cases x <;> rfl

theorem lead?_three {x : Nat} (hx : x < 16) :
    lead? (UInt8.ofNat (x + 224)) =
      some ⟨2, if x = 0 then 0xA0 else 0x80, if x = 13 then 0x9F else 0xBF, x⟩ := by
  interval_cases x <;> rfl

theorem lead?_four {x : Nat} (hx : x < 5) :
    lead? (UInt8.ofNat (x + 240)) =
      some ⟨3, if x = 0 then 0x90 else 0x80, if x = 4 then 0x8F else 0xBF, x⟩ := by
  interval_cases x <;> rfl

section
variable {w x y z : Nat} (rest : List UInt8)

theorem step_two (hlow : 2 ≤ w) (hw : w < 32) (hx : x < 64) :
    step (UInt8.ofNat (w + 192)) (UInt8.ofNat (x + 128) :: rest) =
      (some (Char.ofNat (64 * w + x)), rest) := by
  have hbyte : (UInt8.ofNat (w + 192)).toNat = w + 192 :=
    UInt8.toNat_ofNat_of_lt' (by simp only [UInt8.size]; omega)
  rw [step_of_lead (by omega) (lead?_two hlow hw) hx]
  · rfl
  · show 128 ≤ x + 128
    omega
  · show x + 128 ≤ 191
    omega

theorem step_three (hw : w < 16) (hx : x < 64) (hy : y < 64) (hlow : w = 0 → 32 ≤ x)
    (hhigh : w = 13 → x < 32) :
    step (UInt8.ofNat (w + 224)) (UInt8.ofNat (x + 128) :: UInt8.ofNat (y + 128) :: rest) =
      (some (Char.ofNat (64 * (64 * w + x) + y)), rest) := by
  have hbyte : (UInt8.ofNat (w + 224)).toNat = w + 224 :=
    UInt8.toNat_ofNat_of_lt' (by simp only [UInt8.size]; omega)
  rw [step_of_lead (by omega) (lead?_three hw) hx]
  · exact continuation_succ 0 _ hy rest
  · simp only [apply_ite UInt8.toNat, UInt8.reduceToNat]
    split <;> omega
  · simp only [apply_ite UInt8.toNat, UInt8.reduceToNat]
    split <;> omega

theorem step_four (hw : w < 5) (hx : x < 64) (hy : y < 64) (hz : z < 64) (hlow : w = 0 → 16 ≤ x)
    (hhigh : w = 4 → x < 16) :
    step (UInt8.ofNat (w + 240))
        (UInt8.ofNat (x + 128) :: UInt8.ofNat (y + 128) :: UInt8.ofNat (z + 128) :: rest) =
      (some (Char.ofNat (64 * (64 * (64 * w + x) + y) + z)), rest) := by
  have hbyte : (UInt8.ofNat (w + 240)).toNat = w + 240 :=
    UInt8.toNat_ofNat_of_lt' (by simp only [UInt8.size]; omega)
  rw [step_of_lead (by omega) (lead?_four hw) hx]
  · exact (continuation_succ 1 _ hy _).trans (continuation_succ 0 _ hz rest)
  · simp only [apply_ite UInt8.toNat, UInt8.reduceToNat]
    split <;> omega
  · simp only [apply_ite UInt8.toNat, UInt8.reduceToNat]
    split <;> omega

end

/-- Reading takes the bytes of a character for that character and leaves what comes after them. -/
theorem step_utf8EncodeChar (c : Char) (rest : List UInt8) :
    ∃ b bs, String.utf8EncodeChar c = b :: bs ∧ step b (bs ++ rest) = (some c, rest) := by
  obtain ⟨n, hn⟩ : ∃ n, c.toNat = n := ⟨_, rfl⟩
  have hvalid : n < 0xD800 ∨ 0xDFFF < n ∧ n < 0x110000 := hn ▸ c.valid
  have hchar : ∀ m, m = n → (some (Char.ofNat m), rest) = (some c, rest) := by
    intro m hm
    rw [hm, ← hn, Char.ofNat_toNat]
  have hval : c.val.toNat = n := hn
  unfold String.utf8EncodeChar
  simp only [hval]
  split
  · exact ⟨_, _, rfl, (step_ascii (by omega) rest).trans (hchar _ rfl)⟩
  split
  · exact ⟨_, _, rfl, (step_two rest (by omega) (by omega) (by omega)).trans (hchar _ (by omega))⟩
  split
  · exact ⟨_, _, rfl, (step_three rest (by omega) (by omega) (by omega) (by omega) (by omega)).trans
      (hchar _ (by omega))⟩
  · exact ⟨_, _, rfl, (step_four rest (by omega) (by omega) (by omega) (by omega) (by omega)
      (by omega)).trans (hchar _ (by omega))⟩

theorem scan_encode (cs : List Char) : scan (encode cs) = cs.map some := by
  induction cs with
  | nil => rw [encode, List.flatMap_nil, scan, List.map_nil]
  | cons c cs ih =>
    obtain ⟨b, bs, hc, hstep⟩ := step_utf8EncodeChar c (encode cs)
    have hencode : encode (c :: cs) = b :: (bs ++ encode cs) := by
      rw [encode, List.flatMap_cons, hc]
      rfl
    rw [hencode, scan, hstep, ih, List.map_cons]

theorem decode?_encode (cs : List Char) : decode? (encode cs) = some cs := by
  have hid : cs.mapM (id ∘ some) = some (cs.map id) := List.mapM_pure
  rw [decode?, scan_encode, List.mapM_map, hid, List.map_id]

theorem decodeLossy_encode (cs : List Char) : decodeLossy (encode cs) = cs := by
  rw [decodeLossy, scan_encode, List.map_map]
  exact List.map_id cs

theorem encode_ascii {cs : List Char} (h : ∀ c ∈ cs, c.toNat < 128) :
    encode cs = cs.map fun c => UInt8.ofNat c.toNat := by
  induction cs with
  | nil => rfl
  | cons c cs ih =>
    have hc : c.val.toNat ≤ 127 := Nat.le_of_lt_succ (h c (List.mem_cons_self ..))
    have hchar : String.utf8EncodeChar c = [UInt8.ofNat c.toNat] := if_pos hc
    rw [List.map_cons, ← ih fun d hd => h d (List.mem_cons_of_mem c hd), encode, List.flatMap_cons,
      hchar]
    rfl

theorem encode_append (cs ds : List Char) : encode (cs ++ ds) = encode cs ++ encode ds :=
  List.flatMap_append

/-! ## Writing UTF-8 that was read -/

section
variable {w x y z : Nat}

theorem utf8EncodeChar_ascii (hw : w < 128) :
    String.utf8EncodeChar (Char.ofNat w) = [UInt8.ofNat w] := by
  have hval : (Char.ofNat w).val.toNat = w :=
    (Char.toNat_ofNat w).trans (if_pos (.inl (by omega)))
  rw [String.utf8EncodeChar, hval, if_pos (by omega)]

theorem utf8EncodeChar_two (hlow : 2 ≤ w) (hw : w < 32) (hx : x < 64) :
    String.utf8EncodeChar (Char.ofNat (64 * w + x)) = [UInt8.ofNat (w + 192), UInt8.ofNat (x + 128)] := by
  have hval : (Char.ofNat (64 * w + x)).val.toNat = 64 * w + x :=
    (Char.toNat_ofNat _).trans (if_pos (.inl (by omega)))
  have hfirst : (64 * w + x) / 64 % 32 = w := by omega
  have hsecond : (64 * w + x) % 64 = x := by omega
  rw [String.utf8EncodeChar, hval, if_neg (by omega), if_pos (by omega), hfirst, hsecond]

theorem utf8EncodeChar_three (hw : w < 16) (hx : x < 64) (hy : y < 64) (hlow : w = 0 → 32 ≤ x)
    (hhigh : w = 13 → x < 32) :
    String.utf8EncodeChar (Char.ofNat (64 * (64 * w + x) + y)) =
      [UInt8.ofNat (w + 224), UInt8.ofNat (x + 128), UInt8.ofNat (y + 128)] := by
  have hvalid : (64 * (64 * w + x) + y).isValidChar := by
    unfold Nat.isValidChar
    omega
  have hval : (Char.ofNat (64 * (64 * w + x) + y)).val.toNat = _ :=
    (Char.toNat_ofNat _).trans (if_pos hvalid)
  have hfirst : (64 * (64 * w + x) + y) / 4096 % 16 = w := by omega
  have hsecond : (64 * (64 * w + x) + y) / 64 % 64 = x := by omega
  have hthird : (64 * (64 * w + x) + y) % 64 = y := by omega
  rw [String.utf8EncodeChar, hval, if_neg (by omega), if_neg (by omega), if_pos (by omega), hfirst,
    hsecond, hthird]

theorem utf8EncodeChar_four (hw : w < 5) (hx : x < 64) (hy : y < 64) (hz : z < 64)
    (hlow : w = 0 → 16 ≤ x) (hhigh : w = 4 → x < 16) :
    String.utf8EncodeChar (Char.ofNat (64 * (64 * (64 * w + x) + y) + z)) =
      [UInt8.ofNat (w + 240), UInt8.ofNat (x + 128), UInt8.ofNat (y + 128), UInt8.ofNat (z + 128)] := by
  have hvalid : (64 * (64 * (64 * w + x) + y) + z).isValidChar := by
    unfold Nat.isValidChar
    omega
  have hval : (Char.ofNat (64 * (64 * (64 * w + x) + y) + z)).val.toNat = _ :=
    (Char.toNat_ofNat _).trans (if_pos hvalid)
  have hfirst : (64 * (64 * (64 * w + x) + y) + z) / 262144 % 8 = w := by omega
  have hsecond : (64 * (64 * (64 * w + x) + y) + z) / 4096 % 64 = x := by omega
  have hthird : (64 * (64 * (64 * w + x) + y) + z) / 64 % 64 = y := by omega
  have hfourth : (64 * (64 * (64 * w + x) + y) + z) % 64 = z := by omega
  rw [String.utf8EncodeChar, hval, if_neg (by omega), if_neg (by omega), if_neg (by omega), hfirst,
    hsecond, hthird, hfourth]

end

theorem exists_bits_of_lead? {b : UInt8} {l : Lead} (h : lead? b = some l) :
    (∃ w, 2 ≤ w ∧ w < 32 ∧ b = UInt8.ofNat (w + 192)) ∨
      (∃ w < 16, b = UInt8.ofNat (w + 224)) ∨ ∃ w < 5, b = UInt8.ofNat (w + 240) := by
  have hrange : 194 ≤ b.toNat ∧ b.toNat ≤ 244 := by
    by_contra hno
    simp only [lead?, UInt8.le_iff_toNat_le, UInt8.reduceToNat, ← UInt8.toNat_inj] at h
    rw [if_neg (by omega), if_neg (by omega), if_neg (by omega), if_neg (by omega), if_neg (by omega),
      if_neg (by omega), if_neg (by omega)] at h
    cases h
  have hbits : ∀ mark, mark ≤ b.toNat → b = UInt8.ofNat (b.toNat - mark + mark) := by
    intro mark hmark
    rw [Nat.sub_add_cancel hmark, UInt8.ofNat_toNat]
  by_cases htwo : b.toNat < 224
  · exact .inl ⟨b.toNat - 192, by omega, by omega, hbits 192 (by omega)⟩
  by_cases hthree : b.toNat < 240
  · exact .inr (.inl ⟨b.toNat - 224, by omega, hbits 224 (by omega)⟩)
  · exact .inr (.inr ⟨b.toNat - 240, by omega, hbits 240 (by omega)⟩)

theorem eq_of_continuation {n bits : Nat} {bs rest : List UInt8} {c : Char}
    (h : continuation n bits bs = (some c, rest)) :
    ∃ xs : List Nat, xs.length = n ∧ (∀ x ∈ xs, x < 64) ∧
      bs = xs.map (fun x => UInt8.ofNat (x + 128)) ++ rest ∧
      c = Char.ofNat (xs.foldl (fun bits x => 64 * bits + x) bits) := by
  induction n generalizing bits bs with
  | zero =>
    rw [continuation, Prod.mk.injEq, Option.some.injEq] at h
    obtain ⟨rfl, rfl⟩ := h
    exact ⟨[], rfl, by simp, rfl, rfl⟩
  | succ n ih =>
    cases bs with
    | nil =>
      rw [continuation] at h
      cases h
    | cons b bs =>
      rw [continuation] at h
      split at h
      · rename_i hrange
        simp only [UInt8.le_iff_toNat_le, UInt8.reduceToNat] at hrange
        obtain ⟨xs, hlength, hall, rfl, rfl⟩ := ih h
        refine ⟨(b.toNat - 0x80) :: xs, by rw [List.length_cons, hlength], ?_, ?_, ?_⟩
        · rw [List.forall_mem_cons]
          exact ⟨by omega, hall⟩
        · have hb : b.toNat - 0x80 + 128 = b.toNat := by omega
          rw [List.map_cons, hb, UInt8.ofNat_toNat, List.cons_append]
        · rw [List.foldl_cons]
      · cases h

/-- What reading takes for a character are the bytes of that character. -/
theorem eq_encode_of_step {b : UInt8} {bs rest : List UInt8} {c : Char}
    (h : step b bs = (some c, rest)) : b :: bs = String.utf8EncodeChar c ++ rest := by
  unfold step at h
  split at h
  · rename_i hascii
    rw [UInt8.lt_iff_toNat_lt] at hascii
    simp only [Prod.mk.injEq, Option.some.injEq] at h
    obtain ⟨rfl, rfl⟩ := h
    rw [utf8EncodeChar_ascii hascii, UInt8.ofNat_toNat]
    rfl
  cases hl : lead? b with
  | none =>
    simp only [hl] at h
    cases h
  | some l =>
    simp only [hl] at h
    cases bs with
    | nil => cases h
    | cons d bs =>
      simp only at h
      split at h
      · rename_i hrange
        rw [UInt8.le_iff_toNat_le, UInt8.le_iff_toNat_le] at hrange
        obtain ⟨xs, hlength, hall, rfl, rfl⟩ := eq_of_continuation h
        have hd : 128 ≤ d.toNat → d = UInt8.ofNat (d.toNat - 128 + 128) := by
          intro hlow
          rw [Nat.sub_add_cancel hlow, UInt8.ofNat_toNat]
        -- by the width that the leading byte announces
        rcases exists_bits_of_lead? hl with ⟨w, hlow, hw, rfl⟩ | ⟨w, hw, rfl⟩ | ⟨w, hw, rfl⟩
        · rw [lead?_two hlow hw, Option.some.injEq] at hl
          subst hl
          simp only [UInt8.reduceToNat] at hrange
          obtain rfl := List.length_eq_zero_iff.mp hlength
          rw [List.foldl_nil, utf8EncodeChar_two hlow hw (by omega), ← hd (by omega)]
          rfl
        · rw [lead?_three hw, Option.some.injEq] at hl
          subst hl
          simp only [apply_ite UInt8.toNat, UInt8.reduceToNat] at hrange
          obtain ⟨y, rfl⟩ := List.length_eq_one_iff.mp hlength
          have hy : y < 64 := hall y (List.mem_singleton_self y)
          have hbounds : 128 ≤ d.toNat ∧ d.toNat < 192 ∧ (w = 0 → 160 ≤ d.toNat) ∧
              (w = 13 → d.toNat < 160) := by
            split at hrange <;> split at hrange <;> omega
          rw [List.foldl_cons, List.foldl_nil, utf8EncodeChar_three hw (by omega) hy (by omega)
            (by omega), ← hd (by omega)]
          rfl
        · rw [lead?_four hw, Option.some.injEq] at hl
          subst hl
          simp only [apply_ite UInt8.toNat, UInt8.reduceToNat] at hrange
          obtain ⟨y, z, rfl⟩ := List.length_eq_two.mp hlength
          have hy : y < 64 := hall y (List.mem_cons_self ..)
          have hz : z < 64 := hall z (List.mem_cons_of_mem y (List.mem_singleton_self z))
          have hbounds : 128 ≤ d.toNat ∧ d.toNat < 192 ∧ (w = 0 → 144 ≤ d.toNat) ∧
              (w = 4 → d.toNat < 144) := by
            split at hrange <;> split at hrange <;> omega
          rw [List.foldl_cons, List.foldl_cons, List.foldl_nil, utf8EncodeChar_four hw (by omega) hy hz
            (by omega) (by omega), ← hd (by omega)]
          rfl
      · cases h

theorem eq_encode_of_decode? {bs : List UInt8} {cs : List Char} (h : decode? bs = some cs) :
    bs = encode cs := by
  unfold decode? at h
  induction bs using scan.induct generalizing cs with
  | case1 =>
    rw [scan, List.mapM_nil] at h
    cases h
    rfl
  | case2 b bs ih =>
    rw [scan, List.mapM_cons] at h
    obtain ⟨c, hc, h⟩ := Option.bind_eq_some_iff.mp h
    obtain ⟨cs', hcs, h⟩ := Option.bind_eq_some_iff.mp h
    cases h
    have hstep : step b bs = (some c, (step b bs).2) := Prod.ext hc rfl
    rw [eq_encode_of_step hstep, ih hcs]
    rfl

theorem decode?_eq_some_iff {bs : List UInt8} {cs : List Char} :
    decode? bs = some cs ↔ bs = encode cs := by
  constructor
  · exact eq_encode_of_decode?
  · intro h
    rw [h, decode?_encode]

end Utf8

end ProxyConsole
