import Mathlib.Tactic.IntervalCases
import ProxyConsole.Http.Uri
import ProxyConsole.Proofs.HexDigits
import ProxyConsole.Proofs.Utf8Coding
import ProxyConsole.Text.Percent

/-!
# Texts in paths

Any text can be written into a path: its bytes in UTF-8 are letters, digits and a few signs that
stand for themselves, or else are escaped. Reading gives the text back, and what is written has no
character that ends a segment, a path or a target. What any bytes stand for, written so or not, is
given by three rules.
-/

namespace ProxyConsole

namespace Percent

/-! ## Writing escapes -/

/-- Letters, digits and four signs, which stand for themselves everywhere in a target. -/
def isUnreserved (c : Char) : Bool :=
  Uri.isLetterOrDigit c || c = '-' || c = '.' || c = '_' || c = '~'

def upperDigit (n : Nat) : Char :=
  if n < 10 then Char.ofNat ('0'.toNat + n) else Char.ofNat ('A'.toNat + (n - 10))

def encodeByte (b : UInt8) : List Char :=
  if isUnreserved (Char.ofNat b.toNat) then [Char.ofNat b.toNat]
  else ['%', upperDigit (b.toNat / 16), upperDigit (b.toNat % 16)]

/-- The text with every byte of its UTF-8 escaped that is not a letter, a digit or one of the four
signs. -/
def encode (text : String) : String :=
  String.ofList ((Utf8.encode text.toList).flatMap encodeByte)

/-! ## Reading them back -/

theorem nibble?_upperDigit {n : Nat} (h : n < 16) :
    nibble? (UInt8.ofNat (upperDigit n).toNat) = some n := by
  interval_cases n <;> rfl

theorem decode_cons_of_ne {b : UInt8} (h : b ≠ 0x25) (rest : List UInt8) :
    decode (b :: rest) = b :: decode rest := by
  rw [decode.eq_def]
  exact if_neg h

theorem decode_escape {h l : UInt8} {m n : Nat} (hm : nibble? h = some m) (hn : nibble? l = some n)
    (rest : List UInt8) :
    decode (0x25 :: h :: l :: rest) = UInt8.ofNat (16 * m + n) :: decode rest := by
  rw [decode, if_pos rfl]
  simp only [hm, hn]

theorem isUnreserved_toNat {c : Char} (h : isUnreserved c = true) :
    c.toNat < 128 ∧ c.toNat ≠ 0x25 := by
  simp only [isUnreserved, Uri.isLetterOrDigit, Uri.inRange, Bool.or_eq_true, Bool.and_eq_true,
    decide_eq_true_eq] at h
  rcases h with (((h | rfl) | rfl) | rfl) | rfl
  · omega
  all_goals decide

theorem isUnreserved_upperDigit {n : Nat} (h : n < 16) : isUnreserved (upperDigit n) = true := by
  interval_cases n <;> decide

theorem decode_encodeByte (b : UInt8) (rest : List UInt8) :
    decode (Utf8.encode (encodeByte b) ++ rest) = b :: decode rest := by
  have hb : b.toNat < 256 := b.toNat_lt
  have hvalid : b.toNat.isValidChar := .inl (by omega)
  have hbyte : (Char.ofNat b.toNat).toNat = b.toNat := (Char.toNat_ofNat _).trans (if_pos hvalid)
  unfold encodeByte
  by_cases h : isUnreserved (Char.ofNat b.toNat) = true
  · obtain ⟨hascii, hpercent⟩ := isUnreserved_toNat h
    have hall : ∀ c ∈ [Char.ofNat b.toNat], c.toNat < 128 := by simpa using hascii
    rw [hbyte] at hpercent
    have hne : b ≠ 0x25 := fun e => hpercent (congrArg UInt8.toNat e)
    rw [if_pos h, Utf8.encode_ascii hall, List.map_singleton, hbyte, UInt8.ofNat_toNat]
    exact decode_cons_of_ne hne rest
  · have hhigh : b.toNat / 16 < 16 := Nat.div_lt_of_lt_mul b.toNat_lt
    have hlow : b.toNat % 16 < 16 := Nat.mod_lt _ (by decide)
    have hascii : ∀ c ∈ ['%', upperDigit (b.toNat / 16), upperDigit (b.toNat % 16)], c.toNat < 128 := by
      simp [(isUnreserved_toNat (isUnreserved_upperDigit hhigh)).1,
        (isUnreserved_toNat (isUnreserved_upperDigit hlow)).1]
    rw [if_neg h, Utf8.encode_ascii hascii]
    refine (decode_escape (nibble?_upperDigit hhigh) (nibble?_upperDigit hlow) rest).trans ?_
    rw [Nat.div_add_mod, UInt8.ofNat_toNat]

theorem decode_encode (text : String) :
    decode (Utf8.encode (encode text).toList) = Utf8.encode text.toList := by
  rw [encode, String.toList_ofList]
  induction Utf8.encode text.toList with
  | nil => rfl
  | cons b bs ih => rw [List.flatMap_cons, Utf8.encode_append, decode_encodeByte, ih]

/-! ## What is written -/

theorem isUnreserved_isPathChar {c : Char} (h : isUnreserved c = true) :
    Uri.isPathChar c = true ∧ c ≠ '/' := by
  simp only [isUnreserved, Uri.isLetterOrDigit, Uri.inRange, Bool.or_eq_true, Bool.and_eq_true,
    decide_eq_true_eq] at h
  rcases h with (((h | rfl) | rfl) | rfl) | rfl
  · constructor
    · simp only [Uri.isPathChar, Uri.inRange, Bool.or_eq_true, Bool.and_eq_true, decide_eq_true_eq]
      omega
    · rintro rfl
      revert h
      decide
  all_goals decide

/-- Nothing that is written ends a segment, a path or a target. -/
theorem isPathChar_of_mem_encode {text : String} {c : Char} (h : c ∈ (encode text).toList) :
    Uri.isPathChar c = true ∧ c ≠ '/' := by
  rw [encode, String.toList_ofList, List.mem_flatMap] at h
  obtain ⟨b, _, hc⟩ := h
  unfold encodeByte at hc
  split at hc
  · rename_i hb
    rw [List.mem_singleton.mp hc]
    exact isUnreserved_isPathChar hb
  · simp only [List.mem_cons, List.not_mem_nil, or_false] at hc
    rcases hc with rfl | rfl | rfl
    · decide
    · exact isUnreserved_isPathChar (isUnreserved_upperDigit (Nat.div_lt_of_lt_mul b.toNat_lt))
    · exact isUnreserved_isPathChar (isUnreserved_upperDigit (Nat.mod_lt _ (by decide)))

theorem encode_injective : Function.Injective encode := by
  intro a b h
  have hbytes : Utf8.encode a.toList = Utf8.encode b.toList := by
    rw [← decode_encode a, h, decode_encode b]
  have htexts : some a.toList = some b.toList := by
    rw [← Utf8.decode?_encode a.toList, hbytes, Utf8.decode?_encode b.toList]
  exact String.toList_inj.mp (Option.some.inj htexts)

/-! ## What bytes stand for -/

/-- A byte that is the ASCII code of a hexadecimal digit, in either letter case. -/
def IsDigit (b : UInt8) (n : Nat) : Prop :=
  n < 16 ∧ (Char.ofNat b.toNat).toLower = Hex.digit n

theorem nibble?_eq_some_iff {b : UInt8} {n : Nat} : nibble? b = some n ↔ IsDigit b n :=
  Hex.value?_eq_some_iff

/-- A percent sign and two digits stand for one byte. -/
def IsEscape (h l b : UInt8) : Prop :=
  ∃ m n, IsDigit h m ∧ IsDigit l n ∧ b = UInt8.ofNat (16 * m + n)

/-- Bytes and what they stand for: an escape for its byte, and any other byte for itself. -/
inductive Decodes : List UInt8 → List UInt8 → Prop
  | nil : Decodes [] []
  | escape {h l b : UInt8} {bs ds : List UInt8} : IsEscape h l b → Decodes bs ds →
      Decodes (0x25 :: h :: l :: bs) (b :: ds)
  | plain {b : UInt8} {bs ds : List UInt8} :
      (∀ h l rest e, b :: bs = 0x25 :: h :: l :: rest → ¬ IsEscape h l e) → Decodes bs ds →
      Decodes (b :: bs) (b :: ds)

theorem decode_cons_of_not_escape {b : UInt8} {bs : List UInt8}
    (h : ∀ h l rest e, b :: bs = 0x25 :: h :: l :: rest → ¬ IsEscape h l e) :
    decode (b :: bs) = b :: decode bs := by
  by_cases hb : b = 0x25
  · subst hb
    rcases bs with _ | ⟨d, _ | ⟨l, rest⟩⟩
    · rfl
    · rfl
    rw [decode, if_pos rfl]
    cases hm : nibble? d with
    | none => rfl
    | some m =>
      cases hn : nibble? l with
      | none => rfl
      | some n =>
        exact absurd ⟨m, n, nibble?_eq_some_iff.mp hm, nibble?_eq_some_iff.mp hn, rfl⟩ (h d l rest _ rfl)
  · exact decode_cons_of_ne hb bs

theorem decodes_decode (bs : List UInt8) : Decodes bs (decode bs) := by
  by_cases hescape : ∃ h l rest e, bs = 0x25 :: h :: l :: rest ∧ IsEscape h l e
  · obtain ⟨h, l, rest, e, rfl, m, n, hm, hn, rfl⟩ := hescape
    rw [decode_escape (nibble?_eq_some_iff.mpr hm) (nibble?_eq_some_iff.mpr hn)]
    exact .escape ⟨m, n, hm, hn, rfl⟩ (decodes_decode rest)
  · cases bs with
    | nil => exact .nil
    | cons b bs =>
      have hplain : ∀ h l rest e, b :: bs = 0x25 :: h :: l :: rest → ¬ IsEscape h l e :=
        fun h l rest e hbs he => hescape ⟨h, l, rest, e, hbs, he⟩
      rw [decode_cons_of_not_escape hplain]
      exact .plain hplain (decodes_decode bs)
termination_by bs.length

theorem decode_eq_iff {bs ds : List UInt8} : decode bs = ds ↔ Decodes bs ds := by
  constructor
  · rintro rfl
    exact decodes_decode bs
  · intro h
    induction h with
    | nil => rfl
    | escape hescape _ ih =>
      obtain ⟨m, n, hm, hn, rfl⟩ := hescape
      rw [decode_escape (nibble?_eq_some_iff.mpr hm) (nibble?_eq_some_iff.mpr hn), ih]
    | plain hplain _ ih => rw [decode_cons_of_not_escape hplain, ih]

end Percent

end ProxyConsole
