/-!
# UTF-8

Encoding, and two readings of bytes. Both cut the bytes into characters and ill-formed runs, where
an ill-formed run is as long as it can still be the beginning of a character. The strict reading
refuses ill-formed runs; the lenient one puts U+FFFD in the place of each.
-/

namespace ProxyConsole.Utf8

def encode (cs : List Char) : List UInt8 :=
  cs.flatMap String.utf8EncodeChar

/-- What a leading byte announces: how many bytes follow, in which range the first of them lies,
and the leading bits of the character. -/
structure Lead where
  following : Nat
  lowest : UInt8
  highest : UInt8
  bits : Nat

/-- The bounds on the second byte keep out overlong forms, surrogates and numbers above
U+10FFFF. -/
def lead? (b : UInt8) : Option Lead :=
  if 0xC2 ≤ b ∧ b ≤ 0xDF then some ⟨1, 0x80, 0xBF, b.toNat - 0xC0⟩
  else if b = 0xE0 then some ⟨2, 0xA0, 0xBF, 0⟩
  else if b = 0xED then some ⟨2, 0x80, 0x9F, 13⟩
  else if 0xE1 ≤ b ∧ b ≤ 0xEF then some ⟨2, 0x80, 0xBF, b.toNat - 0xE0⟩
  else if b = 0xF0 then some ⟨3, 0x90, 0xBF, 0⟩
  else if 0xF1 ≤ b ∧ b ≤ 0xF3 then some ⟨3, 0x80, 0xBF, b.toNat - 0xF0⟩
  else if b = 0xF4 then some ⟨3, 0x80, 0x8F, 4⟩
  else none

/-- Reads the given number of continuation bytes onto the bits already read. -/
def continuation : Nat → Nat → List UInt8 → Option Char × List UInt8
  | 0, bits, bs => (some (Char.ofNat bits), bs)
  | _ + 1, _, [] => (none, [])
  | n + 1, bits, b :: bs =>
    if 0x80 ≤ b ∧ b ≤ 0xBF then continuation n (64 * bits + (b.toNat - 0x80)) bs
    else (none, b :: bs)

/-- The first character, or none for an ill-formed run, and what comes after it. -/
def step (b : UInt8) (bs : List UInt8) : Option Char × List UInt8 :=
  if b < 0x80 then (some (Char.ofNat b.toNat), bs)
  else match lead? b with
    | none => (none, bs)
    | some l =>
      match bs with
      | [] => (none, [])
      | c :: cs =>
        if l.lowest ≤ c ∧ c ≤ l.highest then
          continuation (l.following - 1) (64 * l.bits + (c.toNat - 0x80)) cs
        else (none, c :: cs)

theorem length_continuation (n bits : Nat) (bs : List UInt8) :
    (continuation n bits bs).2.length ≤ bs.length := by
  induction n generalizing bits bs with
  | zero => simp [continuation]
  | succ n ih =>
    cases bs with
    | nil => simp [continuation]
    | cons b bs =>
      simp only [continuation]
      split
      · exact Nat.le_succ_of_le (ih _ _)
      · simp

theorem length_step (b : UInt8) (bs : List UInt8) : (step b bs).2.length ≤ bs.length := by
  unfold step
  split
  · simp
  · split
    · simp
    · split
      · simp
      · split
        · exact Nat.le_succ_of_le (length_continuation _ _ _)
        · simp

/-- The characters of the bytes in order, with none for each ill-formed run. -/
def scan : List UInt8 → List (Option Char)
  | [] => []
  | b :: bs => (step b bs).1 :: scan (step b bs).2
termination_by bs => bs.length
decreasing_by exact Nat.lt_succ_of_le (length_step b bs)

/-- The strict reading: every byte has to belong to a character. -/
def decode? (bs : List UInt8) : Option (List Char) :=
  (scan bs).mapM id

/-- The lenient reading: U+FFFD stands for each ill-formed run. -/
def decodeLossy (bs : List UInt8) : List Char :=
  (scan bs).map (·.getD '\uFFFD')

end ProxyConsole.Utf8
