import ProxyConsole.Text.Hex

/-!
# Percent-encoding

A percent sign and two hexadecimal digits stand for a byte. A percent sign that two digits do not
follow stands for itself.
-/

namespace ProxyConsole.Percent

/-- The value of a byte that is the ASCII code of a hexadecimal digit. -/
def nibble? (b : UInt8) : Option Nat :=
  Hex.value? (Char.ofNat b.toNat)

def decode : List UInt8 → List UInt8
  | [] => []
  | b :: rest =>
    if b = 0x25 then
      match rest with
      | h :: l :: rest' =>
        match nibble? h, nibble? l with
        | some m, some n => UInt8.ofNat (16 * m + n) :: decode rest'
        | _, _ => b :: decode (h :: l :: rest')
      | [l] => b :: decode [l]
      | [] => [b]
    else b :: decode rest

end ProxyConsole.Percent
