/-!
# Hexadecimal digits

Digits are read in either case and written in lower case.
-/

namespace ProxyConsole.Hex

def value? (c : Char) : Option Nat :=
  if '0' ≤ c ∧ c ≤ '9' then some (c.toNat - '0'.toNat)
  else if 'a' ≤ c ∧ c ≤ 'f' then some (c.toNat - 'a'.toNat + 10)
  else if 'A' ≤ c ∧ c ≤ 'F' then some (c.toNat - 'A'.toNat + 10)
  else none

def digit (n : Nat) : Char :=
  if n < 10 then Char.ofNat ('0'.toNat + n) else Char.ofNat ('a'.toNat + (n - 10))

/-- The value of a run of digit values, most significant first. -/
def value (ds : List Nat) : Nat :=
  ds.foldl (fun n d => 16 * n + d) 0

/-- The lower-case digits of a number, without leading zeros. -/
def digits (n : Nat) : List Char :=
  if n < 16 then [digit n] else digits (n / 16) ++ [digit (n % 16)]
termination_by n
decreasing_by omega

end ProxyConsole.Hex
