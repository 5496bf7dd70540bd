import ProxyConsole.Text.Hex

/-!
# UUIDs

A UUID is a number of 128 bits. It is written as 32 lower-case hexadecimal digits in five groups. A
reader takes digits in either case and four spellings: the bare digits, the groups, the groups in
braces, and the groups after the URN scheme in any case.
-/

namespace ProxyConsole

structure Uuid where
  bits : BitVec 128
  deriving DecidableEq

namespace Uuid

/-- The 32 digits, most significant first. -/
def digits (id : Uuid) : List Char :=
  (List.range 32).map fun i => Hex.digit (id.bits.toNat / Nat.pow 16 (31 - i) % 16)

/-- Sets hyphens between groups of 8, 4, 4, 4 and all further characters. -/
def hyphenate (ds : List Char) : List Char :=
  ds.take 8 ++ '-' :: ((ds.drop 8).take 4 ++ '-' :: ((ds.drop 12).take 4 ++
    '-' :: ((ds.drop 16).take 4 ++ '-' :: ds.drop 20)))

def text (id : Uuid) : String :=
  String.ofList (hyphenate id.digits)

def ofDigits? (cs : List Char) : Option Uuid :=
  if cs.length = 32 then (cs.mapM Hex.value?).map fun ds => ⟨BitVec.ofNat 128 (Hex.value ds)⟩
  else none

/-- Reads digits with hyphens between the groups and nowhere else. -/
def ofGroups? (cs : List Char) : Option Uuid :=
  let ds := cs.filter (· ≠ '-')
  if hyphenate ds = cs then ofDigits? ds else none

def ofBraces? (cs : List Char) : Option Uuid :=
  match cs with
  | '\x7b' :: rest => if rest.getLast? = some '\x7d' then ofGroups? rest.dropLast else none
  | _ => none

def scheme : List Char := ['u', 'r', 'n', ':', 'u', 'u', 'i', 'd', ':']

def ofUrn? (cs : List Char) : Option Uuid :=
  if (cs.take scheme.length).map Char.toLower = scheme then ofGroups? (cs.drop scheme.length)
  else none

def ofText? (s : String) : Option Uuid :=
  let cs := s.toList
  ofDigits? cs <|> ofGroups? cs <|> ofBraces? cs <|> ofUrn? cs

end Uuid

end ProxyConsole
