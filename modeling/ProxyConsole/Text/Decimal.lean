/-!
# Decimal numbers

Writing natural numbers and integers in decimal, with or without a least width, and reading an
integer that has to fit a field. A reader says why it refused a text: the first offence met from
the left decides.
-/

namespace ProxyConsole.Decimal

/-! ## Digits -/

def digit? (c : Char) : Option Nat :=
  if '0' ≤ c ∧ c ≤ '9' then some (c.toNat - '0'.toNat) else none

def digitChar (d : Nat) : Char :=
  Char.ofNat ('0'.toNat + d)

/-- The digits of a number, most significant first; zero has one digit. -/
def digits (n : Nat) : List Char :=
  if n < 10 then [digitChar n] else digits (n / 10) ++ [digitChar (n % 10)]
termination_by n
decreasing_by omega

/-- The digits of a number, with zeros in front up to the width. -/
def padded (width n : Nat) : List Char :=
  List.replicate (width - (digits n).length) '0' ++ digits n

/-- The value of a run of digits, read on from a value already seen. -/
def valueFrom (seen : Nat) (ds : List Nat) : Nat :=
  ds.foldl (fun n d => 10 * n + d) seen

def ofNat (n : Nat) : String :=
  String.ofList (digits n)

/-- A minus sign, if one is needed, and the digits. -/
def ofInt : Int → String
  | .ofNat n => ofNat n
  | .negSucc n => String.ofList ('-' :: digits (n + 1))

/-! ## Reading into a field -/

/-- The integers that a field can hold. -/
structure Field where
  lowest : Int
  highest : Int
  deriving DecidableEq

namespace Field

def unsigned (bits : Nat) : Field := ⟨0, Int.pow 2 bits - 1⟩

def signed (bits : Nat) : Field := ⟨-Int.pow 2 (bits - 1), Int.pow 2 (bits - 1) - 1⟩

end Field

inductive Misread where
  | empty
  | invalidDigit
  | tooLarge
  | tooSmall
  deriving DecidableEq

namespace Misread

def message : Misread → String
  | empty => "cannot parse integer from empty string"
  | invalidDigit => "invalid digit found in string"
  | tooLarge => "number too large to fit in target type"
  | tooSmall => "number too small to fit in target type"

end Misread

namespace Field

/-- Takes one more digit of a number that is not negative. -/
def addDigit (f : Field) (n : Int) (c : Char) : Except Misread Int :=
  match digit? c with
  | none => .error .invalidDigit
  | some d => if 10 * n + d ≤ f.highest then .ok (10 * n + d) else .error .tooLarge

/-- Takes one more digit of a number with a minus sign. -/
def subDigit (f : Field) (n : Int) (c : Char) : Except Misread Int :=
  match digit? c with
  | none => .error .invalidDigit
  | some d => if f.lowest ≤ 10 * n - d then .ok (10 * n - d) else .error .tooSmall

/-- Reads an optional sign and one or more digits. A field without negative numbers has no use
for a minus sign and takes it for a wrong digit. -/
def read (f : Field) (text : String) : Except Misread Int :=
  match text.toList with
  | [] => .error .empty
  | ['+'] => .error .invalidDigit
  | ['-'] => .error .invalidDigit
  | '+' :: ds => ds.foldlM f.addDigit 0
  | '-' :: ds => if f.lowest < 0 then ds.foldlM f.subDigit 0 else .error .invalidDigit
  | ds => ds.foldlM f.addDigit 0

end Field

end ProxyConsole.Decimal
