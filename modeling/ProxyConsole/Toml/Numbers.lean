import ProxyConsole.Text.Decimal
import ProxyConsole.Text.Hex
import ProxyConsole.Text.Reader

/-!
# TOML numbers

Integers of 64 bits with a sign in four bases, and floats. An underscore may stand between two
digits. A float is only checked: one that is not negative has to be below the least number that
rounds to infinity in double precision.
-/

namespace ProxyConsole.Toml

open Reader (char chars satisfy maybe many either refuse)

def digitOf (base : Nat) : Reader Nat := do
  match Hex.value? (← Reader.next) with
  | some d => if d < base then return d else refuse
  | none => refuse

/-- Digits of a base, with underscores between them. -/
def digitsOf (base : Nat) : Reader (List Nat) := do
  let d ← digitOf base
  let ds ← many (either (digitOf base) (do char '_'; digitOf base))
  return d :: ds

def wholeDigits : Reader (List Nat) := do
  match ← Reader.peek with
  | some '0' => char '0'; return [0]
  | _ => digitsOf 10

def valueOf (base : Nat) (ds : List Nat) : Nat :=
  ds.foldl (fun n d => base * n + d) 0

/-- Whether a minus sign is there; a plus sign may be. -/
def sign : Reader Bool := do
  match ← Reader.peek with
  | some '-' => char '-'; return true
  | some '+' => char '+'; return false
  | _ => return false

/-! ## Integers -/

def integerField : Decimal.Field := Decimal.Field.signed 64

def inField (n : Int) : Reader Int :=
  if integerField.lowest ≤ n ∧ n ≤ integerField.highest then return n else refuse

def decimalInteger : Reader Int := do
  let negative ← sign
  let n := valueOf 10 (← wholeDigits)
  inField (if negative then -n else n)

def basedInteger (letter : Char) (base : Nat) : Reader Int := do
  char '0'
  char letter
  inField (valueOf base (← digitsOf base))

/-- A base is marked after a zero by a letter, and has no sign. -/
def integer : Reader Int := fun cs =>
  match cs with
  | '0' :: 'x' :: _ => basedInteger 'x' 16 cs
  | '0' :: 'o' :: _ => basedInteger 'o' 8 cs
  | '0' :: 'b' :: _ => basedInteger 'b' 2 cs
  | _ => decimalInteger cs

/-! ## Floats -/

/-- The least real number that rounds to infinity: half a step above the greatest double. -/
def roundsToInfinity : Nat := Nat.pow 2 1024 - Nat.pow 2 970

/-- Whether digits times a power of ten reach a bound. The number of digits settles it unless the
power is of the size of the bound. -/
def reaches (bound : Nat) (ds : List Nat) (power : Int) : Bool :=
  let ds := ds.dropWhile (· = 0)
  let size : Int := ds.length + power
  if ds.isEmpty || size < 300 then false
  else if 320 < size then true
  else if 0 ≤ power then bound ≤ valueOf 10 ds * Nat.pow 10 power.toNat
  else bound * Nat.pow 10 (-power).toNat ≤ valueOf 10 ds

def fractionDigits : Reader (List Nat) := do
  char '.'
  digitsOf 10

def exponent : Reader Int := do
  let _ ← satisfy fun c => c = 'e' || c = 'E'
  let negative ← sign
  let n := valueOf 10 (← digitsOf 10)
  return if negative then -n else n

/-- Digits with a fraction, an exponent or both. -/
def decimalFloat : Reader Unit := do
  let negative ← sign
  let whole ← wholeDigits
  let fraction ← maybe fractionDigits
  let power ← maybe exponent
  if fraction.isNone && power.isNone then refuse
  let ds := whole ++ fraction.getD []
  if !negative && reaches roundsToInfinity ds (power.getD 0 - (fraction.getD []).length) then refuse

def specialFloat : Reader Unit := do
  let _ ← sign
  either (chars ['i', 'n', 'f']) (chars ['n', 'a', 'n'])

def float : Reader Unit :=
  either decimalFloat specialFloat

end ProxyConsole.Toml
