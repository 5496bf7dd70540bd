import ProxyConsole.Text.Hex
import ProxyConsole.Text.Reader

/-!
# TOML strings

Four forms: with escapes or without, on one line or on several. A line break inside a string is read
as a line feed, however it is written.
-/

namespace ProxyConsole.Toml

open Reader (char chars satisfy takeWhile maybe many either refuse)

/-! ## Characters -/

/-- The tab, and all but the ASCII control characters. -/
def isVisible (c : Char) : Bool :=
  c = '\t' || (0x20 ≤ c.toNat && c.toNat ≠ 0x7F)

def isBasicChar (c : Char) : Bool :=
  isVisible c && c ≠ '\"' && c ≠ '\\'

def isLiteralChar (c : Char) : Bool :=
  isVisible c && c ≠ '\''

def isBlankChar (c : Char) : Bool :=
  c = ' ' || c = '\t'

def blanks : Reader Unit := do
  let _ ← takeWhile isBlankChar

def newline : Reader Unit :=
  either (char '\n') (chars ['\r', '\n'])

/-! ## Escapes -/

def hexDigits : Nat → Reader (List Nat)
  | 0 => return []
  | n + 1 => do
    match Hex.value? (← Reader.next) with
    | some d => return d :: (← hexDigits n)
    | none => refuse

def codePoint (digits : Nat) : Reader Char := do
  let n := Hex.value (← hexDigits digits)
  if n.isValidChar then return Char.ofNat n else refuse

def escape : Reader Char := do
  char '\\'
  match ← Reader.next with
  | 'b' => return '\x08'
  | 't' => return '\t'
  | 'n' => return '\n'
  | 'f' => return '\x0c'
  | 'r' => return '\r'
  | '\"' => return '\"'
  | '\\' => return '\\'
  | 'u' => codePoint 4
  | 'U' => codePoint 8
  | _ => refuse

/-! ## One line -/

def basicString : Reader String := do
  char '\"'
  let cs ← many (either (satisfy isBasicChar) escape)
  char '\"'
  return String.ofList cs

def literalString : Reader String := do
  char '\''
  let cs ← takeWhile isLiteralChar
  char '\''
  return String.ofList cs

/-! ## Several lines -/

/-- A backslash at the end of a line, and all the white space and line breaks after it. -/
def joinedLine : Reader Unit := do
  char '\\'
  blanks
  newline
  let _ ← many (either (do let _ ← satisfy isBlankChar) newline)

/-- One or two quotes that do not end the string. -/
def innerQuotes (q : Char) : Reader (List Char) := do
  let qs ← Reader.takeWhile1 (· = q)
  if qs.length ≤ 2 then return qs else refuse

/-- The quotes that end the string: up to two before the last three belong to it. -/
def closingQuotes (q : Char) : Reader (List Char) := do
  let qs ← takeWhile (· = q)
  if 3 ≤ qs.length ∧ qs.length ≤ 5 then return qs.drop 3 else refuse

def lineFeed : Reader (List Char) := do
  newline
  return ['\n']

def one (r : Reader Char) : Reader (List Char) := do
  return [← r]

def noText (r : Reader Unit) : Reader (List Char) := do
  r
  return []

/-- A string between three quotes on each side, made of pieces. A line break right after the
opening quotes is dropped. -/
def longString (q : Char) (piece : Reader (List Char)) : Reader String := do
  chars [q, q, q]
  let _ ← maybe newline
  let pieces ← many (either piece (either lineFeed (innerQuotes q)))
  return String.ofList (pieces.flatten ++ (← closingQuotes q))

def longBasicString : Reader String :=
  longString '\"' (either (one (satisfy isBasicChar)) (either (noText joinedLine) (one escape)))

def longLiteralString : Reader String :=
  longString '\'' (one (satisfy isLiteralChar))

/-- A string in any form. Three quotes in a row always open a long one. -/
def anyString : Reader String := fun cs =>
  match cs with
  | '\"' :: '\"' :: '\"' :: _ => longBasicString cs
  | '\'' :: '\'' :: '\'' :: _ => longLiteralString cs
  | '\"' :: _ => basicString cs
  | _ => literalString cs

end ProxyConsole.Toml
