import ProxyConsole.Text.Hex
import ProxyConsole.Text.Printable

/-!
# Quoted text

How a text that came from outside is shown inside a message: between double quotes, with short
escapes for a few characters, and by number where a character would not be seen or would change how
its neighbour is drawn. A single quote stands for itself.
-/

namespace ProxyConsole.Quoted

/-- The characters that have an escape of two characters. -/
def short? (c : Char) : Option Char :=
  match c with
  | '\x00' => some '0'
  | '\t' => some 't'
  | '\n' => some 'n'
  | '\r' => some 'r'
  | '\"' => some '\"'
  | '\\' => some '\\'
  | _ => none

/-- The escape by number, in lower-case hexadecimal digits without leading zeros. -/
def numbered (c : Char) : List Char :=
  ['\\', 'u', '\x7b'] ++ Hex.digits c.toNat ++ ['\x7d']

/-- One character as it stands between the quotes. -/
def encodeChar (c : Char) : List Char :=
  match short? c with
  | some e => ['\\', e]
  | none => if Text.isExtending c || !Text.isPrintable c then numbered c else [c]

def encode (cs : List Char) : List Char :=
  cs.flatMap encodeChar

def quote (s : String) : String :=
  String.ofList ('\"' :: encode s.toList ++ ['\"'])

end ProxyConsole.Quoted
