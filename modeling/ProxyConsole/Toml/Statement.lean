import ProxyConsole.Toml.Entries
import ProxyConsole.Toml.Numbers
import ProxyConsole.Toml.Strings
import ProxyConsole.Toml.Times

/-!
# TOML statements

A document is a list of statements, one a line: a key with a value, the header of a table, or the
header of one more table of an array. Arrays and tables in braces nest to a fixed depth.
-/

namespace ProxyConsole.Toml

open Reader (char satisfy takeWhile takeWhile1 maybe many either refuse peek)

abbrev KeyPath := List String

inductive Statement where
  | pair (path : KeyPath) (value : Value)
  | header (path : KeyPath)
  | element (path : KeyPath)

/-! ## White space -/

/-- A comment runs to the end of the line. -/
def comment : Reader Unit := do
  char '#'
  let _ ← takeWhile isVisible

/-- What may stand between the parts of an array. -/
def filler : Reader Unit := do
  let _ ← many (either (do let _ ← takeWhile1 isBlankChar) (either newline comment))

/-- A line ends with a line break or with the text. -/
def lineEnd : Reader Unit := do
  blanks
  let _ ← maybe comment
  either newline Reader.atEnd

/-! ## Keys -/

def isBareChar (c : Char) : Bool :=
  let n := c.toNat
  (0x30 ≤ n && n ≤ 0x39) || (0x41 ≤ n && n ≤ 0x5A) || (0x61 ≤ n && n ≤ 0x7A) || c = '-' || c = '_'

def bareKey : Reader String := do
  return String.ofList (← takeWhile1 isBareChar)

/-- One name: bare, or a string on one line. -/
def simpleKey : Reader String := do
  match ← peek with
  | some '\"' => basicString
  | some '\'' => literalString
  | _ => bareKey

def spacedKey : Reader String := do
  blanks
  let name ← simpleKey
  blanks
  return name

/-- A key of this many names, or a nesting this deep, is refused. -/
def depthLimit : Nat := 80

def key : Reader KeyPath := do
  let name ← spacedKey
  let names ← many do char '.'; spacedKey
  if names.length + 1 < depthLimit then return name :: names else refuse

/-! ## Values -/

def letters (word : String) (v : Value) : Reader Value := do
  Reader.chars word.toList
  return v

def time : Reader Value := do
  Time.any
  return .time

def floatValue : Reader Value := do
  float
  return .float

def integerValue : Reader Value := do
  return .integer (← integer)

/-- A value that holds no other. A time is tried before a float, and a float before an integer. -/
def scalar : Reader Value := do
  match ← peek with
  | some '\"' | some '\'' => return .string (← anyString)
  | some 't' => letters "true" (.boolean true)
  | some 'f' => letters "false" (.boolean false)
  | _ => either time (either floatValue integerValue)

def spaced (item : Reader Value) : Reader Value := do
  filler
  let v ← item
  filler
  return v

/-- Items between commas; a comma may follow the last. -/
def arrayItems (item : Reader Value) : Reader (List Value) := do
  match ← maybe (spaced item) with
  | none => return []
  | some v =>
    let vs ← many do char ','; spaced item
    let _ ← maybe (char ',')
    return v :: vs

def array (item : Reader Value) : Reader Value := do
  char '['
  let vs ← arrayItems item
  filler
  char ']'
  return .array vs

def pair (value : Reader Value) : Reader (KeyPath × Value) := do
  let path ← key
  char '='
  blanks
  let v ← value
  return (path, v)

def inlinePair (value : Reader Value) : Reader (KeyPath × Value) := do
  let p ← pair value
  blanks
  return p

/-- Pairs between commas on one line; no comma follows the last. -/
def inlinePairs (value : Reader Value) : Reader (List (KeyPath × Value)) := do
  match ← maybe (inlinePair value) with
  | none => return []
  | some p =>
    let ps ← many do char ','; inlinePair value
    return p :: ps

/-- A table in braces is complete once it is closed. -/
def inlineTable (value : Reader Value) : Reader Value := do
  char '\x7b'
  let ps ← inlinePairs value
  blanks
  char '\x7d'
  match ps.foldlM (fun entries p => Entries.insert p.1 p.2 entries) [] with
  | some entries => return .table .inline entries
  | none => refuse

/-- A value with at most the given number of arrays and tables around any value in it. -/
def value : Nat → Reader Value
  | 0 => scalar
  | depth + 1 => do
    match ← peek with
    | some '[' => array (value depth)
    | some '\x7b' => inlineTable (value depth)
    | _ => scalar

/-! ## Statements -/

def tableHeader : Reader Statement := do
  char '['
  let path ← key
  char ']'
  return .header path

def elementHeader : Reader Statement := do
  Reader.chars ['[', '[']
  let path ← key
  Reader.chars [']', ']']
  return .element path

/-- Two brackets in a row always open the header of an array. -/
def anyHeader : Reader Statement := fun cs =>
  match cs with
  | '[' :: '[' :: _ => elementHeader cs
  | _ => tableHeader cs

def pairStatement : Reader Statement := do
  let (path, v) ← pair (value (depthLimit - 1))
  return .pair path v

def lineContent : Reader (Option Statement) := do
  blanks
  match ← peek with
  | none | some '#' | some '\n' | some '\r' => return none
  | some '[' => return some (← anyHeader)
  | _ => return some (← pairStatement)

/-- A line has a character at least, if only its break. -/
def line : Reader (Option Statement) := do
  if (← peek).isNone then refuse
  let statement ← lineContent
  lineEnd
  return statement

/-- The statements of a document. A byte order mark may come before them. -/
def statements : Reader (List Statement) := do
  let _ ← maybe (char '\uFEFF')
  return (← many line).filterMap id

end ProxyConsole.Toml
