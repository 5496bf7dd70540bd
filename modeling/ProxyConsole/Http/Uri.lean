import ProxyConsole.Text.Split

/-!
# Request targets

Which texts are taken for the target of a request, and the path and the query they name. A target is
a path with an optional query, an absolute URI, an authority alone, or an asterisk. What follows a
hash sign is dropped unseen. Nothing is decoded.
-/

namespace ProxyConsole

/-- The path and the query of a request target, as they were sent. -/
structure Uri where
  path : String
  query : Option String
  deriving DecidableEq

namespace Uri

def maxBytes : Nat := 65534

/-! ## Characters -/

def inRange (low high : Nat) (c : Char) : Bool :=
  low ≤ c.toNat && c.toNat ≤ high

/-- Visible ASCII but for the angle brackets, the hash sign, the question mark and the grave accent;
and all that is not ASCII. -/
def isPathChar (c : Char) : Bool :=
  inRange 0x21 0x22 c || inRange 0x24 0x3B c || c = '=' || inRange 0x40 0x5F c ||
    inRange 0x61 0x7E c || 0x80 ≤ c.toNat

/-- Visible ASCII but for the double quote, the angle brackets and the hash sign; and all that is
not ASCII. -/
def isQueryChar (c : Char) : Bool :=
  c = '!' || inRange 0x24 0x3B c || c = '=' || inRange 0x3F 0x7E c || 0x80 ≤ c.toNat

def isLetterOrDigit (c : Char) : Bool :=
  inRange 0x30 0x39 c || inRange 0x41 0x5A c || inRange 0x61 0x7A c

def isSchemeChar (c : Char) : Bool :=
  isLetterOrDigit c || c = '+' || c = '-' || c = '.' || c = '~'

/-- The characters of a host, a user or a TCP port that have no rule of their own. -/
def isAuthorityChar (c : Char) : Bool :=
  isLetterOrDigit c || "!$&'()*+,-.;=_~".toList.contains c

/-! ## Path and query -/

def dropFragment (cs : List Char) : List Char :=
  cs.takeWhile (· ≠ '#')

/-- The path up to a question mark and the query after it, if all their characters are allowed. -/
def ofPathAndQuery? (cs : List Char) : Option Uri :=
  match Text.cut? '?' (dropFragment cs) with
  | none =>
    let path := dropFragment cs
    if path.all isPathChar then some ⟨String.ofList path, none⟩ else none
  | some (path, query) =>
    if path.all isPathChar && query.all isQueryChar then
      some ⟨String.ofList path, some (String.ofList query)⟩
    else none

/-! ## Authorities -/

/-- What has been seen of an authority. Colons and percent signs count from the last at sign or
closing bracket on. -/
structure AuthorityScan where
  colons : Nat := 0
  opened : Bool := false
  closed : Bool := false
  percent : Bool := false

namespace AuthorityScan

/-- Takes one more character, if it may stand where it does. -/
def step (s : AuthorityScan) (c : Char) : Option AuthorityScan :=
  match c with
  | ':' => if s.colons < 8 then some { s with colons := s.colons + 1 } else none
  | '[' => if s.percent || s.opened then none else some { s with opened := true }
  | ']' =>
    if s.opened && !s.closed then some { s with closed := true, colons := 0, percent := false }
    else none
  | '@' => some { s with colons := 0, percent := false }
  | '%' => some { s with percent := true }
  | c => if isAuthorityChar c then some s else none

/-- Brackets are closed, one colon at most is left, and a percent sign stood in the user part. -/
def isComplete (s : AuthorityScan) : Bool :=
  s.opened = s.closed && s.colons ≤ 1 && !s.percent

end AuthorityScan

def isAuthority (cs : List Char) : Bool :=
  match cs.foldlM AuthorityScan.step {} with
  | some s => s.isComplete && cs.getLast? ≠ some '@'
  | none => false

def splitAuthority (cs : List Char) : List Char × List Char :=
  cs.span fun c => c ≠ '/' && c ≠ '?' && c ≠ '#'

/-! ## All forms -/

def maxScheme : Nat := 64

def splitScheme? (cs : List Char) : Option (List Char × List Char) :=
  match cs.span isSchemeChar with
  | (scheme, ':' :: '/' :: '/' :: rest) => some (scheme, rest)
  | _ => none

/-- The path of an absolute URI is never empty. -/
def withRoot (uri : Uri) : Uri :=
  if uri.path = "" then { uri with path := "/" } else uri

/-- An absolute URI has an authority; any other text without a slash in front is one. -/
def ofAbsolute? (cs : List Char) : Option Uri :=
  match splitScheme? cs with
  | some (scheme, rest) =>
    let (authority, rest) := splitAuthority rest
    if scheme.length ≤ maxScheme && isAuthority authority && !authority.isEmpty then
      (ofPathAndQuery? rest).map withRoot
    else none
  | none => if (splitAuthority cs).2.isEmpty && isAuthority cs then some ⟨"", none⟩ else none

def ofText? (s : String) : Option Uri :=
  if maxBytes < s.utf8ByteSize then none
  else match s.toList with
    | [] => none
    | ['*'] => some ⟨"*", none⟩
    | '/' :: rest => ofPathAndQuery? ('/' :: rest)
    | cs => ofAbsolute? cs

end Uri

end ProxyConsole
