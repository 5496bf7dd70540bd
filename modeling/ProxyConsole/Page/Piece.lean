/-!
# Pieces of a page

A page is a list of pieces: markup that is the same for all data, and text that comes from data. The
one renderer escapes the text and leaves the markup alone, so no text can be taken for markup.
-/

namespace ProxyConsole

inductive Piece where
  | markup (source : String)
  | text (content : String)
  deriving DecidableEq

namespace Piece

/-- The reference that stands for a character with a meaning in markup. -/
def reference? (c : Char) : Option String :=
  match c with
  | '&' => some "&#38;"
  | '<' => some "&#60;"
  | '>' => some "&#62;"
  | '\"' => some "&#34;"
  | '\'' => some "&#39;"
  | _ => none

def escapeChar (c : Char) : List Char :=
  match reference? c with
  | some r => r.toList
  | none => [c]

/-- Text with a reference for each character that has a meaning in markup. -/
def escape (s : String) : String :=
  String.ofList (s.toList.flatMap escapeChar)

def render : Piece → String
  | markup source => source
  | text content => escape content

def renderAll (ps : List Piece) : String :=
  String.join (ps.map render)

end Piece

end ProxyConsole
