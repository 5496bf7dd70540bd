/-!
# TOML values

What a TOML document holds. A table keeps how it came about, because that decides what a later line
may still add to it. Floats and native dates and times are told apart from other values but not
kept, since no setting takes one.
-/

namespace ProxyConsole.Toml

/-- How a table came about: written in braces, opened by a header, implied by a longer header, or
implied by a dotted key. -/
inductive Origin where
  | inline
  | header
  | implied
  | dotted
  deriving DecidableEq

inductive Value where
  | string (text : String)
  | integer (value : Int)
  | float
  | boolean (value : Bool)
  | time
  | array (items : List Value)
  | table (origin : Origin) (entries : List (String × Value))
  | tables (elements : List (List (String × Value)))

end ProxyConsole.Toml
