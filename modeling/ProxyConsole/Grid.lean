import ProxyConsole.Server

/-!
# The card grid

Servers are laid out in rows of a fixed number of cards. Ten percent of the width of a row is kept
for gutters, and the cards share the rest evenly, rounded down.
-/

namespace ProxyConsole

structure Columns where
  count : Nat
  positive : 0 < count
  deriving DecidableEq

namespace Columns

def of (count : Int) : Except BadColumns Columns :=
  if h : 0 < count then .ok ⟨count.toNat, by omega⟩ else .error ⟨count⟩

/-- The share of a row, in percent, that its cards divide among them. -/
def flexBudgetPercent : Nat := 90

/-- The share of a row that one card gets, in percent. It is worked out in 32 bits, and a count that
does not fit leaves none. -/
def cardFlexPercent (c : Columns) : Nat :=
  if c.count < UInt32.size then flexBudgetPercent / c.count else 0

end Columns

namespace Grid

/-- Cuts a list into pieces of the given length; the last may be shorter. -/
def chunks {α : Type} (c : Columns) : List α → List (List α)
  | [] => []
  | x :: xs => (x :: xs.take (c.count - 1)) :: chunks c (xs.drop (c.count - 1))
termination_by xs => xs.length
decreasing_by
  simp only [List.length_drop, List.length_cons]
  omega

end Grid

/-- Servers in rows, with the numbers that a page needs to draw them. -/
structure GridLayout where
  rows : List (List ServerRecord)
  columnsPerRow : Nat
  cardFlexPercent : Nat

namespace GridLayout

def ofColumns (servers : List ServerRecord) (c : Columns) : GridLayout :=
  ⟨Grid.chunks c servers, c.count, c.cardFlexPercent⟩

def of (servers : List ServerRecord) (columns : Int) : Except Fault GridLayout := do
  let c ← (Columns.of columns).mapError .invalidArgument
  return ofColumns servers c

def recordCount (g : GridLayout) : Nat :=
  g.rows.flatten.length

def toJson (g : GridLayout) : Json :=
  .object [("rows", .array (g.rows.map fun row => .array (row.map ServerRecord.toJson))),
    ("columns_per_row", .integer g.columnsPerRow), ("card_flex_percent", .integer g.cardFlexPercent)]

end GridLayout

end ProxyConsole
