import ProxyConsole.Instant.Basic
import ProxyConsole.Text.Decimal

/-!
# Writing instants

The RFC 3339 text of an instant in UTC, and the date alone. A fraction has three, six or nine
digits, the fewest that are exact, and none if it is zero. A year of more than four digits, or
before year 0, has a sign.
-/

namespace ProxyConsole

open Decimal (padded)

namespace Date

/-- Four digits, or a sign and at least four digits. -/
def yearText (year : Int) : List Char :=
  if 0 ≤ year ∧ year ≤ 9999 then padded 4 year.toNat
  else (if year < 0 then '-' else '+') :: padded 4 year.natAbs

def chars (d : Date) : List Char :=
  yearText d.year ++ '-' :: padded 2 d.month ++ '-' :: padded 2 d.day

def text (d : Date) : String :=
  String.ofList d.chars

end Date

namespace Instant

def fraction (nanos : Nat) : List Char :=
  if nanos = 0 then []
  else if nanos % 1000000 = 0 then '.' :: padded 3 (nanos / 1000000)
  else if nanos % 1000 = 0 then '.' :: padded 6 (nanos / 1000)
  else '.' :: padded 9 nanos

def chars (t : Instant) : List Char :=
  t.date.chars ++ 'T' :: padded 2 t.hour ++ ':' :: padded 2 t.minute ++ ':' :: padded 2 t.second ++
    fraction t.nanos ++ ['Z']

/-- The RFC 3339 text in UTC. -/
def text (t : Instant) : String :=
  String.ofList t.chars

end Instant

end ProxyConsole
