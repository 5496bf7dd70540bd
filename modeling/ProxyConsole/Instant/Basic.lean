/-!
# Instants

Dates of the proleptic Gregorian calendar and instants in UTC to the nanosecond. An instant is kept
as its date and time of day, since that is how it is read and written; the count of seconds is
derived from it. A second numbered 60 is a leap second, and any minute may have one. A leap second
behind a second other than 59 is not represented: neither a clock nor a text gives one, only setting
the nanoseconds of an instant directly.
-/

namespace ProxyConsole

/-! ## Dates -/

namespace Date

def firstYear : Int := -262143

def lastYear : Int := 262142

def isLeap (year : Int) : Bool :=
  year % 4 = 0 && (year % 100 ≠ 0 || year % 400 = 0)

def daysIn (year : Int) (month : Nat) : Nat :=
  match month with
  | 2 => if isLeap year then 29 else 28
  | 4 | 6 | 9 | 11 => 30
  | _ => 31

/-- Year, month and day that name a day of the calendar. -/
def IsDay (year : Int) (month day : Nat) : Prop :=
  (firstYear ≤ year ∧ year ≤ lastYear) ∧ (1 ≤ month ∧ month ≤ 12) ∧ 1 ≤ day ∧ day ≤ daysIn year month

instance (year : Int) (month day : Nat) : Decidable (IsDay year month day) :=
  inferInstanceAs (Decidable (_ ∧ _))

end Date

structure Date where
  year : Int
  month : Nat
  day : Nat
  isDay : Date.IsDay year month day
  deriving DecidableEq

namespace Date

def of? (year : Int) (month day : Nat) : Option Date :=
  if h : IsDay year month day then some ⟨year, month, day, h⟩ else none

def next? (d : Date) : Option Date :=
  of? d.year d.month (d.day + 1) <|> of? d.year (d.month + 1) 1 <|> of? (d.year + 1) 1 1

def prev? (d : Date) : Option Date :=
  of? d.year d.month (d.day - 1) <|> of? d.year (d.month - 1) (daysIn d.year (d.month - 1)) <|>
    of? (d.year - 1) 12 31

/-- Days between 1 March of year 0 and 1 January 1970. -/
def epochDays : Int := 719468

/-- Days since 1 January 1970. Years are counted from March, so that a leap day is the last of its
year, and months from March have lengths that follow one line. -/
def dayNumber (d : Date) : Int :=
  let year := if d.month ≤ 2 then d.year - 1 else d.year
  let month : Int := (d.month + 9) % 12
  365 * year + year / 4 - year / 100 + year / 400 + (153 * month + 2) / 5 + d.day - 1 - epochDays

end Date

/-! ## Instants -/

structure Instant where
  date : Date
  hour : Nat
  minute : Nat
  second : Nat
  nanos : Nat
  hour_lt : hour < 24
  minute_lt : minute < 60
  second_le : second ≤ 60
  nanos_lt : nanos < 1000000000
  deriving DecidableEq

namespace Instant

/-- Seconds since the start of 1970. A leap second shares the count of the second before it. -/
def unixSeconds (t : Instant) : Int :=
  86400 * t.date.dayNumber + 3600 * t.hour + 60 * t.minute + min t.second 59

/-- What orders instants in time, most significant first. -/
def key (t : Instant) : List Int :=
  [t.date.year, t.date.month, t.date.day, t.hour, t.minute, t.second, t.nanos]

def notAfter (s t : Instant) : Bool :=
  !t.key.lex s.key

/-- The instant at a local date and time that is the given number of minutes ahead of UTC. There is
none where a part is out of range, or where UTC falls off the calendar. -/
def ofLocal? (date : Date) (hour minute second nanos : Nat) (ahead : Int) : Option Instant := do
  let minutes : Int := 60 * hour + minute - ahead
  let day ← match minutes / 1440 with
    | 0 => some date
    | 1 => date.next?
    | -1 => date.prev?
    | _ => none
  let ofDay := (minutes % 1440).toNat
  if h : hour < 24 ∧ minute < 60 ∧ second ≤ 60 ∧ nanos < 1000000000 then
    have : ofDay < 1440 := by omega
    some ⟨day, ofDay / 60, ofDay % 60, second, nanos, by omega, by omega, h.2.2.1, h.2.2.2⟩
  else none

end Instant

end ProxyConsole
