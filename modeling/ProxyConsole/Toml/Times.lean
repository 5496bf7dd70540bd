import ProxyConsole.Instant.Basic
import ProxyConsole.Text.Decimal
import ProxyConsole.Text.Reader

/-!
# TOML dates and times

A local date, a local time, or both, and both with an offset from UTC. The parts are checked against
the calendar and the clock, and not kept.
-/

namespace ProxyConsole.Toml.Time

open Reader (char satisfy maybe either refuse takeWhile1)
open Decimal (digit?)

/-- Exactly the given number of digits, as a number. -/
def digits : Nat → Nat → Reader Nat
  | 0, seen => return seen
  | n + 1, seen => do
    match digit? (← Reader.next) with
    | some d => digits n (10 * seen + d)
    | none => refuse

def number (width lowest highest : Nat) : Reader Nat := do
  let n ← digits width 0
  if lowest ≤ n ∧ n ≤ highest then return n else refuse

def date : Reader Unit := do
  let year ← digits 4 0
  char '-'
  let month ← number 2 1 12
  char '-'
  let _ ← number 2 1 (Date.daysIn year month)

/-- Hours, minutes and seconds with an optional fraction. A second numbered 60 is allowed. -/
def clock : Reader Unit := do
  let _ ← number 2 0 23
  char ':'
  let _ ← number 2 0 59
  char ':'
  let _ ← number 2 0 60
  let _ ← maybe do
    char '.'
    takeWhile1 fun c => (digit? c).isSome

def offset : Reader Unit := do
  match ← Reader.next with
  | 'Z' | 'z' => return
  | '+' | '-' =>
    let _ ← number 2 0 23
    char ':'
    let _ ← number 2 0 59
  | _ => refuse

def clockAfterDate : Reader Unit := do
  let _ ← satisfy fun c => c = 'T' || c = 't' || c = ' '
  clock
  let _ ← maybe offset

def any : Reader Unit :=
  either (do date; let _ ← maybe clockAfterDate) clock

end ProxyConsole.Toml.Time
