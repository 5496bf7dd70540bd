import ProxyConsole.Instant.Basic
import ProxyConsole.Text.Blank
import ProxyConsole.Text.Decimal
import ProxyConsole.Text.Reader

/-!
# Reading instants

A relaxed RFC 3339 text: numbers need no leading zeros, white space may stand before a part, and one
of T, t and space separates the date from the time. The offset from UTC is required; it is Z, UTC
or a sign with two digits of hours and two of minutes.
-/

namespace ProxyConsole.Instant

open Text (isSpace)
open Decimal (digit? valueFrom)

/-- The digit values at the front of a text, at most the given number. -/
def leadingDigits : Nat → List Char → List Nat × List Char
  | 0, cs => ([], cs)
  | _ + 1, [] => ([], [])
  | n + 1, c :: cs =>
    match digit? c with
    | some d => (d :: (leadingDigits n cs).1, (leadingDigits n cs).2)
    | none => ([], c :: cs)

/-- One digit or more, and at most the given number of them. -/
def digitRun (most : Nat) : Reader (List Nat) := fun cs =>
  match leadingDigits most cs with
  | ([], _) => none
  | (ds, rest) => some (ds, rest)

def number (most : Nat) : Reader Nat := do
  return valueFrom 0 (← digitRun most)

/-- A number as long as its digits go on. -/
def longNumber : Reader Nat := fun cs => number cs.length cs

def space : Reader Unit := fun cs => some ((), cs.dropWhile isSpace)

/-- A number of one or two digits after white space. -/
def part : Reader Nat := do
  space
  number 2

/-- A year after white space: up to four digits, or a sign and any number of digits. -/
def year : Reader Int := do
  space
  match ← Reader.peek with
  | some '-' => Reader.char '-'; return -(← longNumber)
  | some '+' => Reader.char '+'; return ← longNumber
  | _ => return ← number 4

def mark (c : Char) : Reader Unit := do
  space
  Reader.char c

def separator : Reader Unit := do
  let _ ← Reader.satisfy fun c => c = 'T' || c = 't' || c = ' '

/-- The fraction of a second in nanoseconds, if there is one. Digits after the ninth are dropped. -/
def nanoseconds : Reader Nat := do
  match ← Reader.maybe (Reader.char '.') with
  | none => return 0
  | some _ =>
    let ds ← digitRun 9
    let _ ← Reader.takeWhile fun c => (digit? c).isSome
    return valueFrom 0 ds * Nat.pow 10 (9 - ds.length)

def oneDigit : Reader Nat := do
  match digit? (← Reader.next) with
  | some d => return d
  | none => Reader.refuse

/-- Hours and minutes after the sign of an offset, in minutes. Colons and white space may stand
between the two. -/
def offsetMinutes : Reader Nat := do
  let h₁ ← oneDigit
  let h₂ ← oneDigit
  let _ ← Reader.takeWhile fun c => c = ':' || isSpace c
  let m₁ ← oneDigit
  let m₂ ← oneDigit
  if m₁ < 6 then return 60 * (10 * h₁ + h₂) + (10 * m₁ + m₂) else Reader.refuse

def utc : Reader Unit := fun cs =>
  if (cs.take 3).map Char.toUpper = ['U', 'T', 'C'] then some ((), cs.drop 3) else none

/-- How many minutes the local time is ahead of UTC, by a letter or a sign. The sign U+2212 is a
minus too. -/
def offset : Reader Int := do
  match ← Reader.maybe utc with
  | some _ => return 0
  | none =>
    match ← Reader.next with
    | 'Z' | 'z' => return 0
    | '+' => return ← offsetMinutes
    | '-' | '−' => return -(← offsetMinutes)
    | _ => Reader.refuse

def calendarDate : Reader Date := do
  let year ← year
  mark '-'
  let month ← part
  mark '-'
  let day ← part
  match Date.of? year month day with
  | some date => return date
  | none => Reader.refuse

/-- A local date and time, and an offset of less than a day either way. -/
def localTime : Reader Instant := do
  let date ← calendarDate
  separator
  let hour ← part
  mark ':'
  let minute ← part
  mark ':'
  let second ← part
  let nanos ← nanoseconds
  space
  let ahead ← offset
  space
  if -1440 < ahead ∧ ahead < 1440 then
    match ofLocal? date hour minute second nanos ahead with
    | some t => return t
    | none => Reader.refuse
  else Reader.refuse

/-- Reads a whole text; white space may follow. -/
def ofText? (s : String) : Option Instant :=
  localTime.whole? s.toList

end ProxyConsole.Instant
