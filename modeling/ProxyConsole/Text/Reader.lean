/-!
# Readers

A reader takes the beginning of a text and leaves the rest, or refuses the text. Readers are put
together in sequence, by choice, where the second is tried on the whole text if the first refuses
it, and by repetition, which ends where the reader refuses. A reader that is repeated takes at least
one character.
-/

namespace ProxyConsole

abbrev Reader (α : Type) := StateT (List Char) Option α

namespace Reader

variable {α : Type}

def refuse : Reader α := fun _ => none

def next : Reader Char
  | [] => none
  | c :: cs => some (c, cs)

/-- The next character, left where it is; none at the end. -/
def peek : Reader (Option Char) := fun cs => some (cs.head?, cs)

def satisfy (p : Char → Bool) : Reader Char
  | [] => none
  | c :: cs => if p c then some (c, cs) else none

def char (c : Char) : Reader Unit
  | [] => none
  | d :: cs => if d = c then some ((), cs) else none

def chars : List Char → Reader Unit
  | [] => fun cs => some ((), cs)
  | c :: cs => do char c; chars cs

/-- All characters up to the first that is not of a kind. -/
def takeWhile (p : Char → Bool) : Reader (List Char) := fun cs =>
  some (cs.takeWhile p, cs.dropWhile p)

def takeWhile1 (p : Char → Bool) : Reader (List Char) := do
  let c ← satisfy p
  return c :: (← takeWhile p)

def atEnd : Reader Unit
  | [] => some ((), [])
  | _ => none

/-- What the reader takes, or nothing if it refuses the text. -/
def maybe (r : Reader α) : Reader (Option α) := fun cs =>
  match r cs with
  | some (a, rest) => some (some a, rest)
  | none => some (none, cs)

/-- What a reader takes when it is run again and again, at most the given number of times, and the
rest. -/
def upTo (r : Reader α) : Nat → List Char → List α × List Char
  | 0, cs => ([], cs)
  | n + 1, cs =>
    match r cs with
    | none => ([], cs)
    | some (a, rest) =>
      let more := upTo r n rest
      (a :: more.1, more.2)

/-- Repetition, until the reader refuses the text. A reader that always takes a character cannot run
more often than there are characters. -/
def many (r : Reader α) : Reader (List α) := fun cs => some (upTo r cs.length cs)

def either (r s : Reader α) : Reader α := fun cs =>
  match r cs with
  | some found => some found
  | none => s cs

def whole? (r : Reader α) (cs : List Char) : Option α :=
  match r cs with
  | some (a, []) => some a
  | _ => none

theorem bind_of_eq_some {β : Type} {r : Reader α} {next : α → Reader β} {cs rest : List Char} {a : α}
    (h : r cs = some (a, rest)) : (r >>= next) cs = next a rest := by
  show (r cs).bind (fun p => next p.1 p.2) = _
  rw [h, Option.bind_some]

theorem char_cons (c : Char) (cs : List Char) : char c (c :: cs) = some ((), cs) := by
  simp [char]

end Reader

end ProxyConsole
