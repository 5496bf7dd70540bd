import ProxyConsole.Proofs.HexDigits
import ProxyConsole.Proofs.Segments
import ProxyConsole.Text.Quoted
import ProxyConsole.Text.Reader

/-!
# Reading back quoted text

A quoted text is read back whatever is in it. A character stands between the quotes as itself, as a
short escape or as a number, and how it begins tells which; a number ends at its brace, and a quote
that is not escaped ends the text.
-/

namespace ProxyConsole

/-! ## Repetition -/

namespace Reader

variable {α : Type} {r : Reader α} {write : α → List Char} {stop : List Char}

theorem upTo_flatMap (hread : ∀ a rest, r (write a ++ rest) = some (a, rest)) (hstop : r stop = none)
    (as : List α) {n : Nat} (hn : as.length ≤ n) : upTo r n (as.flatMap write ++ stop) = (as, stop) := by
  induction as generalizing n with
  | nil =>
    cases n with
    | zero => rfl
    | succ n => simp [upTo, hstop]
  | cons a as ih =>
    cases n with
    | zero => simp at hn
    | succ n =>
      have hmore := ih (Nat.le_of_succ_le_succ hn)
      simp [upTo, hread, hmore]

theorem length_le_flatMap (hne : ∀ a, write a ≠ []) (as : List α) :
    as.length ≤ (as.flatMap write).length := by
  induction as with
  | nil => simp
  | cons a as ih =>
    have hpos := List.length_pos_iff.mpr (hne a)
    simp only [List.flatMap_cons, List.length_append, List.length_cons]
    omega

/-- What is written piece by piece is read piece by piece, up to where no piece can be read. -/
theorem many_flatMap (hread : ∀ a rest, r (write a ++ rest) = some (a, rest)) (hstop : r stop = none)
    (as : List α) : many r (as.flatMap write ++ stop) = some (as, stop) := by
  have hne : ∀ a, write a ≠ [] := by
    intro a hnil
    have hnone := hread a stop
    rw [hnil, List.nil_append, hstop] at hnone
    cases hnone
  have hlength : as.length ≤ (as.flatMap write ++ stop).length := by
    rw [List.length_append]
    exact Nat.le_trans (length_le_flatMap hne as) (Nat.le_add_right _ _)
  rw [many, upTo_flatMap hread hstop as hlength]

end Reader

namespace Quoted

/-! ## One character -/

/-- The character that a short escape stands for. -/
def plain? (e : Char) : Option Char :=
  match e with
  | '0' => some '\x00'
  | 't' => some '\t'
  | 'n' => some '\n'
  | 'r' => some '\r'
  | '\"' => some '\"'
  | '\\' => some '\\'
  | _ => none

theorem plain?_of_short? {c e : Char} (h : short? c = some e) : plain? e = some c ∧ e ≠ 'u' := by
  unfold short? at h
  split at h
  case h_7 => cases h
  all_goals
    cases h
    exact ⟨rfl, by decide⟩

theorem ne_of_short?_eq_none {c : Char} (h : short? c = none) : c ≠ '\\' ∧ c ≠ '\"' := by
  constructor
  · intro hc
    rw [hc] at h
    cases h
  · intro hc
    rw [hc] at h
    cases h

/-- Takes one character out of a quoted text. There is none where the text ends. -/
def readChar : Reader Char
  | '\\' :: 'u' :: '\x7b' :: cs => do
    let (digits, rest) ← Text.cut? '\x7d' cs
    let ds ← digits.mapM Hex.value?
    return (Char.ofNat (Hex.value ds), rest)
  | '\\' :: e :: cs => (plain? e).map fun c => (c, cs)
  | '\"' :: _ => none
  | c :: cs => some (c, cs)
  | [] => none

theorem readChar_numbered (c : Char) (rest : List Char) :
    readChar (numbered c ++ rest) = some (c, rest) := by
  obtain ⟨ds, hds, hdigits, hvalue⟩ := Hex.digits_eq_map c.toNat
  -- the brace is no digit, so the number is cut off right behind its last digit
  have hbrace : '\x7d' ∉ ds.map Hex.digit := by
    intro hmem
    obtain ⟨d, hd, heq⟩ := List.mem_map.mp hmem
    have hnone : Hex.value? '\x7d' = none := rfl
    rw [← heq, Hex.value?_digit (hds d hd)] at hnone
    cases hnone
  have hcut : Text.cut? '\x7d' (ds.map Hex.digit ++ '\x7d' :: rest) =
      some (ds.map Hex.digit, rest) := Text.cut?_eq_some_iff.mpr ⟨rfl, hbrace⟩
  have hnumbered : numbered c ++ rest =
      '\\' :: 'u' :: '\x7b' :: (ds.map Hex.digit ++ '\x7d' :: rest) := by
    simp [numbered, hdigits]
  rw [hnumbered]
  simp [readChar, hcut, Hex.mapM_value?_digit hds, ← hvalue]

theorem readChar_encodeChar (c : Char) (rest : List Char) :
    readChar (encodeChar c ++ rest) = some (c, rest) := by
  unfold encodeChar
  cases hshort : short? c with
  | some e =>
    obtain ⟨hplain, hu⟩ := plain?_of_short? hshort
    simp [readChar, hplain, hu]
  | none =>
    obtain ⟨hbackslash, hquote⟩ := ne_of_short?_eq_none hshort
    by_cases hnumbered : (Text.isExtending c || !Text.isPrintable c) = true
    · simp only [hnumbered, if_true]
      exact readChar_numbered c rest
    · simp [hnumbered, readChar, hbackslash]

/-! ## Whole texts -/

/-- Takes a quoted text, from quote to quote. -/
def read : Reader String := do
  Reader.char '\"'
  let cs ← Reader.many readChar
  Reader.char '\"'
  return String.ofList cs

theorem read_quote (s : String) (rest : List Char) :
    read ((quote s).toList ++ rest) = some (s, rest) := by
  have hquoted : (quote s).toList ++ rest =
      '\"' :: (s.toList.flatMap encodeChar ++ '\"' :: rest) := by
    simp [quote, encode]
  have hend : readChar ('\"' :: rest) = none := rfl
  unfold read
  rw [hquoted, Reader.bind_of_eq_some (Reader.char_cons _ _),
    Reader.bind_of_eq_some (Reader.many_flatMap readChar_encodeChar hend s.toList),
    Reader.bind_of_eq_some (Reader.char_cons _ _)]
  exact congrArg (fun text => some (text, rest)) String.ofList_toList

end Quoted

end ProxyConsole
