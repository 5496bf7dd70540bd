import ProxyConsole.Instant.Printer
import ProxyConsole.Instant.Reader
import ProxyConsole.Proofs.WrittenNumerals

/-!
# Reading back a written instant

The reader takes more texts than are written, so it is followed along a written one. Numbers are read
as far as their digits go, and in a written text none is followed by another digit; what stands
between them is read by itself.
-/

namespace ProxyConsole

open Text (isSpace)
open Decimal (digit? digitChar padded IsNumeral valueFrom)

namespace Instant

/-- A text in front of which a number ends. -/
def EndsNumber (rest : List Char) : Prop :=
  ∀ c ∈ rest.head?, digit? c = none

theorem endsNumber_cons {c : Char} (h : digit? c = none) (rest : List Char) :
    EndsNumber (c :: rest) := by
  simp [EndsNumber, h]

/-! ## Numbers -/

theorem leadingDigits_append {ds : List Nat} (hds : ∀ d ∈ ds, d < 10) {most : Nat}
    (hlength : ds.length ≤ most) {rest : List Char} (hrest : EndsNumber rest) :
    leadingDigits most (ds.map digitChar ++ rest) = (ds, rest) := by
  induction ds generalizing most with
  | nil =>
    cases most with
    | zero => simp [leadingDigits]
    | succ most =>
      cases rest with
      | nil => simp [leadingDigits]
      | cons c rest => simp [leadingDigits, hrest c rfl]
  | cons d ds ih =>
    cases most with
    | zero => simp at hlength
    | succ most =>
      rw [List.forall_mem_cons] at hds
      have hmore := ih hds.2 (by simpa using hlength)
      simp [leadingDigits, Decimal.digit?_digitChar hds.1, hmore]

theorem digitRun_append {ds : List Nat} (hne : ds ≠ []) (hds : ∀ d ∈ ds, d < 10) {most : Nat}
    (hlength : ds.length ≤ most) {rest : List Char} (hrest : EndsNumber rest) :
    digitRun most (ds.map digitChar ++ rest) = some (ds, rest) := by
  unfold digitRun
  rw [leadingDigits_append hds hlength hrest]
  cases ds with
  | nil => exact absurd rfl hne
  | cons d ds => rfl

section
variable {cs rest : List Char} {n : Nat} (h : IsNumeral cs n)
include h

theorem number_append {most : Nat} (hlength : cs.length ≤ most) (hrest : EndsNumber rest) :
    number most (cs ++ rest) = some (n, rest) := by
  obtain ⟨ds, hne, hds, rfl, rfl⟩ := h
  rw [List.length_map] at hlength
  unfold number
  rw [Reader.bind_of_eq_some (digitRun_append hne hds hlength hrest)]
  rfl

theorem longNumber_append (hrest : EndsNumber rest) : longNumber (cs ++ rest) = some (n, rest) := by
  unfold longNumber
  exact number_append h (by simp) hrest

theorem exists_digit_cons : ∃ d < 10, ∃ ds, cs = digitChar d :: ds := by
  obtain ⟨ds, hne, hds, rfl, _⟩ := h
  obtain ⟨d, ds, rfl⟩ := List.exists_cons_of_ne_nil hne
  exact ⟨d, hds d (by simp), _, rfl⟩

theorem space_append : space (cs ++ rest) = some ((), cs ++ rest) := by
  have hspace : ∀ d < 10, isSpace (digitChar d) = false := by decide
  obtain ⟨d, hd, ds, rfl⟩ := exists_digit_cons h
  simp [space, hspace d hd]

end

theorem space_cons {c : Char} (h : isSpace c = false) (cs : List Char) :
    space (c :: cs) = some ((), c :: cs) := by
  simp [space, h]

theorem mark_cons {c : Char} (h : isSpace c = false) (cs : List Char) :
    mark c (c :: cs) = some ((), cs) := by
  unfold mark
  rw [Reader.bind_of_eq_some (space_cons h cs)]
  simp [Reader.char]

theorem part_append {n : Nat} (h : n < 100) {rest : List Char} (hrest : EndsNumber rest) :
    part (padded 2 n ++ rest) = some (n, rest) := by
  have hnumeral := Decimal.isNumeral_padded 2 n
  have hlength : (padded 2 n).length = 2 := Decimal.length_padded (by decide) h
  unfold part
  rw [Reader.bind_of_eq_some (space_append hnumeral)]
  exact number_append hnumeral (Nat.le_of_eq hlength) hrest

/-! ## Dates -/

theorem peek_cons (c : Char) (cs : List Char) : Reader.peek (c :: cs) = some (some c, c :: cs) :=
  rfl

theorem year_of_unsigned {c : Char} (h : isSpace c = false) (hminus : c ≠ '-') (hplus : c ≠ '+')
    (cs : List Char) : year (c :: cs) = (do return ← number 4 : Reader Int) (c :: cs) := by
  unfold year
  rw [Reader.bind_of_eq_some (space_cons h cs), Reader.bind_of_eq_some (peek_cons c cs)]
  refine congrFun ?_ _
  split
  · rename_i hc
    exact absurd (Option.some.inj hc) hminus
  · rename_i hc
    exact absurd (Option.some.inj hc) hplus
  · rfl

theorem year_signed {y : Int} {cs rest : List Char} (h : longNumber cs = some (y.natAbs, rest)) :
    year ((if y < 0 then '-' else '+') :: cs) = some (y, rest) := by
  by_cases hneg : y < 0
  · have hy : -(y.natAbs : Int) = y := by omega
    rw [if_pos hneg]
    unfold year
    rw [Reader.bind_of_eq_some (space_cons (by decide) cs), Reader.bind_of_eq_some (peek_cons '-' cs)]
    simp only
    rw [Reader.bind_of_eq_some (Reader.char_cons '-' cs), Reader.bind_of_eq_some h, hy]
    rfl
  · have hy : (y.natAbs : Int) = y := by omega
    rw [if_neg hneg]
    unfold year
    rw [Reader.bind_of_eq_some (space_cons (by decide) cs), Reader.bind_of_eq_some (peek_cons '+' cs)]
    simp only
    rw [Reader.bind_of_eq_some (Reader.char_cons '+' cs), Reader.bind_of_eq_some h, hy]
    rfl

theorem year_append (y : Int) {rest : List Char} (hrest : EndsNumber rest) :
    year (Date.yearText y ++ rest) = some (y, rest) := by
  unfold Date.yearText
  by_cases hfour : 0 ≤ y ∧ y ≤ 9999
  · have hnumeral := Decimal.isNumeral_padded 4 y.toNat
    have hlt : y.toNat < Nat.pow 10 4 := by
      show y.toNat < 10000
      omega
    have hlength : (padded 4 y.toNat).length = 4 := Decimal.length_padded (by decide) hlt
    have hread := number_append hnumeral (Nat.le_of_eq hlength) hrest
    have hdigit : ∀ d < 10, isSpace (digitChar d) = false ∧ digitChar d ≠ '-' ∧ digitChar d ≠ '+' := by
      decide
    obtain ⟨d, hd, ds, hcons⟩ := exists_digit_cons hnumeral
    obtain ⟨hspace, hminus, hplus⟩ := hdigit d hd
    have hy : (y.toNat : Int) = y := Int.toNat_of_nonneg hfour.1
    rw [hcons, List.cons_append] at hread
    rw [if_pos hfour, hcons, List.cons_append, year_of_unsigned hspace hminus hplus,
      Reader.bind_of_eq_some hread, hy]
    rfl
  · rw [if_neg hfour, List.cons_append]
    exact year_signed (longNumber_append (Decimal.isNumeral_padded 4 y.natAbs) hrest)

theorem calendarDate_append (d : Date) {rest : List Char} (hrest : EndsNumber rest) :
    calendarDate (d.chars ++ rest) = some (d, rest) := by
  obtain ⟨_, ⟨_, hmonth⟩, _, hday⟩ := d.isDay
  have hdays : Date.daysIn d.year d.month ≤ 31 := by
    unfold Date.daysIn
    split
    · split <;> decide
    all_goals decide
  have hof : Date.of? d.year d.month d.day = some d := dif_pos d.isDay
  have hhyphen : ∀ cs, EndsNumber ('-' :: cs) := endsNumber_cons (by decide)
  have hchars : d.chars ++ rest =
      Date.yearText d.year ++ '-' :: (padded 2 d.month ++ '-' :: (padded 2 d.day ++ rest)) := by
    simp [Date.chars]
  unfold calendarDate
  rw [hchars, Reader.bind_of_eq_some (year_append d.year (hhyphen _)),
    Reader.bind_of_eq_some (mark_cons (by decide) _),
    Reader.bind_of_eq_some (part_append (by omega) (hhyphen _)),
    Reader.bind_of_eq_some (mark_cons (by decide) _),
    Reader.bind_of_eq_some (part_append (by omega) hrest), hof]
  rfl

/-! ## Times of day -/

/-- A fraction of some digits is read as that many places of nanoseconds. -/
theorem nanoseconds_padded {k n : Nat} (hk : 0 < k ∧ k ≤ 9) (h : n < Nat.pow 10 k) {rest : List Char}
    (hrest : EndsNumber rest) :
    nanoseconds ('.' :: (padded k n ++ rest)) = some (n * Nat.pow 10 (9 - k), rest) := by
  have hlength : (padded k n).length = k := Decimal.length_padded hk.1 h
  have hdot : Reader.maybe (Reader.char '.') ('.' :: (padded k n ++ rest)) =
      some (some (), padded k n ++ rest) := rfl
  have hstop : Reader.takeWhile (fun c => (digit? c).isSome) rest = some ([], rest) := by
    cases rest with
    | nil => rfl
    | cons c rest => simp [Reader.takeWhile, hrest c rfl]
  obtain ⟨ds, hne, hds, hcs, hn⟩ := Decimal.isNumeral_padded k n
  rw [hcs, List.length_map] at hlength
  have hrun := digitRun_append hne hds (hlength ▸ hk.2) hrest
  rw [← hcs] at hrun
  unfold nanoseconds
  rw [Reader.bind_of_eq_some hdot]
  simp only
  rw [Reader.bind_of_eq_some hrun, Reader.bind_of_eq_some hstop, ← hn, hlength]
  rfl

/-- A fraction is left out, or it is a point and as many digits as it takes to be exact. -/
theorem fraction_cases (n : Nat) : n = 0 ∧ fraction n = [] ∨
    ∃ k, (0 < k ∧ k ≤ 9) ∧ fraction n = '.' :: padded k (n / Nat.pow 10 (9 - k)) ∧
      n / Nat.pow 10 (9 - k) * Nat.pow 10 (9 - k) = n := by
  unfold fraction
  by_cases hzero : n = 0
  · exact .inl ⟨hzero, if_pos hzero⟩
  · right
    rw [if_neg hzero]
    by_cases hmillis : n % 1000000 = 0
    · exact ⟨3, by decide, if_pos hmillis, Nat.div_mul_cancel (Nat.dvd_of_mod_eq_zero hmillis)⟩
    · rw [if_neg hmillis]
      by_cases hmicros : n % 1000 = 0
      · exact ⟨6, by decide, if_pos hmicros, Nat.div_mul_cancel (Nat.dvd_of_mod_eq_zero hmicros)⟩
      · refine ⟨9, by decide, ?_, Nat.div_mul_cancel (Nat.one_dvd n)⟩
        rw [if_neg hmicros]
        exact congrArg (fun m => '.' :: padded 9 m) (Nat.div_one n).symm

theorem nanoseconds_append {n : Nat} (h : n < 1000000000) (cs : List Char) :
    nanoseconds (fraction n ++ 'Z' :: cs) = some (n, 'Z' :: cs) := by
  rcases fraction_cases n with ⟨hzero, hfraction⟩ | ⟨k, hk, hfraction, hexact⟩
  · rw [hfraction, hzero]
    rfl
  · have hpow : Nat.pow 10 (9 - k) * Nat.pow 10 k = 1000000000 := by
      show 10 ^ (9 - k) * 10 ^ k = 1000000000
      rw [← Nat.pow_add, Nat.sub_add_cancel hk.2]
    have hlt : n / Nat.pow 10 (9 - k) < Nat.pow 10 k := Nat.div_lt_of_lt_mul (hpow.symm ▸ h)
    rw [hfraction, List.cons_append, nanoseconds_padded hk hlt (endsNumber_cons (by decide) cs), hexact]

/-- At no offset the local date and time are those in UTC. -/
theorem ofLocal?_utc (t : Instant) :
    ofLocal? t.date t.hour t.minute t.second t.nanos 0 = some t := by
  have hhour := t.hour_lt
  have hminute := t.minute_lt
  have hday : (60 * t.hour + t.minute - 0 : Int) / 1440 = 0 := by omega
  have hofDay : ((60 * t.hour + t.minute - 0 : Int) % 1440).toNat = 60 * t.hour + t.minute := by omega
  have hdiv : (60 * t.hour + t.minute) / 60 = t.hour := by omega
  have hmod : (60 * t.hour + t.minute) % 60 = t.minute := by omega
  unfold ofLocal?
  simp only [hday, hofDay, hdiv, hmod]
  exact dif_pos ⟨hhour, hminute, t.second_le, t.nanos_lt⟩

theorem localTime_chars (t : Instant) : localTime t.chars = some (t, []) := by
  have hhour := t.hour_lt
  have hminute := t.minute_lt
  have hsecond := t.second_le
  have hchars : t.chars = t.date.chars ++ 'T' :: (padded 2 t.hour ++ ':' :: (padded 2 t.minute ++
      ':' :: (padded 2 t.second ++ (fraction t.nanos ++ ['Z'])))) := by
    simp [chars]
  have hT : ∀ cs, separator ('T' :: cs) = some ((), cs) := fun _ => rfl
  have hdateEnds : ∀ cs, EndsNumber ('T' :: cs) := endsNumber_cons (by decide)
  have hcolon : ∀ cs, EndsNumber (':' :: cs) := endsNumber_cons (by decide)
  have hsecondEnds : EndsNumber (fraction t.nanos ++ ['Z']) := by
    rcases fraction_cases t.nanos with ⟨_, hfraction⟩ | ⟨k, _, hfraction, _⟩
    · rw [hfraction]
      exact endsNumber_cons (by decide) _
    · rw [hfraction]
      exact endsNumber_cons (by decide) _
  have hoffset : offset ['Z'] = some (0, []) := rfl
  have hend : space [] = some ((), []) := rfl
  unfold localTime
  rw [hchars, Reader.bind_of_eq_some (calendarDate_append t.date (hdateEnds _)),
    Reader.bind_of_eq_some (hT _),
    Reader.bind_of_eq_some (part_append (by omega) (hcolon _)),
    Reader.bind_of_eq_some (mark_cons (by decide) _),
    Reader.bind_of_eq_some (part_append (by omega) (hcolon _)),
    Reader.bind_of_eq_some (mark_cons (by decide) _),
    Reader.bind_of_eq_some (part_append (by omega) hsecondEnds),
    Reader.bind_of_eq_some (nanoseconds_append t.nanos_lt []),
    Reader.bind_of_eq_some (space_cons (by decide) []),
    Reader.bind_of_eq_some hoffset, Reader.bind_of_eq_some hend, if_pos (by decide), ofLocal?_utc]
  rfl

theorem ofText?_text (t : Instant) : ofText? t.text = some t := by
  rw [ofText?, text, String.toList_ofList, Reader.whole?, localTime_chars]

end Instant

end ProxyConsole
