import Mathlib.Data.List.SplitLengths
import ProxyConsole.Account
import ProxyConsole.Proofs.HexDigits

/-!
# Spellings of UUIDs

A UUID has four spellings, in either letter case: its digits, its digits in groups, the groups in
braces, and the groups after the URN scheme. A text that is none of them is no UUID, and none spells
two. The one that is written has the groups, in lower case.
-/

namespace ProxyConsole.Uuid

/-! ## Digits -/

/-- The digits of a UUID, in either letter case. -/
def HasDigits (id : Uuid) (cs : List Char) : Prop :=
  cs.map Char.toLower = id.digits

theorem digits_eq (id : Uuid) : id.digits = (Hex.places 32 id.bits.toNat).map Hex.digit := by
  unfold digits Hex.places
  rw [List.map_map]
  rfl

theorem length_digits (id : Uuid) : id.digits.length = 32 := by
  rw [digits, List.length_map, List.length_range]

theorem HasDigits.length {id : Uuid} {cs : List Char} (h : id.HasDigits cs) : cs.length = 32 := by
  rw [← length_digits id, ← h, List.length_map]

theorem mapM_value?_eq_some_iff {cs : List Char} {ds : List Nat} :
    cs.mapM Hex.value? = some ds ↔ (∀ d ∈ ds, d < 16) ∧ cs.map Char.toLower = ds.map Hex.digit := by
  induction cs generalizing ds with
  | nil => cases ds <;> simp
  | cons c cs ih =>
    have hcons : (c :: cs).mapM Hex.value? = some ds ↔
        ∃ d ds', Hex.value? c = some d ∧ cs.mapM Hex.value? = some ds' ∧ d :: ds' = ds := by
      simp [List.mapM_cons, Option.bind_eq_some_iff]
    rw [hcons]
    simp only [ih, Hex.value?_eq_some_iff]
    constructor
    · intro h
      obtain ⟨d, ds', ⟨hd, hc⟩, ⟨hds, hcs⟩, rfl⟩ := h
      rw [List.forall_mem_cons, List.map_cons, List.map_cons, hc, hcs]
      exact ⟨⟨hd, hds⟩, rfl⟩
    · intro h
      cases ds with
      | nil => simp at h
      | cons d ds =>
        rw [List.forall_mem_cons, List.map_cons, List.map_cons, List.cons.injEq] at h
        exact ⟨d, ds, ⟨h.1.1, h.2.1⟩, ⟨h.1.2, h.2.2⟩, rfl⟩

theorem ofDigits?_eq_some_iff {cs : List Char} {id : Uuid} :
    ofDigits? cs = some id ↔ id.HasDigits cs := by
  unfold ofDigits?
  constructor
  · intro h
    by_cases hlength : cs.length = 32
    · rw [if_pos hlength, Option.map_eq_some_iff] at h
      obtain ⟨ds, hds, rfl⟩ := h
      obtain ⟨hsmall, hdigits⟩ := mapM_value?_eq_some_iff.mp hds
      have hcount : ds.length = 32 := by
        rw [← hlength, ← List.length_map Hex.digit, ← hdigits, List.length_map]
      have hlt : Hex.value ds < 2 ^ 128 := by
        have hlt := Hex.value_lt hsmall
        rw [hcount] at hlt
        exact hlt
      rw [HasDigits, digits_eq, BitVec.toNat_ofNat, Nat.mod_eq_of_lt hlt, ← hcount,
        Hex.places_value hsmall]
      exact hdigits
    · rw [if_neg hlength] at h
      cases h
  · intro h
    have hsmall : ∀ d ∈ Hex.places 32 id.bits.toNat, d < 16 := by
      intro d hd
      obtain ⟨i, _, rfl⟩ := List.mem_map.mp hd
      exact Nat.mod_lt _ (by decide)
    have hdigits : cs.mapM Hex.value? = some (Hex.places 32 id.bits.toNat) :=
      mapM_value?_eq_some_iff.mpr ⟨hsmall, h.trans id.digits_eq⟩
    have hlt : id.bits.toNat < Nat.pow 16 32 := id.bits.isLt
    rw [if_pos h.length, hdigits, Option.map_some, Hex.value_places, Nat.mod_eq_of_lt hlt,
      BitVec.ofNat_toNat, BitVec.setWidth_eq]

theorem HasDigits.not_mem {id : Uuid} {cs : List Char} (h : id.HasDigits cs) {c : Char}
    (hc : ∀ n < 16, c.toLower ≠ Hex.digit n) : c ∉ cs := by
  intro hmem
  have hlower : c.toLower ∈ id.digits := h ▸ List.mem_map_of_mem hmem
  rw [digits_eq, List.mem_map] at hlower
  obtain ⟨n, hn, heq⟩ := hlower
  obtain ⟨i, _, rfl⟩ := List.mem_map.mp hn
  exact hc _ (Nat.mod_lt _ (by decide)) heq.symm

theorem ofDigits?_eq_none {cs : List Char} {c : Char} (h : c ∈ cs)
    (hc : ∀ n < 16, c.toLower ≠ Hex.digit n) : ofDigits? cs = none := by
  rw [Option.eq_none_iff_forall_ne_some]
  intro id hid
  exact (ofDigits?_eq_some_iff.mp hid).not_mem hc h

/-! ## Groups -/

def groupLengths : List Nat := [8, 4, 4, 4, 12]

/-- The digits of a UUID in groups, with hyphens between the groups. -/
def IsGrouped (id : Uuid) (cs : List Char) : Prop :=
  ∃ groups : List (List Char), groups.map List.length = groupLengths ∧
    id.HasDigits groups.flatten ∧ cs = ['-'].intercalate groups

theorem take_groups (ds : List Char) : ds.take 8 ++ ((ds.drop 8).take 4 ++ ((ds.drop 12).take 4 ++
    ((ds.drop 16).take 4 ++ ds.drop 20))) = ds := by
  have hdrop : ∀ n, (ds.drop n).take 4 ++ ds.drop (n + 4) = ds.drop n := by
    intro n
    rw [← List.drop_drop, List.take_append_drop]
  rw [hdrop 16, hdrop 12, hdrop 8, List.take_append_drop]

theorem mem_hyphenate {ds : List Char} {c : Char} : c ∈ hyphenate ds ↔ c = '-' ∨ c ∈ ds := by
  have hparts : c ∈ ds ↔ c ∈ ds.take 8 ++ ((ds.drop 8).take 4 ++ ((ds.drop 12).take 4 ++
      ((ds.drop 16).take 4 ++ ds.drop 20))) := by rw [take_groups]
  rw [hparts]
  simp only [hyphenate, List.mem_append, List.mem_cons]
  tauto

theorem filter_hyphenate {ds : List Char} (h : '-' ∉ ds) : (hyphenate ds).filter (· ≠ '-') = ds := by
  calc (hyphenate ds).filter (· ≠ '-')
      = (ds.take 8 ++ ((ds.drop 8).take 4 ++ ((ds.drop 12).take 4 ++
          ((ds.drop 16).take 4 ++ ds.drop 20)))).filter (· ≠ '-') := by
        simp [hyphenate, List.filter_append]
    _ = ds.filter (· ≠ '-') := by rw [take_groups]
    _ = ds := by
        rw [List.filter_eq_self]
        intro c hc
        rw [decide_eq_true_eq]
        rintro rfl
        exact h hc

theorem hyphenate_flatten {groups : List (List Char)} (h : groups.map List.length = groupLengths) :
    hyphenate groups.flatten = ['-'].intercalate groups := by
  obtain ⟨a, _, rfl, ha, h⟩ := List.map_eq_cons_iff.mp h
  obtain ⟨b, _, rfl, hb, h⟩ := List.map_eq_cons_iff.mp h
  obtain ⟨c, _, rfl, hc, h⟩ := List.map_eq_cons_iff.mp h
  obtain ⟨d, _, rfl, hd, h⟩ := List.map_eq_cons_iff.mp h
  obtain ⟨e, _, rfl, _, h⟩ := List.map_eq_cons_iff.mp h
  rw [List.map_eq_nil_iff.mp h]
  simp [hyphenate, List.intercalate, List.drop_append, List.drop_of_length_le, ha, hb, hc, hd]

theorem exists_groups {ds : List Char} (h : ds.length = 32) :
    ∃ groups : List (List Char), groups.map List.length = groupLengths ∧ groups.flatten = ds := by
  have hsum : groupLengths.sum = 32 := rfl
  exact ⟨groupLengths.splitLengths ds, List.map_splitLengths_length _ _ (by omega),
    List.flatten_splitLengths _ _ (by omega)⟩

theorem hyphen_not_digit : ∀ n < 16, '-'.toLower ≠ Hex.digit n := by decide

theorem ofGroups?_eq_some_iff {cs : List Char} {id : Uuid} :
    ofGroups? cs = some id ↔ id.IsGrouped cs := by
  unfold ofGroups?
  constructor
  · intro h
    by_cases hcs : hyphenate (cs.filter (· ≠ '-')) = cs
    · rw [if_pos hcs] at h
      have hdigits := ofDigits?_eq_some_iff.mp h
      obtain ⟨groups, hlengths, hflatten⟩ := exists_groups hdigits.length
      rw [← hflatten, hyphenate_flatten hlengths] at hcs
      exact ⟨groups, hlengths, hflatten ▸ hdigits, hcs.symm⟩
    · rw [if_neg hcs] at h
      cases h
  · intro h
    obtain ⟨groups, hlengths, hdigits, rfl⟩ := h
    rw [← hyphenate_flatten hlengths, filter_hyphenate (hdigits.not_mem hyphen_not_digit), if_pos rfl]
    exact ofDigits?_eq_some_iff.mpr hdigits

theorem IsGrouped.not_mem {id : Uuid} {cs : List Char} (h : id.IsGrouped cs) {c : Char}
    (hc : ∀ n < 16, c.toLower ≠ Hex.digit n) (hhyphen : c ≠ '-') : c ∉ cs := by
  obtain ⟨groups, hlengths, hdigits, rfl⟩ := h
  rw [← hyphenate_flatten hlengths, mem_hyphenate, not_or]
  exact ⟨hhyphen, hdigits.not_mem hc⟩

theorem IsGrouped.hyphen_mem {id : Uuid} {cs : List Char} (h : id.IsGrouped cs) : '-' ∈ cs := by
  obtain ⟨groups, hlengths, _, rfl⟩ := h
  rw [← hyphenate_flatten hlengths]
  exact mem_hyphenate.mpr (.inl rfl)

theorem ofGroups?_eq_none {cs : List Char} {c : Char} (h : c ∈ cs)
    (hc : ∀ n < 16, c.toLower ≠ Hex.digit n) (hhyphen : c ≠ '-') : ofGroups? cs = none := by
  rw [Option.eq_none_iff_forall_ne_some]
  intro id hid
  exact (ofGroups?_eq_some_iff.mp hid).not_mem hc hhyphen h

/-! ## All spellings -/

theorem ofBraces?_eq_some_iff {cs : List Char} {id : Uuid} :
    ofBraces? cs = some id ↔ ∃ ds, id.IsGrouped ds ∧ cs = '\x7b' :: (ds ++ ['\x7d']) := by
  have hread : ∀ rest, ofBraces? ('\x7b' :: rest) =
      if rest.getLast? = some '\x7d' then ofGroups? rest.dropLast else none := fun _ => rfl
  constructor
  · intro h
    have hcons : ∃ rest, cs = '\x7b' :: rest := by
      unfold ofBraces? at h
      split at h
      · exact ⟨_, rfl⟩
      · cases h
    obtain ⟨rest, rfl⟩ := hcons
    rw [hread] at h
    by_cases hlast : rest.getLast? = some '\x7d'
    · rw [if_pos hlast] at h
      obtain ⟨ds, rfl⟩ := List.getLast?_eq_some_iff.mp hlast
      rw [List.dropLast_concat] at h
      exact ⟨ds, ofGroups?_eq_some_iff.mp h, rfl⟩
    · rw [if_neg hlast] at h
      cases h
  · intro h
    obtain ⟨ds, hds, rfl⟩ := h
    rw [hread, if_pos (List.getLast?_concat ..), List.dropLast_concat]
    exact ofGroups?_eq_some_iff.mpr hds

theorem ofUrn?_eq_some_iff {cs : List Char} {id : Uuid} :
    ofUrn? cs = some id ↔
      ∃ s ds, s.map Char.toLower = scheme ∧ id.IsGrouped ds ∧ cs = s ++ ds := by
  unfold ofUrn?
  constructor
  · intro h
    by_cases hscheme : (cs.take scheme.length).map Char.toLower = scheme
    · rw [if_pos hscheme] at h
      exact ⟨_, _, hscheme, ofGroups?_eq_some_iff.mp h, (List.take_append_drop ..).symm⟩
    · rw [if_neg hscheme] at h
      cases h
  · intro h
    obtain ⟨s, ds, hscheme, hds, rfl⟩ := h
    have hlength : s.length = scheme.length := by rw [← hscheme, List.length_map]
    rw [List.take_left' hlength, List.drop_left' hlength, if_pos hscheme]
    exact ofGroups?_eq_some_iff.mpr hds

inductive Spells (id : Uuid) : List Char → Prop where
  | bare {cs : List Char} : id.HasDigits cs → Spells id cs
  | grouped {cs : List Char} : id.IsGrouped cs → Spells id cs
  | braced {cs : List Char} : id.IsGrouped cs → Spells id ('\x7b' :: (cs ++ ['\x7d']))
  | urn {s cs : List Char} : s.map Char.toLower = scheme → id.IsGrouped cs → Spells id (s ++ cs)

theorem ofText?_eq_some_iff {text : String} {id : Uuid} :
    ofText? text = some id ↔ id.Spells text.toList := by
  have hbrace : ∀ n < 16, '\x7b'.toLower ≠ Hex.digit n := by decide
  have hu : ∀ n < 16, 'u' ≠ Hex.digit n := by decide
  have hread : ofText? text = (ofDigits? text.toList).or ((ofGroups? text.toList).or
      ((ofBraces? text.toList).or (ofUrn? text.toList))) := by
    simp only [ofText?, Option.orElse_eq_orElse, Option.orElse_eq_or]
  rw [hread]
  constructor
  · intro h
    simp only [Option.or_eq_some_iff, ofDigits?_eq_some_iff, ofGroups?_eq_some_iff,
      ofBraces?_eq_some_iff, ofUrn?_eq_some_iff] at h
    rcases h with h | ⟨_, h | ⟨_, ⟨ds, hds, hcs⟩ | ⟨_, s, ds, hs, hds, hcs⟩⟩⟩
    · exact .bare h
    · exact .grouped h
    · exact hcs ▸ .braced hds
    · exact hcs ▸ .urn hs hds
  · intro h
    generalize text.toList = cs at h ⊢
    cases h with
    | bare h => rw [ofDigits?_eq_some_iff.mpr h, Option.some_or]
    | grouped h =>
      rw [ofDigits?_eq_none h.hyphen_mem hyphen_not_digit, ofGroups?_eq_some_iff.mpr h, Option.none_or,
        Option.some_or]
    | @braced ds h =>
      have hmem : '\x7b' ∈ '\x7b' :: (ds ++ ['\x7d']) := List.mem_cons_self ..
      rw [ofDigits?_eq_none hmem hbrace, ofGroups?_eq_none hmem hbrace (by decide),
        ofBraces?_eq_some_iff.mpr ⟨_, h, rfl⟩, Option.none_or, Option.none_or, Option.some_or]
    | @urn s ds hs h =>
      obtain ⟨c, s, rfl, hc, _⟩ := List.map_eq_cons_iff.mp hs
      have hmem : c ∈ (c :: s) ++ ds := List.mem_cons_self ..
      have hdigit : ∀ n < 16, c.toLower ≠ Hex.digit n := hc.symm ▸ hu
      have hhyphen : c ≠ '-' := by
        rintro rfl
        exact absurd hc (by decide)
      have hbraces : ofBraces? ((c :: s) ++ ds) = none := by
        rw [Option.eq_none_iff_forall_ne_some]
        intro id' hid
        obtain ⟨_, _, hcs⟩ := ofBraces?_eq_some_iff.mp hid
        rw [(List.cons.inj hcs).1] at hc
        exact absurd hc (by decide)
      rw [ofDigits?_eq_none hmem hdigit, ofGroups?_eq_none hmem hdigit hhyphen, hbraces,
        ofUrn?_eq_some_iff.mpr ⟨_, _, hs, h, rfl⟩, Option.none_or, Option.none_or, Option.none_or]

/-! ## The canonical one -/

/-- The groups, in lower case. -/
def IsCanonical (id : Uuid) (text : String) : Prop :=
  id.IsGrouped text.toList ∧ ∀ c ∈ text.toList, c.toLower = c

theorem toLower_of_mem_digits {id : Uuid} {c : Char} (h : c ∈ id.digits) : c.toLower = c := by
  have hall : ∀ n < 16, (Hex.digit n).toLower = Hex.digit n := by decide
  obtain ⟨i, _, rfl⟩ := List.mem_map.mp h
  exact hall _ (Nat.mod_lt _ (by decide))

theorem isCanonical_iff {id : Uuid} {text : String} : id.IsCanonical text ↔ text = id.text := by
  constructor
  · intro h
    obtain ⟨⟨groups, hlengths, hdigits, htext⟩, hlower⟩ := h
    rw [← hyphenate_flatten hlengths] at htext
    have hflatten : groups.flatten = id.digits := by
      rw [← hdigits, List.map_congr_left, List.map_id]
      intro c hc
      exact hlower c (htext ▸ mem_hyphenate.mpr (.inr hc))
    rw [Uuid.text, ← hflatten, ← htext, String.ofList_toList]
  · rintro rfl
    obtain ⟨groups, hlengths, hflatten⟩ := exists_groups id.length_digits
    have hdigits : id.HasDigits groups.flatten := by
      rw [hflatten]
      exact (List.map_congr_left fun c => toLower_of_mem_digits).trans (List.map_id _)
    rw [IsCanonical, Uuid.text, String.toList_ofList]
    refine ⟨⟨groups, hlengths, hdigits, hflatten ▸ hyphenate_flatten hlengths⟩, fun c hc => ?_⟩
    rcases mem_hyphenate.mp hc with rfl | hc
    · rfl
    · exact toLower_of_mem_digits hc

end ProxyConsole.Uuid
