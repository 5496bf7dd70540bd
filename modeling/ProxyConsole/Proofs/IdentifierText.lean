import ProxyConsole.Product
import ProxyConsole.Proofs.AccountJson

/-!
# Identifiers as texts

The identifiers of accounts and of products are numbers of 128 bits. A text names one if it arranges
32 hexadecimal digits in one of four ways; which number it names depends on the digits alone, neither
on the arrangement nor on the letter case. Every other text is refused, and kept in the refusal. What
is written is one of the texts that are read, the same for all that name one number.
-/

namespace ProxyConsole

namespace Uuid

/-! ## Numerals -/

/-- 32 hexadecimal digits in either letter case, most significant first, and their value. -/
def IsNumeral (cs : List Char) (n : Nat) : Prop :=
  ∃ ds : List Nat, ds.length = 32 ∧ (∀ d ∈ ds, d < 16) ∧ cs.map Char.toLower = ds.map Hex.digit ∧
    n = Hex.value ds

example : (List.range 16).map Hex.digit = "0123456789abcdef".toList := by
  decide

theorem IsNumeral.lt {cs : List Char} {n : Nat} (h : IsNumeral cs n) : n < 2 ^ 128 := by
  obtain ⟨ds, hlength, hds, _, rfl⟩ := h
  have hlt := Hex.value_lt hds
  rw [hlength] at hlt
  exact hlt

theorem isNumeral_iff_hasDigits {cs : List Char} {id : Uuid} :
    IsNumeral cs id.bits.toNat ↔ id.HasDigits cs := by
  unfold HasDigits
  rw [digits_eq]
  constructor
  · intro h
    obtain ⟨ds, hlength, hds, hcs, hvalue⟩ := h
    rw [hcs, hvalue, ← hlength, Hex.places_value hds]
  · intro h
    have hlt : id.bits.toNat < Nat.pow 16 32 := id.bits.isLt
    refine ⟨Hex.places 32 id.bits.toNat, by simp [Hex.places], fun d hd => ?_, h, ?_⟩
    · obtain ⟨i, _, rfl⟩ := List.mem_map.mp hd
      exact Nat.mod_lt _ (by decide)
    · rw [Hex.value_places, Nat.mod_eq_of_lt hlt]

theorem IsNumeral.hasDigits {cs : List Char} {n : Nat} (h : IsNumeral cs n) :
    HasDigits ⟨BitVec.ofNat 128 n⟩ cs := by
  have hn : (BitVec.ofNat 128 n).toNat = n := by
    rw [BitVec.toNat_ofNat, Nat.mod_eq_of_lt h.lt]
  apply isNumeral_iff_hasDigits.mp
  rw [hn]
  exact h

/-! ## Arrangements -/

/-- Digits in groups of 8, 4, 4, 4 and 12, with hyphens between the groups. -/
def Groups (ds cs : List Char) : Prop :=
  ∃ groups : List (List Char), groups.map List.length = groupLengths ∧ groups.flatten = ds ∧
    cs = ['-'].intercalate groups

/-- The digits alone, their groups, the groups in braces, and the groups behind the URN scheme. -/
inductive Arranges (ds : List Char) : List Char → Prop
  | bare : Arranges ds ds
  | grouped {cs : List Char} : Groups ds cs → Arranges ds cs
  | braced {cs : List Char} : Groups ds cs → Arranges ds ('\x7b' :: (cs ++ ['\x7d']))
  | urn {s cs : List Char} : s.map Char.toLower = scheme → Groups ds cs → Arranges ds (s ++ cs)

theorem isGrouped_iff {id : Uuid} {cs : List Char} :
    id.IsGrouped cs ↔ ∃ ds, Groups ds cs ∧ id.HasDigits ds := by
  constructor
  · intro h
    obtain ⟨groups, hlengths, hdigits, hcs⟩ := h
    exact ⟨_, ⟨groups, hlengths, rfl, hcs⟩, hdigits⟩
  · intro h
    obtain ⟨_, ⟨groups, hlengths, rfl, hcs⟩, hdigits⟩ := h
    exact ⟨groups, hlengths, hdigits, hcs⟩

theorem spells_iff {id : Uuid} {cs : List Char} :
    id.Spells cs ↔ ∃ ds, Arranges ds cs ∧ id.HasDigits ds := by
  constructor
  · intro h
    cases h with
    | bare h => exact ⟨_, .bare, h⟩
    | grouped h =>
      obtain ⟨ds, hgroups, hdigits⟩ := isGrouped_iff.mp h
      exact ⟨ds, .grouped hgroups, hdigits⟩
    | braced h =>
      obtain ⟨ds, hgroups, hdigits⟩ := isGrouped_iff.mp h
      exact ⟨ds, .braced hgroups, hdigits⟩
    | urn hs h =>
      obtain ⟨ds, hgroups, hdigits⟩ := isGrouped_iff.mp h
      exact ⟨ds, .urn hs hgroups, hdigits⟩
  · intro h
    obtain ⟨ds, harranges, hdigits⟩ := h
    cases harranges with
    | bare => exact .bare hdigits
    | grouped h => exact .grouped (isGrouped_iff.mpr ⟨ds, h, hdigits⟩)
    | braced h => exact .braced (isGrouped_iff.mpr ⟨ds, h, hdigits⟩)
    | urn hs h => exact .urn hs (isGrouped_iff.mpr ⟨ds, h, hdigits⟩)

/-- A text that arranges digits of a number. -/
def Names (text : String) (n : Nat) : Prop :=
  ∃ ds, Arranges ds text.toList ∧ IsNumeral ds n

theorem ofText?_eq_some_iff_names {text : String} {id : Uuid} :
    ofText? text = some id ↔ Names text id.bits.toNat := by
  unfold Names
  simp only [ofText?_eq_some_iff, spells_iff, isNumeral_iff_hasDigits]

theorem Names.ofText?_eq {text : String} {n : Nat} (h : Names text n) :
    ofText? text = some ⟨BitVec.ofNat 128 n⟩ := by
  obtain ⟨ds, harranges, hnumeral⟩ := h
  exact ofText?_eq_some_iff.mpr (spells_iff.mpr ⟨ds, harranges, hnumeral.hasDigits⟩)

theorem ofText?_eq_none_iff {text : String} : ofText? text = none ↔ ¬ ∃ n, Names text n := by
  constructor
  · intro hnone h
    obtain ⟨n, hn⟩ := h
    rw [hn.ofText?_eq] at hnone
    cases hnone
  · intro hno
    rw [Option.eq_none_iff_forall_ne_some]
    intro id hid
    exact hno ⟨_, ofText?_eq_some_iff_names.mp hid⟩

end Uuid

open Uuid (Names)

/-! ## Readers and writers -/

/-- A reader and a writer of identifiers that are UUIDs. -/
structure ReadsUuids {α : Type} (wrap : Uuid → α) (read : String → Except Violation α)
    (write : α → String) : Prop where
  restored : ∀ id, read (write (wrap id)) = .ok (wrap id)
  accepted : ∀ text, (∃ a, read text = .ok a) ↔ ∃ n, Names text n
  meant : ∀ text id, read text = .ok (wrap id) ↔ Names text id.bits.toNat
  alike : ∀ text text' n, Names text n → Names text' n → read text = read text'
  refused : ∀ text v, read text = .error v ↔ v = .malformedId text ∧ ¬ ∃ n, Names text n
  settled : ∀ text a, read text = .ok a → ∃ id, a = wrap id ∧ id.IsCanonical (write a) ∧
    read (write a) = .ok a

section
variable {α : Type} {wrap : Uuid → α} {text : String}

/-- Reads a UUID and wraps it up. -/
def readId (wrap : Uuid → α) (text : String) : Except Violation α :=
  match Uuid.ofText? text with
  | some id => .ok (wrap id)
  | none => .error (.malformedId text)

theorem readId_eq_ok_iff {a : α} :
    readId wrap text = .ok a ↔ ∃ id, Names text id.bits.toNat ∧ a = wrap id := by
  simp only [← Uuid.ofText?_eq_some_iff_names]
  unfold readId
  cases Uuid.ofText? text with
  | none => simp
  | some id => simp [eq_comm]

theorem readId_eq_error_iff {v : Violation} :
    readId wrap text = .error v ↔ v = .malformedId text ∧ ¬ ∃ n, Names text n := by
  rw [← Uuid.ofText?_eq_none_iff]
  unfold readId
  cases Uuid.ofText? text with
  | none => simp [eq_comm]
  | some id => simp

theorem Uuid.Names.readId_eq {n : Nat} (h : Names text n) :
    readId wrap text = .ok (wrap ⟨BitVec.ofNat 128 n⟩) := by
  rw [readId, h.ofText?_eq]

theorem readsUuids_readId {write : α → String} (hwrap : Function.Injective wrap)
    (hwrite : ∀ id, write (wrap id) = id.text) : ReadsUuids wrap (readId wrap) write := by
  have hrestored : ∀ id, readId wrap (write (wrap id)) = .ok (wrap id) := by
    intro id
    rw [hwrite, readId, id.ofText?_text]
  constructor
  case restored => exact hrestored
  case accepted =>
    intro text
    constructor
    · intro h
      obtain ⟨a, ha⟩ := h
      obtain ⟨id, hid, _⟩ := readId_eq_ok_iff.mp ha
      exact ⟨_, hid⟩
    · intro h
      obtain ⟨n, hn⟩ := h
      exact ⟨_, hn.readId_eq⟩
  case meant =>
    intro text id
    rw [readId_eq_ok_iff]
    constructor
    · intro h
      obtain ⟨id', hid, heq⟩ := h
      rw [hwrap heq]
      exact hid
    · intro h
      exact ⟨id, h, rfl⟩
  case alike =>
    intro text text' n hn hn'
    rw [hn.readId_eq, hn'.readId_eq]
  case refused => exact fun _ _ => readId_eq_error_iff
  case settled =>
    intro text a ha
    obtain ⟨id, _, rfl⟩ := readId_eq_ok_iff.mp ha
    exact ⟨id, rfl, Uuid.isCanonical_iff.mpr (hwrite id), hrestored id⟩

end

/-- The identifiers of accounts and those of products are read from all texts that name a UUID and
from no others, and are written as the canonical one of these. -/
theorem identifiers_name_uuids :
    ReadsUuids AccountId.mk AccountId.of AccountId.text ∧
      ReadsUuids ProductId.mk ProductId.of ProductId.text := by
  have haccount : AccountId.of = readId AccountId.mk := rfl
  have hproduct : ProductId.of = readId ProductId.mk := rfl
  rw [haccount, hproduct]
  exact ⟨readsUuids_readId (fun _ _ => AccountId.mk.inj) fun _ => rfl,
    readsUuids_readId (fun _ _ => ProductId.mk.inj) fun _ => rfl⟩

end ProxyConsole
