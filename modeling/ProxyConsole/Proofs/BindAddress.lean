import ProxyConsole.Proofs.Configuration
import ProxyConsole.Proofs.WrittenNumerals

/-!
# Addresses to bind to

The address of a configuration is read back as the host and the TCP port that it was made of. The
host may have any number of colons, since a port has none and the last colon is the one in front of
it. An address that came from elsewhere may spell its port in more than one way; it is written again
with the canonical numeral, and stays as it is from then on.
-/

namespace ProxyConsole

open Decimal

/-- The environment in which one variable is set. -/
def Environment.only (v : Variable) (value : String) : Environment :=
  fun w => if w = v then some value else none

namespace Config

/-! ## The variable alone -/

theorem numbers_only_bind (text : String) :
    numbers (.only .bind text) = (readBind text).map fun b => ⟨none, some b, none⟩ := by
  unfold numbers Environment.only
  simp only [reduceCtorEq, if_false, if_true, Option.mapM_none, Option.mapM_some]
  cases readBind text with
  | error e => rfl
  | ok b => rfl

theorem applyOverrides_bind (c : Config) (text : String) :
    c.applyOverrides (.only .bind text) =
      (readBind text).map fun b => { c with host := b.1, port := b.2 } := by
  rw [applyOverrides_eq, numbers_only_bind]
  cases readBind text with
  | error e => rfl
  | ok b => rfl

theorem applyOverrides_bind_eq_ok_iff {c c' : Config} {text : String} :
    c.applyOverrides (.only .bind text) = .ok c' ↔
      IsBind text (c'.host, c'.port) ∧ c' = { c with host := c'.host, port := c'.port } := by
  rw [applyOverrides_bind, ← readBind_eq_ok_iff]
  cases readBind text with
  | error e => simp [Except.map]
  | ok b =>
    simp only [Except.map, Except.ok.injEq]
    constructor
    · intro h
      subst h
      exact ⟨rfl, rfl⟩
    · intro h
      rw [h.1]
      exact h.2.symm

/-! ## Ports -/

theorem isPort_of_isNumeral {text : String} {port : UInt16} (h : IsNumeral text.toList port.toNat) :
    IsPort text port := by
  refine ⟨.plain h, ⟨?_, ?_⟩, fun hminus => ?_⟩
  · exact Int.natCast_nonneg _
  · have hlt := port.toNat_lt
    show (port.toNat : Int) ≤ 65535
    omega
  · exact absurd (List.mem_of_mem_head? hminus) (h.not_mem rfl)

theorem isBind_bindAddress (c : Config) : IsBind c.bindAddress (c.host, c.port) := by
  have hnumeral : IsNumeral (ofNat c.port.toNat).toList c.port.toNat := by
    rw [ofNat, String.toList_ofList]
    exact isNumeral_digits _
  exact ⟨_, rfl, hnumeral.not_mem rfl, isPort_of_isNumeral hnumeral⟩

/-! ## There and back -/

/-- An address and what becomes of it: all up to its last colon stays, and behind it stands the
canonical numeral of the TCP port. -/
def IsRespelled (text address : String) (port : UInt16) : Prop :=
  ∃ host digits numeral, text = host ++ ":" ++ digits ∧ ':' ∉ digits.toList ∧ IsPort digits port ∧
    address = host ++ ":" ++ numeral ∧ IsCanonical numeral.toList port.toNat

theorem IsBind.isRespelled {text : String} {c : Config} (h : IsBind text (c.host, c.port)) :
    IsRespelled text c.bindAddress c.port := by
  obtain ⟨digits, htext, hcolon, hport⟩ := h
  refine ⟨c.host, digits, ofNat c.port.toNat, htext, hcolon, hport, rfl, ?_⟩
  exact isCanonical_iff.mpr String.toList_ofList

/-- The address is the text that it came from just when that has the canonical numeral already. -/
theorem IsBind.bindAddress_eq_iff {text : String} {c : Config} (h : IsBind text (c.host, c.port)) :
    c.bindAddress = text ↔
      ∃ host numeral, text = host ++ ":" ++ numeral ∧ IsCanonical numeral.toList c.port.toNat := by
  constructor
  · intro heq
    subst heq
    exact ⟨c.host, ofNat c.port.toNat, rfl, isCanonical_iff.mpr String.toList_ofList⟩
  · intro hcanonical
    obtain ⟨host, numeral, rfl, hnumeral⟩ := hcanonical
    have hbind : IsBind (host ++ ":" ++ numeral) (host, c.port) :=
      ⟨numeral, rfl, hnumeral.1.not_mem rfl, isPort_of_isNumeral hnumeral.1⟩
    have hhost : c.host = host := congrArg Prod.fst (h.unique hbind)
    have hwritten : ofNat c.port.toNat = numeral := by
      rw [ofNat, ← isCanonical_iff.mp hnumeral, String.ofList_toList]
    rw [bindAddress, hhost, hwritten]

/-- Set to the address of any configuration, the variable gives the host and the TCP port of that
configuration and leaves all else alone. Set to any other text that is taken, it gives a configuration
that has the text respelled for its address, and that neither of the two changes any more. -/
theorem bindAddress_read_back :
    (∀ c source : Config, c.applyOverrides (.only .bind source.bindAddress) =
      .ok { c with host := source.host, port := source.port }) ∧
    ∀ (text : String) (c c' : Config), c.applyOverrides (.only .bind text) = .ok c' →
      IsRespelled text c'.bindAddress c'.port ∧
      (c'.bindAddress = text ↔
        ∃ host numeral, text = host ++ ":" ++ numeral ∧ IsCanonical numeral.toList c'.port.toNat) ∧
      c' = { c with host := c'.host, port := c'.port } ∧
      c'.applyOverrides (.only .bind text) = .ok c' ∧
      c'.applyOverrides (.only .bind c'.bindAddress) = .ok c' := by
  constructor
  · intro c source
    exact applyOverrides_bind_eq_ok_iff.mpr ⟨source.isBind_bindAddress, rfl⟩
  · intro text c c' h
    obtain ⟨hbind, hc'⟩ := applyOverrides_bind_eq_ok_iff.mp h
    refine ⟨hbind.isRespelled, hbind.bindAddress_eq_iff, hc', ?_, ?_⟩
    · exact applyOverrides_bind_eq_ok_iff.mpr ⟨hbind, rfl⟩
    · exact applyOverrides_bind_eq_ok_iff.mpr ⟨c'.isBind_bindAddress, rfl⟩

/-- A host with colons of its own, in front of a port with a sign and zeros. -/
example : ({} : Config).applyOverrides (.only .bind "::1:+0080") = .ok { host := "::1", port := 80 } :=
  rfl

end Config

end ProxyConsole
