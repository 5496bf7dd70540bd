import Mathlib.Data.List.TakeDrop
import Mathlib.Data.List.TakeWhile
import ProxyConsole.Http.Endpoint

/-!
# Parts of texts and segments of paths

Cutting a text at a character and setting that character between the parts undo each other, as long
as no part holds the character. So a path is known by its segments.
-/

namespace ProxyConsole

namespace Text

theorem split_eq_splitOn (sep : Char) (cs : List Char) : split sep cs = cs.splitOn sep := by
  induction cs with
  | nil => rfl
  | cons c cs ih =>
    rw [List.splitOn_cons_eq_if_modifyHead, split, ih]
    by_cases h : c = sep
    · simp [h]
    · simp only [h, if_false, beq_iff_eq]
      cases hs : cs.splitOn sep with
      | nil => exact absurd hs (List.splitOn_ne_nil sep cs)
      | cons part parts => rfl

theorem intercalate_split (sep : Char) (cs : List Char) : [sep].intercalate (split sep cs) = cs := by
  rw [split_eq_splitOn, List.intercalate_splitOn]

theorem split_ne_nil (sep : Char) (cs : List Char) : split sep cs ≠ [] := by
  rw [split_eq_splitOn]
  exact List.splitOn_ne_nil sep cs

theorem not_mem_of_mem_split {sep : Char} {cs part : List Char} (h : part ∈ split sep cs) :
    sep ∉ part := by
  induction cs generalizing part with
  | nil =>
    rw [split, List.mem_singleton] at h
    subst h
    exact List.not_mem_nil
  | cons c cs ih =>
    rw [split] at h
    by_cases hc : c = sep
    · rw [if_pos hc, List.mem_cons] at h
      rcases h with rfl | h
      · exact List.not_mem_nil
      · exact ih h
    · rw [if_neg hc] at h
      cases hs : split sep cs with
      | nil => exact absurd hs (split_ne_nil sep cs)
      | cons first rest =>
        rw [hs] at h ih
        rcases List.mem_cons.mp h with rfl | h
        · have := ih (List.mem_cons_self ..)
          simp [this, Ne.symm hc]
        · exact ih (List.mem_cons_of_mem _ h)

/-- The parts of a text are the only texts without the character that give it back. -/
theorem split_eq_iff {sep : Char} {cs : List Char} {parts : List (List Char)} :
    split sep cs = parts ↔
      parts ≠ [] ∧ (∀ part ∈ parts, sep ∉ part) ∧ cs = [sep].intercalate parts := by
  constructor
  · rintro rfl
    exact ⟨split_ne_nil sep cs, fun _ => not_mem_of_mem_split, (intercalate_split sep cs).symm⟩
  · rintro ⟨hne, hparts, rfl⟩
    rw [split_eq_splitOn, List.splitOn_intercalate sep hparts hne]

theorem split_append_cons {sep : Char} {part : List Char} (h : sep ∉ part) (rest : List Char) :
    split sep (part ++ sep :: rest) = part :: split sep rest := by
  rw [split_eq_splitOn, split_eq_splitOn, List.splitOn_append_cons_self_of_not_mem h]

theorem span_ne_of_not_mem {sep : Char} {cs : List Char} (h : sep ∉ cs) :
    cs.span (· ≠ sep) = (cs, []) := by
  have hall : ∀ c ∈ cs, decide (c ≠ sep) = true := fun c hc => decide_eq_true fun e => h (e ▸ hc)
  rw [List.span_eq_takeWhile_dropWhile, List.takeWhile_eq_self_iff.mpr hall,
    List.dropWhile_eq_nil_iff.mpr hall]

theorem span_ne_append_cons {sep : Char} {part : List Char} (h : sep ∉ part) (rest : List Char) :
    (part ++ sep :: rest).span (· ≠ sep) = (part, sep :: rest) := by
  have hall : ∀ c ∈ part, decide (c ≠ sep) = true := fun c hc => decide_eq_true fun e => h (e ▸ hc)
  rw [List.span_eq_takeWhile_dropWhile, List.takeWhile_append_of_pos hall,
    List.dropWhile_append_of_pos hall]
  simp

theorem split_of_not_mem {sep : Char} {cs : List Char} (h : sep ∉ cs) : split sep cs = [cs] := by
  rw [split_eq_splitOn, List.splitOn_eq_singleton h]

theorem cut?_eq_none_iff {sep : Char} {cs : List Char} : cut? sep cs = none ↔ sep ∉ cs := by
  constructor
  · intro h hmem
    obtain ⟨before, after, rfl, hbefore⟩ := List.eq_append_cons_of_mem hmem
    rw [cut?, span_ne_append_cons hbefore] at h
    cases h
  · intro h
    rw [cut?, span_ne_of_not_mem h]

theorem cut?_eq_some_iff {sep : Char} {cs before after : List Char} :
    cut? sep cs = some (before, after) ↔ cs = before ++ sep :: after ∧ sep ∉ before := by
  constructor
  · intro h
    by_cases hmem : sep ∈ cs
    · obtain ⟨part, rest, rfl, hpart⟩ := List.eq_append_cons_of_mem hmem
      rw [cut?, span_ne_append_cons hpart] at h
      cases h
      exact ⟨rfl, hpart⟩
    · rw [cut?_eq_none_iff.mpr hmem] at h
      cases h
  · intro h
    rw [cut?, h.1, span_ne_append_cons h.2]

theorem cutLast?_eq_none_iff {sep : Char} {cs : List Char} : cutLast? sep cs = none ↔ sep ∉ cs := by
  rw [cutLast?, Option.map_eq_none_iff, cut?_eq_none_iff, List.mem_reverse]

theorem cutLast?_eq_some_iff {sep : Char} {cs before after : List Char} :
    cutLast? sep cs = some (before, after) ↔ cs = before ++ sep :: after ∧ sep ∉ after := by
  constructor
  · intro h
    obtain ⟨⟨last, first⟩, hcut, heq⟩ := Option.map_eq_some_iff.mp h
    cases heq
    obtain ⟨hcs, hlast⟩ := cut?_eq_some_iff.mp hcut
    refine ⟨?_, by rwa [List.mem_reverse]⟩
    rw [← List.reverse_reverse cs, hcs]
    simp
  · intro h
    obtain ⟨rfl, hafter⟩ := h
    have hcut : cut? sep (before ++ sep :: after).reverse = some (after.reverse, before.reverse) :=
      cut?_eq_some_iff.mpr ⟨by simp, by rwa [List.mem_reverse]⟩
    rw [cutLast?, hcut]
    simp

end Text

namespace Endpoint

theorem segments_append_slash {a : String} (h : '/' ∉ a.toList) (b : String) :
    segments (a ++ "/" ++ b) = a :: segments b := by
  have : (a ++ "/" ++ b).toList = a.toList ++ '/' :: b.toList := by simp
  rw [segments, this, Text.split_append_cons h, List.map_cons, String.ofList_toList, segments]

theorem segments_of_not_mem {a : String} (h : '/' ∉ a.toList) : segments a = [a] := by
  rw [segments, Text.split_of_not_mem h, List.map_singleton, String.ofList_toList]

theorem segments_inj {a b : String} (h : segments a = segments b) : a = b := by
  have : Text.split '/' a.toList = Text.split '/' b.toList :=
    (List.map_inj_right fun _ _ => String.ofList_inj.mp).mp h
  rw [← String.toList_inj, ← Text.intercalate_split '/' a.toList, this, Text.intercalate_split]

theorem not_mem_of_mem_segments {path s : String} (h : s ∈ segments path) : '/' ∉ s.toList := by
  obtain ⟨part, hp, rfl⟩ := List.mem_map.mp h
  rw [String.toList_ofList]
  exact Text.not_mem_of_mem_split hp

theorem exists_of_segments_eq_cons {path a : String} {rest : List String}
    (h : segments path = a :: rest) (hr : rest ≠ []) :
    ∃ b, path = a ++ "/" ++ b ∧ segments b = rest := by
  have hpath := Text.intercalate_split '/' path.toList
  have hparts : ∀ part ∈ Text.split '/' path.toList, '/' ∉ part := fun _ => Text.not_mem_of_mem_split
  rw [segments] at h
  cases hs : Text.split '/' path.toList with
  | nil => exact absurd hs (Text.split_ne_nil _ _)
  | cons part parts =>
    rw [hs, List.map_cons, List.cons.injEq] at h
    obtain ⟨rfl, rfl⟩ := h
    have hne : parts ≠ [] := fun e => hr (by rw [e, List.map_nil])
    rw [hs] at hpath hparts
    refine ⟨String.ofList (['/'].intercalate parts), ?_, ?_⟩
    · rw [← String.toList_inj, ← hpath, List.intercalate_cons_of_ne_nil hne]
      simp
    · rw [segments, String.toList_ofList, Text.split_eq_iff.mpr ⟨hne, fun p hp => ?_, rfl⟩]
      exact hparts p (List.mem_cons_of_mem _ hp)

end Endpoint

end ProxyConsole
