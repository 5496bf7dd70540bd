import Mathlib.Data.List.Forall2
import ProxyConsole.Http.Form
import ProxyConsole.Proofs.PercentCoding
import ProxyConsole.Proofs.Segments

/-!
# Fields of a query

A query is cut at ampersands, and every part at its first equals sign. Both sides are texts of a
form, where plus signs are spaces and escapes are bytes. The column count and the role are each the
value of one field, if their name occurs at all.
-/

namespace ProxyConsole.Form

/-! ## Texts and fields -/

/-- The text that stands in a form: its bytes are UTF-8, with U+FFFD where they are not. -/
def StandsFor (cs : List Char) (text : String) : Prop :=
  ∃ bytes, Percent.Decodes ((Utf8.encode cs).map plusToSpace) bytes ∧
    text.toList = Utf8.decodeLossy bytes

theorem decode_eq_iff {cs : List Char} {text : String} : decode cs = text ↔ StandsFor cs text := by
  unfold decode StandsFor
  simp only [← Percent.decode_eq_iff, exists_eq_left']
  rw [← String.toList_inj, String.toList_ofList, eq_comm]

theorem standsFor_of_decode {cs : List Char} {text : String}
    (h : Percent.decode ((Utf8.encode cs).map plusToSpace) = Utf8.encode text.toList) :
    StandsFor cs text :=
  ⟨_, Percent.decode_eq_iff.mp h, (Utf8.decodeLossy_encode _).symm⟩

/-- What stands between two ampersands. -/
inductive IsField : List Char → String × String → Prop
  | pair {before after : List Char} {name value : String} : '=' ∉ before → StandsFor before name →
      StandsFor after value → IsField (before ++ '=' :: after) (name, value)
  | bare {cs : List Char} {name : String} : '=' ∉ cs → StandsFor cs name → IsField cs (name, "")

theorem field_eq_iff {cs : List Char} {pair : String × String} :
    field cs = pair ↔ IsField cs pair := by
  constructor
  · rintro rfl
    unfold field
    cases hcut : Text.cut? '=' cs with
    | none => exact .bare (Text.cut?_eq_none_iff.mp hcut) (decode_eq_iff.mp rfl)
    | some sides =>
      obtain ⟨rfl, hbefore⟩ := Text.cut?_eq_some_iff.mp hcut
      exact .pair hbefore (decode_eq_iff.mp rfl) (decode_eq_iff.mp rfl)
  · intro h
    unfold field
    cases h with
    | pair hbefore hname hvalue =>
      rw [Text.cut?_eq_some_iff.mpr ⟨rfl, hbefore⟩]
      exact Prod.ext (decode_eq_iff.mpr hname) (decode_eq_iff.mpr hvalue)
    | bare hcs hname =>
      rw [Text.cut?_eq_none_iff.mpr hcs]
      exact Prod.ext (decode_eq_iff.mpr hname) rfl

/-- The fields of a query, in order. Where nothing stands between two ampersands there is none. -/
inductive IsForm : Option String → List (String × String) → Prop
  | absent : IsForm none []
  | query {q : String} {parts : List (List Char)} {pairs : List (String × String)} :
      parts ≠ [] → (∀ part ∈ parts, '&' ∉ part) → q.toList = ['&'].intercalate parts →
      List.Forall₂ IsField (parts.filter (· ≠ [])) pairs → IsForm (some q) pairs

theorem fields_eq_iff {query : Option String} {pairs : List (String × String)} :
    fields query = pairs ↔ IsForm query pairs := by
  have hmap : ∀ parts : List (List Char), parts.map field = pairs ↔ List.Forall₂ IsField parts pairs := by
    intro parts
    rw [← List.forall₂_eq_eq_eq, List.forall₂_map_left_iff]
    exact ⟨fun h => h.imp fun _ _ => field_eq_iff.mp, fun h => h.imp fun _ _ => field_eq_iff.mpr⟩
  constructor
  · intro h
    cases query with
    | none => exact h ▸ .absent
    | some q =>
      obtain ⟨hne, hparts, hq⟩ := Text.split_eq_iff.mp (rfl : Text.split '&' q.toList = _)
      exact .query hne hparts hq ((hmap _).mp h)
  · intro h
    cases h with
    | absent => rfl
    | query hne hparts hq hpairs =>
      rw [fields, Text.split_eq_iff.mpr ⟨hne, hparts, hq⟩]
      exact (hmap _).mpr hpairs

/-! ## Fields of one name -/

def Absent (name : String) (pairs : List (String × String)) : Prop :=
  ∀ pair ∈ pairs, pair.1 ≠ name

def Once (name value : String) (pairs : List (String × String)) : Prop :=
  ∃ before after, pairs = before ++ (name, value) :: after ∧ Absent name before ∧ Absent name after

theorem filter_eq_nil_iff {name : String} {pairs : List (String × String)} :
    pairs.filter (·.1 = name) = [] ↔ Absent name pairs := by
  simp only [List.filter_eq_nil_iff, decide_eq_true_eq]
  rfl

theorem values_eq_nil_iff {name : String} {pairs : List (String × String)} :
    values name pairs = [] ↔ Absent name pairs := by
  rw [values, List.map_eq_nil_iff, filter_eq_nil_iff]

theorem values_eq_singleton_iff {name value : String} {pairs : List (String × String)} :
    values name pairs = [value] ↔ Once name value pairs := by
  unfold values
  constructor
  · intro h
    obtain ⟨pair, hfilter, rfl⟩ := List.map_eq_singleton_iff.mp h
    obtain ⟨before, after, rfl, hbefore, hname, hafter⟩ := List.filter_eq_cons_iff.mp hfilter
    rw [decide_eq_true_eq] at hname
    subst hname
    refine ⟨before, after, rfl, fun p hp => ?_, filter_eq_nil_iff.mp hafter⟩
    simpa using hbefore p hp
  · intro h
    obtain ⟨before, after, rfl, hbefore, hafter⟩ := h
    rw [List.filter_append, filter_eq_nil_iff.mpr hbefore, List.filter_cons_of_pos (by simp),
      filter_eq_nil_iff.mpr hafter]
    rfl

/-! ## What fields ask for -/

/-- Without a field of the name nothing in particular is asked for, and with one such field what its
value means. If there are several, or the value means nothing, there is no answer to that. -/
inductive Asks {α : Type} (name : String) (means : String → α → Prop)
    (pairs : List (String × String)) : Option α → Prop
  | nothing : Absent name pairs → Asks name means pairs none
  | value {v : String} {a : α} : Once name v pairs → means v a → Asks name means pairs (some a)

section
variable {α : Type} {name : String} {means : String → α → Prop} {pairs : List (String × String)}

theorem asks_none_iff : Asks name means pairs none ↔ values name pairs = [] := by
  rw [values_eq_nil_iff]
  constructor
  · intro h
    cases h with
    | nothing habsent => exact habsent
  · exact .nothing

theorem asks_some_iff {a : α} :
    Asks name means pairs (some a) ↔ ∃ v, values name pairs = [v] ∧ means v a := by
  simp only [values_eq_singleton_iff]
  constructor
  · intro h
    cases h with
    | value honce hmeans => exact ⟨_, honce, hmeans⟩
  · intro h
    obtain ⟨v, honce, hmeans⟩ := h
    exact .value honce hmeans

theorem asks_map_iff {β : Type} {f : β → α} {b : Option β} :
    Asks name means pairs (b.map f) ↔ Asks name (fun v b => means v (f b)) pairs b := by
  cases b with
  | none => rw [Option.map_none, asks_none_iff, asks_none_iff]
  | some b => rw [Option.map_some, asks_some_iff, asks_some_iff]

end

end ProxyConsole.Form
