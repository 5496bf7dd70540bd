import Mathlib.Data.List.Basic
import ProxyConsole.Http.Response
import ProxyConsole.Proofs.QuotedText
import ProxyConsole.Proofs.WrittenNumerals

/-!
# Messages tell faults apart

The messages of a kind of fault begin with words of their own, and no such words are the beginning of
others. What stands behind them is the cause: a text that is quoted or that is all the rest, or a
number. So the fault is read back from its message, and with it the status of the answer.
-/

namespace ProxyConsole.Fault

open Decimal (Field)

/-- The faults that the console finds: any violation, a count of 64 bits, and a server or an account
that is not there. -/
def IsRaised : Fault → Prop
  | validation _ => True
  | invalidArgument cause =>
    (Field.signed 64).lowest ≤ cause.count ∧ cause.count ≤ (Field.signed 64).highest
  | notFound cause => cause.entity = "Server" ∨ cause.entity = "Account"

/-! ## Wordings -/

/-- The words that the messages of a kind begin with, and what a message tells behind them. -/
structure Wording where
  words : String
  told? : List Char → Option Fault

namespace Wording

def fixed (cause : Violation) : Wording :=
  ⟨cause.message, fun cs => if cs = [] then some (.validation cause) else none⟩

def quoted (words : String) (cause : String → Violation) : Wording :=
  ⟨words, fun cs => (Quoted.read.whole? cs).map fun text => .validation (cause text)⟩

def duplicate : Wording :=
  ⟨"duplicate server id: ", fun cs => some (.validation (.duplicateServerId (String.ofList cs)))⟩

def columns : Wording :=
  ⟨"columns per row must be a positive integer, got ", fun cs =>
    ((Field.signed 64).read (String.ofList cs)).toOption.map fun count => .invalidArgument ⟨count⟩⟩

def missing (entity : String) : Wording :=
  ⟨entity ++ " ", fun cs =>
    (cs.dropSuffix? " not found".toList).map fun id => .notFound ⟨entity, String.ofList id⟩⟩

def all : List Wording :=
  [fixed .emptyServerId, fixed .emptyAddress, duplicate, fixed .emptyName, fixed .emptyPhone,
    quoted "invalid email address: " .invalidEmail, quoted "malformed identifier: " .malformedId,
    quoted "unknown role: " .unknownRole, columns, missing "Server", missing "Account"]

theorem all_apart : all.Pairwise fun v w =>
    ¬ v.words.toList <+: w.words.toList ∧ ¬ w.words.toList <+: v.words.toList := by
  decide +kernel

end Wording

open Wording

/-! ## Reading messages -/

/-- The fault that a message tells of. -/
def ofMessage? (text : String) : Option Fault :=
  Wording.all.findSome? fun w => (text.toList.dropPrefix? w.words.toList).bind w.told?

theorem not_prefix_append_of_apart {v w : List Char} (h : ¬ v <+: w ∧ ¬ w <+: v) (detail : List Char) :
    ¬ v <+: w ++ detail := by
  intro hv
  rcases List.prefix_or_prefix_of_prefix hv (List.prefix_append w detail) with hprefix | hprefix
  · exact h.1 hprefix
  · exact h.2 hprefix

/-- A message is read with the wording that it was made of, since it begins with the words of no
other. -/
theorem ofMessage?_of_told? {w : Wording} (hw : w ∈ Wording.all) {detail : String} {e : Fault}
    (h : w.told? detail.toList = some e) : ofMessage? (w.words ++ detail) = some e := by
  obtain ⟨before, after, hall⟩ := List.append_of_mem hw
  have hapart := all_apart
  rw [hall, List.pairwise_append] at hapart
  rw [ofMessage?, List.findSome?_eq_some_iff, String.toList_append]
  refine ⟨before, w, after, hall, ?_, ?_⟩
  · rw [List.dropPrefix?_append_of_beq _ (beq_self_eq_true _)]
    exact h
  · intro v hv
    cases hdrop : (w.words.toList ++ detail.toList).dropPrefix? v.words.toList with
    | none => rfl
    | some rest =>
      obtain ⟨words, hwords, heq⟩ := List.dropPrefix?_eq_some_iff.mp hdrop
      rw [eq_of_beq heq] at hwords
      have hprefix : v.words.toList <+: w.words.toList ++ detail.toList := ⟨rest, hwords.symm⟩
      exact absurd hprefix
        (not_prefix_append_of_apart (hapart.2.2 v hv w (List.mem_cons_self ..)) _)

theorem ofMessage?_fixed {cause : Violation} (h : fixed cause ∈ Wording.all) :
    ofMessage? cause.message = some (.validation cause) := by
  have hread : ofMessage? (cause.message ++ "") = some (.validation cause) := by
    apply ofMessage?_of_told? h
    simp [fixed]
  rwa [String.append_empty] at hread

theorem ofMessage?_quoted {words : String} {cause : String → Violation}
    (h : quoted words cause ∈ Wording.all) (text : String) :
    ofMessage? (words ++ Quoted.quote text) = some (.validation (cause text)) := by
  apply ofMessage?_of_told? h
  have hread := Quoted.read_quote text []
  rw [List.append_nil] at hread
  simp [quoted, Reader.whole?, hread]

theorem ofMessage?_missing {entity : String} (h : missing entity ∈ Wording.all) (id : String) :
    ofMessage? (entity ++ " " ++ id ++ " not found") = some (.notFound ⟨entity, id⟩) := by
  have hdrop : (id ++ " not found").toList.dropSuffix? " not found".toList = some id.toList := by
    rw [List.dropSuffix?_eq_some_iff]
    exact ⟨_, String.toList_append, beq_self_eq_true _⟩
  rw [String.append_assoc]
  apply ofMessage?_of_told? h
  simp only [missing, hdrop, Option.map_some, String.ofList_toList]

theorem ofMessage?_columns {count : Int} (hlow : (Field.signed 64).lowest ≤ count)
    (hhigh : count ≤ (Field.signed 64).highest) :
    ofMessage? (BadColumns.message ⟨count⟩) = some (.invalidArgument ⟨count⟩) := by
  have hread : (Field.signed 64).read (Decimal.ofInt count) = .ok count := by
    rw [Field.read_eq_ok_iff (by decide) (by decide)]
    exact ⟨Decimal.spells_ofInt count, ⟨hlow, hhigh⟩, fun _ => by decide⟩
  apply ofMessage?_of_told? (w := columns) (by simp [Wording.all])
  simp [columns, hread, Except.toOption]

theorem ofMessage?_violation (cause : Violation) :
    ofMessage? cause.message = some (.validation cause) := by
  cases cause with
  | emptyServerId => exact ofMessage?_fixed (by simp [Wording.all])
  | emptyAddress => exact ofMessage?_fixed (by simp [Wording.all])
  | duplicateServerId id =>
    apply ofMessage?_of_told? (w := duplicate) (by simp [Wording.all])
    simp only [duplicate, String.ofList_toList]
  | emptyName => exact ofMessage?_fixed (by simp [Wording.all])
  | emptyPhone => exact ofMessage?_fixed (by simp [Wording.all])
  | invalidEmail email => exact ofMessage?_quoted (by simp [Wording.all]) email
  | malformedId text => exact ofMessage?_quoted (by simp [Wording.all]) text
  | unknownRole name => exact ofMessage?_quoted (by simp [Wording.all]) name

theorem ofMessage?_message {e : Fault} (h : e.IsRaised) : ofMessage? e.message = some e := by
  cases e with
  | validation cause => exact ofMessage?_violation cause
  | invalidArgument cause => exact ofMessage?_columns h.1 h.2
  | notFound cause =>
    obtain ⟨entity, id⟩ := cause
    have hmem : missing entity ∈ Wording.all := by
      rcases h with rfl | rfl
      · simp [Wording.all]
      · simp [Wording.all]
    exact ofMessage?_missing hmem id

/-- Of the faults that the console finds, no two have one message, so the message fixes the status. -/
theorem message_identifies {e f : Fault} (he : e.IsRaised) (hf : f.IsRaised) :
    (e.message = f.message ↔ e = f) ∧
      (e.message = f.message → Status.ofFault e = Status.ofFault f) := by
  have hiff : e.message = f.message ↔ e = f := by
    constructor
    · intro h
      have hread := ofMessage?_message he
      rw [h, ofMessage?_message hf, Option.some.injEq] at hread
      exact hread.symm
    · exact congrArg message
  refine ⟨hiff, fun h => ?_⟩
  rw [hiff.mp h]

/-- An email with a combining accent and a quote, and the email that spells out their escapes. -/
theorem message_identifies_escapes :
    let e : Fault := .validation (.invalidEmail "e\u0301\"")
    let f : Fault := .validation (.invalidEmail "e\\u\x7b301\x7d\\\"")
    e.IsRaised ∧ f.IsRaised ∧ (e.message = f.message ↔ e = f) ∧
      (e.message = f.message → Status.ofFault e = Status.ofFault f) := by
  intro e f
  have he : e.IsRaised := trivial
  have hf : f.IsRaised := trivial
  exact ⟨he, hf, message_identifies he hf⟩

/-- Were other entities looked up, their names could take over words of an id. -/
example : message (.notFound ⟨"Server", "A 1"⟩) = message (.notFound ⟨"Server A", "1"⟩) := by
  decide

end ProxyConsole.Fault
