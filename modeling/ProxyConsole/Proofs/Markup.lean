import ProxyConsole.Page.Piece

/-!
# Reading markup back

References go back to the characters they stand for, and a text of markup goes back to its tags and
the texts between them. An escaped text, between tags or in a quoted value, is passed over as one
text: whatever it says, the reader sees no tag in it and stays where it was.
-/

namespace ProxyConsole

namespace Markup

/-! ## References -/

def unescape : List Char → List Char
  | '&' :: '#' :: '3' :: '8' :: ';' :: cs => '&' :: unescape cs
  | '&' :: '#' :: '6' :: '0' :: ';' :: cs => '<' :: unescape cs
  | '&' :: '#' :: '6' :: '2' :: ';' :: cs => '>' :: unescape cs
  | '&' :: '#' :: '3' :: '4' :: ';' :: cs => '\"' :: unescape cs
  | '&' :: '#' :: '3' :: '9' :: ';' :: cs => '\'' :: unescape cs
  | c :: cs => c :: unescape cs
  | [] => []

theorem unescape_cons {c : Char} (h : c ≠ '&') (cs : List Char) :
    unescape (c :: cs) = c :: unescape cs := by
  rw [unescape]
  all_goals
    rintro rest rfl
    exact absurd rfl h

theorem reference?_eq_none {c : Char} (h : Piece.reference? c = none) :
    c ≠ '&' ∧ c ≠ '<' ∧ c ≠ '>' ∧ c ≠ '\"' ∧ c ≠ '\'' := by
  refine ⟨?_, ?_, ?_, ?_, ?_⟩ <;>
  · rintro rfl
    cases h

theorem reference?_cases {c : Char} {r : String} (h : Piece.reference? c = some r) :
    c = '&' ∧ r = "&#38;" ∨ c = '<' ∧ r = "&#60;" ∨ c = '>' ∧ r = "&#62;" ∨
      c = '\"' ∧ r = "&#34;" ∨ c = '\'' ∧ r = "&#39;" := by
  unfold Piece.reference? at h
  split at h
  case h_6 => cases h
  all_goals
    cases h
    simp

theorem escapeChar_cases (c : Char) :
    (∃ r, Piece.reference? c = some r ∧ Piece.escapeChar c = r.toList) ∨
      Piece.reference? c = none ∧ Piece.escapeChar c = [c] := by
  unfold Piece.escapeChar
  cases h : Piece.reference? c with
  | some r => exact .inl ⟨r, rfl, rfl⟩
  | none => exact .inr ⟨rfl, rfl⟩

theorem unescape_escapeChar (c : Char) (cs : List Char) :
    unescape (Piece.escapeChar c ++ cs) = c :: unescape cs := by
  rcases escapeChar_cases c with ⟨r, hr, he⟩ | ⟨hr, he⟩
  · rw [he]
    rcases reference?_cases hr with ⟨rfl, rfl⟩ | ⟨rfl, rfl⟩ | ⟨rfl, rfl⟩ | ⟨rfl, rfl⟩ | ⟨rfl, rfl⟩ <;> rfl
  · rw [he]
    exact unescape_cons (reference?_eq_none hr).1 cs

theorem unescape_escape (s : String) (cs : List Char) :
    unescape ((Piece.escape s).toList ++ cs) = s.toList ++ unescape cs := by
  rw [Piece.escape, String.toList_ofList]
  induction s.toList with
  | nil => rfl
  | cons c s ih =>
    rw [List.flatMap_cons, List.append_assoc, unescape_escapeChar, ih, List.cons_append]

theorem unescape_escape_all (s : String) : unescape (Piece.escape s).toList = s.toList := by
  have h := unescape_escape s []
  rwa [List.append_nil, unescape, List.append_nil] at h

/-- What stands in a page for a text of data: no sign of markup, no stray `&`, and all of the text. -/
structure IsInert (out : List Char) (s : String) : Prop where
  unmarked : ∀ c ∈ out, c ≠ '<' ∧ c ≠ '>' ∧ c ≠ '\"' ∧ c ≠ '\''
  references : ∀ before after, out = before ++ '&' :: after →
    ∃ c r, Piece.reference? c = some r ∧ r.toList <+: '&' :: after
  restored : unescape out = s.toList

theorem unmarked_of_mem_escapeChar {c d : Char} (h : d ∈ Piece.escapeChar c) :
    d ≠ '<' ∧ d ≠ '>' ∧ d ≠ '\"' ∧ d ≠ '\'' := by
  rcases escapeChar_cases c with ⟨r, hr, he⟩ | ⟨hr, he⟩
  · rw [he] at h
    revert d
    rcases reference?_cases hr with ⟨-, rfl⟩ | ⟨-, rfl⟩ | ⟨-, rfl⟩ | ⟨-, rfl⟩ | ⟨-, rfl⟩ <;> simp
  · obtain rfl : d = c := List.mem_singleton.mp (he ▸ h)
    exact (reference?_eq_none hr).2

theorem amp_not_mem_tail {c : Char} {r : String} (h : Piece.reference? c = some r) :
    '&' ∉ r.toList.tail := by
  rcases reference?_cases h with ⟨-, rfl⟩ | ⟨-, rfl⟩ | ⟨-, rfl⟩ | ⟨-, rfl⟩ | ⟨-, rfl⟩ <;> decide

theorem reference_of_escapeChar_eq {c : Char} {before after : List Char}
    (h : Piece.escapeChar c = before ++ '&' :: after) :
    ∃ r, Piece.reference? c = some r ∧ r.toList = '&' :: after := by
  rcases escapeChar_cases c with ⟨r, hr, he⟩ | ⟨hr, he⟩
  · rw [he] at h
    cases before with
    | nil => exact ⟨r, hr, h⟩
    | cons b before =>
      have htail := amp_not_mem_tail hr
      rw [h, List.cons_append, List.tail_cons] at htail
      exact absurd (List.mem_append_right before (List.mem_cons_self ..)) htail
  · have hm : '&' ∈ [c] := he ▸ h ▸ List.mem_append_right before (List.mem_cons_self ..)
    exact absurd (List.mem_singleton.mp hm).symm (reference?_eq_none hr).1

theorem exists_reference_of_flatMap {cs before after : List Char}
    (h : cs.flatMap Piece.escapeChar = before ++ '&' :: after) :
    ∃ c r, Piece.reference? c = some r ∧ r.toList <+: '&' :: after := by
  induction cs generalizing before with
  | nil => simp at h
  | cons c cs ih =>
    rw [List.flatMap_cons, List.append_eq_append_iff] at h
    -- the ampersand stands behind what `c` has become, or within it and then in front of it
    rcases h with ⟨rest, _, hrest⟩ | ⟨block, hblock, hrest⟩
    · exact ih hrest
    · cases block with
      | nil => exact @ih [] hrest.symm
      | cons d block =>
        rw [List.cons_append, List.cons.injEq] at hrest
        obtain ⟨rfl, rfl⟩ := hrest
        obtain ⟨r, hr, heq⟩ := reference_of_escapeChar_eq hblock
        exact ⟨c, r, hr, heq ▸ List.prefix_append ('&' :: block) _⟩

theorem isInert_escape (s : String) : IsInert (Piece.escape s).toList s := by
  refine ⟨fun d hd => ?_, fun before after h => ?_, unescape_escape_all s⟩
  · rw [Piece.escape, String.toList_ofList, List.mem_flatMap] at hd
    obtain ⟨c, _, hc⟩ := hd
    exact unmarked_of_mem_escapeChar hc
  · rw [Piece.escape, String.toList_ofList] at h
    exact exists_reference_of_flatMap h

/-! ## Tags and texts -/

structure Tag where
  name : List Char
  attributes : List (List Char × List Char) := []

inductive Token where
  | tag (tag : Tag)
  | text (content : List Char)

/-- Where a reader stands, and what it has read there, last character first. -/
inductive Place where
  | text (read : List Char)
  | name (read : List Char)
  | inTag (tag : Tag)
  | attr (tag : Tag) (read : List Char)
  | afterEquals (tag : Tag) (attr : List Char)
  | quoted (tag : Tag) (attr : List Char) (quote : Char) (read : List Char)
  | bare (tag : Tag) (attr : List Char) (read : List Char)

def Tag.add (t : Tag) (attr value : List Char) : Tag :=
  { t with attributes := t.attributes ++ [(attr, value)] }

def isGap (c : Char) : Bool :=
  c = ' ' || c = '\n' || c = '\t'

def content (read : List Char) : List Char :=
  unescape read.reverse

namespace Place

/-- Takes one character; one that ends a tag or a text gives it out. -/
def step : Place → Char → Option Token × Place
  | text read, c => if c = '<' then (some (.text (content read)), name []) else (none, text (c :: read))
  | name read, c =>
    if c = '>' then (some (.tag { name := read.reverse }), text [])
    else if isGap c then (none, inTag { name := read.reverse })
    else (none, name (c :: read))
  | inTag t, c =>
    if c = '>' then (some (.tag t), text [])
    else if isGap c then (none, inTag t)
    else (none, attr t [c])
  | attr t read, c =>
    if c = '>' then (some (.tag (t.add read.reverse [])), text [])
    else if isGap c then (none, inTag (t.add read.reverse []))
    else if c = '=' then (none, afterEquals t read.reverse)
    else (none, attr t (c :: read))
  | afterEquals t a, c =>
    if c = '>' then (some (.tag (t.add a [])), text [])
    else if isGap c then (none, afterEquals t a)
    else if c = '\"' ∨ c = '\'' then (none, quoted t a c [])
    else (none, bare t a [c])
  | quoted t a quote read, c =>
    if c = quote then (none, inTag (t.add a (content read))) else (none, quoted t a quote (c :: read))
  | bare t a read, c =>
    if c = '>' then (some (.tag (t.add a (content read))), text [])
    else if isGap c then (none, inTag (t.add a (content read)))
    else (none, bare t a (c :: read))

end Place

/-- What has been given out, last first, and the place reached. -/
structure Reading where
  tokens : List Token
  place : Place

namespace Reading

def take : Reading → Char → Reading
  | ⟨ts, p⟩, c =>
    match p.step c with
    | (out, next) => ⟨out.toList ++ ts, next⟩

def takeAll (r : Reading) (cs : List Char) : Reading :=
  cs.foldl take r

def piece (r : Reading) (p : Piece) : Reading :=
  r.takeAll p.render.toList

def pieces (r : Reading) (ps : List Piece) : Reading :=
  ps.foldl piece r

end Reading

/-- Turns markup that is written out into its characters. To compute `toList` of it, one character
after the other, takes the kernel seconds. -/
theorem toList_literal {s : String} {l : List Char} (h : s = String.ofList l) : s.toList = l := by
  rw [h, String.toList_ofList]

/-- The tags of a text of markup and the texts in front of them, in order. -/
def read (s : String) : List Token :=
  (Reading.takeAll ⟨[], .text []⟩ s.toList).tokens.reverse

namespace Reading

theorem takeAll_append (r : Reading) (cs ds : List Char) :
    r.takeAll (cs ++ ds) = (r.takeAll cs).takeAll ds :=
  List.foldl_append

theorem piece_markup (r : Reading) (source : String) :
    r.piece (.markup source) = r.takeAll source.toList :=
  rfl

theorem pieces_cons (r : Reading) (p : Piece) (ps : List Piece) :
    r.pieces (p :: ps) = (r.piece p).pieces ps :=
  rfl

theorem pieces_append (r : Reading) (ps qs : List Piece) :
    r.pieces (ps ++ qs) = (r.pieces ps).pieces qs :=
  List.foldl_append

theorem takeAll_renderAll (r : Reading) (ps : List Piece) :
    r.takeAll (Piece.renderAll ps).toList = r.pieces ps := by
  rw [Piece.renderAll, String.toList_join]
  induction ps generalizing r with
  | nil => rfl
  | cons p ps ih =>
    rw [List.map_cons, List.flatMap_cons, takeAll_append, ih]
    rfl

/-! ## Texts of data -/

theorem takeAll_of_stays {p : List Char → Place} {cs : List Char}
    (h : ∀ c ∈ cs, ∀ read, (p read).step c = (none, p (c :: read))) (ts : List Token)
    (read : List Char) : takeAll ⟨ts, p read⟩ cs = ⟨ts, p (cs.reverse ++ read)⟩ := by
  induction cs generalizing read with
  | nil => rfl
  | cons c cs ih =>
    obtain ⟨hc, hcs⟩ := List.forall_mem_cons.mp h
    have htake : take ⟨ts, p read⟩ c = ⟨ts, p (c :: read)⟩ := by
      rw [take, hc]
      rfl
    rw [takeAll, List.foldl_cons, htake, List.reverse_cons, List.append_assoc, List.singleton_append]
    exact ih hcs (c :: read)

theorem takeAll_text {cs : List Char} (h : '<' ∉ cs) (ts : List Token) (read : List Char) :
    takeAll ⟨ts, .text read⟩ cs = ⟨ts, .text (cs.reverse ++ read)⟩ :=
  takeAll_of_stays (p := .text) (fun c hc _ => if_neg fun e : c = '<' => h (e ▸ hc)) ts read

theorem takeAll_quoted {quote : Char} {cs : List Char} (h : quote ∉ cs) (ts : List Token) (t : Tag)
    (a read : List Char) :
    takeAll ⟨ts, .quoted t a quote read⟩ cs = ⟨ts, .quoted t a quote (cs.reverse ++ read)⟩ :=
  takeAll_of_stays (p := .quoted t a quote) (fun c hc _ => if_neg fun e : c = quote => h (e ▸ hc)) ts read

theorem piece_text (ts : List Token) (read : List Char) (s : String) :
    piece ⟨ts, .text read⟩ (.text s) = ⟨ts, .text ((Piece.escape s).toList.reverse ++ read)⟩ :=
  takeAll_text (fun h => ((isInert_escape s).unmarked _ h).1 rfl) ts read

theorem piece_text_quoted (ts : List Token) (t : Tag) (a read : List Char) (s : String) :
    piece ⟨ts, .quoted t a '\"' read⟩ (.text s) =
      ⟨ts, .quoted t a '\"' ((Piece.escape s).toList.reverse ++ read)⟩ :=
  takeAll_quoted (fun h => ((isInert_escape s).unmarked _ h).2.2.1 rfl) ts t a read

end Reading

end Markup

end ProxyConsole
