import ProxyConsole.Proofs.PageShape

/-!
# Reading a page back

What a reader finds on a page who knows how cards, rows, the summary and a message are marked up: the
rows of cards with their texts, in order. It is gathered from the end of the page to its start, so
that a heading is met before the card around it, and a card before its row.
-/

namespace ProxyConsole

namespace Markup

/-! ## Marks -/

structure ShownCard where
  style : Option (List Char)
  headings : List (List Char)
  endpoints : List (List Char)

inductive Mark where
  | row
  | card (style : Option (List Char))
  | heading
  | endpoint
  | summary
  | message

def Tag.value? (t : Tag) (attr : List Char) : Option (List Char) :=
  (t.attributes.find? (·.1 = attr)).map (·.2)

def Mark.ofClass? : Option (List Char) → Option Mark
  | some ['e', 'n', 'd', 'p', 'o', 'i', 'n', 't'] => some endpoint
  | some ['s', 'u', 'm', 'm', 'a', 'r', 'y'] => some summary
  | some ['m', 'e', 's', 's', 'a', 'g', 'e'] => some message
  | _ => none

def Tag.mark? (t : Tag) : Option Mark :=
  match t.name with
  | ['d', 'i', 'v'] =>
    if t.value? ['c', 'l', 'a', 's', 's'] = some ['r', 'o', 'w'] then some .row else none
  | ['a', 'r', 't', 'i', 'c', 'l', 'e'] => some (.card (t.value? ['s', 't', 'y', 'l', 'e']))
  | ['h', '2'] => some .heading
  | ['p'] => Mark.ofClass? (t.value? ['c', 'l', 'a', 's', 's'])
  | _ => none

/-- What has been found from some place of a page on: headings and endpoints that are in no card yet,
cards that are in no row yet, rows, summaries and messages. -/
structure Found where
  headings : List (List Char) := []
  endpoints : List (List Char) := []
  cards : List ShownCard := []
  rows : List (List ShownCard) := []
  summaries : List (List Char) := []
  messages : List (List Char) := []

namespace Found

/-- Goes back over a tag that may be a mark, with the text that stands right behind it. -/
def add (f : Found) (behind : List Char) : Option Mark → Found
  | none => f
  | some .row => { f with cards := [], rows := f.cards :: f.rows }
  | some (.card style) =>
    { f with headings := [], endpoints := [], cards := ⟨style, f.headings, f.endpoints⟩ :: f.cards }
  | some .heading => { f with headings := behind :: f.headings }
  | some .endpoint => { f with endpoints := behind :: f.endpoints }
  | some .summary => { f with summaries := behind :: f.summaries }
  | some .message => { f with messages := behind :: f.messages }

def back : List Char × Found → Token → List Char × Found
  | (_, f), .text s => (s, f)
  | (behind, f), .tag t => ([], f.add behind t.mark?)

end Found

def found (html : String) : Found :=
  ((read html).reverse.foldl Found.back ([], {})).2

/-! ## Reading piece by piece -/

open Piece (markup text)

/-- Reads on from a place; the result is written out, so it can be computed with. -/
def run? (ts : List Token) (p : Place) : List Char → Option (List Token × Place)
  | [] => some (ts, p)
  | c :: cs =>
    match p.step c with
    | (some t, q) => run? (t :: ts) q cs
    | (none, q) => run? ts q cs

theorem takeAll_of_run? {ts ts' : List Token} {p p' : Place} {cs : List Char}
    (h : run? ts p cs = some (ts', p')) : Reading.takeAll ⟨ts, p⟩ cs = ⟨ts', p'⟩ := by
  induction cs generalizing ts p with
  | nil =>
    cases h
    rfl
  | cons c cs ih =>
    have htake : Reading.take ⟨ts, p⟩ c = ⟨(p.step c).1.toList ++ ts, (p.step c).2⟩ := rfl
    rw [Reading.takeAll, List.foldl_cons, htake]
    rw [run?] at h
    rcases hs : p.step c with ⟨_ | t, q⟩
    · rw [hs] at h
      exact ih h
    · rw [hs] at h
      exact ih h

/-- The reading stands at a text, and to go back over it is to do `change` and to go back over the
tokens `ts`. What `back` looks for on the way is open. -/
def Reading.Shows {F : Type} (back : List Char × F → Token → List Char × F) (r : Reading)
    (ts : List Token) (change : F → F) : Prop :=
  ∃ read, r.place = .text read ∧
    ∀ f, ∃ behind, r.tokens.foldl back f = ts.foldl back (behind, change f.2)

section
variable {F : Type} {back : List Char × F → Token → List Char × F} {change change' : F → F}

section
variable {ts ts' ts₀ : List Token} {ps : List Piece}

theorem shows_markup {p₀ p : Place} {source : String} {l : List Char} (hl : source = String.ofList l)
    (h : run? ts₀ p₀ l = some (ts', p)) (hrest : (Reading.pieces ⟨ts', p⟩ ps).Shows back ts change) :
    (Reading.pieces ⟨ts₀, p₀⟩ (markup source :: ps)).Shows back ts change := by
  rwa [Reading.pieces_cons, Reading.piece_markup, toList_literal hl, takeAll_of_run? h]

theorem shows_markup_append {p₀ : Place} {a b : String}
    (hrest : (Reading.pieces ⟨ts₀, p₀⟩ (markup a :: markup b :: ps)).Shows back ts change) :
    (Reading.pieces ⟨ts₀, p₀⟩ (markup (a ++ b) :: ps)).Shows back ts change := by
  rw [Reading.pieces_cons, Reading.pieces_cons, Reading.piece_markup, Reading.piece_markup] at hrest
  rwa [Reading.pieces_cons, Reading.piece_markup, String.toList_append, Reading.takeAll_append]

theorem shows_end {read : List Char} (h : ∀ f, ∃ behind,
    ts₀.foldl back f = ts.foldl back (behind, change f.2)) :
    (Reading.pieces ⟨ts₀, .text read⟩ []).Shows back ts change :=
  ⟨read, rfl, h⟩

theorem shows_text {read : List Char} {s : String}
    (hrest : (Reading.pieces ⟨ts₀, .text ((Piece.escape s).toList.reverse ++ read)⟩ ps).Shows back ts change) :
    (Reading.pieces ⟨ts₀, .text read⟩ (text s :: ps)).Shows back ts change := by
  rwa [Reading.pieces_cons, Reading.piece_text]

theorem shows_text_quoted {t : Tag} {a read : List Char} {s : String}
    (hrest : (Reading.pieces ⟨ts₀, .quoted t a '\"' ((Piece.escape s).toList.reverse ++ read)⟩ ps).Shows
      back ts change) :
    (Reading.pieces ⟨ts₀, .quoted t a '\"' read⟩ (text s :: ps)).Shows back ts change := by
  rwa [Reading.pieces_cons, Reading.piece_text_quoted]

/-! ## Runs of text -/

theorem content_escape (s : String) : content ((Piece.escape s).toList.reverse ++ []) = s.toList := by
  rw [content, List.append_nil, List.reverse_reverse, unescape_escape_all]

def plain : Piece → List Char
  | markup source => source.toList
  | text s => s.toList

theorem unescape_append {cs : List Char} (h : '&' ∉ cs) (ds : List Char) :
    unescape (cs ++ ds) = cs ++ unescape ds := by
  induction cs with
  | nil => rfl
  | cons c cs ih =>
    rw [List.mem_cons, not_or] at h
    rw [List.cons_append, unescape_cons (Ne.symm h.1), ih h.2, List.cons_append]

/-- Pieces without a tag. -/
def IsRun (ps : List Piece) : Prop :=
  ∀ source, markup source ∈ ps → '<' ∉ source.toList ∧ '&' ∉ source.toList

theorem unescape_run {qs : List Piece} (h : IsRun qs) :
    unescape (qs.flatMap fun q => q.render.toList) = qs.flatMap plain := by
  induction qs with
  | nil => rfl
  | cons q qs ih =>
    have hqs : IsRun qs := fun source hs => h source (List.mem_cons_of_mem q hs)
    rw [List.flatMap_cons, List.flatMap_cons, ← ih hqs]
    cases q with
    | markup source => exact unescape_append (h source (List.mem_cons_self ..)).2 _
    | text s => exact unescape_escape s _

theorem pieces_run {qs : List Piece} (h : IsRun qs) (ts : List Token) (read : List Char) :
    Reading.pieces ⟨ts, .text read⟩ qs =
      ⟨ts, .text ((qs.flatMap fun q => q.render.toList).reverse ++ read)⟩ := by
  induction qs generalizing read with
  | nil => rfl
  | cons q qs ih =>
    have hqs : IsRun qs := fun source hs => h source (List.mem_cons_of_mem q hs)
    have hq : Reading.piece ⟨ts, .text read⟩ q = ⟨ts, .text (q.render.toList.reverse ++ read)⟩ := by
      cases q with
      | markup source => exact Reading.takeAll_text (h source (List.mem_cons_self ..)).1 ts read
      | text s => exact Reading.piece_text ts read s
    rw [Reading.pieces_cons, hq, ih hqs]
    simp

/-- A run of text up to a tag is given out as what it says. -/
theorem shows_run {qs r : List Piece} {s source : String} {l : List Char} {p : Place}
    (hs : r.flatMap plain = s.toList) (hr : IsRun r) (hqs : qs = r ++ markup source :: ps)
    (hl : source = String.ofList ('<' :: l))
    (h : run? (.text s.toList :: ts₀) (.name []) l = some (ts', p))
    (hrest : (Reading.pieces ⟨ts', p⟩ ps).Shows back ts change) :
    (Reading.pieces ⟨ts₀, .text []⟩ qs).Shows back ts change := by
  rw [hqs, Reading.pieces_append, pieces_run hr, List.append_nil]
  refine shows_markup hl ?_ hrest
  rw [run?, ← h, ← hs, ← unescape_run hr]
  simp [Place.step, content]

end

/-- Pieces that stand between texts and show what `change` adds to what is found behind them. -/
def Shows (back : List Char × F → Token → List Char × F) (ps : List Piece) (change : F → F) : Prop :=
  ∀ ts read, (Reading.pieces ⟨ts, .text read⟩ ps).Shows back ts change

theorem shows_one {source : String} {l : List Char}
    {next : List Token → List Char → List Token} {tail : List Char → List Char}
    (hl : source = String.ofList l)
    (h : ∀ ts read, run? ts (.text read) l = some (next ts read, .text (tail read)))
    (hback : ∀ ts read f, ∃ behind,
      (next ts read).foldl back f = ts.foldl back (behind, change f.2)) :
    Shows back [markup source] change :=
  fun ts read => shows_markup hl (h ts read) (shows_end (hback ts read))

theorem shows_nil : Shows back [] id :=
  fun _ read => ⟨read, rfl, fun f => ⟨f.1, rfl⟩⟩

theorem Shows.append {ps qs : List Piece} (hp : Shows back ps change) (hq : Shows back qs change') :
    Shows back (ps ++ qs) (change ∘ change') := by
  intro ts read
  obtain ⟨read₁, hplace₁, hback₁⟩ := hp ts read
  rw [Reading.pieces_append]
  rcases hr : Reading.pieces ⟨ts, .text read⟩ ps with ⟨ts₁, p₁⟩
  rw [hr] at hplace₁ hback₁
  obtain rfl : p₁ = .text read₁ := hplace₁
  obtain ⟨read₂, hplace₂, hback₂⟩ := hq ts₁ read₁
  refine ⟨read₂, hplace₂, fun f => ?_⟩
  obtain ⟨behind, hbehind⟩ := hback₂ f
  obtain ⟨behind', hbehind'⟩ := hback₁ (behind, change' f.2)
  exact ⟨behind', by rw [hbehind, hbehind']; rfl⟩

theorem shows_flatMap {α : Type} {g : α → List Piece} {change : α → F → F}
    (h : ∀ a, Shows back (g a) (change a)) (l : List α) :
    Shows back (l.flatMap g) fun f => l.foldr change f := by
  induction l with
  | nil => exact shows_nil
  | cons a l ih => exact (h a).append ih

theorem foldl_back_of_shows {ps : List Piece} (h : Shows back ps change) (f : F) :
    ((read (Piece.renderAll ps)).reverse.foldl back ([], f)).2 = change f := by
  obtain ⟨read, _, hback⟩ := h [] []
  obtain ⟨behind, hbehind⟩ := hback ([], f)
  rw [Markup.read, Reading.takeAll_renderAll, List.reverse_reverse, hbehind]
  rfl

end

theorem found_of_shows {ps : List Piece} {change : Found → Found} (h : Shows Found.back ps change) :
    found (Piece.renderAll ps) = change {} :=
  foldl_back_of_shows h {}

end Markup

open Markup
open Piece (markup text)

/-! ## What stands around a content -/

/-- A reader that passes over every tag in front of the items of a page but the link there. -/
structure Markup.PassesHead {F : Type} (back : List Char × F → Token → List Char × F) : Prop where
  text : ∀ behind f s, back (behind, f) (.text s) = (s, f)
  tag : ∀ behind f t, (["!DOCTYPE", "html", "head", "meta", "title", "/title", "/head", "body", "nav",
    "/a", "ul"].map String.toList).contains t.name → back (behind, f) (.tag t) = ([], f)

/-- A reader that passes over every tag but those of links, terms with what is said of them, divisions,
articles, headings of the second level and paragraphs. -/
structure Markup.PassesLayout {F : Type} (back : List Char × F → Token → List Char × F) : Prop where
  text : ∀ behind f s, back (behind, f) (.text s) = (s, f)
  tag : ∀ behind f t, [['a'], ['d', 't'], ['d', 'd'], ['d', 'i', 'v'],
    ['a', 'r', 't', 'i', 'c', 'l', 'e'], ['h', '2'], ['p']].contains t.name = false →
    back (behind, f) (.tag t) = ([], f)

/-- It passes over links too, so it sees nothing but the content. -/
structure Markup.PassesFrame {F : Type} (back : List Char × F → Token → List Char × F) : Prop
    extends PassesLayout back where
  link : ∀ behind f t, t.name = ['a'] → back (behind, f) (.tag t) = ([], f)

@[simp]
theorem Markup.Tag.name_add (t : Tag) (attr value : List Char) : (t.add attr value).name = t.name :=
  rfl

/-- Where an item leads to, and whether it is marked. -/
def NavItem.attributes (i : NavItem) : List (List Char × List Char) :=
  ("href".toList, i.path.toList) ::
    if i.active then [("class".toList, "active".toList), ("aria-current".toList, "page".toList)] else []

/-- The tokens of an item, the last of them first, and the text in front of it. -/
def NavItem.tokens (i : NavItem) (before : List Char) : List Token :=
  [.tag ⟨"/li".toList, []⟩, .text [], .tag ⟨"/a".toList, []⟩, .text i.title.toList,
    .tag ⟨['a'], i.attributes⟩, .text [], .tag ⟨"li".toList, []⟩, .text before]

section
variable {F : Type} {back : List Char × F → Token → List Char × F}

theorem Markup.PassesLayout.passesHead (hback : PassesLayout back) : PassesHead back where
  text := hback.text
  tag behind f t h := by
    refine hback.tag behind f t ?_
    revert h
    simp only [List.contains_iff_mem]
    generalize t.name = n
    revert n
    decide

section
variable {change : F → F}

theorem Page.shows_head (hback : PassesHead back) (hlink : ∀ f, back ("ssmgr".toList, f) (.tag
      ⟨['a'], [("class".toList, "brand".toList), ("href".toList, "/".toList)]⟩) = ([], change f))
    (title : String) : Shows back
    [markup ("<!DOCTYPE html>\n<html lang=\"en\">\n<head>\n  <meta charset=\"utf-8\">\n" ++
      "  <meta name=\"viewport\" content=\"width=device-width, initial-scale=1\">\n  <title>"),
    text title,
    markup (" · ssmgr</title>\n</head>\n<body>\n  <nav class=\"sidenav\">\n" ++
      "    <a class=\"brand\" href=\"/\">ssmgr</a>\n    <ul>\n      ")] change := by
  intro ts read
  refine shows_markup_append ?_
  refine shows_markup rfl rfl ?_
  refine shows_markup rfl rfl ?_
  refine shows_text ?_
  refine shows_markup_append ?_
  refine shows_markup rfl rfl ?_
  refine shows_markup rfl rfl ?_
  refine shows_end fun f => ?_
  obtain ⟨behind, f⟩ := f
  simp (disch := simp) only [List.foldl_cons, hback.text, hback.tag]
  exact ⟨_, congrArg (fun r => ts.foldl back (_, r.2)) (hlink f)⟩

theorem NavItem.shows_of_tokens {i : NavItem}
    (h : ∀ before f, ∃ behind, (i.tokens before).foldl back f = (behind, change f.2)) :
    Shows back i.pieces change := by
  have htitle : [text i.title].flatMap plain = i.title.toList := by simp [plain]
  intro ts read
  unfold tokens attributes at h
  cases hactive : i.active <;>
  · simp only [pieces, hactive, if_true, Bool.false_eq_true, if_false] at h ⊢
    refine shows_markup rfl rfl ?_
    refine shows_text_quoted ?_
    refine shows_markup rfl rfl ?_
    refine shows_run htitle (by simp [IsRun]) rfl rfl rfl ?_
    refine shows_end fun f => ?_
    rw [content_escape]
    exact (h _ f).imp fun _ hbehind => congrArg (ts.foldl back ·) hbehind

end

theorem Page.shows_middle (hback : PassesLayout back) (title : String) : Shows back
    [markup "\n    </ul>\n  </nav>\n  <main>\n    <h1>", text title, markup "</h1>\n    "] id := by
  intro ts read
  refine shows_markup rfl rfl ?_
  refine shows_text ?_
  refine shows_markup rfl rfl ?_
  refine shows_end fun f => ?_
  obtain ⟨behind, f⟩ := f
  simp (disch := simp) only [List.foldl_cons, hback.text, hback.tag]
  exact ⟨_, rfl⟩

theorem Page.shows_tail (hback : PassesLayout back) :
    Shows back [markup "\n  </main>\n</body>\n</html>"] id := by
  intro ts read
  refine shows_markup rfl rfl ?_
  refine shows_end fun f => ?_
  obtain ⟨behind, f⟩ := f
  simp (disch := simp) only [List.foldl_cons, hback.text, hback.tag]
  exact ⟨_, rfl⟩

variable (hback : PassesFrame back)
include hback

theorem NavItem.shows_pieces (i : NavItem) : Shows back i.pieces id := by
  refine shows_of_tokens fun before f => ⟨before, ?_⟩
  obtain ⟨behind, f⟩ := f
  simp (disch := simp) only [tokens, List.foldl_cons, hback.text, hback.tag, hback.link]
  rfl

theorem Page.shows_pieces (p : Page) {change : F → F} (h : Shows back p.content.pieces change) :
    Shows back p.pieces change := by
  have hnav := shows_flatMap (NavItem.shows_pieces hback) p.nav
  have hno : (fun f : F => p.nav.foldr (fun _ => id) f) = id := by
    funext f
    induction p.nav with
    | nil => rfl
    | cons i nav ih => exact ih
  rw [hno] at hnav
  have hhead := shows_head hback.passesHead (fun f => hback.link _ f _ rfl) p.title
  exact (((hhead.append hnav).append
    (shows_middle hback.toPassesLayout p.title)).append h).append (shows_tail hback.toPassesLayout)

end

theorem Markup.Tag.mark?_eq_none {t : Tag} (h : [['d', 'i', 'v'],
    ['a', 'r', 't', 'i', 'c', 'l', 'e'], ['h', '2'], ['p']].contains t.name = false) :
    t.mark? = none := by
  unfold Tag.mark?
  split
  case h_5 => rfl
  all_goals
    rename_i heq
    rw [heq] at h
    cases h

theorem Markup.Found.passesFrame : PassesFrame Found.back := by
  have hback : ∀ behind f (t : Tag), t.mark? = none → Found.back (behind, f) (.tag t) = ([], f) := by
    intro behind f t h
    show ([], f.add behind t.mark?) = _
    rw [h]
    rfl
  refine ⟨⟨fun _ _ _ => rfl, fun behind f t hname => ?_⟩, fun behind f t hname => ?_⟩
  · refine hback behind f t (Tag.mark?_eq_none ?_)
    simp at hname
    simp [hname]
  · refine hback behind f t (Tag.mark?_eq_none ?_)
    simp [hname]

/-! ## Cards -/

namespace Card

def endpoint (c : Card) : String :=
  c.address ++ ":" ++ Decimal.ofNat c.port.toNat

def style (flex : Nat) : String :=
  "flex: 0 0 " ++ Decimal.ofNat flex ++ "%;"

theorem content_style (flex : Nat) :
    content (';' :: '%' :: ((Piece.escape (Decimal.ofNat flex)).toList.reverse ++
      [' ', '0', ' ', '0', ' ', ':', 'x', 'e', 'l', 'f'])) = (style flex).toList := by
  rw [style, content]
  simp [unescape_escape, unescape_cons, unescape]

def change (flex : Nat) (c : Card) (f : Found) : Found :=
  { f with
    headings := []
    endpoints := []
    cards := ⟨some (style flex).toList, c.id.toList :: f.headings,
      c.endpoint.toList :: f.endpoints⟩ :: f.cards }

theorem shows_pieces (flex : Nat) (c : Card) : Shows Found.back (c.pieces flex) (c.change flex) := by
  have hid : [text c.id].flatMap plain = c.id.toList := by simp [plain]
  have hendpoint : [text c.address, markup ":", text (Decimal.ofNat c.port.toNat)].flatMap plain =
      c.endpoint.toList := by
    simp [plain, endpoint]
  intro ts read
  rw [pieces]
  refine shows_markup rfl rfl ?_
  refine shows_text_quoted ?_
  refine shows_markup rfl rfl ?_
  refine shows_run hid (by simp [IsRun]) rfl rfl rfl ?_
  refine shows_run hendpoint (by simp [IsRun]) rfl rfl rfl ?_
  refine shows_end fun f => ?_
  simp only [List.foldl_cons, Found.back, content_style]
  exact ⟨_, rfl⟩

end Card

/-! ## The grid -/

namespace CardGrid

theorem shows_rowPieces (flex : Nat) (row : List Card) : Shows Found.back (rowPieces flex row) fun f =>
    (row.foldr (Card.change flex) f).add [] (some .row) := by
  have hopening : Shows Found.back [markup
      "\n  <div class=\"row\" style=\"display: flex; justify-content: space-between;\">\n    "]
      fun f => f.add [] (some .row) :=
    shows_one rfl (fun _ _ => rfl) fun _ _ _ => ⟨_, rfl⟩
  have hclosing : Shows Found.back [markup "\n  </div>\n  "] id :=
    shows_one rfl (fun _ _ => rfl) fun _ _ _ => ⟨_, rfl⟩
  exact (hopening.append (shows_flatMap (Card.shows_pieces flex) row)).append hclosing

def summaryText (g : CardGrid) : String :=
  Decimal.ofNat g.servers ++ " servers, " ++ Decimal.ofNat g.columnsPerRow ++ " per row (default " ++
    Decimal.ofNat g.standardColumns ++ ")"

theorem shows_summary (g : CardGrid) :
    Shows Found.back g.summary fun f => { f with summaries := g.summaryText.toList :: f.summaries } := by
  -- the closing bracket is text and stands in one piece of markup with the tag behind it
  have hsplit : Piece.renderAll g.summary = Piece.renderAll [markup "\n<p class=\"summary\">",
      text (Decimal.ofNat g.servers), markup " servers, ", text (Decimal.ofNat g.columnsPerRow),
      markup " per row (default ", text (Decimal.ofNat g.standardColumns), markup ")",
      markup "</p>\n"] := by
    have hbracket : ")</p>\n" = ")" ++ "</p>\n" := rfl
    simp only [summary, Piece.renderAll, List.map_cons, List.map_nil, Piece.render, hbracket]
    simp [String.join, String.append_assoc]
  have htext : [text (Decimal.ofNat g.servers), markup " servers, ",
      text (Decimal.ofNat g.columnsPerRow), markup " per row (default ",
      text (Decimal.ofNat g.standardColumns), markup ")"].flatMap plain = g.summaryText.toList := by
    simp [plain, summaryText]
  intro ts read
  rw [← Reading.takeAll_renderAll, hsplit, Reading.takeAll_renderAll]
  refine shows_markup rfl rfl ?_
  refine shows_run htext (by simp [IsRun]) rfl rfl rfl ?_
  refine shows_end fun f => ?_
  simp only [List.foldl_cons, Found.back]
  exact ⟨_, rfl⟩

theorem shows_pieces (g : CardGrid) : Shows Found.back g.pieces fun f =>
    let f := g.rows.foldr (fun row f => (row.foldr (Card.change g.cardFlexPercent) f).add [] (some .row)) f
    { f with summaries := g.summaryText.toList :: f.summaries } := by
  have hend : Shows Found.back [markup "\n"] id := shows_one rfl (fun _ _ => rfl) fun _ _ f => ⟨f.1, rfl⟩
  refine (g.shows_summary.append (?_ : Shows Found.back _ fun f => g.rows.foldr _ f)).append hend
  split
  · rename_i hrows
    rw [List.isEmpty_iff.mp hrows]
    exact shows_one rfl (fun _ _ => rfl) fun _ _ _ => ⟨_, rfl⟩
  · have hopening : Shows Found.back [markup "\n<section class=\"grid\">\n  "] id :=
      shows_one rfl (fun _ _ => rfl) fun _ _ _ => ⟨_, rfl⟩
    have hclosing : Shows Found.back [markup "\n</section>\n"] id :=
      shows_one rfl (fun _ _ => rfl) fun _ _ _ => ⟨_, rfl⟩
    exact (hopening.append (shows_flatMap (shows_rowPieces g.cardFlexPercent) g.rows)).append hclosing

end CardGrid

/-! ## Messages -/

theorem shows_failurePieces (status : Nat) (message : String) :
    Shows Found.back (Content.failurePieces status message) fun f =>
      { f with messages := message.toList :: f.messages } := by
  have hstatus : [text (Decimal.ofNat status)].flatMap plain = (Decimal.ofNat status).toList := by
    simp [plain]
  have hmessage : [text message].flatMap plain = message.toList := by simp [plain]
  intro ts read
  rw [Content.failurePieces]
  refine shows_markup rfl rfl ?_
  refine shows_run hstatus (by simp [IsRun]) rfl rfl rfl ?_
  refine shows_run hmessage (by simp [IsRun]) rfl rfl rfl ?_
  refine shows_end fun f => ?_
  simp only [List.foldl_cons, Found.back]
  exact ⟨_, rfl⟩

/-! ## What is found -/

def Card.shown (flex : Nat) (c : Card) : ShownCard :=
  ⟨some (style flex).toList, [c.id.toList], [c.endpoint.toList]⟩

theorem Card.foldr_change (flex : Nat) (row : List Card) {f : Found} (hheadings : f.headings = [])
    (hendpoints : f.endpoints = []) :
    row.foldr (change flex) f = { f with cards := row.map (shown flex) ++ f.cards } := by
  induction row with
  | nil => rfl
  | cons c row ih =>
    rw [List.foldr_cons, ih, change, List.map_cons, List.cons_append]
    simp only [hheadings, hendpoints]
    rfl

theorem CardGrid.foldr_rows (flex : Nat) (rows : List (List Card)) :
    rows.foldr (fun row f => (row.foldr (Card.change flex) f).add [] (some .row)) {} =
      { rows := rows.map (·.map (Card.shown flex)) } := by
  induction rows with
  | nil => rfl
  | cons row rows ih =>
    rw [List.foldr_cons, ih, Card.foldr_change flex row rfl rfl]
    simp [Found.add]

theorem Page.found_cardGrid {p : Page} {g : CardGrid} (h : p.content = .cardGrid g) :
    found p.html = { rows := g.rows.map (·.map (Card.shown g.cardFlexPercent))
                     summaries := [g.summaryText.toList] } := by
  have hpieces : p.content.pieces = g.pieces := by rw [h, Content.pieces]
  have hshows := g.shows_pieces
  rw [← hpieces] at hshows
  rw [html, found_of_shows (p.shows_pieces Found.passesFrame hshows)]
  simp only [CardGrid.foldr_rows]

theorem Page.found_failure {p : Page} {status : Nat} {message : String}
    (h : p.content = .failure status message) : found p.html = { messages := [message.toList] } := by
  have hpieces : p.content.pieces = Content.failurePieces status message := by rw [h, Content.pieces]
  have hshows := shows_failurePieces status message
  rw [← hpieces] at hshows
  rw [html, found_of_shows (p.shows_pieces Found.passesFrame hshows)]

end ProxyConsole
