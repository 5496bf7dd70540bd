import Mathlib.Tactic.SplitIfs
import ProxyConsole.Page
import ProxyConsole.Proofs.Markup

/-!
# The shape of a page

The texts of a page are the strings of its title, its navigation and its content, in order. A reader
of markup that forgets texts and values takes the same steps on two pages of one shape: their markup
is the same piece by piece, and a text of data stands only where a reader passes it over. So data has
no say in the tags of a page and their attributes.
-/

namespace ProxyConsole

namespace Markup

/-! ## Reading without texts and values -/

def Tag.blank (t : Tag) : Tag :=
  { t with attributes := t.attributes.map fun a => (a.1, []) }

def Token.blank : Token → Token
  | .tag t => .tag t.blank
  | .text _ => .text []

def Place.blank : Place → Place
  | .text _ => .text []
  | .name read => .name read
  | .inTag t => .inTag t.blank
  | .attr t read => .attr t.blank read
  | .afterEquals t a => .afterEquals t.blank a
  | .quoted t a quote _ => .quoted t.blank a quote []
  | .bare t a _ => .bare t.blank a []

def Reading.blank (r : Reading) : Reading :=
  ⟨r.tokens.map Token.blank, r.place.blank⟩

@[simp] theorem Tag.blank_blank (t : Tag) : t.blank.blank = t.blank := by
  simp [blank]

@[simp] theorem Place.blank_blank (p : Place) : p.blank.blank = p.blank := by
  cases p <;> simp [blank]

@[simp] theorem Tag.blank_add (t : Tag) (a value : List Char) :
    (t.add a value).blank = t.blank.add a [] := by
  simp [blank, add]

def Place.takesText : Place → Bool
  | .text _ => true
  | .quoted _ _ quote _ => quote = '\"'
  | _ => false

theorem Place.takesText_blank (p : Place) : p.blank.takesText = p.takesText := by
  cases p <;> rfl

def Place.after (p : Place) (cs : List Char) : Place :=
  cs.foldl (fun p c => (p.step c).2) p

/-- What a step gives out and the place it leads to, without texts and values. -/
def blankStep (out : Option Token × Place) : Option Token × Place :=
  (out.1.map Token.blank, out.2.blank)

theorem blankStep_blank (p : Place) (c : Char) : blankStep (p.blank.step c) = blankStep (p.step c) := by
  -- a name is no text: it is kept, and decides what the step gives out
  cases p with
  | name read => rfl
  | text read | quoted t a quote read | inTag t | attr t read | afterEquals t a | bare t a read =>
    simp only [Place.blank, Place.step]
    split_ifs <;> simp [blankStep, Token.blank, Place.blank]

namespace Reading

theorem place_of_blank {r r' : Reading} (h : r.blank = r'.blank) : r.place.blank = r'.place.blank :=
  (Reading.mk.inj h).2

theorem blank_take {r r' : Reading} (h : r.blank = r'.blank) (c : Char) :
    (r.take c).blank = (r'.take c).blank := by
  obtain ⟨htokens, hplace⟩ := Reading.mk.inj h
  have hstep : blankStep (r.place.step c) = blankStep (r'.place.step c) := by
    rw [← blankStep_blank, hplace, blankStep_blank]
  obtain ⟨hout, hnext⟩ := Prod.mk.inj hstep
  simp only [blank, take, List.map_append, ← Option.toList_map, htokens, hout, hnext]

theorem blank_takeAll {r r' : Reading} (h : r.blank = r'.blank) (cs : List Char) :
    (r.takeAll cs).blank = (r'.takeAll cs).blank := by
  induction cs generalizing r r' with
  | nil => exact h
  | cons c cs ih => exact ih (blank_take h c)

theorem blank_piece_text {r : Reading} (h : r.place.takesText = true) (s : String) :
    (r.piece (.text s)).blank = r.blank := by
  obtain ⟨ts, p⟩ := r
  cases p with
  | text read =>
    rw [piece_text]
    simp only [blank, Place.blank]
  | quoted t a quote read =>
    obtain rfl : quote = '\"' := of_decide_eq_true h
    rw [piece_text_quoted]
    simp only [blank, Place.blank]
  | _ => cases h

theorem place_takeAll (r : Reading) (cs : List Char) : (r.takeAll cs).place = r.place.after cs := by
  induction cs generalizing r with
  | nil => rfl
  | cons c cs ih => exact ih (r.take c)

end Reading

def Token.tag? : Token → Option (String × List String)
  | .tag t => some (String.ofList t.name, t.attributes.map fun a => String.ofList a.1)
  | .text _ => none

/-- The tags of a text of markup and their attributes, in order. -/
def tags (s : String) : List (String × List String) :=
  (read s).filterMap Token.tag?

@[simp] theorem Token.tag?_blank (t : Token) : t.blank.tag? = t.tag? := by
  cases t <;> simp [blank, tag?, Tag.blank, Function.comp_def]

theorem filterMap_tag?_of_blank {r r' : Reading} (h : r.blank = r'.blank) :
    r.tokens.filterMap Token.tag? = r'.tokens.filterMap Token.tag? := by
  have htokens := congrArg (List.filterMap Token.tag?) (Reading.mk.inj h).1
  simpa [List.filterMap_map, Function.comp_def] using htokens

example : tags "<p class=\"<\">a <i>&#60;i></i>" = [("p", ["class"]), ("i", []), ("/i", [])] := by
  decide

theorem Place.blank_after {p q : Place} (h : p.blank = q.blank) (cs : List Char) :
    (p.after cs).blank = (q.after cs).blank := by
  have hr : Reading.blank ⟨[], p⟩ = Reading.blank ⟨[], q⟩ := by rw [Reading.blank, Reading.blank, h]
  have := Reading.place_of_blank (Reading.blank_takeAll hr cs)
  rwa [Reading.place_takeAll, Reading.place_takeAll] at this

end Markup

open Markup

/-! ## Pieces -/

namespace Piece

/-- The markup of a piece; a text of data leaves a gap. -/
def frame? : Piece → Option String
  | markup source => some source
  | text _ => none

/-- The place after a piece; a text of data has to stand where a reader passes it over. -/
def pass? (p : Place) : Piece → Option Place
  | markup source => some (p.after source.toList).blank
  | text _ => if p.takesText then some p else none

def through? (p : Place) (ps : List Piece) : Option Place :=
  ps.foldlM pass? p

theorem through?_markup (p : Place) (source : String) (ps : List Piece) :
    through? p (markup source :: ps) = through? (p.after source.toList).blank ps :=
  rfl

theorem through?_text (p : Place) (content : String) (ps : List Piece) :
    through? p (text content :: ps) = if p.takesText then through? p ps else none := by
  show (if p.takesText then some p else none).bind (through? · ps) = _
  split <;> rfl

theorem through?_nil (p : Place) : through? p [] = some p :=
  rfl

theorem through?_append (p : Place) (ps qs : List Piece) :
    through? p (ps ++ qs) = (through? p ps).bind (through? · qs) :=
  List.foldlM_append

/-- Pieces that lead from text to text, with each text of data where a reader passes it over. -/
def IsWhole (ps : List Piece) : Prop :=
  through? (.text []) ps = some (.text [])

theorem IsWhole.append {ps qs : List Piece} (hp : IsWhole ps) (hq : IsWhole qs) :
    IsWhole (ps ++ qs) := by
  rw [IsWhole, through?_append, hp]
  exact hq

theorem isWhole_block {opening closing : String} {ps : List Piece} (ho : IsWhole [markup opening])
    (hp : IsWhole ps) (hc : IsWhole [markup closing]) :
    IsWhole (markup opening :: ps ++ [markup closing]) :=
  (ho.append hp).append hc

theorem isWhole_flatMap {α : Type} {f : α → List Piece} (h : ∀ a, IsWhole (f a)) (l : List α) :
    IsWhole (l.flatMap f) := by
  induction l with
  | nil => rfl
  | cons a l ih => exact (h a).append ih

theorem blank_piece {r r' : Reading} (hr : r.blank = r'.blank) {piece piece' : Piece}
    (hframe : piece.frame? = piece'.frame?) {q : Place} (hq : pass? r.place.blank piece = some q) :
    (r.piece piece).blank = (r'.piece piece').blank ∧ (r.piece piece).place.blank = q := by
  cases piece with
  | markup source =>
    cases piece' with
    | text s' => cases hframe
    | markup source' =>
      cases hframe
      refine ⟨Reading.blank_takeAll hr _, ?_⟩
      rw [← Option.some.inj hq, Reading.piece, Reading.place_takeAll]
      exact Place.blank_after (Place.blank_blank _).symm _
  | text s =>
    cases piece' with
    | markup source' => cases hframe
    | text s' =>
      have hplace := Reading.place_of_blank hr
      rw [pass?, Place.takesText_blank] at hq
      split at hq
      · rename_i htakes
        have htakes' : r'.place.takesText = true := by
          rw [← Place.takesText_blank, ← hplace, Place.takesText_blank, htakes]
        have hblank := Reading.blank_piece_text htakes s
        have hblank' := Reading.blank_piece_text htakes' s'
        exact ⟨hblank.trans (hr.trans hblank'.symm),
          (Reading.place_of_blank hblank).trans (Option.some.inj hq)⟩
      · cases hq

/-- Two readings that differ in texts and values only still do so after pieces that differ in their
texts only. -/
theorem blank_pieces {r r' : Reading} {ps ps' : List Piece} (hr : r.blank = r'.blank)
    (hframe : ps.map frame? = ps'.map frame?) {q : Place} (hq : through? r.place.blank ps = some q) :
    (r.pieces ps).blank = (r'.pieces ps').blank := by
  -- both readings stay at one place but for its texts, and `through?` follows that place
  induction ps generalizing r r' ps' with
  | nil =>
    obtain rfl := List.map_eq_nil_iff.mp hframe.symm
    exact hr
  | cons piece ps ih =>
    cases ps' with
    | nil => cases hframe
    | cons piece' ps' =>
      obtain ⟨hhead, htail⟩ := List.cons.inj hframe
      obtain ⟨p, hp, hrest⟩ := Option.bind_eq_some_iff.mp hq
      obtain ⟨hread, hplace⟩ := blank_piece hr hhead hp
      exact @ih (r.piece piece) (r'.piece piece') ps' hread htail (hplace ▸ hrest)

end Piece

/-! ## Pages -/

inductive Content.Shape where
  | overview (linked : Bool)
  | cardGrid (rowLengths : List Nat)
  | accounts (rows : Nat)
  | signIn
  | plans (cards : Nat)
  | failure
  deriving DecidableEq

def Content.shape : Content → Content.Shape
  | .overview o => .overview o.managerPath.isSome
  | .cardGrid g => .cardGrid (g.rows.map List.length)
  | .accounts rows => .accounts rows.length
  | .signIn => .signIn
  | .plans ps => .plans ps.length
  | .failure _ _ => .failure

/-- What is left of a page without its texts and numbers: which items of the navigation are active,
and the shape of the content. -/
structure Page.Shape where
  active : List Bool
  content : Content.Shape
  deriving DecidableEq

def Page.shape (p : Page) : Page.Shape :=
  ⟨p.nav.map NavItem.active, p.content.shape⟩

/-! ## The texts of a page -/

/-- The text that a piece holds; markup holds none. -/
def Piece.text? : Piece → Option String
  | markup _ => none
  | text content => some content

def AccountRow.texts (r : AccountRow) : List String :=
  [r.name, r.email, r.phone, r.joined]

def Card.texts (flexPercent : Nat) (c : Card) : List String :=
  [Decimal.ofNat flexPercent, c.id, c.address, Decimal.ofNat c.port.toNat]

def Plan.texts (p : Plan) : List String :=
  [p.name, p.priceLabel, p.description]

/-- The strings of a content, in the order in which it shows them. -/
def Content.texts : Content → List String
  | .overview o =>
    [o.servers, o.users, o.admins, o.products].map Decimal.ofNat ++ o.managerPath.toList
  | .cardGrid g =>
    [g.servers, g.columnsPerRow, g.standardColumns].map Decimal.ofNat ++
      g.rows.flatMap (·.flatMap (Card.texts g.cardFlexPercent))
  | .accounts rows => rows.flatMap AccountRow.texts
  | .signIn => []
  | .plans ps => ps.flatMap Plan.texts
  | .failure status message => [Decimal.ofNat status, message]

/-- The strings of a page. The title stands in its head and as its heading. -/
def Page.texts (p : Page) : List String :=
  [p.title] ++ p.nav.flatMap (fun i => [i.path, i.title]) ++ [p.title] ++ p.content.texts

namespace Piece

@[simp] theorem texts_markup (source : String) (ps : List Piece) :
    (markup source :: ps).filterMap text? = ps.filterMap text? :=
  rfl

@[simp] theorem texts_text (content : String) (ps : List Piece) :
    (text content :: ps).filterMap text? = content :: ps.filterMap text? :=
  rfl

theorem texts_flatMap {α : Type} {f : α → List Piece} {g : α → List String}
    (h : ∀ a, (f a).filterMap text? = g a) (l : List α) :
    (l.flatMap f).filterMap text? = l.flatMap g := by
  simp only [List.filterMap_flatMap, h]

/-- Without any items a piece of markup stands for the block of them. -/
theorem texts_block {α : Type} {f : α → List Piece} {g : α → List String}
    (h : ∀ a, (f a).filterMap text? = g a) (l : List α) (nothing opening closing : String) :
    (if l.isEmpty then [markup nothing]
      else markup opening :: l.flatMap f ++ [markup closing]).filterMap text? = l.flatMap g := by
  cases l with
  | nil => rfl
  | cons a l => simp [h, texts_flatMap h l]

end Piece

open Piece

theorem CardGrid.texts_rowPieces (flex : Nat) (row : List Card) :
    (rowPieces flex row).filterMap text? = row.flatMap (Card.texts flex) := by
  have hcards := texts_flatMap (f := Card.pieces flex) (g := Card.texts flex) (fun _ => rfl) row
  simp [rowPieces, hcards]

theorem Content.texts_pieces (c : Content) : c.pieces.filterMap text? = c.texts := by
  cases c with
  | overview o =>
    cases ho : o.managerPath <;> simp [pieces, Overview.pieces, Overview.managerLink, texts, ho]
  | cardGrid g =>
    have hrows := texts_block (CardGrid.texts_rowPieces g.cardFlexPercent) g.rows
    simp only [pieces, CardGrid.pieces, List.filterMap_append, hrows]
    simp [CardGrid.summary, texts]
  | accounts rows => exact texts_block (fun _ => rfl) rows ..
  | signIn => rfl
  | plans ps => exact texts_block (fun _ => rfl) ps ..
  | failure status message => rfl

theorem Page.texts_pieces (p : Page) : p.pieces.filterMap text? = p.texts := by
  have hitem : ∀ i : NavItem, i.pieces.filterMap text? = [i.path, i.title] := fun _ => rfl
  have hnav := texts_flatMap hitem p.nav
  simp [pieces, hnav, p.content.texts_pieces, texts]

/-! ## The frame of a page -/

namespace Piece

theorem frame_flatMap {α β : Type} {f f' : α → List Piece} {g : α → β}
    (h : ∀ a a', g a = g a' → (f a).map frame? = (f' a').map frame?) {l l' : List α}
    (hl : l.map g = l'.map g) : (l.flatMap f).map frame? = (l'.flatMap f').map frame? := by
  induction l generalizing l' with
  | nil =>
    obtain rfl := List.map_eq_nil_iff.mp hl.symm
    rfl
  | cons a l ih =>
    cases l' with
    | nil => cases hl
    | cons a' l' =>
      obtain ⟨hhead, htail⟩ := List.cons.inj hl
      rw [List.flatMap_cons, List.flatMap_cons, List.map_append, List.map_append, h a a' hhead, ih htail]

theorem frame_flatMap_of_length {α : Type} {f f' : α → List Piece}
    (h : ∀ a a', (f a).map frame? = (f' a').map frame?) {l l' : List α}
    (hl : l.length = l'.length) : (l.flatMap f).map frame? = (l'.flatMap f').map frame? :=
  frame_flatMap (g := fun _ => ()) (fun a a' _ => h a a') (by simp [List.map_const', hl])

theorem isEmpty_congr {α : Type} {l l' : List α} (h : l.length = l'.length) :
    l.isEmpty = l'.isEmpty := by
  rw [Bool.eq_iff_iff, List.isEmpty_iff_length_eq_zero, List.isEmpty_iff_length_eq_zero, h]

end Piece

theorem NavItem.frame_pieces {i i' : NavItem} (h : i.active = i'.active) :
    i.pieces.map frame? = i'.pieces.map frame? := by
  simp [pieces, frame?, h]

theorem CardGrid.frame_rowPieces (flex flex' : Nat) {row row' : List Card}
    (h : row.length = row'.length) :
    (rowPieces flex row).map frame? = (rowPieces flex' row').map frame? := by
  have hcard : ∀ c c' : Card, (c.pieces flex).map frame? = (c'.pieces flex').map frame? :=
    fun _ _ => by simp [Card.pieces, frame?]
  have hcards := frame_flatMap_of_length hcard h
  simp only [rowPieces, List.map_cons, List.map_append, hcards]

theorem CardGrid.frame_pieces {g g' : CardGrid} (h : g.rows.map List.length = g'.rows.map List.length) :
    g.pieces.map frame? = g'.pieces.map frame? := by
  have hrow : ∀ row row' : List Card, row.length = row'.length →
      (rowPieces g.cardFlexPercent row).map frame? = (rowPieces g'.cardFlexPercent row').map frame? :=
    fun _ _ => frame_rowPieces _ _
  have hrows := frame_flatMap hrow h
  have hlength : g.rows.length = g'.rows.length := by
    rw [← List.length_map (f := List.length), h, List.length_map]
  simp only [pieces, List.map_append, isEmpty_congr hlength]
  congr 2
  split
  · rfl
  · simp only [List.map_cons, List.map_append, hrows]

theorem Overview.frame_pieces {o o' : Overview} (h : o.managerPath.isSome = o'.managerPath.isSome) :
    o.pieces.map frame? = o'.pieces.map frame? := by
  cases ho : o.managerPath with
  | none =>
    rw [ho, Option.isSome_none] at h
    have ho' := Option.not_isSome_iff_eq_none.mp (Bool.not_eq_true _ ▸ h.symm)
    simp [pieces, frame?, ho, ho']
  | some path =>
    rw [ho] at h
    obtain ⟨path', ho'⟩ := Option.isSome_iff_exists.mp h.symm
    simp [pieces, frame?, ho, ho', managerLink]

theorem Content.frame_accountPieces {rows rows' : List AccountRow} (h : rows.length = rows'.length) :
    (accountPieces rows).map frame? = (accountPieces rows').map frame? := by
  have hrow : ∀ r r' : AccountRow, r.pieces.map frame? = r'.pieces.map frame? :=
    fun _ _ => by simp [AccountRow.pieces, frame?]
  have hrows := frame_flatMap_of_length hrow h
  simp only [accountPieces, isEmpty_congr h]
  split
  · rfl
  · simp only [List.map_cons, List.map_append, hrows]

theorem Content.frame_planPieces {ps ps' : List Plan} (h : ps.length = ps'.length) :
    (planPieces ps).map frame? = (planPieces ps').map frame? := by
  have hplan : ∀ p p' : Plan, p.pieces.map frame? = p'.pieces.map frame? :=
    fun _ _ => by simp [Plan.pieces, frame?]
  have hplans := frame_flatMap_of_length hplan h
  simp only [planPieces, isEmpty_congr h]
  split
  · rfl
  · simp only [List.map_cons, List.map_append, hplans]

theorem Content.frame_pieces {c c' : Content} (h : c.shape = c'.shape) :
    c.pieces.map frame? = c'.pieces.map frame? := by
  cases c with
  | overview o =>
    cases c' with
    | overview o' => exact Overview.frame_pieces (Shape.overview.inj h)
    | _ => cases h
  | cardGrid g =>
    cases c' with
    | cardGrid g' => exact CardGrid.frame_pieces (Shape.cardGrid.inj h)
    | _ => cases h
  | accounts rows =>
    cases c' with
    | accounts rows' => exact frame_accountPieces (Shape.accounts.inj h)
    | _ => cases h
  | signIn =>
    cases c' with
    | signIn => rfl
    | _ => cases h
  | plans ps =>
    cases c' with
    | plans ps' => exact frame_planPieces (Shape.plans.inj h)
    | _ => cases h
  | failure status message =>
    cases c' with
    | failure status' message' => simp [pieces, failurePieces, frame?]
    | _ => cases h

theorem Page.frame_pieces {p p' : Page} (h : p.shape = p'.shape) :
    p.pieces.map frame? = p'.pieces.map frame? := by
  have hnav := frame_flatMap (fun _ _ => NavItem.frame_pieces) (congrArg Shape.active h)
  have hcontent := Content.frame_pieces (congrArg Shape.content h)
  simp only [pieces, List.map_append, hnav, hcontent, List.map_cons, List.map_nil, frame?]

/-! ## Where texts stand -/

section
set_option maxRecDepth 2000

theorem NavItem.isWhole_pieces (i : NavItem) : IsWhole i.pieces := by
  cases h : i.active <;>
  · simp only [pieces, h, IsWhole, through?_markup, through?_text, through?_nil, if_true,
      Bool.false_eq_true, if_false]
    repeat rw [toList_literal rfl]
    rfl

theorem Card.isWhole_pieces (flex : Nat) (c : Card) : IsWhole (c.pieces flex) := by
  simp only [pieces, IsWhole, through?_markup, through?_text, through?_nil]
  repeat rw [toList_literal rfl]
  rfl

theorem AccountRow.isWhole_pieces (r : AccountRow) : IsWhole r.pieces := by
  simp only [pieces, IsWhole, through?_markup, through?_text, through?_nil]
  repeat rw [toList_literal rfl]
  rfl

theorem Plan.isWhole_pieces (p : Plan) : IsWhole p.pieces := by
  simp only [pieces, IsWhole, through?_markup, through?_text, through?_nil]
  repeat rw [toList_literal rfl]
  rfl

theorem CardGrid.isWhole_rowPieces (flex : Nat) (row : List Card) : IsWhole (rowPieces flex row) := by
  refine isWhole_block ?_ (isWhole_flatMap (Card.isWhole_pieces flex) row) ?_
  all_goals
    rw [IsWhole, through?_markup, toList_literal rfl]
    rfl

theorem CardGrid.isWhole_summary (g : CardGrid) : IsWhole g.summary := by
  simp only [summary, IsWhole, through?_markup, through?_text, through?_nil]
  repeat rw [toList_literal rfl]
  rfl

theorem CardGrid.isWhole_pieces (g : CardGrid) : IsWhole g.pieces := by
  refine (g.isWhole_summary.append ?_).append rfl
  split
  · rw [IsWhole, through?_markup, toList_literal rfl]
    rfl
  · refine isWhole_block ?_ (isWhole_flatMap (isWhole_rowPieces g.cardFlexPercent) g.rows) ?_
    all_goals
      rw [IsWhole, through?_markup, toList_literal rfl]
      rfl

theorem Overview.isWhole_pieces (o : Overview) : IsWhole o.pieces := by
  refine (IsWhole.append ?_ ?_).append rfl
  · simp only [IsWhole, through?_markup, through?_text, through?_nil]
    repeat rw [toList_literal rfl]
    rfl
  · cases o.managerPath with
    | none => rfl
    | some path =>
      simp only [managerLink, IsWhole, through?_markup, through?_text, through?_nil]
      repeat rw [toList_literal rfl]
      rfl

theorem Content.isWhole_accountPieces (rows : List AccountRow) : IsWhole (accountPieces rows) := by
  rw [accountPieces]
  split
  · rw [IsWhole, through?_markup, toList_literal rfl]
    rfl
  · refine isWhole_block ?_ (isWhole_flatMap AccountRow.isWhole_pieces rows) ?_
    all_goals
      simp only [IsWhole, through?_markup, String.toList_append]
      repeat rw [toList_literal rfl]
      rfl

theorem Content.isWhole_planPieces (ps : List Plan) : IsWhole (planPieces ps) := by
  rw [planPieces]
  split
  · rw [IsWhole, through?_markup, toList_literal rfl]
    rfl
  · refine isWhole_block ?_ (isWhole_flatMap Plan.isWhole_pieces ps) ?_
    all_goals
      rw [IsWhole, through?_markup, toList_literal rfl]
      rfl

theorem Content.isWhole_signInPieces : IsWhole signInPieces := by
  simp only [signInPieces, IsWhole, through?_markup, through?_nil, String.toList_append]
  repeat rw [toList_literal rfl]
  rfl

theorem Content.isWhole_failurePieces (status : Nat) (message : String) :
    IsWhole (failurePieces status message) := by
  simp only [failurePieces, IsWhole, through?_markup, through?_text, through?_nil]
  repeat rw [toList_literal rfl]
  rfl

theorem Content.isWhole_pieces (c : Content) : IsWhole c.pieces := by
  cases c with
  | overview o => exact o.isWhole_pieces
  | cardGrid g => exact g.isWhole_pieces
  | accounts rows => exact isWhole_accountPieces rows
  | signIn => exact isWhole_signInPieces
  | plans ps => exact isWhole_planPieces ps
  | failure status message => exact isWhole_failurePieces status message

theorem Page.isWhole_pieces (p : Page) : IsWhole p.pieces := by
  have hnav := isWhole_flatMap NavItem.isWhole_pieces p.nav
  refine (((IsWhole.append ?_ hnav).append ?_).append p.content.isWhole_pieces).append ?_
  all_goals
    simp only [IsWhole, through?_markup, through?_text, through?_nil, String.toList_append]
    repeat rw [toList_literal rfl]
    rfl

end

/-! ## Data has no say -/

theorem Page.tags_of_frame {p p' : Page} (h : p.pieces.map frame? = p'.pieces.map frame?) :
    tags p.html = tags p'.html := by
  have hread := blank_pieces (r := ⟨[], .text []⟩) rfl h p.isWhole_pieces
  rw [← Reading.takeAll_renderAll, ← Reading.takeAll_renderAll] at hread
  simp only [tags, Markup.read, List.filterMap_reverse]
  rw [html, html, filterMap_tag?_of_blank hread]

/-- The strings of a page are its texts, in order, and a text is inert whatever it says. Pages of one
shape have the same markup around their texts and the same tags with the same attributes. -/
theorem Page.texts_inert_and_tags_of_shape (p : Page) :
    p.pieces.filterMap text? = p.texts ∧ (∀ s, IsInert (text s).render.toList s) ∧
      ∀ p' : Page, p.shape = p'.shape →
        p.pieces.map frame? = p'.pieces.map frame? ∧ tags p.html = tags p'.html := by
  refine ⟨p.texts_pieces, isInert_escape, fun p' h => ?_⟩
  have hframe := frame_pieces h
  exact ⟨hframe, tags_of_frame hframe⟩

/-- Texts that look like markup, in a path and in a message, leave the tags as they are. -/
theorem Page.tags_with_markup_in_texts :
    let hostile : Page :=
      ⟨"Error", [⟨"/\"><b>", "Users", true⟩], .failure 400 "unknown role: \"<script>\" & more"⟩
    let plain : Page := ⟨"Error", [⟨"/user", "Users", true⟩], .failure 404 "none"⟩
    hostile.shape = plain.shape ∧
      hostile.pieces.filterMap text? = ["Error", "/\"><b>", "Users", "Error", "400",
        "unknown role: \"<script>\" & more"] ∧
      IsInert (text "/\"><b>").render.toList "/\"><b>" ∧ tags hostile.html = tags plain.html := by
  intro hostile plain
  have hshape : hostile.shape = plain.shape := rfl
  obtain ⟨htexts, hinert, htags⟩ := texts_inert_and_tags_of_shape hostile
  have hstatus : Decimal.ofNat 400 = "400" := by decide +kernel
  exact ⟨hshape, hstatus ▸ htexts, hinert _, (htags plain hshape).2⟩

end ProxyConsole
