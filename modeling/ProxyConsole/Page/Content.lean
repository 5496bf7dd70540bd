import ProxyConsole.Account
import ProxyConsole.Grid
import ProxyConsole.Page.Piece
import ProxyConsole.Product

/-!
# Contents of pages

What stands under the heading of a page. Each kind of content says which data it shows; its pieces
fix the markup, white space included.
-/

namespace ProxyConsole

open Piece (markup text)

structure AccountRow where
  name : String
  email : String
  phone : String
  joined : String
  deriving DecidableEq

structure Card where
  id : String
  address : String
  port : UInt16
  deriving DecidableEq

structure Plan where
  name : String
  priceLabel : String
  description : String
  deriving DecidableEq

/-- The numbers on the overview, and the way to the servers if there is one. -/
structure Overview where
  managerPath : Option String
  servers : Nat
  users : Nat
  admins : Nat
  products : Nat
  deriving DecidableEq

/-- Rows of cards, with the numbers in the summary above them. -/
structure CardGrid where
  rows : List (List Card)
  servers : Nat
  columnsPerRow : Nat
  standardColumns : Nat
  cardFlexPercent : Nat
  deriving DecidableEq

inductive Content where
  | overview (o : Overview)
  | cardGrid (g : CardGrid)
  | accounts (rows : List AccountRow)
  | signIn
  | plans (plans : List Plan)
  | failure (status : Nat) (message : String)
  deriving DecidableEq

namespace AccountRow

def pieces (r : AccountRow) : List Piece :=
  [markup "\n    <tr><td>", text r.name, markup "</td><td>", text r.email, markup "</td><td>",
    text r.phone, markup "</td><td>", text r.joined, markup "</td></tr>\n    "]

end AccountRow

namespace Card

def pieces (flexPercent : Nat) (c : Card) : List Piece :=
  [markup "\n    <article class=\"card\" style=\"flex: 0 0 ", text (Decimal.ofNat flexPercent),
    markup "%;\">\n      <h2>", text c.id, markup "</h2>\n      <p class=\"endpoint\">",
    text c.address, markup ":", text (Decimal.ofNat c.port.toNat),
    markup "</p>\n    </article>\n    "]

end Card

namespace Plan

def pieces (p : Plan) : List Piece :=
  [markup "\n  <article class=\"plan\">\n    <h2>", text p.name,
    markup "</h2>\n    <p class=\"price\">$", text p.priceLabel, markup "</p>\n    <p>",
    text p.description, markup "</p>\n  </article>\n  "]

end Plan

namespace Overview

def managerLink (path : String) : List Piece :=
  [markup "\n<p><a href=\"", text path, markup "\">Manage servers</a></p>\n"]

def pieces (o : Overview) : List Piece :=
  [markup "\n<dl class=\"overview\">\n  <dt>Servers</dt><dd>", text (Decimal.ofNat o.servers),
    markup "</dd>\n  <dt>Users</dt><dd>", text (Decimal.ofNat o.users),
    markup "</dd>\n  <dt>Administrators</dt><dd>", text (Decimal.ofNat o.admins),
    markup "</dd>\n  <dt>Plans</dt><dd>", text (Decimal.ofNat o.products),
    markup "</dd>\n</dl>\n"] ++
  (match o.managerPath with
    | some path => managerLink path
    | none => []) ++
  [markup "\n"]

end Overview

namespace CardGrid

def summary (g : CardGrid) : List Piece :=
  [markup "\n<p class=\"summary\">", text (Decimal.ofNat g.servers), markup " servers, ",
    text (Decimal.ofNat g.columnsPerRow), markup " per row (default ",
    text (Decimal.ofNat g.standardColumns), markup ")</p>\n"]

def rowPieces (flexPercent : Nat) (row : List Card) : List Piece :=
  markup
      "\n  <div class=\"row\" style=\"display: flex; justify-content: space-between;\">\n    " ::
    row.flatMap (Card.pieces flexPercent) ++ [markup "\n  </div>\n  "]

def pieces (g : CardGrid) : List Piece :=
  g.summary ++
  (if g.rows.isEmpty then [markup "\n<p class=\"empty\">No servers configured.</p>\n"]
    else markup "\n<section class=\"grid\">\n  " ::
      g.rows.flatMap (rowPieces g.cardFlexPercent) ++ [markup "\n</section>\n"]) ++
  [markup "\n"]

end CardGrid

namespace Content

def accountPieces (rows : List AccountRow) : List Piece :=
  if rows.isEmpty then [markup "\n\n<p class=\"empty\">No accounts.</p>\n\n"]
  else
    markup ("\n\n<table>\n  <thead>\n    <tr><th>Name</th><th>Email</th><th>Phone</th>" ++
        "<th>Joined</th></tr>\n  </thead>\n  <tbody>\n    ") ::
      rows.flatMap AccountRow.pieces ++ [markup "\n  </tbody>\n</table>\n\n"]

def planPieces (plans : List Plan) : List Piece :=
  if plans.isEmpty then [markup "\n\n<p class=\"empty\">No plans on offer.</p>\n\n"]
  else
    markup "\n\n<section class=\"plans\">\n  " ::
      plans.flatMap Plan.pieces ++ [markup "\n</section>\n\n"]

def signInPieces : List Piece :=
  [markup ("\n<form class=\"login\">\n" ++
    "  <label>Email <input type=\"email\" name=\"email\" autocomplete=\"username\"></label>\n" ++
    "  <label>Password <input type=\"password\" name=\"password\"" ++
    " autocomplete=\"current-password\"></label>\n" ++
    "  <button type=\"submit\" disabled>Sign in</button>\n</form>\n" ++
    "<p class=\"notice\">Sign-in is not available on this console.</p>\n")]

def failurePieces (status : Nat) (message : String) : List Piece :=
  [markup "\n<p class=\"status\">", text (Decimal.ofNat status),
    markup "</p>\n<p class=\"message\">", text message,
    markup "</p>\n<p><a href=\"/\">Back to overview</a></p>\n"]

def pieces : Content → List Piece
  | overview o => o.pieces
  | cardGrid g => g.pieces
  | accounts rows => accountPieces rows
  | signIn => signInPieces
  | plans ps => planPieces ps
  | failure status message => failurePieces status message

end Content

/-! ## From records -/

namespace AccountRow

/-- An account joined on the date it was created. -/
def ofAccount (a : Account) : AccountRow :=
  ⟨a.displayName, a.email, a.phone, a.createdAt.date.text⟩

end AccountRow

namespace Card

def ofServer (r : ServerRecord) : Card :=
  ⟨r.id.text, r.address, r.port⟩

end Card

namespace Plan

def ofProduct (p : Product) : Plan :=
  ⟨p.name, p.priceLabel, p.description⟩

end Plan

namespace CardGrid

def ofLayout (g : GridLayout) (standard : Columns) : CardGrid :=
  ⟨g.rows.map (·.map Card.ofServer), g.recordCount, g.columnsPerRow, standard.count,
    g.cardFlexPercent⟩

end CardGrid

end ProxyConsole
