import ProxyConsole.Page.Content
import ProxyConsole.RouteTable

/-!
# Pages

A page of the console: a title, the navigation, and the content under the heading.
-/

namespace ProxyConsole

open Piece (markup text)

structure Page where
  title : String
  nav : List NavItem
  content : Content
  deriving DecidableEq

namespace NavItem

/-- A link, marked if it leads to the page being shown. -/
def pieces (i : NavItem) : List Piece :=
  [markup "\n      <li><a href=\"", text i.path,
    markup (if i.active then "\" class=\"active\" aria-current=\"page\">" else "\">"),
    text i.title, markup "</a></li>\n      "]

end NavItem

namespace Page

def pieces (p : Page) : List Piece :=
  [markup ("<!DOCTYPE html>\n<html lang=\"en\">\n<head>\n  <meta charset=\"utf-8\">\n" ++
      "  <meta name=\"viewport\" content=\"width=device-width, initial-scale=1\">\n  <title>"),
    text p.title,
    markup (" · ssmgr</title>\n</head>\n<body>\n  <nav class=\"sidenav\">\n" ++
      "    <a class=\"brand\" href=\"/\">ssmgr</a>\n    <ul>\n      ")] ++
  p.nav.flatMap NavItem.pieces ++
  [markup "\n    </ul>\n  </nav>\n  <main>\n    <h1>", text p.title, markup "</h1>\n    "] ++
  p.content.pieces ++
  [markup "\n  </main>\n</body>\n</html>"]

def html (p : Page) : String :=
  Piece.renderAll p.pieces

end Page

end ProxyConsole
