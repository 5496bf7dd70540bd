import ProxyConsole.Toml.Statement

/-!
# TOML documents

The entries of a document: its statements are read first and then carried out in order. A pair goes
into the table of the last header before it.
-/

namespace ProxyConsole.Toml

/-- What the statements so far have built, and the path of the last header. -/
structure Document where
  entries : Entries
  current : KeyPath

namespace Document

def empty : Document := ⟨[], []⟩

def step (d : Document) : Statement → Option Document
  | .pair path v => do
    return { d with entries := ← d.entries.atPath (Entries.insert path v) d.current }
  | .header path => do
    return ⟨← d.entries.atHeader Entries.openTable path, path⟩
  | .element path => do
    return ⟨← d.entries.atHeader Entries.addElement path, path⟩

def ofStatements? (ss : List Statement) : Option Entries :=
  (ss.foldlM step empty).map (·.entries)

def ofText? (s : String) : Option Entries := do
  ofStatements? (← statements.whole? s.toList)

end Document

end ProxyConsole.Toml
