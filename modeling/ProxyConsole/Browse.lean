import ProxyConsole.Grid
import ProxyConsole.Source

/-!
# Browsing

What the console asks of its source: the server grid and single servers, accounts in the order they
were created, and the products that can be ordered, cheapest first.
-/

namespace ProxyConsole.Browse

open Consult (ask ofExcept)

def servers : Consult (List ServerRecord) :=
  ask .listServers (·.listServers)

/-- The servers in rows. A count that was asked for goes before the default, and one that is not
positive is refused before the source is called. -/
def grid (standard : Columns) (columns : Option Int) : Consult GridLayout := do
  let columns ← match columns with
    | some count => ofExcept ((Columns.of count).mapError .invalidArgument)
    | none => pure standard
  let servers ← servers
  return GridLayout.ofColumns servers columns

def foundOr {α : Type} (missing : Missing) : Option α → Except Fault α
  | some a => .ok a
  | none => .error (.notFound missing)

def server (id : ServerId) : Consult ServerRecord := do
  let found ← ask (.getServer id) (·.getServer id)
  ofExcept (foundOr ⟨"Server", id.text⟩ found)

def older (a b : Account) : Bool :=
  a.createdAt.notAfter b.createdAt

/-- The accounts of one role, or of any, oldest first. -/
def accounts (role : Option Role) : Consult (List Account) := do
  let accounts ← ask (.listAccounts role) (·.listAccounts role)
  return accounts.mergeSort older

def account (id : AccountId) : Consult Account := do
  let found ← ask (.getAccount id) (·.getAccount id)
  ofExcept (foundOr ⟨"Account", id.text⟩ found)

def cheaper (p q : Product) : Bool :=
  p.priceCents ≤ q.priceCents

def offered (products : List Product) : List Product :=
  (products.filter Product.isAvailable).mergeSort cheaper

def availableProducts : Consult (List Product) := do
  let products ← ask .listProducts (·.listProducts)
  return offered products

end ProxyConsole.Browse
