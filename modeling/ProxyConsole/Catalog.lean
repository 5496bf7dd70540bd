import ProxyConsole.Source

/-!
# The catalog

Records held in memory, loaded once and never changed. A catalog answers every call of a source.
-/

namespace ProxyConsole

structure Catalog where
  servers : List ServerRecord
  accounts : List Account
  products : List Product

namespace Catalog

def accountsOf (c : Catalog) : Option Role → List Account
  | none => c.accounts
  | some role => c.accounts.filter (·.role = role)

/-- A catalog never fails; of several records with one id it finds the first. -/
def source (c : Catalog) : Source where
  listServers := .ok c.servers
  getServer id := .ok (c.servers.find? (·.id = id))
  listAccounts role := .ok (c.accountsOf role)
  getAccount id := .ok (c.accounts.find? (·.id = id))
  listProducts := .ok c.products

end Catalog

end ProxyConsole
