import ProxyConsole.Account
import ProxyConsole.Product
import ProxyConsole.Server

/-!
# The source of records

The console reads its records from a source that answers five kinds of call, each with a result or
with a fault. A consultation is a computation over a source that keeps the calls it makes, in order,
and stops at the first fault.
-/

namespace ProxyConsole

inductive Call where
  | listServers
  | getServer (id : ServerId)
  | listAccounts (role : Option Role)
  | getAccount (id : AccountId)
  | listProducts
  deriving DecidableEq

/-- Where records come from. Any part of it may fail. -/
structure Source where
  listServers : Except Fault (List ServerRecord)
  getServer : ServerId → Except Fault (Option ServerRecord)
  listAccounts : Option Role → Except Fault (List Account)
  getAccount : AccountId → Except Fault (Option Account)
  listProducts : Except Fault (List Product)

/-- The calls that a computation over a source makes, and how it ends. -/
structure Outcome (α : Type) where
  calls : List Call
  result : Except Fault α

def Consult (α : Type) :=
  Source → Outcome α

namespace Consult

def pure {α : Type} (a : α) : Consult α := fun _ => ⟨[], .ok a⟩

def fail {α : Type} (e : Fault) : Consult α := fun _ => ⟨[], .error e⟩

/-- Goes on with the result of a computation; after a fault there is nothing to go on with. -/
def bind {α β : Type} (c : Consult α) (next : α → Consult β) : Consult β := fun s =>
  match c s with
  | ⟨calls, .error e⟩ => ⟨calls, .error e⟩
  | ⟨calls, .ok a⟩ => ⟨calls ++ (next a s).calls, (next a s).result⟩

instance : Monad Consult where
  pure := pure
  bind := bind

def ofExcept {α : Type} (r : Except Fault α) : Consult α := fun _ => ⟨[], r⟩

def ask {α : Type} (call : Call) (answer : Source → Except Fault α) : Consult α := fun s =>
  ⟨[call], answer s⟩

end Consult

end ProxyConsole
