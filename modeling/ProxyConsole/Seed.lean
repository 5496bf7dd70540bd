import ProxyConsole.Catalog

/-!
# Seeds

A seed describes the records that a catalog starts with. Loading checks them in a fixed order: all
servers, then that no two share an id, then all accounts, then all products. The first that fails
decides.
-/

namespace ProxyConsole

structure ServerSeed where
  id : String
  address : String
  port : UInt16
  password : String := ""

structure AccountSeed where
  role : Role := .user
  nickname : Option String := none
  phone : String
  email : String
  password : String := ""
  createdAt : Option Instant := none

structure ProductSeed where
  name : String
  priceCents : UInt32
  description : String := ""
  status : ProductStatus := .available

structure Seed where
  servers : List ServerSeed := []
  accounts : List AccountSeed := []
  products : List ProductSeed := []

/-- What a seed does not hold, by the place of the entry: ids for accounts and products, and the time
at which an account is made. -/
structure Fresh where
  accountId : Nat → AccountId
  productId : Nat → ProductId
  now : Nat → Instant

inductive SeedError where
  | unreadable
  | malformed
  | invalid (cause : Fault)
  deriving DecidableEq

namespace SeedError

def message : SeedError → String
  | unreadable => "failed to read seed file"
  | malformed => "failed to parse seed file"
  | invalid _ => "invalid seed record"

end SeedError

namespace ServerSeed

def build (s : ServerSeed) : Except Fault ServerRecord :=
  ServerRecord.Draft.build
    { id := some s.id, address := some s.address, port := some s.port, password := some s.password }

end ServerSeed

namespace AccountSeed

def build (s : AccountSeed) (fresh : Fresh) (place : Nat) : Except Fault Account :=
  Account.Draft.build
    { role := some s.role, nickname := s.nickname, phone := some s.phone, email := some s.email
      password := some s.password, createdAt := s.createdAt }
    (fresh.accountId place) (fresh.now place)

end AccountSeed

namespace ProductSeed

def build (s : ProductSeed) (fresh : Fresh) (place : Nat) : Except Fault Product :=
  Product.Draft.build
    { name := some s.name, priceCents := some s.priceCents, description := some s.description
      status := some s.status }
    (fresh.productId place)

end ProductSeed

namespace Seed

/-- The first id that occurs earlier in the list, or among the ids already seen. -/
def repeated? (seen : List ServerId) : List ServerId → Option ServerId
  | [] => none
  | id :: ids => if id ∈ seen then some id else repeated? (id :: seen) ids

def checkUnique (servers : List ServerRecord) : Except Fault Unit :=
  match repeated? [] (servers.map (·.id)) with
  | none => .ok ()
  | some id => .error (.validation (.duplicateServerId id.text))

def records (s : Seed) (fresh : Fresh) : Except Fault Catalog := do
  let servers ← s.servers.mapM ServerSeed.build
  checkUnique servers
  let accounts ← s.accounts.zipIdx.mapM fun (a, place) => a.build fresh place
  let products ← s.products.zipIdx.mapM fun (p, place) => p.build fresh place
  return ⟨servers, accounts, products⟩

def catalog (s : Seed) (fresh : Fresh) : Except SeedError Catalog :=
  (s.records fresh).mapError .invalid

/-- Midnight at the start of a day of 2017. -/
def day2017 (month day : Nat) : Option Instant := do
  Instant.ofLocal? (← Date.of? 2017 month day) 0 0 0 0 0

/-- The records that are shown when no seed is given. -/
def sample : Seed where
  servers := [
    { id := "JP", address := "jp.proxy.example.net", port := 8388, password := "jp-sample" },
    { id := "US", address := "us.proxy.example.net", port := 8388, password := "us-sample" },
    { id := "CN", address := "203.0.113.10", port := 8389, password := "cn-sample" }]
  accounts := [
    { role := .admin, nickname := some "Administrator", email := "admin@example.net"
      phone := "555-0100", createdAt := day2017 1 1 },
    { nickname := some "Alice", email := "alice@example.net", phone := "555-0101"
      createdAt := day2017 2 1 },
    { email := "bob@example.net", phone := "555-0102", createdAt := day2017 2 15 }]
  products := [
    { name := "Monthly", priceCents := 990, description := "30 days, 100 GB transfer" },
    { name := "Quarterly", priceCents := 2700, description := "90 days, 300 GB transfer" },
    { name := "Yearly", priceCents := 9900, description := "365 days, unlimited transfer" }]

end Seed

end ProxyConsole
