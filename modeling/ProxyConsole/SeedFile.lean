import ProxyConsole.FileRead
import ProxyConsole.Instant.Reader
import ProxyConsole.Seed
import ProxyConsole.Toml.Document
import ProxyConsole.Toml.Fields

/-!
# Seed files

A seed is written as a TOML document with arrays of servers, accounts and products. Times are
strings.
-/

namespace ProxyConsole

open Toml Toml.Value

namespace ServerSeed

def ofValue? (v : Value) : Option ServerSeed := do
  match ← v.fields? ["id", "address", "port", "password"] 0 with
  | [id, address, port, password] =>
    return {
      id := ← required string? id
      address := ← required string? address
      port := UInt16.ofNat (← required (unsigned? 16) port)
      password := ← orElse "" string? password }
  | _ => none

end ServerSeed

namespace AccountSeed

def roleOf? (v : Value) : Option Role := do
  Role.ofName? (← v.choice?)

def instantOf? (v : Value) : Option Instant := do
  Instant.ofText? (← v.string?)

/-- As an array, an account has all six fields. -/
def ofValue? (v : Value) : Option AccountSeed := do
  match ← v.fields? ["role", "alias", "phone", "email", "password", "created_at"] 6 with
  | [role, nickname, phone, email, password, createdAt] =>
    return {
      role := ← orElse .user roleOf? role
      nickname := ← missingOr string? nickname
      phone := ← required string? phone
      email := ← required string? email
      password := ← orElse "" string? password
      createdAt := ← missingOr instantOf? createdAt }
  | _ => none

end AccountSeed

namespace ProductSeed

def statusOf? (v : Value) : Option ProductStatus := do
  ProductStatus.ofName? (← v.choice?)

def ofValue? (v : Value) : Option ProductSeed := do
  match ← v.fields? ["name", "price_cents", "description", "status"] 0 with
  | [name, priceCents, description, status] =>
    return {
      name := ← required string? name
      priceCents := UInt32.ofNat (← required (unsigned? 32) priceCents)
      description := ← orElse "" string? description
      status := ← orElse .available statusOf? status }
  | _ => none

end ProductSeed

namespace Seed

def listOf? {α : Type} (read : Value → Option α) (v : Value) : Option (List α) := do
  (← v.items?).mapM read

def ofEntries? (es : Entries) : Option Seed := do
  return {
    servers := ← orElse [] (listOf? ServerSeed.ofValue?) (es.lookup "servers")
    accounts := ← orElse [] (listOf? AccountSeed.ofValue?) (es.lookup "accounts")
    products := ← orElse [] (listOf? ProductSeed.ofValue?) (es.lookup "products") }

def ofText (s : String) : Except SeedError Seed :=
  match (Document.ofText? s).bind ofEntries? with
  | some seed => .ok seed
  | none => .error .malformed

def ofFile (f : FileRead) : Except SeedError Seed :=
  match f.text? with
  | some s => ofText s
  | none => .error .unreadable

end Seed

end ProxyConsole
