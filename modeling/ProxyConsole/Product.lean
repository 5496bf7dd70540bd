import ProxyConsole.Fault
import ProxyConsole.Json
import ProxyConsole.Text.Blank
import ProxyConsole.Uuid

/-!
# Products

A product is a plan with a price in cents. One that is discontinued is kept but not offered.
-/

namespace ProxyConsole

inductive ProductStatus where
  | available
  | discontinued
  deriving DecidableEq

namespace ProductStatus

def name : ProductStatus → String
  | available => "available"
  | discontinued => "discontinued"

def ofName? : String → Option ProductStatus
  | "available" => some available
  | "discontinued" => some discontinued
  | _ => none

def toJson (status : ProductStatus) : Json :=
  .string status.name

def ofJson? (j : Json) : Option ProductStatus := do
  ofName? (← j.choice?)

end ProductStatus

structure ProductId where
  uuid : Uuid
  deriving DecidableEq

namespace ProductId

def text (id : ProductId) : String :=
  id.uuid.text

def of (text : String) : Except Violation ProductId :=
  match Uuid.ofText? text with
  | some uuid => .ok ⟨uuid⟩
  | none => .error (.malformedId text)

def toJson (id : ProductId) : Json :=
  .string id.text

def ofJson? (j : Json) : Option ProductId := do
  (of (← j.string?)).toOption

end ProductId

structure Product where
  id : ProductId
  name : String
  priceCents : UInt32
  description : String
  status : ProductStatus
  deriving DecidableEq

namespace Product

def validate (p : Product) : Except Fault Unit :=
  if Text.isBlank p.name then .error (.validation .emptyName) else .ok ()

def isAvailable (p : Product) : Bool :=
  p.status = .available

def priceLabel (p : Product) : String :=
  let cents := p.priceCents.toNat
  String.ofList (Decimal.digits (cents / 100) ++ '.' :: Decimal.padded 2 (cents % 100))

structure Draft where
  id : Option ProductId := none
  name : Option String := none
  priceCents : Option UInt32 := none
  description : Option String := none
  status : Option ProductStatus := none

/-- The product of a draft, if its name passes. An id that is missing is the one supplied. -/
def Draft.build (d : Draft) (freshId : ProductId) : Except Fault Product := do
  let product : Product :=
    { id := d.id.getD freshId
      name := d.name.getD ""
      priceCents := d.priceCents.getD 0
      description := d.description.getD ""
      status := d.status.getD .available }
  product.validate
  return product

def toJson (p : Product) : Json :=
  .object [("id", p.id.toJson), ("name", .string p.name),
    ("price_cents", .integer p.priceCents.toNat), ("description", .string p.description),
    ("status", p.status.toJson)]

end Product

end ProxyConsole
