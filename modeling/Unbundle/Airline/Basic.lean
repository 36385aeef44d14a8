import Unbundle.Service.Operation

/-!
# What the deployments of the airline share

Answers have a JSON body in which stored numbers are plain. The free seats of a flight are a counter in its
item: taking a seat lowers it if it is positive, giving one back raises it if it is below the number of seats.
A charge or a payment intent of the payment provider is an object of which only the attributes are known;
amounts are in cents.
-/

namespace Unbundle.Airline

open Service Service.Flow

/-! ### Answers -/

def respond (status : Int) (body : Value) : Flow Value := do
  return answer status sharedHeaders (← body.storedToJson)

def headersWith (headers : Value) : Except Fault Fields := do
  if !headers.truthy then return sharedHeaders
  return (← headers.fields).foldl (fun fs (k, v) => Value.put k v fs) sharedHeaders

def respondWith (status body headers : Value) : Flow Value := do
  let headers ← headersWith headers
  return .map [("statusCode", status), ("headers", .map headers), ("body", ← body.storedToJson)]

def problem (text : String) : Value := message "error" text

def key (id : Value) : Fields := [("id", id)]

def plainItems (reply : Value) : Except Fault Value := do
  let items ← (← reply.getD "Items" (.list [])).items
  return .list (← items.mapM Value.plain)

def plainItem (reply : Value) : Except Fault Value := do
  if ← reply.holdsName "Item" then (← reply.field "Item").plain else return .null

/-! ### Seats -/

def success : Value := .map [("status", .text "SUCCESS")]

/-- A change of the seats with its refusals: one for a condition that does not hold, one for all other
faults. -/
def seatChange (full : String) (otherwise : String) (flow : Flow Value) : Flow Value :=
  flow.attempt fun e =>
    if e.isConditionFailure then refuse full
    else refuse s!"{otherwise}: {e.message}"

def takeSeat (flight : Value) : Request :=
  .update (key flight)
    ⟨[], [⟨"seatCapacity", none, .minus "seatCapacity" ⟨"dec", .int 1⟩⟩]⟩
    (some (.both (.more "seatCapacity" ⟨"zero", .int 0⟩) (.present "id"))) .updatedNew

def returnSeat (flight maximum : Value) : Request :=
  .update (key flight)
    ⟨[], [⟨"seatCapacity", none, .plus "seatCapacity" ⟨"inc", .int 1⟩⟩]⟩
    (some (.less "seatCapacity" ⟨"max", maximum⟩)) .updatedNew

def reserveSeat (flights : String) (flight : Value) : Flow Value :=
  seatChange s!"Flight {flight.str} is fully booked or does not exist" "Failed to reserve seat" do
    let _ ← ask flights (takeSeat flight)
    return success

/-! ### Charges -/

def provider (resource method : String) (arg : Value) : Flow Value :=
  Flow.invoke (.client s!"stripe.{resource}" method [arg] [])

def providerWith (resource method : String) (options : Fields) : Flow Value :=
  client s!"stripe.{resource}" method options

def startsWith (charge : Value) (lead : String) : Except Fault Bool := do
  return (← charge.textFor "startswith").startsWith lead

def newCharge (source : Value) : Flow Value :=
  providerWith "Charge" "create" [("amount", .int 15000), ("currency", .text "usd"),
    ("source", source), ("description", .text "Airline booking payment")]

def paymentPage (id : Value) : Value :=
  .text s!"https://dashboard.stripe.com/payments/{id.str}"

def receiptOf (charge : Value) : Except Fault Value := do
  let own ← charge.part "receipt_url"
  if own.truthy then return own else return paymentPage (← charge.part "id")

def priceOf (charge : Value) : Except Fault Value := do
  (← charge.part "amount").div (.int 100)

def partsOf (v : Value) : List (String × String) → Except Fault Fields
  | [] => .ok []
  | (name, attr) :: rest => do
    let x ← v.part attr
    let more ← partsOf v rest
    return (name, x) :: more

/-! ### Loyalty levels -/

def loyaltyLevel (points : Value) : Except Fault String := do
  if ← points.related .ge (.int 100000) then return "gold"
  else if ← points.related .ge (.int 50000) then return "silver"
  else return "bronze"

def missingPoints (points level : Value) : Except Fault Value :=
  if level.same (.text "bronze") then (Value.int 50000).sub points
  else if level.same (.text "silver") then (Value.int 100000).sub points
  else .ok (.int 0)

def activePoints (customer : Value) : Request :=
  .scan (.both (.equal false "customerId" customer) (.equal false "flag" (.text "active"))) none

def sumPoints : Int → List Value → Except Fault Int
  | total, [] => .ok total
  | total, entry :: entries => do
    let points ← (← entry.getD "points" (.int 0)).asInt
    sumPoints (total + points) entries

def pointsOf (reply : Value) : Except Fault Int := do
  sumPoints 0 (← (← reply.getD "Items" (.list [])).items)

def standing (points : Int) : Except Fault Value := do
  let level ← loyaltyLevel (.int points)
  let missing ← missingPoints (.int points) (.text level)
  return .map [("points", .int points), ("level", .text level), ("remainingPoints", missing)]

end Unbundle.Airline
