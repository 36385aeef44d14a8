import Unbundle.Airline.Linked.Flights

/-!
# Payments and loyalty of the linked functions

The provider's library is looked for when a function is loaded. The key is set at the first payment
after that, which is announced once; without library or key payments are simulated, which is said each
time.
-/

namespace Unbundle.Airline.Linked

open Service Service.Flow

def loadPayments (s : Setting) : Flow Unit := do
  s.useLibrary "shared_utils"
  if !s.has "stripe" then
    print
      "Warning: stripe library not installed. Payment service will run in simulation mode."

def setUpProvider (s : Setting) : Flow Bool :=
  if !s.has "stripe" then do
    print "Stripe library not available - running in simulation mode"
    return false
  else
    match s.given? "STRIPE_SECRET_KEY" with
    | none => do
      print "STRIPE_SECRET_KEY not found in environment - running in simulation mode"
      return false
    | some _ =>
      Flow.once "payment provider" fun first => do
        if first then print "Stripe payment gateway configured successfully"
        return true

/-- The refusal of a payment for a fault. `card` is whether a declined card has a message of its
own. -/
def paymentRefusal (what : String) (card : Bool) (e : Fault) : String :=
  let small := what.toLower
  match e with
  | .payment kind m user =>
    if card && kind == "CardError" then s!"Card declined: {user.str}"
    else if kind == "InvalidRequestError" then s!"Invalid {small} request: {m}"
    else if kind == "AuthenticationError" then s!"Stripe authentication failed: {m}"
    else if kind == "APIConnectionError" then s!"Network error: {m}"
    else s!"{what} error: {m}"
  | e => s!"Unexpected {small} error: {e.message}"

def chargeDetails (receipt charge : Value) : Except Fault Value := do
  let price ← priceOf charge
  let rest ← partsOf charge [("chargeId", "id"), ("status", "status"), ("currency", "currency")]
  return .map ([("receiptUrl", receipt), ("price", price)] ++ rest)

def collectReal (charge : Value) : Flow Value :=
  Flow.attempt
    (do
      if ← startsWith charge "pi_" then do
        let intent ← provider "PaymentIntent" "capture" charge
        chargeDetails (paymentPage (← intent.part "id")) intent
      else if ← startsWith charge "ch_" then do
        let captured ← provider "Charge" "capture" charge
        chargeDetails (← receiptOf captured) captured
      else do
        let made ← newCharge charge
        chargeDetails (← receiptOf made) made)
    fun e => refuse (paymentRefusal "Payment" true e)

def collectPayment (s : Setting) (charge : Value) : Flow Value := do
  if !charge.truthy then refuse "Invalid Charge ID"
  else if ← setUpProvider s then collectReal charge
  else do
    print s!"[SIMULATION] Collecting payment for charge: {charge.str}"
    return .map [("receiptUrl", .text s!"https://payment.example.com/receipts/{charge.str}"),
      ("price", .int 150), ("chargeId", charge), ("status", .text "captured"),
      ("mode", .text "simulation")]

def chargeToRefund (charge : Value) : Flow Value := do
  if ← startsWith charge "pi_" then do
    let intent ← provider "PaymentIntent" "retrieve" charge
    let latest ← intent.part "latest_charge"
    if latest.truthy then return latest
    else refuse s!"No charge found for payment intent: {charge.str}"
  else return charge

def refundReal (charge : Value) : Flow Value :=
  Flow.attempt
    (do
      let charge ← chargeToRefund charge
      let refund ← providerWith "Refund" "create" [("charge", charge)]
      let id ← refund.part "id"
      let rest ← partsOf refund
        [("amount", "amount"), ("status", "status"), ("currency", "currency")]
      return .map ([("refundId", id), ("chargeId", charge)] ++ rest))
    fun e => refuse (paymentRefusal "Refund" false e)

def refundPayment (s : Setting) (charge : Value) : Flow Value := do
  if !charge.truthy then refuse "Invalid Charge ID"
  else if ← setUpProvider s then refundReal charge
  else do
    print s!"[SIMULATION] Refunding payment for charge: {charge.str}"
    let id ← token 16
    return .map [("refundId", .text id), ("chargeId", charge), ("status", .text "refunded"),
      ("mode", .text "simulation")]

def paymentReal (charge : Value) : Flow Value :=
  let details := [("chargeId", "id"), ("amount", "amount"), ("status", "status"),
    ("currency", "currency")]
  Flow.attempt
    (do
      if ← startsWith charge "pi_" then do
        return .map (← partsOf (← provider "PaymentIntent" "retrieve" charge) details)
      else if ← startsWith charge "ch_" then do
        return .map (← partsOf (← provider "Charge" "retrieve" charge)
          (details ++ [("receiptUrl", "receipt_url")]))
      else return .null)
    fun e =>
      match e with
      | .payment .. => return .null
      | e => Flow.fail e

def payment (s : Setting) (charge : Value) : Flow Value := do
  charge.hashable
  let found ← if ← setUpProvider s then paymentReal charge else pure .null
  if found.truthy then return found else refuse s!"Payment {charge.str} not found"

def withBodyField (event : Value) (name : String) (next : Value → Flow Value) : Flow Value := do
  let body ← bodyOf event
  if !body.truthy then respond 400 (problem s!"{name} is required")
  else if !(← body.holdsName name) then respond 400 (problem s!"{name} is required")
  else do next (← body.field name)

def collect (s : Setting) (event context : Value) : Flow Value :=
  answered context <| withBodyField event "chargeId" fun charge => do
    respond 200 (← collectPayment s charge)

def refund (s : Setting) (event context : Value) : Flow Value :=
  answered context <| withBodyField event "chargeId" fun charge => do
    respond 200 (← refundPayment s charge)

def getPayment (s : Setting) (event context : Value) : Flow Value := answeredAs 404 context do
  let charge ← pathParameter event (.text "charge_id")
  respond 200 (← payment s charge)

def isPositive (points : Value) : Except Fault Bool :=
  match points with
  | .int _ | .float _ | .bool _ => do return !(← points.related .le (.int 0))
  | _ => .ok false

def addPoints (s : Setting) (table : String) (customer points : Value) : Flow Value := do
  if !(← isPositive points) then refuse "Points must be a positive number"
  else do
    let id ← identifier
    let whole ← points.asInt
    let entry : Fields := [("id", .text id), ("customerId", customer), ("points", .int whole),
      ("flag", .text "active"), ("date", s.stamp)]
    refusing "Failed to add loyalty points" do
      let item ← Value.storableFields entry
      let _ ← ask table (.put item none)
      return .map [("message", .text "Loyalty points added successfully"),
        ("customerId", customer), ("pointsAdded", .int whole)]

def addLoyalty (s : Setting) (event context : Value) : Flow Value := do
  let table ← s.require "LOYALTY_TABLE"
  answered context do
    let _ ← userOf event
    let customer ← pathParameter event (.text "customer_id")
    withBodyField event "points" fun points => do
      respond 200 (← addPoints s table customer points)

def loyaltyPoints (table : String) (customer : Value) : Flow Int :=
  refusing s!"Error getting loyalty points for {customer.str}" do
    pointsOf (← ask table (activePoints customer))

def getLoyalty (table : String) (event context : Value) : Flow Value := answered context do
  let user ← userOf event
  let customer ← pathParameter event (.text "customer_id")
  if !customer.same user then
    respond 403 (problem "Access denied. You can only access your own loyalty information.")
  else do respond 200 (← standing (← loyaltyPoints table customer))

end Unbundle.Airline.Linked
