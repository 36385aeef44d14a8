import Unbundle.Airline.Direct.Purchase

/-!
# Payments and loyalty

Payments go to the provider when its key is set and are simulated otherwise. The provider's library is
loaded when it is first needed.
-/

namespace Unbundle.Airline.Direct

open Service Service.Flow

def isReal (s : Setting) : Bool := (s.given? "STRIPE_SECRET_KEY").isSome

def collectReal (s : Setting) (charge : Value) : Flow Value :=
  refusing "Payment failed" do
    s.useLibrary "stripe"
    if ← startsWith charge "pi_" then do
      let intent ← provider "PaymentIntent" "capture" charge
      let page := paymentPage (← intent.part "id")
      return .map [("receiptUrl", page), ("price", ← priceOf intent)]
    else do
      let made ← newCharge charge
      return .map [("receiptUrl", ← receiptOf made), ("price", ← priceOf made)]

def collectPayment (s : Setting) (charge : Value) : Flow Value :=
  if !charge.truthy then refuse "Invalid Charge ID"
  else if isReal s then collectReal s charge
  else do
    print s!"[SIMULATION] Collecting payment for charge: {charge.str}"
    simulatePayment charge

def paymentReal (s : Setting) (charge : Value) : Flow Value :=
  let details := [("chargeId", "id"), ("amount", "amount"), ("status", "status"),
    ("currency", "currency")]
  refusing "Failed to retrieve payment" do
    s.useLibrary "stripe"
    if ← startsWith charge "pi_" then do
      return .map (← partsOf (← provider "PaymentIntent" "retrieve" charge) details)
    else if ← startsWith charge "ch_" then do
      return .map (← partsOf (← provider "Charge" "retrieve" charge)
        (details ++ [("receiptUrl", "receipt_url")]))
    else refuse s!"Invalid charge ID format: {charge.str}"

def payment (s : Setting) (charge : Value) : Flow Value :=
  if isReal s then paymentReal s charge
  else return .map [("chargeId", charge), ("amount", .int 15000), ("status", .text "succeeded"),
    ("currency", .text "usd"), ("mode", .text "simulation")]

def refundPayment (s : Setting) (charge : Value) : Flow Value :=
  if !charge.truthy then refuse "Invalid Charge ID"
  else if isReal s then
    refusing "Refund failed" do
      s.useLibrary "stripe"
      let refund ← providerWith "Refund" "create" [("charge", charge)]
      return .map [("refundId", ← refund.part "id")]
  else do
    print s!"[SIMULATION] Refunding payment for charge: {charge.str}"
    simulateRefund

def withCharge (event : Value) (next : Value → Flow Value) : Flow Value := answered do
  let body ← bodyOf event
  if !body.truthy then respond 400 (problem "chargeId is required")
  else if !(← body.holdsName "chargeId") then respond 400 (problem "chargeId is required")
  else do next (← body.field "chargeId")

def collect (s : Setting) (event : Value) : Flow Value :=
  withCharge event fun charge => do respond 200 (← collectPayment s charge)

def refund (s : Setting) (event : Value) : Flow Value :=
  withCharge event fun charge => do respond 200 (← refundPayment s charge)

def getPayment (s : Setting) (event : Value) : Flow Value :=
  answered <| withParameter event "charge_id" fun charge => do
    respond 200 (← payment s charge)

def loyaltyPoints (s : Setting) (customer : Value) : Flow Int := do
  let table ← tableOf s "LOYALTY_TABLE"
  orPrint s!"Error getting loyalty points for {customer.str}" 0 do
    pointsOf (← ask table (activePoints customer))

def getLoyalty (s : Setting) (event : Value) : Flow Value := answered do
  let user ← userOf event
  withParameter event "customer_id" fun customer => do
    if !user.same customer then
      respond 403 (problem "Access denied. You can only access your own loyalty information.")
    else do respond 200 (← standing (← loyaltyPoints s customer))

end Unbundle.Airline.Direct
