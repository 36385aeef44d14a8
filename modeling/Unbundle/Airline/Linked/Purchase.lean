import Unbundle.Airline.Linked.Flights

/-!
# Booking and cancelling by linked functions

A booking invokes one function for each step and waits for it. When a step fails, the functions that
undo the earlier ones are invoked without waiting.
-/

namespace Unbundle.Airline.Linked

open Service Service.Flow

/-! ## Bookings of the linked functions -/

def findBooking (bookings : String) (id : Value) : Flow Value :=
  refusing s!"Error getting booking {id.str}" do
    plainItem (← ask bookings (.get (key id)))

def getBooking (bookings : String) (event context : Value) : Flow Value := answered context do
  let user ← userOf event
  let id ← pathParameter event (.text "booking_id")
  let booking ← findBooking bookings id
  if !booking.truthy then respond 404 (problem s!"Booking {id.str} not found")
  else if !(← booking.field "customer").same user then
    respond 403 (problem "Access denied. You can only access your own bookings.")
  else respond 200 booking

/-- Goes on with a stored booking of the user in the request. `doing` is what the user may do only
with own bookings. -/
def withOwnBooking (bookings doing : String) (event : Value) (next : Value → Value → Flow Value) :
    Flow Value := do
  let user ← userOf event
  let id ← pathParameter event (.text "booking_id")
  let reply ← ask bookings (.get (key id))
  if !(← reply.holdsName "Item") then respond 404 (problem s!"Booking {id.str} not found")
  else do
    let booking ← reply.field "Item"
    if !(← booking.field "customer").same user then
      respond 403 (problem s!"Access denied. You can only {doing} your own bookings.")
    else next id booking

def confirmBooking (bookings : String) (id : Value) : Flow String := do
  let reply ← ask bookings (.get (key id))
  if !(← reply.holdsName "Item") then refuse s!"Invalid booking ID: {id.str}"
  else do
    let reference ← token 4
    refusing "Failed to confirm booking" do
      let _ ← ask bookings (Direct.setStatus id "CONFIRMED" (some reference))
      return reference

def confirm (bookings : String) (event context : Value) : Flow Value :=
  answered context <| withOwnBooking bookings "confirm" event fun id _ => do
    let reference ← confirmBooking bookings id
    respond 200 (.map [("bookingId", id), ("bookingReference", .text reference),
      ("status", .text "CONFIRMED")])

def cancelBooking (bookings : String) (id : Value) : Flow Value :=
  refusing "Failed to cancel booking" do
    let _ ← ask bookings (Direct.setStatus id "CANCELLED" none)
    return .bool true

def holdsAll (v : Value) : List String → Except Fault Bool
  | [] => .ok true
  | name :: names => do if ← v.holdsName name then holdsAll v names else return false

def isComplete (order : Value) : Except Fault Bool :=
  holdsAll order ["outboundFlightId", "customerId", "chargeId"]

def reserveBooking (s : Setting) (bookings : String) (order : Value) : Flow Value := do
  if !(← isComplete order) then
    refuse "Invalid booking request: missing required fields"
  else do
    let id ← identifier
    let booking : Fields :=
      [("id", .text id), ("stateExecutionId", ← order.getD "stateExecutionId" (.text "")),
        ("__typename", .text "Booking"),
        ("bookingOutboundFlightId", ← order.field "outboundFlightId"), ("checkedIn", .bool false),
        ("customer", ← order.field "customerId"), ("paymentToken", ← order.field "chargeId"),
        ("status", .text "UNCONFIRMED"), ("createdAt", s.stamp), ("bookingReference", .null)]
    refusing "Failed to create booking" do
      let item ← Value.storableFields booking
      let _ ← ask bookings (.put item none)
      return .text id

def plainAnswer (status : Int) (body : Value) : Flow Value := do
  return .map [("statusCode", .int status), ("body", ← body.toJson)]

def plainlyAnswered (context : Value) (flow : Flow Value) : Flow Value :=
  flow.attempt fun e => do
    logProblem e.kind e.message context
    if e.isRefusal then plainAnswer 400 (problem e.message)
    else plainAnswer 500 (problem "Internal server error")

def storeBooking (s : Setting) (event context : Value) : Flow Value := do
  let bookings ← s.require "BOOKING_TABLE"
  plainlyAnswered context do
    let order ← event.getD "booking_data" (.map [])
    let id ← reserveBooking s bookings order
    plainAnswer 200 (.map [("booking_id", id), ("status", .text "UNCONFIRMED")])

/-- What a customer is told about a booking. A booking without a reference was cancelled. -/
def notification (customer price reference : Value) : Flow Value := do
  let status := if reference.truthy then "confirmed" else "cancelled"
  let about := if reference.truthy then reference.str else "most recent booking"
  let id ← token 16
  return .map [("notificationId", .text id), ("customerId", customer), ("price", price),
    ("status", .text status), ("subject", .text s!"Booking {status} for {about}")]

def notify (event context : Value) : Flow Value := plainlyAnswered context do
  let customer ← event.get "customer_id"
  let price ← event.getD "price" (.int 0)
  let reference ← event.get "booking_reference"
  if !customer.truthy then refuse "customer_id is required"
  else do plainAnswer 200 (← notification customer price reference)

def customerBookings (bookings : String) (customer status : Value) : Flow Value :=
  refusing s!"Error getting bookings for customer {customer.str}" do
    plainItems (← ask bookings (Direct.bookingsBy customer status))

def listBookings (bookings : String) (event context : Value) : Flow Value := answered context do
  let user ← userOf event
  let customer ← pathParameter event (.text "customer_id")
  if !customer.same user then
    respond 403 (problem "Access denied. You can only access your own bookings.")
  else do
    let status ← queryParameter event (.text "status") .null
    let found ← customerBookings bookings customer status
    respond 200 (.map [("bookings", found)])

/-! ## Booking and cancelling by linked functions -/

structure Partners where
  reserveSeat : String
  releaseSeat : String
  reserveBooking : String
  confirmBooking : String
  cancelBooking : String
  notify : String
  collect : String
  refund : String
  addPoints : String

def partnerNames : List String :=
  ["FLIGHTS_RESERVE_SEAT_FUNCTION_NAME", "FLIGHTS_RELEASE_SEAT_FUNCTION_NAME",
    "BOOKINGS_RESERVE_FUNCTION_NAME", "BOOKINGS_CONFIRM_FUNCTION_NAME",
    "BOOKINGS_CANCEL_FUNCTION_NAME", "BOOKINGS_NOTIFY_FUNCTION_NAME",
    "PAYMENTS_COLLECT_FUNCTION_NAME", "PAYMENTS_REFUND_FUNCTION_NAME",
    "LOYALTY_ADD_POINTS_FUNCTION_NAME"]

def Partners.ofSetting (s : Setting) : Except Fault Partners := do
  return {
    reserveSeat := ← s.require "FLIGHTS_RESERVE_SEAT_FUNCTION_NAME"
    releaseSeat := ← s.require "FLIGHTS_RELEASE_SEAT_FUNCTION_NAME"
    reserveBooking := ← s.require "BOOKINGS_RESERVE_FUNCTION_NAME"
    confirmBooking := ← s.require "BOOKINGS_CONFIRM_FUNCTION_NAME"
    cancelBooking := ← s.require "BOOKINGS_CANCEL_FUNCTION_NAME"
    notify := ← s.require "BOOKINGS_NOTIFY_FUNCTION_NAME"
    collect := ← s.require "PAYMENTS_COLLECT_FUNCTION_NAME"
    refund := ← s.require "PAYMENTS_REFUND_FUNCTION_NAME"
    addPoints := ← s.require "LOYALTY_ADD_POINTS_FUNCTION_NAME" }

def undoSeat (p : Partners) (flight : Value) : Flow Unit :=
  inform p.releaseSeat (.map [("flight_id", flight)])

def undoBooking (p : Partners) (id : Value) : Flow Unit :=
  inform p.cancelBooking (.map [("booking_id", id)])

def undoPayment (p : Partners) (charge : Value) : Flow Unit :=
  inform p.refund (.map [("chargeId", charge)])

def failedStep (status : Int) (what step : String) (e : Fault) (more : Fields) : Flow Value :=
  respond status (.map ([("error", .text s!"{what}: {e.message}"), ("step", .text step)] ++ more))

/-- Answers a fault that no step expects, after all that was done is undone. -/
def unexpected (e : Fault) (undo : Flow Unit) : Flow Value := do
  print s!"UNEXPECTED ERROR in booking workflow: {e.message}"
  undo
  respond 500 (.map [("error", .text s!"Unexpected error during booking: {e.message}"),
    ("message", .text "The booking has been rolled back. Please try again.")])

def conclude (p : Partners) (user payment id reference : Value) : Flow Value := do
  orPrint "Warning: Failed to add loyalty points" () do
    let price ← payment.getD "price" (.int 0)
    inform p.addPoints (.map [("customer_id", user), ("points", price)])
  orPrint "Warning: Failed to send notification" () do
    let price ← payment.getD "price" (.int 0)
    inform p.notify (.map [("customer_id", user), ("price", price),
      ("booking_reference", reference)])
  respond 201 (.map [("bookingId", id), ("bookingReference", reference),
    ("status", .text "CONFIRMED"), ("payment", payment)])

def confirmPaid (p : Partners) (user flight id charge payment : Value) : Flow Value := do
  let confirmed ← Flow.outcome do
    (← consult p.confirmBooking (.map [("booking_id", id)])).get "booking_reference"
  match confirmed with
  | .error e => do
    print s!"CRITICAL: Booking confirmation failed after payment: {e.message}"
    undoPayment p charge
    undoBooking p id
    undoSeat p flight
    failedStep 500 "Booking confirmation failed" "Confirm Booking" e
      [("bookingId", id), ("message", .text "Payment has been refunded")]
  | .ok reference => conclude p user payment id reference

def payFor (p : Partners) (user order flight id : Value) : Flow Value :=
  match order.field "chargeId" with
  | .error e => unexpected e do
    undoBooking p id
    undoSeat p flight
  | .ok charge => do
    match ← (consult p.collect (.map [("chargeId", charge)])).outcome with
    | .error e => do
      undoBooking p id
      undoSeat p flight
      failedStep 400 "Payment failed" "Collect Payment" e [("bookingId", id)]
    | .ok payment => confirmPaid p user flight id charge payment

def book (p : Partners) (user order : Value) : Flow Value :=
  match order.field "outboundFlightId" with
  | .error e => unexpected e (pure ())
  | .ok flight => do
    match ← (consult p.reserveSeat (.map [("flight_id", flight)])).outcome with
    | .error e => failedStep 400 "Flight reservation failed" "Reserve Flight" e []
    | .ok _ =>
      let stored ← Flow.outcome do
        let id ← (← consult p.reserveBooking (.map [("booking_data", order)])).get "booking_id"
        if id.truthy then pure id
        else refuse "Booking reservation failed: no booking ID returned"
      match stored with
      | .error e =>
        if e.isRefusal then do
          undoSeat p flight
          failedStep 400 "Booking reservation failed" "Reserve Booking" e []
        else unexpected e (undoSeat p flight)
      | .ok id => payFor p user order flight id

def createBooking (s : Setting) (event context : Value) : Flow Value := do
  let p ← Partners.ofSetting s
  answered context do
    let user ← userOf event
    let order ← bodyOf event
    if !order.truthy then respond 400 (problem "Request body is required")
    else do book p user (← order.withField "customerId" user)

def cancelNames : List String :=
  ["BOOKING_TABLE", "FLIGHT_TABLE", "FLIGHTS_RELEASE_SEAT_FUNCTION_NAME",
    "PAYMENTS_REFUND_FUNCTION_NAME", "BOOKINGS_NOTIFY_FUNCTION_NAME"]

def cancel (s : Setting) (event context : Value) : Flow Value := do
  let bookings ← s.require "BOOKING_TABLE"
  let releaseSeat ← s.require "FLIGHTS_RELEASE_SEAT_FUNCTION_NAME"
  let refund ← s.require "PAYMENTS_REFUND_FUNCTION_NAME"
  let notify ← s.require "BOOKINGS_NOTIFY_FUNCTION_NAME"
  answered context <| withOwnBooking bookings "cancel" event fun id booking => do
    let _ ← cancelBooking bookings id
    orPrint "Warning: Failed to release flight seat" () do
      inform releaseSeat (.map [("flight_id", ← booking.field "bookingOutboundFlightId")])
    let failed : Value := .map [("refundId", .text "N/A"), ("status", .text "failed")]
    let refunded ← orPrint "Warning: Failed to refund payment" failed do
      inform refund (.map [("chargeId", ← booking.field "paymentToken")])
      return .map [("refundId", .text "processing"), ("status", .text "initiated")]
    let notified ← orPrint "Warning: Failed to send notification" "failed" do
      inform notify (.map [("customer_id", ← booking.field "customer"), ("price", .int 0),
        ("booking_reference", .null)])
      return "sent"
    respond 200 (.map [("bookingId", id), ("status", .text "CANCELLED"), ("refund", refunded),
      ("notification", .map [("status", .text notified)])])

end Unbundle.Airline.Linked
