import Unbundle.Airline.Basic

/-!
# Booking and cancelling

A booking goes through four steps that have to succeed: a seat, the booking itself, the payment and
the confirmation. A step that fails undoes the ones before it, latest first. What follows the
confirmation may fail without harm.
-/

namespace Unbundle.Airline.Direct

open Service Service.Flow

/-! ## Bookings -/

/-! ### Access to the airline's tables -/

/-- Answers a fault: status 400 for a refused value, 500 for all else. -/
def answered (flow : Flow Value) : Flow Value :=
  flow.attempt fun e =>
    respond (if e.isRefusal then 400 else 500)
      (.map [("error", .text e.message), ("type", .text e.kind)])

def tableOf (s : Setting) (name : String) : Except Fault String :=
  match s.given? name with
  | some table => .ok table
  | none => .error (.refused s!"{name} environment variable not set")

def userOf (event : Value) : Except Fault Value :=
  let claimed : Except Fault Value := do
    (← (← (← event.field "requestContext").field "authorizer").field "claims").field "sub"
  match claimed with
  | .error e =>
    if e.isMissing then
      .error (.refused "User ID not found in event. Ensure Cognito authorizer is configured.")
    else .error e
  | .ok user => .ok user

def pathParameter (event : Value) (name : String) : Except Fault Value := do
  (← event.getD "pathParameters" (.map [])).get name

def withParameter (event : Value) (name : String) (next : Value → Flow Value) : Flow Value := do
  let v ← pathParameter event name
  if v.truthy then next v else respond 400 (problem s!"{name} is required in path")

def queryParameters (event : Value) : Except Fault Value := do
  let query ← event.getD "queryStringParameters" (.map [])
  return if query.truthy then query else .map []

def bodyOf (event : Value) : Except Fault Value := do
  (← event.getD "body" (.text "\x7b\x7d")).parsed

/-- Invokes a function. Only a call that waits has a result. -/
def invoke (function payload mode : Value) : Flow Value :=
  Flow.attempt
    (do
      let payload ← payload.storedToJson
      let reply ← client "lambda" "invoke"
        [("FunctionName", function), ("InvocationType", mode), ("Payload", payload)]
      if mode.same (.text "RequestResponse") then (← (← reply.field "Payload").readAll).parsed
      else return .null)
    fun e => do
      print s!"Error invoking Lambda {function.str}: {e.message}"
      Flow.fail e

def profile (user table : Value) : Flow Value :=
  orPrint s!"Error getting user profile for {user.str}" .null do
    (← ask table.str (.get [("userId", user)])).get "Item"

def itemOrNull (what table : String) (id : Value) : Flow Value :=
  orPrint s!"Error getting {what} {id.str}" .null do
    plainItem (← ask table (.get (key id)))

def handler (handle : Setting → Value → Flow Value) : Handler :=
  ⟨loadLibrary "internal_client", fun s event _ => handle s event⟩

/-! ### Flights -/

def flightsOf (s : Setting) : Except Fault String := tableOf s "FLIGHT_TABLE"

def flightForRelease (flights : String) (flight : Value) : Flow Value := do
  let reply ← ask flights (.get (key flight))
  if !(← reply.holdsName "Item") then refuse s!"Flight {flight.str} does not exist"
  else (← reply.field "Item").plain

def releaseSeat (flights : String) (flight : Value) : Flow Value :=
  seatChange "Cannot release seat, already at maximum capacity" "Failed to release seat" do
    let item ← flightForRelease flights flight
    let maximum ← item.field "maximumSeating"
    let _ ← ask flights (returnSeat flight maximum)
    return success

def getFlight (s : Setting) (event : Value) : Flow Value :=
  answered <| withParameter event "flight_id" fun flight => do
    let item ← itemOrNull "flight" (← flightsOf s) flight
    if item.truthy then respond 200 item
    else respond 404 (problem s!"Flight with ID {flight.str} not found")

def flightsBetween (departure arrival date : Value) : Request :=
  .scan (.both
    (.both (.equal false "departureAirportCode" departure)
      (.equal false "arrivalAirportCode" arrival))
    (.equal false "departureDate" date)) none

def findFlights (s : Setting) (departure arrival date : Value) : Flow Value := do
  let flights ← flightsOf s
  orPrint "Error searching flights" (.list []) do
    plainItems (← ask flights (flightsBetween departure arrival date))

def searchFlights (s : Setting) (event : Value) : Flow Value := answered do
  let query ← queryParameters event
  let departure ← query.get "departureCode"
  let arrival ← query.get "arrivalCode"
  let date ← query.get "departureDate"
  if !(departure.truthy && arrival.truthy && date.truthy) then
    respond 400 (problem "Missing required parameters")
  else do
    let found ← findFlights s departure arrival date
    respond 200 (.map [("flights", found)])

def reserve (s : Setting) (event : Value) : Flow Value :=
  answered <| withParameter event "flight_id" fun flight => do
    respond 200 (← reserveSeat (← flightsOf s) flight)

def release (s : Setting) (event : Value) : Flow Value :=
  answered <| withParameter event "flight_id" fun flight => do
    respond 200 (← releaseSeat (← flightsOf s) flight)

/-! ### Bookings -/

def bookingsOf (s : Setting) : Except Fault String := tableOf s "BOOKING_TABLE"

def findBooking (s : Setting) (id : Value) : Flow Value := do
  itemOrNull "booking" (← bookingsOf s) id

def setStatus (id : Value) (status : String) (reference : Option String) : Request :=
  .update (key id)
    ⟨[], .setAs "#status" "status" "status" (.text status) ::
      (match reference with
        | none => []
        | some r => [.set "bookingReference" "ref" (.text r)])⟩
    (some (.present "id")) .allNew

/-- Changes a booking. `otherwise` begins the refusal of any fault but a missing booking. -/
def changeStatus (s : Setting) (otherwise : String) (id : Value) (status : String)
    (reference : Option String) : Flow Value := do
  let bookings ← bookingsOf s
  Flow.attempt
    (do
      let reply ← ask bookings (setStatus id status reference)
      (← reply.field "Attributes").plain)
    fun e =>
      if e.isConditionFailure then refuse s!"Booking {id.str} not found"
      else refuse s!"{otherwise}: {e.message}"

def confirmBooking (s : Setting) (id : Value) : Flow String := do
  let booking ← findBooking s id
  if !booking.truthy then refuse s!"Invalid booking ID: {id.str}"
  else do
    let reference ← token 4
    let _ ← changeStatus s "Failed to update booking" id "CONFIRMED" (some reference)
    return reference

def withOwnBooking (s : Setting) (event : Value) (next : Value → Value → Flow Value) :
    Flow Value := answered do
  let user ← userOf event
  withParameter event "booking_id" fun id => do
    let booking ← findBooking s id
    if !booking.truthy then respond 404 (problem s!"Booking {id.str} not found")
    else if !(← booking.get "customer").same user then
      respond 403 (problem "Access denied. You can only access your own bookings.")
    else next id booking

/-- Tells the customer of a booking about it. A fault is only printed. -/
def notify (s : Setting) (booking : Value) (price : Int) (reference : Value) : Flow Unit :=
  orPrint "Warning: Failed to send notification" () do
    let customer ← booking.field "customer"
    let _ ← invoke (s.value "NOTIFY_BOOKING_FUNCTION_NAME")
      (.map [("customerId", customer), ("price", .int price), ("bookingReference", reference)])
      (.text "Event")

def getBooking (s : Setting) (event : Value) : Flow Value :=
  withOwnBooking s event fun _ booking => respond 200 booking

def confirm (s : Setting) (event : Value) : Flow Value :=
  withOwnBooking s event fun id booking => do
    let reference ← confirmBooking s id
    notify s booking 150 (.text reference)
    respond 200 (.map [("bookingId", id), ("bookingReference", .text reference),
      ("status", .text "CONFIRMED")])

def bookingsBy (customer status : Value) : Request :=
  let own := Filter.equal false "customer" customer
  .scan (if status.truthy then .both own (.equal false "status" status) else own) none

def customerBookings (s : Setting) (customer status : Value) : Flow Value := do
  let bookings ← bookingsOf s
  orPrint s!"Error getting bookings for customer {customer.str}" (.list []) do
    plainItems (← ask bookings (bookingsBy customer status))

def listBookings (s : Setting) (event : Value) : Flow Value := answered do
  let user ← userOf event
  withParameter event "customer_id" fun customer => do
    if !user.same customer then
      respond 403 (problem "Access denied. You can only access your own bookings.")
    else do
      let status ← (← queryParameters event).get "status"
      let found ← customerBookings s customer status
      respond 200 (.map [("bookings", found)])

/-! ## Booking and cancelling -/

def simulatePayment (charge : Value) : Except Fault Value :=
  if !charge.truthy then .error (.refused "Invalid Charge ID")
  else .ok (.map [("receiptUrl", .text s!"https://payment.example.com/receipts/{charge.str}"),
    ("price", .int 150)])

def simulateRefund : Flow Value := do
  return .map [("refundId", .text (← token 16))]

def reserveBooking (s : Setting) (body : Value) : Flow String := do
  let id ← identifier
  let booking : Fields :=
    [("id", .text id), ("stateExecutionId", ← body.getD "stateExecutionId" (.text "")),
      ("__typename", .text "Booking"),
      ("bookingOutboundFlightId", ← body.field "outboundFlightId"), ("checkedIn", .bool false),
      ("customer", ← body.field "customerId"), ("paymentToken", ← body.field "chargeId"),
      ("status", .text "UNCONFIRMED"), ("createdAt", s.stamp), ("bookingReference", .null)]
  let bookings ← bookingsOf s
  refusing "Failed to create booking" do
    let item ← Value.storableFields booking
    let _ ← ask bookings (.put item none)
    return id

def cancelBooking (s : Setting) (id : Value) : Flow Unit := do
  let booking ← findBooking s id
  if !booking.truthy then refuse s!"Invalid booking ID: {id.str}"
  else do
    let _ ← changeStatus s "Failed to update booking" id "CANCELLED" none

/-- Undoes a step. A fault is only printed. -/
def undo (step : String) (flow : Flow α) : Flow Unit :=
  orPrint s!"{step}" () do
    let _ ← flow

def undoSeat (s : Setting) (flight : Value) : Flow Unit :=
  undo "Error during flight seat release rollback" do
    releaseSeat (← flightsOf s) flight

def undoBooking (s : Setting) (id : String) : Flow Unit :=
  undo "Error during booking cancellation rollback" (cancelBooking s (.text id))

def failedStep (status : Int) (what step : String) (e : Fault) (more : Fields) : Flow Value :=
  respond status (.map ([("error", .text s!"{what}: {e.message}"), ("step", .text step)] ++ more))

def payload (customer price : Value) (more : Fields) : Value :=
  .map ([("customerId", customer), ("price", price)] ++ more)

def conclude (s : Setting) (body payment : Value) (id reference : String) : Flow Value := do
  orPrint "Warning: Failed to add loyalty points" () do
    let customer ← body.field "customerId"
    let price ← payment.field "price"
    let _ ← invoke (s.value "PROCESS_BOOKING_LOYALTY_FUNCTION_NAME") (payload customer price [])
      (.text "Event")
  let notification ← Flow.attempt
    (do
      let customer ← body.field "customerId"
      let price ← payment.field "price"
      invoke (s.value "NOTIFY_BOOKING_FUNCTION_NAME")
        (payload customer price [("bookingReference", .text reference)])
        (.text "Event"))
    fun e => do
      print s!"Warning: Failed to send notification: {e.message}"
      return .map [("status", .text "failed"), ("error", .text e.message)]
  respond 201 (.map [("bookingId", .text id), ("bookingReference", .text reference),
    ("status", .text "CONFIRMED"), ("payment", payment), ("notification", notification)])

def book (s : Setting) (body flight charge : Value) : Flow Value := do
  match ← (Flow.outcome do reserveSeat (← flightsOf s) flight) with
  | .error e => failedStep 400 "Flight reservation failed" "Reserve Flight" e []
  | .ok _ =>
    match ← (reserveBooking s body).outcome with
    | .error e => do
      undoSeat s flight
      failedStep 400 "Booking reservation failed" "Reserve Booking" e []
    | .ok id =>
      match simulatePayment charge with
      | .error e => do
        undoBooking s id
        undoSeat s flight
        failedStep 400 "Payment failed" "Collect Payment" e [("bookingId", .text id)]
      | .ok payment =>
        match ← (confirmBooking s (.text id)).outcome with
        | .error e => do
          print s!"CRITICAL: Booking confirmation failed after payment: {e.message}"
          undo "CRITICAL: Payment refund failed during rollback" simulateRefund
          undoBooking s id
          undoSeat s flight
          failedStep 500 "Booking confirmation failed" "Confirm Booking" e
            [("bookingId", .text id), ("message", .text "Payment has been refunded")]
        | .ok reference => conclude s body payment id reference

def missingField (v : Value) : List String → Except Fault (Option String)
  | [] => .ok none
  | name :: names => do if ← v.holdsName name then missingField v names else return some name

def createBooking (s : Setting) (event : Value) : Flow Value := answered do
  let user ← userOf event
  let body ← bodyOf event
  if !body.truthy then respond 400 (problem "Request body is required")
  else do
    let body ← body.withField "customerId" user
    match ← missingField body ["outboundFlightId", "chargeId"] with
    | some name => respond 400 (problem s!"{name} is required")
    | none => do
      let flight ← body.field "outboundFlightId"
      let charge ← body.field "chargeId"
      book s body flight charge

def cancel (s : Setting) (event : Value) : Flow Value :=
  withOwnBooking s event fun id booking => do
    let _ ← changeStatus s "Failed to cancel booking" id "CANCELLED" none
    orPrint "Warning: Failed to release flight seat" () do
      let flight ← booking.field "bookingOutboundFlightId"
      let _ ← releaseSeat (← flightsOf s) flight
    let failed : Value := .map [("refundId", .text "N/A"), ("status", .text "failed")]
    let refund ← orPrint "Warning: Failed to refund payment" failed do
      let _ ← booking.field "paymentToken"
      simulateRefund
    notify s booking 0 .null
    respond 200 (.map [("bookingId", id), ("status", .text "CANCELLED"), ("refund", refund)])

end Unbundle.Airline.Direct
