import Unbundle.Airline.Direct.Purchase

/-!
# Flights of the linked functions
-/

namespace Unbundle.Airline.Linked

open Service Service.Flow

/-! ## Access to the linked functions -/

def problemEntry (kind text : String) (context : Value) : Except Fault Value := do
  let about : Fields := [("error_type", .text kind), ("error_message", .text text)]
  let place : Fields ← if context.truthy then do
      pure [("aws_request_id", ← context.part "aws_request_id"),
        ("function_name", ← context.part "function_name"),
        ("function_version", ← context.part "function_version")]
    else pure []
  (Value.map (about ++ place)).toJson

def logProblem (kind text : String) (context : Value) : Flow Unit := do
  let entry ← problemEntry kind text context
  log .error entry.str

/-- Answers a fault: a refused value with its message under `status`, all else with status 500. -/
def answeredAs (status : Int) (context : Value) (flow : Flow Value) : Flow Value :=
  flow.attempt fun e => do
    logProblem e.kind e.message context
    if e.isRefusal then respond status (problem e.message)
    else respond 500 (problem "Internal server error")

/-- Answers a fault: a refused value with status 400, all else with status 500. -/
def answered (context : Value) (flow : Flow Value) : Flow Value := answeredAs 400 context flow

def userOf (event : Value) : Flow Value :=
  Flow.attempt
    (do (← (← (← event.field "requestContext").field "authorizer").field "claims").field "sub")
    fun e =>
      if e.isMissing then do
        log .error s!"Failed to extract user ID from event: {e.message}"
        refuse "User authentication required"
      else Flow.fail e

def pathParameter (event name : Value) : Except Fault Value :=
  let found : Except Fault Value := do (← event.field "pathParameters").item name
  match found with
  | .error e =>
    if e.isMissing || e.isMistyped then
      .error (.refused s!"Path parameter '{name.str}' is required")
    else .error e
  | .ok v =>
    if v.truthy then .ok v else .error (.refused s!"Path parameter '{name.str}' is empty")

def queryParameter (event name default : Value) : Except Fault Value :=
  let found : Except Fault Value := do
    let query ← event.getD "queryStringParameters" (.map [])
    let query := if query.truthy then query else .map []
    match query with
    | .map fs => do
      name.hashable
      match name with
      | .text k => return (Value.lookup k fs).getD default
      | _ => return default
    | v => .error (.noAttribute v.fullKind "get")
  match found with
  | .error e => if e.isMissing || e.isMistyped then .ok default else .error e
  | .ok v => .ok v

/-- The JSON body of a request; an empty one counts as an empty map. -/
def bodyOf (event : Value) : Except Fault Value := do
  let body ← event.getD "body" (.text "\x7b\x7d")
  if !body.truthy then return .map []
  match body.parsed with
  | .error (.json e) => .error (.refused s!"Invalid JSON body: {e.message}")
  | r => r

def inform (function : String) (payload : Value) : Flow Unit :=
  orPrint s!"Warning: Failed to invoke {function} asynchronously" () do
    let payload ← payload.toJson
    let _ ← client "lambda" "invoke" [("FunctionName", .text function),
      ("InvocationType", .text "Event"), ("Payload", payload)]

def consult (function : String) (payload : Value) : Flow Value :=
  refusing s!"Failed to invoke {function}" do
    let payload ← payload.toJson
    let reply ← client "lambda" "invoke" [("FunctionName", .text function),
      ("InvocationType", .text "RequestResponse"), ("Payload", payload)]
    (← (← reply.field "Payload").readAll).parsed

def loadWith (names : List String) (s : Setting) : Flow Unit := do
  s.useLibrary "shared_utils"
  names.forM fun name => do let _ ← s.require name

def handlerWith (names : List String) (handle : Setting → Value → Value → Flow Value) : Handler :=
  ⟨loadWith names, handle⟩

def tableHandler (name : String) (handle : String → Value → Value → Flow Value) : Handler :=
  handlerWith [name] fun s event context => do handle (← s.require name) event context

/-! ## Flights of the linked functions -/

def findFlight (flights : String) (flight : Value) : Flow Value :=
  refusing s!"Error getting flight {flight.str}" do
    plainItem (← ask flights (.get (key flight)))

def releaseSeat (flights : String) (flight : Value) : Flow Value :=
  seatChange "Cannot release seat, already at maximum capacity" "Failed to release seat" do
    let item ← findFlight flights flight
    if !item.truthy then refuse s!"Flight {flight.str} does not exist"
    else do
      let maximum ← item.field "maximumSeating"
      let _ ← ask flights (returnSeat flight maximum)
      return success

def getFlight (flights : String) (event context : Value) : Flow Value := answered context do
  let flight ← pathParameter event (.text "flight_id")
  let item ← findFlight flights flight
  if item.truthy then respond 200 item
  else respond 404 (problem s!"Flight with ID {flight.str} not found")

def findFlights (flights : String) (departure arrival date : Value) : Flow Value :=
  refusing "Error searching flights" do
    plainItems (← ask flights (Direct.flightsBetween departure arrival date))

def searchFlights (flights : String) (event context : Value) : Flow Value := answered context do
  let departure ← queryParameter event (.text "departureCode") .null
  let arrival ← queryParameter event (.text "arrivalCode") .null
  let date ← queryParameter event (.text "departureDate") .null
  if !(departure.truthy && arrival.truthy && date.truthy) then
    respond 400 (.map [("error", .text "Missing required parameters"),
      ("required", .ofTexts ["departureCode", "arrivalCode", "departureDate"])])
  else do
    let found ← findFlights flights departure arrival date
    respond 200 (.map [("flights", found)])

def reserve (flights : String) (event context : Value) : Flow Value := answered context do
  let flight ← pathParameter event (.text "flight_id")
  respond 200 (← reserveSeat flights flight)

def release (flights : String) (event context : Value) : Flow Value := answered context do
  let flight ← pathParameter event (.text "flight_id")
  respond 200 (← releaseSeat flights flight)

end Unbundle.Airline.Linked
