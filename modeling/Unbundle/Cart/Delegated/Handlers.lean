import Unbundle.Cart.Shelf

/-!
# The shop with delegated totals

The requests of shoppers, and the functions that keep totals, delete carts, clean up and register
users.
-/

namespace Unbundle.Cart.Delegated

open Service Service.Flow

/-! ## Invoking other functions of the shop -/

/-- The function that a name stands for: the one a variable holds, or the name itself. -/
def resolve (s : Setting) (function : String) : Except Fault String :=
  if function.startsWith "$\x7b" && function.endsWith "\x7d" then
    let name := String.ofList ((function.toList.drop 2).dropLast)
    match s.given? name with
    | some f => .ok f
    | none => .error (.refused s!"Environment variable {name} not found")
  else .ok function

/-- Invokes a function. Only an invocation that waits has a result. -/
def invoke (s : Setting) (function payload mode : Value) : Flow Value := do
  let function ← resolve s (← function.textFor "startswith")
  Flow.attempt
    (do
      let payload ← payload.toJson
      let reply ← client "lambda" "invoke" [("FunctionName", .text function),
        ("InvocationType", mode), ("Payload", payload)]
      if mode.same (.text "RequestResponse") then
        (← (← (← reply.field "Payload").readAll).decoded).parsed
      else return .null)
    fun e => Flow.fail (.named "Exception" s!"Failed to invoke Lambda {function}: {e.message}")

def pretend (function payload : Value) : Flow Unit :=
  print s!"Mock invoke_lambda: {function.str}, payload: {payload.str}"

def inform (s : Setting) (function : String) (payload : Value) : Flow Unit :=
  if s.has "internal_client" then do
    let _ ← invoke s (.text function) payload (.text "Event")
  else pretend (.text function) payload

/-- Invokes the function that a variable names, if it is set. A fault is only printed. -/
def informIfSet (s : Setting) (name sentence : String) (payload : Value) : Flow Unit :=
  orPrint sentence () do
    match s.given? name with
    | some function => inform s function payload
    | none => pure ()

/-! ## Who is asking -/

def respond (status : Int) (body : Value) (more : Fields) : Flow Value := do
  return answer status (openHeaders ++ more) (← body.toJson)

def plainAnswer (status : Int) (body : Value) : Flow Value := do
  return .map [("statusCode", .int status), ("body", ← body.toJson)]

def answered (name : String) (flow : Flow Value) : Flow Value :=
  flow.attempt fun e => do
    print s!"Error in {name} lambda: {e.message}"
    respond 500 (note "Internal server error") []

def plainlyAnswered (name : String) (flow : Flow Value) : Flow Value :=
  flow.attempt fun e => do
    print s!"Error in {name} lambda: {e.message}"
    plainAnswer 500 (note "Internal server error")

def userOf (event : Value) : Except Fault Value := do
  if ← isAuthorized event then
    let authorizer ← (← event.field "requestContext").field "authorizer"
    (← authorizer.getD "claims" (.map [])).get "sub"
  else return .null

def cartHeader (event : Value) : Except Fault Value := do
  let headers ← event.getD "headers" (.map [])
  if ← headers.holdsName "x-cart-id" then headers.field "x-cart-id" else return .null

def pathParameter (event : Value) (name : String) : Except Fault Value := do
  (← event.getD "pathParameters" (.map [])).get name

def bodyOf (event : Value) : Except Fault Value := do
  (← event.getD "body" (.text "\x7b\x7d")).parsed

def sentBy (event : Value) : Except Fault Value := do
  if ← event.holdsName "body" then (← event.field "body").parsed else return event

def cartOf (user id : Value) : Value := if user.truthy then userCart user else visitorCart id

/-! ## The shop with delegated totals -/

def reportChange (s : Setting) (sentence : String) (product change : Value) : Flow Unit :=
  informIfSet s "PRODUCT_AGGREGATE_UPDATE_FUNCTION_NAME" sentence
    (.map [("product_id", product), ("quantity_change", change)])

def add (s : Setting) (event : Value) : Flow Value := answered "cart-add" do
  let body ← bodyOf event
  let product ← body.get "productId"
  let quantity ← body.getD "quantity" (.int 1)
  if !product.truthy then respond 400 (note "Product ID required") []
  else do
    let detail ← findProduct s product
    if !detail.truthy then respond 404 (note "Product not found") []
    else do
      let user ← userOf event
      let named ← cartHeader event
      let id ← if named.truthy then pure named else Value.text <$> identifier
      let expires ← expiry s user.truthy
      addLine s (cartOf user id) product quantity detail expires
      reportChange s "Failed to invoke product-aggregate-update" product quantity
      respond 200 (.map [("productId", product), ("message", .text "product added to cart")])
        (if user.truthy then [] else cartIdHeader id)

def quantityIn (product : Value) : List Value → Except Fault Value
  | [] => .ok (.int 0)
  | line :: lines => do
    if (← line.field "sk").same (.text (productLead ++ product.str)) then line.field "quantity"
    else quantityIn product lines

def update (s : Setting) (event : Value) : Flow Value := answered "cart-update" do
  let product ← pathParameter event "product_id"
  let body ← bodyOf event
  let quantity ← (← body.getD "quantity" (.int 0)).asInt
  if !product.truthy then respond 400 (note "Product ID required") []
  else if quantity < 0 then
    respond 400 (.map [("productId", product),
      ("message", .text "Quantity must not be lower than 0")]) []
  else do
    let detail ← findProduct s product
    if !detail.truthy then respond 404 (note "Product not found") []
    else do
      let user ← userOf event
      let named ← cartHeader event
      let id ← if !named.truthy && !user.truthy then Value.text <$> identifier else pure named
      let expires ← expiry s user.truthy
      let cart := cartOf user id
      let old ← quantityIn product (← cartItems s (some s.now) cart)
      setLine s cart product (.int quantity) detail expires
      let change ← (Value.int quantity).sub old
      if !change.same (.int 0) then
        reportChange s "Failed to invoke product-aggregate-update" product change
      respond 200 (.map [("productId", product), ("quantity", .int quantity),
        ("message", .text "cart updated")])
        (if !user.truthy && id.truthy then cartIdHeader id else [])

def list (s : Setting) (event : Value) : Flow Value := answered "cart-list" do
  let user ← userOf event
  let named ← cartHeader event
  let id ← if named.truthy then pure named else Value.text <$> identifier
  let lines ← if !named.truthy && !user.truthy then pure []
    else cartItems s (some s.now) (cartOf user id)
  respond 200 (← productsBody lines) (if user.truthy then [] else cartIdHeader id)

def withUser (event : Value) (next : Value → Flow Value) : Flow Value := do
  let user ← userOf event
  if user.truthy then next user else respond 401 (note "Authentication required") []

def migrateCart (s : Setting) (event : Value) : Flow Value :=
  answered "cart-migrate" <| withUser event fun user => do
    let id ← cartHeader event
    if !id.truthy then respond 400 (note "Cart ID required") []
    else do
      let _ ← migrate s (visitorCart id) (userCart user) deleteAll
      let lines ← cartItems s (some s.now) (userCart user)
      respond 200 (← productsBody lines) (cartIdHeader id)

def reportSold (s : Setting) : List Value → Flow Unit
  | [] => pure ()
  | line :: lines => do
    let product ← (← line.field "sk").without productLead
    let change ← (← line.field "quantity").negated
    reportChange s s!"Failed to update product aggregate for {product.str}" product change
    reportSold s lines

def checkout (s : Setting) (event : Value) : Flow Value :=
  answered "cart-checkout" <| withUser event fun user => do
    let lines ← cartItems s (some s.now) (userCart user)
    reportSold s lines
    informIfSet s "CART_DELETE_FUNCTION_NAME" "Failed to invoke cart-delete-items"
      (.map [("pk", userCart user)])
    respond 200 (.map [("products", .list lines), ("message", .text "Checkout successful")]) []

def deleteItems (s : Setting) (event : Value) : Flow Value := plainlyAnswered "cart-delete-items" do
  let cart ← (← sentBy event).get "pk"
  if !cart.truthy then plainAnswer 400 (note "Partition key (pk) required")
  else do
    let count ← deleteCart s cart
    plainAnswer 200 (.map [("message", .text "Cart items deleted successfully"),
      ("deleted_count", .int count)])

/-- Deletes the expired lines of all carts and says how many there were; none if that fails. -/
def deleteExpired (s : Setting) : Flow Nat := do
  let table ← tableOf s
  orPrint "Failed to clean up expired items" 0 do
    let reply ← ask table (.scan (.both (.present false "expirationTime")
      (.less false "expirationTime" (.int s.now.wholeSeconds))) none)
    let items ← (← reply.field "Items").items
    deleteAll table items
    return items.length

def cleanUp (s : Setting) : Flow Value := plainlyAnswered "cart-cleanup-expired" do
  let count ← deleteExpired s
  plainAnswer 200 (.map [("message", .text "Expired items cleanup completed"),
    ("deleted_count", .int count)])

def total (s : Setting) (event : Value) : Flow Value := answered "cart-total" do
  let product ← pathParameter event "product_id"
  if !product.truthy then respond 400 (note "Product ID required") []
  else do
    let quantity ← totalOf s product
    respond 200 (.map [("product", product), ("quantity", quantity)]) []

def getProduct (s : Setting) (event : Value) : Flow Value := answered "products-get" do
  let product ← pathParameter event "product_id"
  if !product.truthy then respond 400 (note "Product ID required") []
  else do
    let detail ← findProduct s product
    if !detail.truthy then respond 404 (note "Product not found") []
    else respond 200 (.map [("product", detail)]) []

def listProducts (s : Setting) : Flow Value := answered "products-list" do
  respond 200 (.map [("products", ← allProducts s)]) []

def regionStamp (s : Setting) : Value := .text ((s.get? "AWS_REGION").getD "us-east-1")

/-- Changes the total of a product. A change that the store finds invalid starts a new total. -/
def changeTotal (s : Setting) (product change : Value) : Flow Unit := do
  let table ← tableOf s
  Flow.attempt (addToTotal table product change (regionStamp s)) fun e =>
    match e with
    | .service "ValidationException" _ _ => startTotal table product change (regionStamp s)
    | e => do
      print s!"Failed to update product aggregate: {e.message}"
      Flow.fail e

def changeTotalFor (s : Setting) (event : Value) : Flow Value :=
  plainlyAnswered "product-aggregate-update" do
    let body ← sentBy event
    let product ← body.get "product_id"
    let change ← body.get "quantity_change"
    let missing := match change with
      | .null => true
      | _ => !product.truthy
    if missing then plainAnswer 400 (note "Product ID and quantity_change required")
    else do
      changeTotal s product change
      plainAnswer 200 (.map [("message", .text "Product aggregate updated successfully"),
        ("product_id", product), ("quantity_change", change)])

def storeProfile (s : Setting) (user name email : Value) : Flow Unit := do
  let table ← tableOf s
  orPrint "Failed to create user profile" () do
    let _ ← ask table (.put
      (key (.text s!"USER#{name.str}") (.text "PROFILE") ++
        [("id", user), ("username", name), ("email", email), ("created_at", s.stamp)])
      (some (.absent "pk")))

/-- Registers a user whose account was confirmed. The event is passed on in any case. -/
def register (s : Setting) (event : Value) : Flow Value :=
  orPrint "Error in cognito-post-confirmation lambda" event do
    let traits ← (← event.getD "request" (.map [])).getD "userAttributes" (.map [])
    let user ← traits.get "sub"
    let preferred ← traits.get "preferred_username"
    let name ← if preferred.truthy then pure preferred
      else (traits.get "email" : Except Fault Value)
    let email ← traits.get "email"
    if !user.truthy || !name.truthy then do
      print s!"Missing required user attributes: {traits.str}"
      return event
    else do
      storeProfile s user name email
      print s!"Created user profile for {name.str} ({user.str})"
      return event

def handler (handle : Setting → Value → Flow Value) : Handler :=
  ⟨loadNothing, fun s event _ => handle s event⟩

end Unbundle.Cart.Delegated
