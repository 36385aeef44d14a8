import Unbundle.Cart.Shelf

/-!
# The shop with totals kept by itself

Each request of a shopper also keeps the totals of the products it touches.
-/

namespace Unbundle.Cart.Direct

open Service

def respond (status : Int) (body : Value) (more : Fields) : Flow Value := do
  return answer status (openHeaders ++ ("Access-Control-Allow-Credentials", .bool true) :: more)
    (← body.toJson)

/-- What an answer says about a fault: something of its own about a missing field, and about a body
that is not JSON, and else a sentence that ends in the fault's message. -/
structure Excuse where
  missing : Option String
  malformed : Option String
  otherwise : String

def Excuse.of (x : Excuse) : Fault → Int × String
  | .missingKey key => (x.missing.map ((400, ·))).getD
      (500, s!"{x.otherwise}: {(Fault.missingKey key).message}")
  | .json e => (x.malformed.map ((400, ·))).getD (500, s!"{x.otherwise}: {e.message}")
  | e => (500, s!"{x.otherwise}: {e.message}")

def answered (x : Excuse) (flow : Flow Value) : Flow Value :=
  flow.attempt fun e =>
    let (status, text) := x.of e
    respond status (note text) []

def malformedBody : Option String := some "Invalid JSON in request body"

def noProduct : Option String := some "Missing product_id in path"

def productOf (event : Value) : Except Fault Value := do
  (← event.field "pathParameters").field "product_id"

def userOf (event : Value) : Except Fault Value := do
  (← (← (← event.field "requestContext").field "authorizer").field "claims").field "sub"

def shopperOf (event : Value) : Flow Shopper := do
  if ← isAuthorized event then
    return .user (← userOf event)
  else do
    let id ← (← event.getD "headers" (.map [])).get "x-cart-id"
    if id.truthy then return .visitor id
    else return .visitor (.text (← Flow.identifier))

/-- Changes the total of a product. If that fails for any reason, a new total is started. -/
def changeTotal (s : Setting) (product change : Value) : Flow Unit := do
  let table ← tableOf s
  Flow.attempt (addToTotal table product change s.stamp) fun _ =>
    startTotal table product change s.stamp

def add (s : Setting) (event : Value) : Flow Value :=
  answered ⟨none, malformedBody, "Failed to add to cart"⟩ do
    let body ← (← event.field "body").parsed
    let product ← body.get "productId"
    let quantity ← body.getD "quantity" (.int 1)
    if !product.truthy then respond 400 (note "Product ID required") []
    else do
      let detail ← findProduct s product
      if !detail.truthy then respond 404 (note "Product not found") []
      else do
        let shopper ← shopperOf event
        let expires ← expiry s shopper.isUser
        addLine s shopper.cart product quantity detail expires
        changeTotal s product quantity
        respond 200 (.map [("productId", product), ("message", .text "product added to cart")])
          shopper.headers

def storedLines (s : Setting) (cart : Value) : Flow Value := do
  let table ← tableOf s
  Flow.orPrint "Failed to get cart" (.list []) do
    (← Flow.ask table (linesOf cart)).field "Items"

def quantityIn (product : Value) : List Value → Except Fault Value
  | [] => .ok (.int 0)
  | line :: lines => do
    if (← line.field "sk").same (.text (productLead ++ product.str)) then
      shownQuantity (← line.getD "quantity" (.int 0))
    else quantityIn product lines

def update (s : Setting) (event : Value) : Flow Value :=
  answered ⟨some "Missing product_id in path or quantity in body", malformedBody,
      "Failed to update cart"⟩ do
    let product ← productOf event
    let body ← (← event.field "body").parsed
    let quantity ← (← body.getD "quantity" (.int 0)).asInt
    if quantity < 0 then
      respond 400 (.map [("productId", product),
        ("message", .text "Quantity must not be lower than 0")]) []
    else do
      let detail ← findProduct s product
      if !detail.truthy then respond 404 (note "Product not found") []
      else do
        let shopper ← shopperOf event
        let expires ← expiry s shopper.isUser
        let old ← quantityIn product (← (← storedLines s shopper.cart).items)
        setLine s shopper.cart product (.int quantity) detail expires
        let change ← (Value.int quantity).sub old
        if !change.same (.int 0) then changeTotal s product change
        respond 200 (.map [("productId", product), ("quantity", .int quantity),
          ("message", .text "cart updated")]) shopper.headers

def list (s : Setting) (event : Value) : Flow Value :=
  answered ⟨none, none, "Internal server error"⟩ do
    let shopper ← shopperOf event
    let lines ← cartItems s (some s.now) shopper.cart
    respond 200 (← productsBody lines) shopper.headers

def withUser (event : Value) (next : Value → Flow Value) : Flow Value := do
  if ← isAuthorized event then
    let user ← userOf event
    next user
  else respond 401 (note "Authentication required") []

def clearCart (s : Setting) (cart : Value) : Flow Unit := do
  let _ ← deleteCart s cart

def migrateCart (s : Setting) (event : Value) : Flow Value :=
  answered ⟨none, none, "Failed to migrate cart"⟩ <| withUser event fun user => do
    let id ← (← event.getD "headers" (.map [])).get "x-cart-id"
    if !id.truthy then respond 400 (note "Missing cart ID header (x-cart-id)") []
    else do
      let _ ← migrate s (visitorCart id) (userCart user) fun _ _ => clearCart s (visitorCart id)
      let lines ← cartItems s (some s.now) (userCart user)
      respond 200 (← productsBody lines) (cartIdHeader id)

def takeSold (s : Setting) : List Value → Flow Unit
  | [] => pure ()
  | line :: lines => do
    let product ← (← line.field "sk").without productLead
    let change ← (← line.field "quantity").negated
    changeTotal s product change
    takeSold s lines

def checkout (s : Setting) (event : Value) : Flow Value :=
  answered ⟨none, none, "Failed to checkout"⟩ <| withUser event fun user => do
    let lines ← cartItems s none (userCart user)
    takeSold s lines
    clearCart s (userCart user)
    respond 200 (.map [("products", .list lines), ("message", .text "Checkout successful")]) []

def total (s : Setting) (event : Value) : Flow Value :=
  answered ⟨noProduct, none, "Failed to get total"⟩ do
    let product ← productOf event
    let quantity ← totalOf s product
    respond 200 (.map [("product", product), ("quantity", quantity)]) []

def getProduct (s : Setting) (event : Value) : Flow Value :=
  answered ⟨noProduct, none, "Internal server error"⟩ do
    let product ← productOf event
    let detail ← findProduct s product
    if !detail.truthy then respond 404 (note "Product not found") []
    else respond 200 (.map [("product", detail)]) []

def listProducts (s : Setting) : Flow Value :=
  answered ⟨none, none, "Internal server error"⟩ do
    respond 200 (.map [("products", ← allProducts s)]) []

def handler (handle : Setting → Value → Flow Value) : Handler :=
  ⟨loadNothing, fun s event _ => handle s event⟩

end Unbundle.Cart.Direct
