import Unbundle.Cart.Shelf

/-!
# The shop with traced answers

Requests are logged as they come in. Signing in is not checked: whoever sends an authorization is one
and the same user.
-/

namespace Unbundle.Cart.Traced

open Service Service.Flow

/-! ## Products, carts and orders -/

/-! ### Traced answers -/

structure Origin where
  correlation : Value
  request : Value

def Origin.of (event context : Value) : Except Fault Origin := do
  let named ← (← event.getD "headers" (.map [])).get "x-correlation-id"
  let correlation ← if named.truthy then pure named
    else (← event.getD "requestContext" (.map [])).get "requestId"
  let request ← if context.truthy then context.part "aws_request_id" else pure .null
  return ⟨correlation, request⟩

def catalogue : List (String × Int) :=
  [("INTERNAL_ERROR", 1000), ("VALIDATION_ERROR", 1001), ("NOT_FOUND", 1002),
    ("UNAUTHORIZED", 1003), ("FORBIDDEN", 1004), ("BAD_REQUEST", 1005), ("CONFLICT", 1006),
    ("PRODUCT_NOT_FOUND", 2000), ("CART_NOT_FOUND", 3000)]

def numberOf (error : String) : Except Fault Int :=
  (catalogue.lookup error).elim (.error (.named "AttributeError" error)) .ok

def entryOf (number : Value) : Except Fault Value :=
  if catalogue.any fun (_, n) => number.same (.int n) then .ok (.handle "ErrorCode")
  else .error (.refused s!"{String.ofList number.shown} is not a valid ErrorCode")

def headers : Fields := openHeaders ++ [("Access-Control-Allow-Credentials", .bool true)]

def respond (body : Value) (more : Fields) : Flow Value := do
  return answer 200 (headers ++ more) (← body.toJson)

def errorBody (number : Value) (text error : Value) (o : Origin) : Value :=
  .map [("error_code", number), ("error_message", text), ("error_type", error),
    ("correlation_id", o.correlation), ("request_id", o.request)]

def reportAs (o : Origin) (status : Int) (error text : Value) : Flow Value := do
  let number ← error.part "value"
  let name ← error.part "name"
  return answer status headers (← (errorBody number text name o).toJson)

def reportUnhandled (o : Origin) (kind message : String) : Flow Value := do
  log .error s!"Unhandled exception: {message}"
  return errorBody (.int 1000) (.text "Internal server error") (.text kind) o

def report (o : Origin) (status : Int) (error text : String) : Flow Value := do
  let number ← numberOf error
  return answer status headers (← (errorBody (.int number) (.text text) (.text error) o).toJson)

def invalid (o : Origin) (text : String) : Flow Value := report o 400 "VALIDATION_ERROR" text

def needsProduct (o : Origin) : Flow Value := invalid o "Product ID is required"

def unknownProduct (o : Origin) (product : Value) : Flow Value :=
  report o 404 "PRODUCT_NOT_FOUND" s!"Product with ID '{product.str}' not found"

def traced (handle : Origin → Flow Value) (event context : Value) : Flow Value := do
  let o ← Origin.of event context
  Flow.attempt (handle o) fun e => do
    let _ ← reportUnhandled o e.kind e.message
    report o 500 "INTERNAL_ERROR" "Internal server error"

def guarded (o : Origin) (name text : String) (flow : Flow Value) : Flow Value :=
  flow.attempt fun e => do
    log .error s!"Error in {name}: {e.message}"
    report o 500 "INTERNAL_ERROR" text

/-! ### Products, carts and orders -/

mutual

/-- A value in the form in which carts store it: every number becomes a decimal. -/
def fixed : Value → Except Fault Value
  | .float x => do return .decimal (← (Value.float x).asDecimal)
  | .int n => do return .decimal (← (Value.int n).asDecimal)
  | .bool b => do return .decimal (← (Value.bool b).asDecimal)
  | .list xs => do return .list (← fixedItems xs)
  | .map fs => do return .map (← fixedFields fs)
  | v => .ok v

def fixedItems : List Value → Except Fault (List Value)
  | [] => .ok []
  | x :: xs => do
    let head ← fixed x
    let tail ← fixedItems xs
    return head :: tail

def fixedFields : List (String × Value) → Except Fault (List (String × Value))
  | [] => .ok []
  | (k, x) :: fs => do
    let head ← fixed x
    let tail ← fixedFields fs
    return (k, head) :: tail

end

def detailText (detail : Value) : Except Fault Value := do (← fixed detail).toJson

def detailOfText (text : Value) : Value :=
  if text.truthy then (text.parsed.toOption).getD (.map []) else .map []

def amount (v : Value) : Except Fault Value := do return .decimal (← v.asDecimal)

/-- A decimal as a plain number; anything else as it is. -/
def plainNumber (v : Value) : Except Fault Value :=
  match v with
  | .decimal d => Value.ofDecimal d
  | _ => .ok v

def stockKey (product : Value) : Fields := [("product_id", product)]

def slotKey (cart product : Value) : Fields :=
  [("cart_id", cart), ("product_id", .text (productLead ++ product.str))]

def findProduct (s : Setting) (sentence : String) (product : Value) : Flow Value :=
  match s.given? "PRODUCTS_TABLE" with
  | none => pure .null
  | some table => orLog sentence .null do
    let reply ← ask table (.get (stockKey product))
    if ← reply.holdsName "Item" then (← reply.field "Item").plain else return .null

def findOffer (s : Setting) (product : Value) : Flow Value :=
  findProduct s "Error getting product from DynamoDB" product

def totalOf (s : Setting) (product : Value) : Flow Value :=
  match s.given? "PRODUCTS_TABLE" with
  | none => pure (.int 0)
  | some table => orLog "Error getting product total quantity" (.int 0) do
    let reply ← ask table (.get (stockKey product))
    if ← reply.holdsName "Item" then
      plainNumber (← (← reply.field "Item").getD "total_quantity" (.int 0))
    else return .int 0

def changeTotal (s : Setting) (product change : Value) : Flow Unit :=
  match s.given? "PRODUCTS_TABLE" with
  | none => pure ()
  | some table => orLog "Error updating product total quantity" () do
    let change ← amount change
    let _ ← ask table (.update (stockKey product)
      ⟨[("total_quantity", ⟨"change", change⟩)], [.set "updated_at" "now" s.stamp]⟩ none .nothing)

def expiryText (s : Setting) (authenticated : Bool) : Except Fault Value := do
  return .ofChars (← s.now.plusDays (keptDays authenticated)).toIso

def ownerOf (cart : Value) (authenticated : Bool) : Except Fault (Option Value) :=
  if authenticated then some <$> cart.without "user#" else .ok none

def addLine (s : Setting) (cart product quantity detail : Value) (authenticated : Bool) :
    Flow Bool :=
  match s.given? "CARTS_TABLE" with
  | none => pure false
  | some table => orLog "Error adding cart item" false do
    let expires ← expiryText s authenticated
    let count ← amount quantity
    let detail ← fixed detail
    let owner ← ownerOf cart authenticated
    let change : Change :=
      { additions := [("quantity", ⟨"qty", count⟩)]
        assignments :=
          [.set "product_detail" "detail" detail,
            ⟨"added_at", none, .unlessSet "added_at" ⟨"added", s.stamp⟩⟩,
            .set "updated_at" "updated" s.stamp, .set "expires_at" "expires" expires] ++
          (owner.map (Assignment.set "user_id" "user_id")).toList }
    let _ ← ask table (.update (slotKey cart product) change none .allNew)
    changeTotal s product quantity
    return true

def quantityOf (s : Setting) (cart product : Value) : Flow Value :=
  match s.given? "CARTS_TABLE" with
  | none => pure (.int 0)
  | some table => orLog "Error getting cart item quantity" (.int 0) do
    let reply ← ask table (.get (slotKey cart product))
    if ← reply.holdsName "Item" then
      plainNumber (← (← reply.field "Item").getD "quantity" (.int 0))
    else return .int 0

/-- Removes a product from a cart. What is taken off its total is the quantity that is still found
afterwards. -/
def removeLine (s : Setting) (table : String) (cart product : Value) : Flow Unit := do
  let _ ← ask table (.delete (slotKey cart product))
  let old ← quantityOf s cart product
  if ← old.related .gt (.int 0) then changeTotal s product (← old.negated)

/-- Stores a product in a cart with a quantity, and changes its total by the difference. -/
def replaceLine (s : Setting) (table : String) (cart product quantity detail expires : Value)
    (authenticated : Bool) : Flow Unit := do
  let count ← amount quantity
  let detail ← fixed detail
  let owner ← ownerOf cart authenticated
  let old ← quantityOf s cart product
  let _ ← ask table (.put (slotKey cart product ++ [("quantity", count),
    ("product_detail", detail), ("updated_at", s.stamp), ("expires_at", expires)] ++
    (owner.map (("user_id", ·))).toList) none)
  let change ← quantity.sub old
  if !change.same (.int 0) then changeTotal s product change

def setLine (s : Setting) (cart product quantity detail : Value) (authenticated : Bool) :
    Flow Bool :=
  match s.given? "CARTS_TABLE" with
  | none => pure false
  | some table => orLog "Error updating cart item quantity" false do
    let expires ← expiryText s authenticated
    if ← quantity.related .le (.int 0) then removeLine s table cart product
    else replaceLine s table cart product quantity detail expires authenticated
    return true

def linesOf (cart : Value) : Request :=
  .query (.both (.equal true "cart_id" cart) (.startsWith true "product_id" (.text productLead)))

/-- Whether a line has expired. Only a time of no particular zone can be told to lie in the past. -/
def hasExpired (now : Moment) (expires : Value) : Bool :=
  match expires with
  | .text t =>
    match Moment.ofIsoText? (Text.replaceAll "Z".toList "+00:00".toList t.toList) with
    | some t => t.before now
    | none => false
  | _ => false

def bareProduct (item : Value) : Except Fault Value := do
  (← item.getD "product_id" (.text "")).without productLead

def listedLine (now : Moment) (item : Value) : Except Fault (Option Value) := do
  let expires ← item.get "expires_at"
  if expires.truthy && hasExpired now expires then return none
  let quantity ← plainNumber (← item.getD "quantity" (.int 0))
  if ← quantity.related .le (.int 0) then return none
  let product ← bareProduct item
  let detail ← match ← item.getD "product_detail" (.map []) with
    | .map fs => Value.plain (.map fs)
    | _ => .ok (.map [])
  return some (.map [("productId", product), ("quantity", quantity), ("productDetail", detail)])

def orderedLine (item : Value) : Except Fault (Option Value) := do
  let product ← bareProduct item
  let quantity ← plainNumber (← item.getD "quantity" (.int 0))
  if ← quantity.related .gt (.int 0) then
    let detail ← (← item.getD "product_detail" (.map [])).plain
    return some (.map [("product_id", product), ("quantity", quantity),
      ("product_detail", detail)])
  else return none

def collected (line : Value → Except Fault (Option Value)) :
    List Value → Except Fault (List Value)
  | [] => .ok []
  | item :: items => do
    let head ← line item
    let tail ← collected line items
    return head.toList ++ tail

def cartItems (s : Setting) (line : Value → Except Fault (Option Value)) (cart : Value) :
    Flow (List Value) :=
  match s.given? "CARTS_TABLE" with
  | none => pure []
  | some table => orLog "Error getting cart items" [] do
    let reply ← ask table (linesOf cart)
    collected line (← (← reply.getD "Items" (.list [])).items)

def deleteLines (table : String) : List Value → Flow Unit
  | [] => pure ()
  | item :: items => do
    let cart ← item.field "cart_id"
    let product ← item.field "product_id"
    let _ ← send table (.delete [("cart_id", cart), ("product_id", product)])
    deleteLines table items

def deleteCart (s : Setting) (cart : Value) : Flow Bool :=
  match s.given? "CARTS_TABLE" with
  | none => pure false
  | some table => orLog "Error deleting cart items" false do
    let reply ← ask table (linesOf cart)
    deleteLines table (← (← reply.getD "Items" (.list [])).items)
    return true

def costOf (total : Value) : List Value → Except Fault Value
  | [] => .ok total
  | line :: lines => do
    let detail ← line.getD "product_detail" (.map [])
    let price ← detail.getD "price" (.int 0)
    let quantity ← line.getD "quantity" (.int 0)
    costOf (← total.addAs "+=" (← price.mul quantity)) lines

def createOrder (s : Setting) (user lines : Value) : Flow Value :=
  match s.given? "ORDERS_TABLE" with
  | none => pure .null
  | some table => orLog "Error creating order" .null do
    let id ← identifier
    let total ← amount (← costOf (.int 0) (← lines.items))
    let _ ← ask table (.put [("order_id", .text id), ("user_id", user),
      ("cart_id", userCart user), ("total_amount", total), ("status", .text "PENDING"),
      ("items", lines), ("created_at", s.stamp), ("updated_at", s.stamp)] none)
    return .text id

def sendOrder (s : Setting) (order user lines : Value) : Flow Bool :=
  match s.given? "CHECKOUT_QUEUE_URL" with
  | none => pure false
  | some queue => orLog "Error sending to checkout queue" false do
    let body ← (Value.map [("order_id", order), ("user_id", user), ("cart_items", lines),
      ("timestamp", s.stamp)]).toJson
    let reply ← client "sqs" "send_message" [("QueueUrl", .text queue), ("MessageBody", body),
      ("MessageAttributes", .map [("OrderType",
        .map [("DataType", .text "String"), ("StringValue", .text "CHECKOUT")])])]
    let id ← reply.field "MessageId"
    log .info s!"Sent message to checkout queue: {id.str}"
    return true

/-! ## The shop with traced answers -/

def onlyUser : Value := .text "demo-user-id"

def authorization (event : Value) : Except Fault Value := do
  let headers ← event.getD "headers" (.map [])
  let given ← headers.get "Authorization"
  if given.truthy then return given else headers.get "authorization"

def isUser (event : Value) : Except Fault Bool := do
  match ← authorization event with
  | .text t => return t != ""
  | _ => return false

def shopperOf (event : Value) : Flow Shopper := do
  if ← isUser event then return .user onlyUser
  else do
    let id ← (← event.getD "headers" (.map [])).get "x-cart-id"
    if id.truthy then return .visitor id else return .visitor (.text (← identifier))

/-- A shopper as values: the cart and whether it is a user's; for one who changes a cart, also the bare
identifier of a visitor's cart. -/
def identity (changes : Bool) (event : Value) : Flow Value := do
  let shopper ← shopperOf event
  let bare := match shopper with
    | .visitor id => if changes then [id] else []
    | .user _ => []
  return .list ([shopper.cart, .bool shopper.isUser] ++ bare)

def buyer (event : Value) : Except Fault Value := do
  let known ← isUser event
  return .list [if known then userCart onlyUser else .null, .bool known]

def visitorOf (event : Value) : Flow Value := do
  match ← shopperOf event with
  | .visitor id => return id
  | .user _ => refuse "not enough values to unpack (expected 3, got 2)"

def productOf (event : Value) : Except Fault Value := do
  (← event.getD "pathParameters" (.map [])).get "product_id"

def bodyOf (event : Value) : Except Fault Value := do
  (← event.getD "body" (.text "\x7b\x7d")).parsed

def addTo (s : Setting) (o : Origin) (event product : Value) (quantity : Int) : Flow Value := do
  let detail ← findOffer s product
  if !detail.truthy then unknownProduct o product
  else do
    let visitor ← visitorOf event
    let cart := visitorCart visitor
    log .info
      s!"Adding product to cart: {product.str}, quantity: {quantity}, user: {cart.str}"
    if ← addLine s cart product (.int quantity) detail false then
      respond (.map [("productId", product), ("message", .text "product added to cart")])
        (cartIdHeader visitor)
    else report o 500 "INTERNAL_ERROR" "Failed to add item to cart"

def add (s : Setting) : Value → Value → Flow Value := fun event => traced (fun o => do
  log .info "AddToCartFunction invoked"
  Flow.attempt
    (do
      let body ← bodyOf event
      let product ← body.get "productId"
      let quantity ← (← body.getD "quantity" (.int 1)).asInt
      if !product.truthy then needsProduct o
      else if quantity ≤ 0 then invalid o "Quantity must be positive"
      else addTo s o event product quantity)
    fun e =>
      match e with
      | .json _ => invalid o "Invalid JSON body"
      | e => guarded o "AddToCartFunction" "Failed to add item to cart" (Flow.fail e)) event

def setIn (s : Setting) (o : Origin) (event product : Value) (quantity : Int) : Flow Value := do
  let detail ← findOffer s product
  if !detail.truthy then unknownProduct o product
  else do
    let visitor ← visitorOf event
    let cart := visitorCart visitor
    log .info s!"Updating cart item: {product.str}, quantity: {quantity}, user: {cart.str}"
    if ← setLine s cart product (.int quantity) detail false then
      respond (.map [("productId", product), ("quantity", .int quantity),
        ("message", .text "cart updated")]) (cartIdHeader visitor)
    else report o 500 "INTERNAL_ERROR" "Failed to update cart item"

def update (s : Setting) : Value → Value → Flow Value := fun event => traced (fun o => do
  let product ← productOf event
  log .info s!"UpdateCartFunction invoked for product_id: {product.str}"
  if !product.truthy then needsProduct o
  else
    Flow.attempt
      (do
        let body ← bodyOf event
        let quantity ← (← body.getD "quantity" (.int 0)).asInt
        if quantity < 0 then invalid o "Quantity must not be lower than 0"
        else setIn s o event product quantity)
      fun e =>
        match e with
        | .json _ => invalid o "Invalid JSON body"
        | e =>
          if e.isRefusal then invalid o "Quantity must be a valid integer"
          else guarded o "UpdateCartFunction" "Failed to update cart item" (Flow.fail e)) event

def list (s : Setting) : Value → Value → Flow Value := fun event => traced (fun o => do
  log .info "ListCartFunction invoked"
  guarded o "ListCartFunction" "Failed to list cart items" do
    let shopper ← shopperOf event
    let signedIn := Value.bool shopper.isUser
    log .info s!"User identifier: {shopper.cart.str}, Authenticated: {signedIn.str}"
    let lines ← cartItems s (listedLine s.now) shopper.cart
    log .info s!"Retrieved {lines.length} cart items"
    let id ← shopper.cart.without "cart#"
    respond (.map [("products", .list lines)]) (if shopper.isUser then [] else cartIdHeader id))
  event

def takeSold (s : Setting) : List Value → Flow Unit
  | [] => pure ()
  | line :: lines => do
    let product ← line.field "product_id"
    let change ← (← line.field "quantity").negated
    changeTotal s product change
    takeSold s lines

/-- Goes on if something was done. The log has no entries for warnings, so one cannot be left. -/
def demand (done : Bool) : Flow Unit :=
  if done then pure () else Flow.fail (.unnamed "log_warning")

def order (s : Setting) (o : Origin) (cart : Value) : Flow Value := do
  let user ← cart.without "user#"
  let lines ← cartItems s orderedLine cart
  if lines.isEmpty then report o 400 "CART_EMPTY" "Cart is empty"
  else do
    log .info s!"Processing checkout for user {user.str} with {lines.length} items"
    takeSold s lines
    let id ← createOrder s user (.list lines)
    if !id.truthy then report o 500 "ORDER_CREATION_FAILED" "Failed to create order"
    else do
      demand (← sendOrder s id user (.list lines))
      demand (← deleteCart s cart)
      respond (.map [("order_id", id), ("message", .text "Checkout successful"),
        ("items", .list lines)]) []

def checkout (s : Setting) : Value → Value → Flow Value := fun event => traced (fun o => do
  log .info "CheckoutCartFunction invoked"
  guarded o "CheckoutCartFunction" "Checkout failed" do
    if ← isUser event then order s o (userCart onlyUser)
    else report o 401 "UNAUTHORIZED" "Authentication required for checkout") event

def getProduct (s : Setting) : Value → Value → Flow Value := fun event => traced (fun o => do
  let product ← productOf event
  log .info s!"GetProductFunction invoked for product_id: {product.str}"
  if !product.truthy then needsProduct o
  else guarded o "GetProductFunction" "Failed to retrieve product" do
    let detail ← findProduct s "Error retrieving product from DynamoDB" product
    if !detail.truthy then unknownProduct o product
    else do
      log .info s!"Retrieved product: {product.str}"
      respond (.map [("product", detail)]) []) event

def total (s : Setting) : Value → Value → Flow Value := fun event => traced (fun o => do
  let product ← productOf event
  log .info s!"GetCartTotalFunction invoked for product_id: {product.str}"
  if !product.truthy then needsProduct o
  else guarded o "GetCartTotalFunction" "Failed to get cart total" do
    let quantity ← totalOf s product
    log .info s!"Total quantity for product {product.str}: {quantity.str}"
    respond (.map [("product", product), ("quantity", quantity)]) []) event

def handler (handle : Setting → Value → Value → Flow Value) : Handler := ⟨loadNothing, handle⟩

end Unbundle.Cart.Traced
