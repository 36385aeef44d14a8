import Unbundle.Service.Operation

/-!
# The shelf

Products, carts and totals are items of one table. A product has the detail item `PRODUCT#id, DETAIL`
and the total item `PRODUCT#id, TOTAL`, which counts it over all carts; a cart has one item for each of
its products. Carts belong to users or to anonymous visitors, and their items expire.
-/

namespace Unbundle.Cart

open Service Service.Flow

def tableOf (s : Setting) : Except Fault String := s.require "DYNAMODB_TABLE_NAME"

def key (pk sk : Value) : Fields := [("pk", pk), ("sk", sk)]

def productKey (product : Value) (part : String) : Fields :=
  key (.text s!"PRODUCT#{product.str}") (.text part)

def productLead : String := "product#"

def lineKey (cart product : Value) : Fields :=
  key cart (.text (productLead ++ product.str))

def userCart (user : Value) : Value := .text s!"user#{user.str}"

def visitorCart (id : Value) : Value := .text s!"cart#{id.str}"

def plainProduct (item : Value) : Except Fault Value := do
  (← (← item.plain).withoutField "pk").withoutField "sk"

def plainProducts (items : List Value) : Except Fault (List Value) := items.mapM plainProduct

def findProduct (s : Setting) (id : Value) : Flow Value := do
  let table ← tableOf s
  orPrint s!"Failed to get product {id.str}" .null do
    let item ← (← ask table (.get (productKey id "DETAIL"))).get "Item"
    if item.truthy then plainProduct item else return .null

def pageLimit : Nat := 100000

def productPages (table : String) : Nat → Option Value → List Value → Flow (List Value)
  | 0, _, found => pure found
  | pages + 1, start, found => do
    let reply ← ask table
      (.scan (.both (.startsWith false "pk" (.text "PRODUCT#"))
        (.equal false "sk" (.text "DETAIL"))) start)
    let items ← (← reply.getD "Items" (.list [])).items
    let found := found ++ (← plainProducts items)
    let last ← reply.get "LastEvaluatedKey"
    if last.truthy then productPages table pages (some last) found else pure found

def allProducts (s : Setting) : Flow Value := do
  let table ← tableOf s
  orPrint "Failed to get products" (.list []) do
    return .list (← productPages table pageLimit none [])

/-- A number as it is shown: stored ones as whole numbers. -/
def shownQuantity (v : Value) : Except Fault Value :=
  match v with
  | .decimal _ => do return .int (← v.asInt)
  | _ => .ok v

def hasExpired (now : Moment) (expiration : Value) : Except Fault Bool := do
  if !expiration.truthy then return false
  return (← Moment.ofTimestamp (← shownQuantity expiration)).before now

def detailOf (item : Value) : Except Fault Value := do
  let detail ← item.get "product_detail"
  match detail with
  | .text s => if s = "" then return detail else detail.parsed
  | _ => return detail

/-- A line of a cart as it is shown. Lines without a quantity are left out, and so are expired ones
when a time is given. -/
def cartLine (now : Option Moment) (item : Value) : Except Fault (Option Value) := do
  let quantity ← item.getD "quantity" (.int 0)
  if ← quantity.related .le (.int 0) then return none
  let expired ← match now with
    | none => .ok false
    | some now => do hasExpired now (← item.get "expirationTime")
  if expired then return none
  let detail ← detailOf item
  let sk ← item.field "sk"
  let quantity ← shownQuantity quantity
  return some (.map [("sk", sk), ("quantity", quantity), ("productDetail", ← detail.plain)])

def cartLines (now : Option Moment) : List Value → Except Fault (List Value)
  | [] => .ok []
  | item :: items => do
    let line ← cartLine now item
    let rest ← cartLines now items
    return line.toList ++ rest

def linesOf (cart : Value) : Request :=
  .query (.both (.equal true "pk" cart) (.startsWith true "sk" (.text productLead)))

def cartItems (s : Setting) (now : Option Moment) (cart : Value) : Flow (List Value) := do
  let table ← tableOf s
  orPrint "Failed to get cart" [] do
    let reply ← ask table (linesOf cart)
    cartLines now (← (← reply.field "Items").items)

def withBareId (line : Value) : Except Fault Value := do
  if ← line.holdsName "sk" then line.withField "sk" (← (← line.field "sk").without productLead)
  else return line

def secondsOf (v : Value) : Except Fault Value :=
  match v with
  | .moment t => .ok (.int t.wholeSeconds)
  | _ => .error (.noAttribute v.fullKind "timestamp")

def expirySeconds (v : Value) : Except Fault Value :=
  if v.truthy then secondsOf v else .ok .null

def lineAddition (quantity detail expires now : Value) : Change :=
  { additions := [("quantity", ⟨"qty", quantity⟩)]
    assignments := [.set "product_detail" "detail" detail, .set "expirationTime" "ttl" expires,
      .set "updated_at" "now" now] }

def addLine (s : Setting) (cart product quantity detail expires : Value) : Flow Unit := do
  let table ← tableOf s
  let seconds ← expirySeconds expires
  let detail ← (← detail.storable).toJson
  noting "Failed to add cart item" do
    let reply ← ask table
      (.update (lineKey cart product) (lineAddition quantity detail seconds s.stamp) none .allNew)
    let left ← (← reply.field "Attributes").getD "quantity" (.int 0)
    if ← left.related .le (.int 0) then
      let _ ← ask table (.delete (lineKey cart product))

def storedLine (pk sk quantity detail expires now : Value) : Fields :=
  key pk sk ++ [("quantity", quantity), ("product_detail", detail), ("expirationTime", expires),
    ("updated_at", now)]

def setLine (s : Setting) (cart product quantity detail expires : Value) : Flow Unit := do
  let table ← tableOf s
  let seconds ← expirySeconds expires
  let detail ← (← detail.storable).toJson
  noting "Failed to update cart item" do
    if ← quantity.related .le (.int 0) then
      let _ ← ask table (.delete (lineKey cart product))
    else
      let sk := .text (productLead ++ product.str)
      let _ ← ask table (.put (storedLine cart sk quantity detail seconds s.stamp) none)

def deleteAll (table : String) : List Value → Flow Unit
  | [] => pure ()
  | item :: items => do
    let pk ← item.field "pk"
    let sk ← item.field "sk"
    let _ ← send table (.delete (key pk sk))
    deleteAll table items

def deleteCart (s : Setting) (cart : Value) : Flow Nat := do
  let table ← tableOf s
  noting "Failed to delete cart items" do
    let items ← (← ask table (linesOf cart)).field "Items"
    deleteAll table (← items.items)
    items.length

def keptDays (authenticated : Bool) : Nat := if authenticated then 7 else 1

def expiry (s : Setting) (authenticated : Bool) : Except Fault Value := do
  return .moment (← s.now.plusDays (keptDays authenticated))

def totalOf (s : Setting) (product : Value) : Flow Value := do
  let table ← tableOf s
  orPrint "Failed to get product aggregate" (.int 0) do
    let reply ← ask table (.get (productKey product "TOTAL"))
    if ← reply.holdsName "Item" then
      shownQuantity (← (← reply.field "Item").getD "total_quantity" (.int 0))
    else return .int 0

def totalAddition (change now : Value) : Change :=
  { additions := [("total_quantity", ⟨"change", change⟩)]
    assignments := [.set "updated_at" "now" now] }

/-- Adds to the total of a product, which never stays below zero. -/
def addToTotal (table : String) (product change now : Value) : Flow Unit := do
  let reply ← ask table
    (.update (productKey product "TOTAL") (totalAddition change now) none .allNew)
  let total ← (← reply.field "Attributes").getD "total_quantity" (.int 0)
  if ← total.related .lt (.int 0) then
    let _ ← ask table (.update (productKey product "TOTAL")
      ⟨[], [.set "total_quantity" "zero" (.int 0)]⟩ none .nothing)

def startTotal (table : String) (product change now : Value) : Flow Unit := do
  let total ← if ← change.related .gt (.int 0) then pure change else pure (.int 0)
  let _ ← ask table (.put
    (productKey product "TOTAL" ++ [("total_quantity", total), ("updated_at", now)]) none)

/-! ## Requests of shoppers -/

def note (text : String) : Value := message "message" text

def isAuthorized (event : Value) : Except Fault Bool := do
  if ← event.holdsName "requestContext" then
    (← event.field "requestContext").holdsName "authorizer"
  else return false

def cartIdHeader (id : Value) : Fields := [("X-Cart-ID", id)]

def productsBody (lines : List Value) : Except Fault Value := do
  return .map [("products", .list (← lines.mapM withBareId))]

/-- Who shops: a user, or a visitor with a cart of that name. -/
inductive Shopper where
  | user (id : Value)
  | visitor (id : Value)

namespace Shopper

def cart : Shopper → Value
  | user id => userCart id
  | visitor id => visitorCart id

def isUser : Shopper → Bool
  | user _ => true
  | visitor _ => false

def headers : Shopper → Fields
  | user _ => []
  | visitor id => cartIdHeader id

end Shopper

/-! ## Migration of a cart -/

def migratedDays : Nat := 30

/-- Writes a line to a cart: adds to the line that is there, or puts a new one. -/
def mergeLine (table : String) (cart sk quantity detail expires now : Value) : Flow Unit := do
  let reply ← ask table (.get (key cart sk))
  if ← reply.holdsName "Item" then
    let _ ← ask table
      (.update (key cart sk) (lineAddition quantity detail expires now) none .nothing)
  else
    let _ ← ask table (.put (storedLine cart sk quantity detail expires now) none)

/-- Moves a line of another cart to a cart; none if it has no quantity or cannot be moved. -/
def moveLine (s : Setting) (table : String) (cart item : Value) : Flow (Option Value) := do
  let sk ← item.field "sk"
  let quantity ← shownQuantity (← item.getD "quantity" (.int 0))
  let detail ← item.get "product_detail"
  if ← quantity.related .le (.int 0) then return none
  else do
    let expires := .int (← s.now.plusDays migratedDays).wholeSeconds
    orPrint s!"Failed to migrate item {sk.str}" none do
      mergeLine table cart sk quantity detail expires s.stamp
      return some (.map [("sk", sk), ("quantity", quantity), ("product_detail", detail)])

def moveLines (s : Setting) (table : String) (cart : Value) : List Value → Flow (List Value)
  | [] => pure []
  | item :: items => do
    let moved ← moveLine s table cart item
    let rest ← moveLines s table cart items
    return moved.toList ++ rest

/-- Moves all lines of a visitor's cart to a user's cart and then clears the visitor's cart. `clear`
is given the table and the lines that were found. -/
def migrate (s : Setting) (visitor user : Value) (clear : String → List Value → Flow Unit) :
    Flow (List Value) := do
  let table ← tableOf s
  noting "Failed to migrate cart" do
    let items ← (← (← ask table (linesOf visitor)).field "Items").items
    let moved ← moveLines s table user items
    clear table items
    return moved

end Unbundle.Cart
