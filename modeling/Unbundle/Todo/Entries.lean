import Unbundle.Service.Operation

/-!
# Entries of a to-do list

The six requests: create an entry, list all entries, get one, change one, mark one as done, and
delete one. Every request needs a user and the name of the table; every fault is answered with status
400 and its message.
-/

namespace Unbundle.Todo

open Service Service.Flow

/-! ## Access to a to-do list -/

def respond (status : Int) (body : Value) : Flow Value := do
  return answer status sharedHeaders (← body.toJson)

def respondWith (status body headers : Value) : Flow Value := do
  let body ← body.toJson
  let headers := match headers with
    | .null => .map sharedHeaders
    | hs => hs
  return .map [("statusCode", status), ("headers", headers), ("body", body)]

def userOf (event : Value) : Flow Value :=
  Flow.attempt
    (do
      let context ← event.getD "requestContext" (.map [])
      let authorizer ← context.getD "authorizer" (.map [])
      let claims ← authorizer.getD "claims" (.map [])
      let primary ← claims.get "cognito:username"
      let user ← if primary.truthy then pure primary else (claims.get "username" : Except Fault Value)
      if user.truthy then return user
      else do
        log .error "No username found in claims"
        return .null)
    fun e => do
      log .error s!"Error extracting user ID: {e.message}"
      return .null

def bodyOf (event : Value) : Flow Value := do
  match ← event.getD "body" (.text "\x7b\x7d") with
  | .text s =>
    match (Value.text s).parsed with
    | .ok v => return v
    | .error (.json e) =>
      log .error s!"Invalid JSON body: {e.message}"
      return .map []
    | .error e => Flow.fail e
  | v => return v

def isIdentifier (cs : List Char) : Bool :=
  let body := if cs.getLast? = some '\n' then cs.dropLast else cs
  !body.isEmpty && body.all fun c => Text.isWord c || c == '-'

/-- Whether a value is an identifier. Only texts can be, and values that count as false are not. -/
def validId (v : Value) : Except Fault Bool :=
  if !v.truthy then .ok false
  else
    match v with
    | .text s => .ok (isIdentifier s.toList)
    | _ => .error (.mistyped s!"expected string or bytes-like object, got '{v.fullKind}'")

/-! ## Entries of a to-do list -/

def guarded (doing : String) (flow : Flow Value) : Flow Value :=
  flow.attempt fun e => do
    print s!"Failed to {doing}: {e.message}"
    respond 400 (message "message" e.message)

def withUser (event : Value) (next : Value → Flow Value) : Flow Value := do
  let user ← userOf event
  if user.truthy then next user
  else respond 401 (message "message" "Unauthorized: User not identified")

def withId (event : Value) (next : Value → Flow Value) : Flow Value := do
  let id ← (← event.getD "pathParameters" (.map [])).get "id"
  if ← validId id then next id
  else respond 400 (message "message" "Invalid request: Invalid todo item ID")

def withTable (s : Setting) (next : String → Flow Value) : Flow Value :=
  match s.given? "TODO_TABLE" with
  | some table => next table
  | none => respond 500 (message "message" "Table name not configured")

def key (user id : Value) : Fields := [("cognito-username", user), ("id", id)]

def stamp (s : Setting) : Value := Value.ofChars (s.now.toIso ++ ['Z'])

def create (s : Setting) (event : Value) : Flow Value :=
  guarded "create todo item" <| withUser event fun user => do
    let body ← bodyOf event
    let content ← body.get "item"
    let completed ← body.getD "completed" (.bool false)
    if !content.truthy then
      respond 400 (message "message" "Invalid request: Todo item content cannot be empty")
    else
      let id ← identifier
      let now := stamp s
      let entry := key user (.text id) ++ [("item", content), ("completed", completed),
        ("creation_date", now), ("lastupdate_date", now)]
      withTable s fun table => do
        let _ ← ask table (.put entry none)
        respond 200 (.map [("message", .text "Todo item created successfully"),
          ("item", .map entry)])

def list (s : Setting) (event : Value) : Flow Value :=
  guarded "fetch todo list" <| withUser event fun user => withTable s fun table => do
    let reply ← ask table (.queryText "cognito-username" ⟨"username", user⟩)
    let items ← reply.getD "Items" (.list [])
    let count ← reply.getD "Count" (.int 0)
    respond 200 (.map [("Items", items), ("Count", count)])

def get (s : Setting) (event : Value) : Flow Value :=
  guarded "fetch todo item" <| withUser event fun user => withId event fun id =>
    withTable s fun table => do
      let reply ← ask table (.get (key user id))
      let item ← reply.get "Item"
      if item.truthy then respond 200 item
      else respond 404 (message "message" "Todo item not found")

def changed (text : String) (reply : Value) : Flow Value := do
  let attributes ← reply.getD "Attributes" (.map [])
  respond 200 (.map [("message", .text text), ("Attributes", attributes)])

def update (s : Setting) (event : Value) : Flow Value :=
  guarded "update todo item" <| withUser event fun user => withId event fun id => do
    let body ← bodyOf event
    let content ← body.get "item"
    let completed ← body.get "completed"
    match content, completed with
    | .null, _ | _, .null =>
      respond 400 (message "message" "Invalid request: Missing required fields")
    | _, _ =>
      withTable s fun table => do
        let change : Change :=
          { additions := []
            assignments := [.set "completed" "c" completed, .set "lastupdate_date" "lud" (stamp s),
              .setAs "#i" "item" "i" content] }
        let reply ← ask table (.update (key user id) change none .allNew)
        changed "Todo item updated successfully" reply

def markDone (s : Setting) (event : Value) : Flow Value :=
  guarded "mark todo item as completed" <| withUser event fun user => withId event fun id =>
    withTable s fun table => do
      let change : Change := ⟨[], [.setAs "#field" "completed" "value" (.bool true)]⟩
      let reply ← ask table (.update (key user id) change none .allNew)
      changed "Todo item marked as completed" reply

def delete (s : Setting) (event : Value) : Flow Value :=
  guarded "delete todo item" <| withUser event fun user => withId event fun id =>
    withTable s fun table => do
      let _ ← ask table (.delete (key user id))
      respond 200 (message "message" "Todo item deleted successfully")

def handler (handle : Setting → Value → Flow Value) : Handler :=
  ⟨loadLibrary "shared_utils", fun s event _ => handle s event⟩

end Unbundle.Todo
