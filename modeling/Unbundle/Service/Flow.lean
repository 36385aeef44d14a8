import Unbundle.Fault

/-!
# Flows

A flow is what a request handler does, as a tree: it ends with a result or a fault, or it asks for
something and goes on with the answer. It may call a service, leave a note, take a fresh identifier,
or mark something as done. Who answers is not part of a flow: a script of replies, a data store or an
adversary can all interpret the same one.
-/

namespace Unbundle.Service

/-! ## Requests to a table -/

abbrev Fields := List (String × Value)

structure Slot where
  name : String
  value : Value
  deriving Repr

def Slot.text (s : Slot) : String := ":" ++ s.name

inductive Operand where
  | value (s : Slot)
  /-- What another field holds, and some more. -/
  | plus (field : String) (s : Slot)
  /-- What another field holds, less something. -/
  | minus (field : String) (s : Slot)
  /-- What a field holds already, or a value if it holds none. -/
  | unlessSet (field : String) (s : Slot)
  deriving Repr

def Operand.text : Operand → String
  | value s => s.text
  | plus field s => s!"{field} + {s.text}"
  | minus field s => s!"{field} - {s.text}"
  | unlessSet field s => s!"if_not_exists({field}, {s.text})"

def Operand.slot : Operand → Slot
  | value s | plus _ s | minus _ s | unlessSet _ s => s

/-- A field that is set. A field whose name is a word of the expression language goes by another name
there. -/
structure Assignment where
  field : String
  byName : Option String
  operand : Operand
  deriving Repr

def Assignment.text (a : Assignment) : String :=
  let name := a.byName.getD a.field
  s!"{name} = {a.operand.text}"

/-- A field set to a value, by its own name. -/
def Assignment.set (field slot : String) (v : Value) : Assignment :=
  ⟨field, none, .value ⟨slot, v⟩⟩

def Assignment.setAs (name field slot : String) (v : Value) : Assignment :=
  ⟨field, some name, .value ⟨slot, v⟩⟩

/-- A change of one item: numbers added to fields, and fields set. -/
structure Change where
  additions : List (String × Slot)
  assignments : List Assignment
  deriving Repr

def Change.text (c : Change) : String :=
  let adding := c.additions.map fun (field, s) => s!"{field} {s.text}"
  let setting := c.assignments.map Assignment.text
  String.intercalate " "
    ((if adding.isEmpty then [] else ["ADD " ++ String.intercalate ", " adding]) ++
      (if setting.isEmpty then [] else ["SET " ++ String.intercalate ", " setting]))

def Change.slots (c : Change) : List Slot :=
  c.additions.map (·.2) ++ c.assignments.map fun a => a.operand.slot

def Change.aliases (c : Change) : Fields :=
  c.assignments.filterMap fun a => a.byName.map fun name => (name, .text a.field)

inductive Condition where
  | present (field : String)
  | absent (field : String)
  | more (field : String) (s : Slot)
  | less (field : String) (s : Slot)
  | both (a b : Condition)
  deriving Repr

def Condition.text : Condition → String
  | present field => s!"attribute_exists({field})"
  | absent field => s!"attribute_not_exists({field})"
  | more field s => s!"{field} > {s.text}"
  | less field s => s!"{field} < {s.text}"
  | both a b => s!"{a.text} AND {b.text}"

def Condition.slots : Condition → List Slot
  | present _ | absent _ => []
  | more _ s | less _ s => [s]
  | both a b => a.slots ++ b.slots

inductive Filter where
  | equal (isKey : Bool) (field : String) (v : Value)
  | startsWith (isKey : Bool) (field : String) (v : Value)
  | less (isKey : Bool) (field : String) (v : Value)
  | present (isKey : Bool) (field : String)
  | both (a b : Filter)
  deriving Repr

/-- How a field is referred to in a filter: as a part of the key, or as any other. -/
def Filter.reference (isKey : Bool) (field : String) : Value :=
  .text ((if isKey then "key:" else "attr:") ++ field)

def Filter.toValue : Filter → Value
  | equal isKey field v => .condition [.text "eq", reference isKey field, v]
  | startsWith isKey field v => .condition [.text "begins_with", reference isKey field, v]
  | less isKey field v => .condition [.text "lt", reference isKey field, v]
  | present isKey field => .condition [.text "exists", reference isKey field]
  | both a b => .condition [.text "and", a.toValue, b.toValue]

inductive Returning where
  | nothing
  | allNew
  | updatedNew
  deriving DecidableEq, Repr

inductive Request where
  | get (key : Fields)
  | put (item : Fields) (condition : Option Condition)
  | update (key : Fields) (change : Change) (condition : Option Condition) (returning : Returning)
  | delete (key : Fields)
  | query (filter : Filter)
  /-- The items whose field of the key is a value, the condition being written out. -/
  | queryText (field : String) (s : Slot)
  /-- The items that pass, from after a key on. -/
  | scan (filter : Filter) (start : Option Value)
  deriving Repr

namespace Request

def method : Request → String
  | get _ => "get_item"
  | put .. => "put_item"
  | update .. => "update_item"
  | delete _ => "delete_item"
  | query _ | queryText .. => "query"
  | scan .. => "scan"

def slotFields (slots : List Slot) : Fields := slots.map fun s => (s.text, s.value)

def optional (name : String) (fs : Fields) : Fields := if fs.isEmpty then [] else [(name, .map fs)]

def conditionOption (c : Option Condition) : Fields :=
  match c with
  | none => []
  | some c => [("ConditionExpression", .text c.text)]

def options : Request → Fields
  | get key => [("Key", .map key)]
  | put item condition =>
    ("Item", .map item) :: conditionOption condition ++
      optional "ExpressionAttributeValues" (slotFields ((condition.map Condition.slots).getD []))
  | update key change condition returning =>
    [("Key", .map key), ("UpdateExpression", .text change.text)] ++ conditionOption condition ++
      optional "ExpressionAttributeNames" change.aliases ++
      optional "ExpressionAttributeValues"
        (slotFields (change.slots ++ (condition.map Condition.slots).getD [])) ++
      (match returning with
        | .nothing => []
        | .allNew => [("ReturnValues", .text "ALL_NEW")]
        | .updatedNew => [("ReturnValues", .text "UPDATED_NEW")])
  | delete key => [("Key", .map key)]
  | query filter => [("KeyConditionExpression", filter.toValue)]
  | queryText field s =>
    [("KeyConditionExpression", .text s!"{field} = {s.text}"),
      ("ExpressionAttributeValues", .map (slotFields [s]))]
  | scan filter start =>
    ("FilterExpression", filter.toValue) ::
      (match start with
        | none => []
        | some key => [("ExclusiveStartKey", key)])

end Request

/-! ## Flows -/

inductive Call where
  | table (name : String) (request : Request)
  /-- A request to the writer that sends changes of a table together. -/
  | batch (table : String) (request : Request)
  | client (service method : String) (args : List Value) (options : Fields)
  deriving Repr

namespace Call

def name : Call → String
  | table t r => s!"dynamodb:{t}.{r.method}"
  | batch t r => s!"dynamodb:{t}.batch.{r.method}"
  | client service method _ _ => s!"{service}.{method}"

def args : Call → List Value
  | client _ _ args _ => args
  | _ => []

def options : Call → Fields
  | table _ r | batch _ r => r.options
  | client _ _ _ options => options

end Call

/-- The operation that a call asks for, by the name of the call: the words of its method with capital
letters, without the low lines between them. -/
def operationOf (call : String) : String :=
  let method := Text.afterLast '.' call.toList
  String.join ((Text.splitOn '_' method).map fun part => (String.ofList part).capitalize)

inductive Level where
  | info
  | warning
  | error
  deriving DecidableEq, Repr

def Level.name : Level → String
  | info => "INFO"
  | warning => "WARNING"
  | error => "ERROR"

inductive Note where
  | printed (line : String)
  | logged (level : Level) (message : String)
  deriving Repr

inductive Secret where
  | identifier
  | token (bytes : Nat)
  deriving DecidableEq, Repr

inductive Flow (α : Type) where
  | done (result : α)
  | fail (fault : Fault)
  | call (c : Call) (next : Except Fault Value → Flow α)
  | note (n : Note) (next : Flow α)
  | fresh (s : Secret) (next : String → Flow α)
  /-- Marks something as done for good; the answer says whether this is the first time. -/
  | once (mark : String) (next : Bool → Flow α)

namespace Flow

variable {α β : Type}

def bind : Flow α → (α → Flow β) → Flow β
  | done a, k => k a
  | fail e, _ => fail e
  | call c next, k => call c fun r => (next r).bind k
  | note n next, k => note n (next.bind k)
  | fresh s next, k => fresh s fun x => (next x).bind k
  | once m next, k => once m fun b => (next b).bind k

/-- A flow that goes on with `handler` where it would fail. A request to stop is passed on. -/
def attempt : Flow α → (Fault → Flow α) → Flow α
  | done a, _ => done a
  | fail e, handler => if e.isInterrupt then fail e else handler e
  | call c next, handler => call c fun r => (next r).attempt handler
  | note n next, handler => note n (next.attempt handler)
  | fresh s next, handler => fresh s fun x => (next x).attempt handler
  | once m next, handler => once m fun b => (next b).attempt handler

instance : Monad Flow where
  pure := done
  bind := bind

def ofOutcome : Except Fault α → Flow α
  | .ok a => done a
  | .error e => fail e

instance : MonadLift (Except Fault) Flow where
  monadLift := ofOutcome

def invoke (c : Call) : Flow Value := call c ofOutcome

def ask (table : String) (r : Request) : Flow Value := invoke (.table table r)

def send (table : String) (r : Request) : Flow Value := invoke (.batch table r)

def client (service method : String) (options : Fields) : Flow Value :=
  invoke (.client service method [] options)

def print (line : String) : Flow Unit := note (.printed line) (done ())

def log (level : Level) (message : String) : Flow Unit := note (.logged level message) (done ())

def identifier : Flow String := fresh .identifier done

def token (bytes : Nat) : Flow String := fresh (.token bytes) done

def outcome (flow : Flow α) : Flow (Except Fault α) :=
  (flow.bind fun a => done (.ok a)).attempt fun e => done (.error e)

def refuse (message : String) : Flow α := fail (.refused message)

/-- A flow whose every fault is refused with a sentence that ends in the fault's own message. -/
def refusing (sentence : String) (flow : Flow α) : Flow α :=
  flow.attempt fun e => refuse s!"{sentence}: {e.message}"

/-- A flow whose every fault is printed after a sentence, and that goes on with a default. -/
def orPrint (sentence : String) (default : α) (flow : Flow α) : Flow α :=
  flow.attempt fun e => do
    print s!"{sentence}: {e.message}"
    done default

def orLog (sentence : String) (default : α) (flow : Flow α) : Flow α :=
  flow.attempt fun e => do
    log .error s!"{sentence}: {e.message}"
    done default

def noting (sentence : String) (flow : Flow α) : Flow α :=
  flow.attempt fun e => do
    print s!"{sentence}: {e.message}"
    fail e

@[simp]
theorem pure_eq (a : α) : (pure a : Flow α) = done a := rfl

@[simp]
theorem bind_eq (f : Flow α) (k : α → Flow β) : f >>= k = f.bind k := rfl

@[simp]
theorem bind_done (f : Flow α) : f.bind done = f := by
  induction f with
  | done a => rfl
  | fail e => rfl
  | call c next ih => exact congrArg (call c) (funext ih)
  | note n next ih => exact congrArg (note n) ih
  | fresh s next ih => exact congrArg (fresh s) (funext ih)
  | once m next ih => exact congrArg (once m) (funext ih)

theorem bind_assoc {γ : Type} (f : Flow α) (k : α → Flow β) (l : β → Flow γ) :
    (f.bind k).bind l = f.bind fun a => (k a).bind l := by
  induction f with
  | done a => rfl
  | fail e => rfl
  | call c next ih => exact congrArg (call c) (funext ih)
  | note n next ih => exact congrArg (note n) ih
  | fresh s next ih => exact congrArg (fresh s) (funext ih)
  | once m next ih => exact congrArg (once m) (funext ih)

end Flow

end Unbundle.Service
