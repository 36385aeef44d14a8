import Unbundle.Json.Write
import Unbundle.Service.Flow

/-!
# Operations that are called by name

Beside its handler a deployed function has operations that can be called by name. A call gives values for
the parameters of an operation, in their order or by their names; some parameters may be left out.
-/

namespace Unbundle.Service

/-! ## Handlers -/

structure Setting where
  assigned : List (String × String)
  now : Moment
  libraries : List String

namespace Setting

def get? (s : Setting) (name : String) : Option String := s.assigned.lookup name

def require (s : Setting) (name : String) : Except Fault String :=
  (s.get? name).elim (.error (.missingKey (.text name))) .ok

/-- A variable that is set and not empty. -/
def given? (s : Setting) (name : String) : Option String :=
  (s.get? name).filter (· ≠ "")

def value (s : Setting) (name : String) : Value := Value.ofText? (s.get? name)

def has (s : Setting) (library : String) : Bool := s.libraries.contains library

def useLibrary (s : Setting) (library : String) : Except Fault Unit :=
  if s.has library then .ok ()
  else .error (.named "ModuleNotFoundError" s!"No module named '{library}'")

def stamp (s : Setting) : Value := Value.ofChars s.now.toIso

end Setting

structure Handler where
  load : Setting → Flow Unit
  /-- What it does with an event in a context. -/
  handle : Setting → Value → Value → Flow Value

def answer (status : Int) (headers : Fields) (body : Value) : Value :=
  .map [("statusCode", .int status), ("headers", .map headers), ("body", body)]

def jsonHeaders : Fields := [("Content-Type", .text "application/json")]

def openHeaders : Fields := jsonHeaders ++ [("Access-Control-Allow-Origin", .text "*")]

def sharedHeaders : Fields :=
  openHeaders ++ [("Access-Control-Allow-Headers", .text "Content-Type,Authorization"),
    ("Access-Control-Allow-Methods", .text "GET,POST,PUT,DELETE,OPTIONS")]

def message (name text : String) : Value := .map [(name, .text text)]

def loadNothing (_ : Setting) : Flow Unit := pure ()

def loadLibrary (library : String) (s : Setting) : Flow Unit := s.useLibrary library

/-! ## Calls by name -/

/-- A parameter, and what it is when a call leaves it out, if it may. -/
structure Parameter where
  name : String
  usual : Option Value
  deriving Repr

namespace Parameter

/-- Reads a parameter: its name, and behind an equals sign the text it is when it is left out, where none
means null. -/
def ofText (cs : List Char) : Parameter :=
  let name := String.ofList (cs.takeWhile (· != '='))
  match cs.dropWhile (· != '=') with
  | [] => ⟨name, none⟩
  | [_] => ⟨name, some .null⟩
  | _ :: usual => ⟨name, some (.ofChars usual)⟩

def listOfText (s : String) : List Parameter :=
  ((Text.splitOn ' ' s.toList).filter (!·.isEmpty)).map ofText

end Parameter

structure Operation where
  name : String
  parameters : List Parameter
  run : Setting → List Value → Flow Value

namespace Operation

/-! ### Calls -/

def tooMany (o : Operation) (given : Nat) : String :=
  let most := o.parameters.length
  let least := (o.parameters.filter fun p => p.usual.isNone).length
  let range := if least < most then s!"from {least} to {most}" else toString most
  let plural := if least < most ∨ most ≠ 1 then "s" else ""
  let were := if given = 1 then "was" else "were"
  s!"{o.name}() takes {range} positional argument{plural} but {given} {were} given"

def enumerated : List String → String
  | [] => ""
  | [a] => a
  | [a, b] => s!"{a} and {b}"
  | names =>
    let last := names.getLastD ""
    String.intercalate ", " names.dropLast ++ ", and " ++ last

def leftOut (o : Operation) (missing : List String) : String :=
  let plural := if missing.length = 1 then "" else "s"
  let names := enumerated (missing.map fun n => s!"'{n}'")
  s!"{o.name}() missing {missing.length} required positional argument{plural}: {names}"

/-- Fails when a value that is given by name has no parameter of that name left. -/
def checkName (o : Operation) (places : Nat) (name : String) : Except Fault Unit :=
  match o.parameters.findIdx? fun p => p.name = name with
  | none => .error (.mistyped s!"{o.name}() got an unexpected keyword argument '{name}'")
  | some i =>
    if i < places then
      .error (.mistyped s!"{o.name}() got multiple values for argument '{name}'")
    else .ok ()

def values (o : Operation) (places : List Value) (named : Fields) : Except Fault (List Value) := do
  named.forM fun (name, _) => o.checkName places.length name
  if o.parameters.length < places.length then throw (.mistyped (o.tooMany places.length))
  let given := (o.parameters.drop places.length).map fun p =>
    (p.name, (named.lookup p.name).or p.usual)
  match given.filter fun (_, v) => v.isNone with
  | [] => return places ++ given.filterMap Prod.snd
  | missing => throw (.mistyped (o.leftOut (missing.map Prod.fst)))

def call (o : Operation) (s : Setting) (places : List Value) (named : Fields) : Flow Value := do
  o.run s (← Flow.ofOutcome (o.values places named))

end Operation

/-! ### Operations from functions -/

class ToValue (α : Type) where
  toValue : α → Value

instance : ToValue Value := ⟨id⟩
instance : ToValue Unit := ⟨fun _ => .null⟩
instance : ToValue Bool := ⟨.bool⟩
instance : ToValue Nat := ⟨fun n => .int n⟩
instance : ToValue Int := ⟨.int⟩
instance : ToValue String := ⟨.text⟩
instance : ToValue (List Value) := ⟨.list⟩

class Callable (F : Type) where
  call : F → Setting → List Value → Flow Value

instance [ToValue α] : Callable (Flow α) := ⟨fun f _ _ => do return ToValue.toValue (← f)⟩
instance [ToValue α] : Callable (Except Fault α) :=
  ⟨fun f _ _ => do return ToValue.toValue (← Flow.ofOutcome f)⟩
instance [Callable F] : Callable (Value → F) :=
  ⟨fun f s vs => Callable.call (f (vs.headD .null)) s vs.tail⟩
instance [Callable F] : Callable (Setting → F) := ⟨fun f s vs => Callable.call (f s) s vs⟩

namespace Operation

def on [Callable F] (name parameters : String) (f : F) : Operation :=
  ⟨name, Parameter.listOfText parameters, Callable.call f⟩

def onTable [Callable F] (name parameters table : String) (f : String → F) : Operation :=
  ⟨name, Parameter.listOfText parameters,
    fun s vs => do Callable.call (f (← Flow.ofOutcome (s.require table))) s vs⟩

def onKind (name parameters kind : String) : Operation :=
  ⟨name, Parameter.listOfText parameters, fun _ _ => pure (.handle kind)⟩

end Operation

end Unbundle.Service
