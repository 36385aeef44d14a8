import Unbundle.Value.Access

/-!
# Writing JSON

Two layouts are in use: everything on one line, and one item or field a line with two blanks for each
level. Characters beyond ASCII are escaped or kept. What is written for a value outside the data format
is part of the layout, which may refuse it.
-/

namespace Unbundle.Json

structure Layout where
  /-- Blanks for each level; none for one line. -/
  indent : Option Nat
  ascii : Bool
  /-- What is written for a value outside the data format. -/
  other : Value → Except Fault (List Char)

def refuse (v : Value) : Except Fault (List Char) := .error (.notSerializable v.kind)

def Layout.compact : Layout := ⟨none, true, refuse⟩

def Layout.pretty : Layout := ⟨some 2, false, refuse⟩

def unitEscape (n : Nat) : List Char := '\\' :: 'u' :: Text.hexDigits 4 n

def writeChar (ascii : Bool) (c : Char) : List Char :=
  if c = '"' then ['\\', '"']
  else if c = '\\' then ['\\', '\\']
  else if c = '\n' then ['\\', 'n']
  else if c = '\r' then ['\\', 'r']
  else if c = '\t' then ['\\', 't']
  else if c = '\x0c' then ['\\', 'f']
  else if c = '\x08' then ['\\', 'b']
  else if c.toNat < 0x20 then unitEscape c.toNat
  else if !ascii || c.toNat < 0x7f then [c]
  else if c.toNat < 0x10000 then unitEscape c.toNat
  else
    unitEscape (0xd800 + (c.toNat - 0x10000) / 0x400) ++
      unitEscape (0xdc00 + (c.toNat - 0x10000) % 0x400)

def writeString (ascii : Bool) (cs : List Char) : List Char :=
  '"' :: (cs.flatMap (writeChar ascii) ++ ['"'])

def writeInt (n : Int) : Except Fault (List Char) :=
  if maxDigits < (Number.digits n.natAbs).length then .error (.refused tooManyToWrite)
  else .ok (Number.ofInt n)

def writeFloat (x : Float) : List Char :=
  match Number.Binary.ofFloat x with
  | .nan => "NaN".toList
  | .infinite negative => if negative then "-Infinity".toList else "Infinity".toList
  | .finite .. => Number.ofFloat x

/-- A line break and the blanks of a level, if lines are broken. -/
def Layout.newline (l : Layout) (level : Nat) : List Char :=
  match l.indent with
  | none => []
  | some n => '\n' :: List.replicate (n * level) ' '

def Layout.comma (l : Layout) (level : Nat) : List Char :=
  match l.indent with
  | none => [',', ' ']
  | some _ => ',' :: l.newline level

mutual

def writeAt (l : Layout) (level : Nat) : Value → Except Fault (List Char)
  | .null => .ok "null".toList
  | .bool b => .ok (if b then "true".toList else "false".toList)
  | .int n => writeInt n
  | .float x => .ok (writeFloat x)
  | .text s => .ok (writeString l.ascii s.toList)
  | .list [] => .ok ['[', ']']
  | .list (x :: xs) => do
    let items ← writeItems l (level + 1) (x :: xs)
    return '[' :: (l.newline (level + 1) ++ items ++ l.newline level ++ [']'])
  | .map [] => .ok ['{', '}']
  | .map (f :: fs) => do
    let fields ← writeFields l (level + 1) (f :: fs)
    return '{' :: (l.newline (level + 1) ++ fields ++ l.newline level ++ ['}'])
  | v => l.other v

def writeItems (l : Layout) (level : Nat) : List Value → Except Fault (List Char)
  | [] => .ok []
  | [x] => writeAt l level x
  | x :: xs => do
    let head ← writeAt l level x
    let tail ← writeItems l level xs
    return head ++ l.comma level ++ tail

def writeFields (l : Layout) (level : Nat) : List (String × Value) → Except Fault (List Char)
  | [] => .ok []
  | [(k, x)] => do
    let value ← writeAt l level x
    return writeString l.ascii k.toList ++ ':' :: ' ' :: value
  | (k, x) :: fs => do
    let value ← writeAt l level x
    let tail ← writeFields l level fs
    return writeString l.ascii k.toList ++ ':' :: ' ' :: value ++ l.comma level ++ tail

end

def write (l : Layout) (v : Value) : Except Fault String :=
  (writeAt l 0 v).map String.ofList

end Unbundle.Json

namespace Unbundle

/-! ## JSON in values -/

namespace Value

def readAll (v : Value) : Except Fault Value :=
  match v with
  | stream content => .ok (.bytes (Text.encode content.toList))
  | _ => .error (.noAttribute v.fullKind "read")

def decoded (v : Value) : Except Fault Value :=
  match v with
  | bytes bs =>
    match Text.decode bs with
    | .ok cs => .ok (ofChars cs)
    | .error e => .error (.utf8 e)
  | _ => .error (.noAttribute v.fullKind "decode")

def parsed (v : Value) : Except Fault Value :=
  match v with
  | text s => (Json.read s.toList).mapError .ofJson
  | bytes bs =>
    let body := match bs with
      | 0xef :: 0xbb :: 0xbf :: rest => rest
      | _ => bs
    match Text.decode body with
    | .ok cs => (Json.read cs).mapError .ofJson
    | .error e => .error (.utf8 e)
  | _ => .error (.mistyped
      s!"the JSON object must be str, bytes or bytearray, not {v.kind}")

def ofDecimal (d : Number.Decimal) : Except Fault Value :=
  match d.whole? with
  | .error signal => .error (.decimal signal)
  | .ok true => .ok (.int (d.truncate?.getD 0))
  | .ok false =>
    match d.toFloat? with
    | some x => .ok (.float x)
    | none => .error (.refused "cannot convert signaling NaN to float")

def toJson (v : Value) : Except Fault Value := do return .text (← Json.write .compact v)

def writtenNumber (v : Value) : Except Fault Value :=
  match v with
  | decimal d => ofDecimal d
  | _ => .error (.notSerializable v.kind)

def storedToJson (v : Value) : Except Fault Value := do
  let layout : Json.Layout := { Json.Layout.compact with
    other := fun v => do Json.writeAt .compact 0 (← v.writtenNumber) }
  return .text (← Json.write layout v)

mutual

/-- A stored value in plain form: every decimal in it becomes a plain number. -/
def plain : Value → Except Fault Value
  | decimal d => ofDecimal d
  | list xs => do return .list (← plainItems xs)
  | map fs => do return .map (← plainFields fs)
  | v => .ok v

def plainItems : List Value → Except Fault (List Value)
  | [] => .ok []
  | x :: xs => do
    let head ← plain x
    let tail ← plainItems xs
    return head :: tail

def plainFields : List (String × Value) → Except Fault (List (String × Value))
  | [] => .ok []
  | (k, x) :: fs => do
    let head ← plain x
    let tail ← plainFields fs
    return (k, head) :: tail

end

mutual

/-- A value in the form in which it is stored: every floating-point number becomes a decimal. -/
def storable : Value → Except Fault Value
  | float x => do return .decimal (← (float x).asDecimal)
  | list xs => do return .list (← storableItems xs)
  | map fs => do return .map (← storableFields fs)
  | v => .ok v

def storableItems : List Value → Except Fault (List Value)
  | [] => .ok []
  | x :: xs => do
    let head ← storable x
    let tail ← storableItems xs
    return head :: tail

def storableFields : List (String × Value) → Except Fault (List (String × Value))
  | [] => .ok []
  | (k, x) :: fs => do
    let head ← storable x
    let tail ← storableFields fs
    return (k, head) :: tail

end

end Value

end Unbundle
