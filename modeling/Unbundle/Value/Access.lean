import Unbundle.Fault

/-!
# Parts of values

Looking into a value of unknown shape: each operation works on the forms that have such a part and
says what is wrong with the others.
-/

open Unbundle.Number Unbundle.Text

namespace Unbundle

open Number (Binary Ratio Decimal)

/-! ### Equality and order of values -/

inductive Numeric where
  | finite (negative : Bool) (size : Ratio)
  | infinite (negative : Bool)
  | nan

namespace Numeric

def ofFloat (x : Float) : Numeric :=
  match Binary.ofFloat x with
  | .nan => nan
  | .infinite negative => infinite negative
  | .finite negative m e => finite negative (Ratio.ofDyadic m e)

def ofDecimal : Decimal → Numeric
  | .nan _ => nan
  | .infinite negative => infinite negative
  | .finite negative n e => finite negative ((Ratio.mk n 1).shift e)

def compareSize (a b : Ratio) : Ordering := compare (a.num * b.den) (b.num * a.den)

/-- Two numbers compared; NaN compares with nothing. -/
def compare? : Numeric → Numeric → Option Ordering
  | nan, _ | _, nan => none
  | infinite a, infinite b => some (compare b.toNat a.toNat)
  | infinite a, finite .. => some (if a then .lt else .gt)
  | finite .., infinite b => some (if b then .gt else .lt)
  | finite a x, finite b y =>
    if x.num = 0 ∧ y.num = 0 then some .eq
    else
      match a, b with
      | false, false => some (compareSize x y)
      | true, true => some (compareSize y x)
      | false, true => some (if x.num = 0 ∧ y.num = 0 then .eq else .gt)
      | true, false => some (if x.num = 0 ∧ y.num = 0 then .eq else .lt)

end Numeric

namespace Value

def numeric? : Value → Option Numeric
  | bool b => some (.finite false ⟨b.toNat, 1⟩)
  | int n => some (.finite (n < 0) ⟨n.natAbs, 1⟩)
  | float x => some (.ofFloat x)
  | decimal d => some (.ofDecimal d)
  | _ => none

mutual

def same : Value → Value → Bool
  | null, null => true
  | text s, text t => s == t
  | list xs, list ys => sameItems xs ys
  | map fs, map gs => fs.length == gs.length && sameFields fs gs
  | object fs, object gs => fs.length == gs.length && sameFields fs gs
  | moment s, moment t => s == t
  | bytes s, bytes t => s == t
  | v, w =>
    match v.numeric?, w.numeric? with
    | some a, some b => a.compare? b == some .eq
    | _, _ => false

def sameItems : List Value → List Value → Bool
  | [], [] => true
  | x :: xs, y :: ys => same x y && sameItems xs ys
  | _, _ => false

def sameFields : List (String × Value) → List (String × Value) → Bool
  | [], _ => true
  | (k, x) :: fs, gs =>
    (match lookup k gs with
      | some y => same x y
      | none => false) && sameFields fs gs

end

def memberOf (v : Value) (xs : List Value) : Bool := xs.any fun x => same x v

inductive Relation where
  | lt | le | gt | ge
  deriving DecidableEq

def Relation.sign : Relation → String
  | lt => "<"
  | le => "<="
  | gt => ">"
  | ge => ">="

def Relation.holds : Relation → Ordering → Bool
  | lt, o => o == .lt
  | le, o => o != .gt
  | gt, o => o == .gt
  | ge, o => o != .lt

def eitherDecimal : Value → Value → Bool
  | decimal _, _ | _, decimal _ => true
  | _, _ => false

mutual

def related (r : Relation) : Value → Value → Except Fault Bool
  | text s, text t => .ok (r.holds (compare s t))
  | moment s, moment t =>
    .ok (r.holds ((compare s.toEpoch t.toEpoch).then (compare s.micro t.micro)))
  | list xs, list ys => relatedItems r xs ys
  | v, w =>
    match v.numeric?, w.numeric? with
    | some a, some b =>
      match a.compare? b with
      | some o => .ok (r.holds o)
      | none => if eitherDecimal v w then .error (.decimal "InvalidOperation") else .ok false
    | _, _ => .error (.unordered r.sign v.fullKind w.fullKind)

/-- Whether a relation holds of two lists: the first items that differ decide. -/
def relatedItems (r : Relation) : List Value → List Value → Except Fault Bool
  | [], [] => .ok (r.holds .eq)
  | [], _ :: _ => .ok (r.holds .lt)
  | _ :: _, [] => .ok (r.holds .gt)
  | x :: xs, y :: ys => if same x y then relatedItems r xs ys else related r x y

end

end Value

end Unbundle

namespace Unbundle.Value

/-! ### Parts of values -/

/-- A field by name, or a default when there is none. Only maps have fields to ask for. -/
def getD (v : Value) (key : String) (default : Value) : Except Fault Value :=
  match v with
  | map fs => .ok ((lookup key fs).getD default)
  | _ => .error (.noAttribute v.fullKind "get")

def get (v : Value) (key : String) : Except Fault Value := v.getD key .null

def hashable : Value → Except Fault Unit
  | list _ => .error (.unhashable "list")
  | map _ => .error (.unhashable "dict")
  | object _ => .error (.unhashable "types.SimpleNamespace")
  | _ => .ok ()

/-- The item of a list at a position; negative positions count from the end. -/
def at? (xs : List α) (i : Int) : Option α :=
  if 0 ≤ i then xs[i.toNat]?
  else if (-i).toNat ≤ xs.length then xs[xs.length - (-i).toNat]?
  else none

def item (v key : Value) : Except Fault Value :=
  match v with
  | map fs => do
    hashable key
    match key with
    | text k => (lookup k fs).elim (.error (.missingKey key)) .ok
    | _ => .error (.missingKey key)
  | list xs =>
    match key with
    | int i => (at? xs i).elim (.error .outOfRange) .ok
    | bool b => (at? xs b.toNat).elim (.error .outOfRange) .ok
    | _ => .error (.listIndex key.fullKind)
  | text s =>
    match key with
    | int i => (at? s.toList i).elim (.error (.named "IndexError" "string index out of range"))
        fun c => .ok (ofChars [c])
    | bool b => (at? s.toList b.toNat).elim
        (.error (.named "IndexError" "string index out of range")) fun c => .ok (ofChars [c])
    | _ => .error (.textIndex key.fullKind)
  | _ => .error (.notSubscriptable v.fullKind)

def field (v : Value) (key : String) : Except Fault Value := v.item (.text key)

/-- Whether a value holds another: as a field name, an item or a part of a text. -/
def holds (v part : Value) : Except Fault Bool :=
  match v with
  | map fs => do
    hashable part
    match part with
    | text k => return (lookup k fs).isSome
    | _ => return false
  | list xs => .ok (memberOf part xs)
  | text s =>
    match part with
    | text t => .ok (occursIn t.toList s.toList)
    | _ => .error (.mistyped
        s!"'in <string>' requires string as left operand, not {part.fullKind}")
  | _ => .error (.notContainer v.fullKind)

def holdsName (v : Value) (name : String) : Except Fault Bool := v.holds (.text name)

def items (v : Value) : Except Fault (List Value) :=
  match v with
  | list xs => .ok xs
  | map fs => .ok (fs.map fun (k, _) => .text k)
  | text s => .ok (s.toList.map fun c => ofChars [c])
  | bytes bs => .ok (bs.map fun b => .int b.toNat)
  | _ => .error (.notIterable v.fullKind)

def fields (v : Value) : Except Fault (List (String × Value)) :=
  match v with
  | map fs => .ok fs
  | _ => .error (.noAttribute v.fullKind "items")

def length (v : Value) : Except Fault Nat :=
  match v with
  | list xs => .ok xs.length
  | map fs => .ok fs.length
  | text s => .ok s.length
  | bytes bs => .ok bs.length
  | _ => .error (.noLength v.fullKind)

def part (v : Value) (name : String) : Except Fault Value :=
  match v with
  | object fs => (lookup name fs).elim (.error (.noAttribute v.fullKind name)) .ok
  | _ => .error (.noAttribute v.fullKind name)

def withField (v : Value) (key : String) (new : Value) : Except Fault Value :=
  match v with
  | map fs => .ok (.map (put key new fs))
  | list _ => .error (.listIndex "str")
  | _ => .error (.mistyped s!"'{v.fullKind}' object does not support item assignment")

def withoutField (v : Value) (key : String) : Except Fault Value :=
  match v with
  | map fs => .ok (.map (erase key fs))
  | list _ => .error (.mistyped "pop expected at most 1 argument, got 2")
  | _ => .error (.noAttribute v.fullKind "pop")

def textFor (operation : String) (v : Value) : Except Fault String :=
  match v with
  | text s => .ok s
  | _ => .error (.noAttribute v.fullKind operation)

def without (v : Value) (part : String) : Except Fault Value := do
  return ofChars (replaceAll part.toList [] (← v.textFor "replace").toList)

/-! ### Sorting values -/

/-- A comparison that may have no answer. -/
abbrev Less (α : Type) := α → α → Except Fault Bool

def runLength (less : Less α) (falling : Bool) (last : α) : List α → Except Fault Nat
  | [] => .ok 0
  | x :: xs => do
    if (← less x last) == falling then return (← runLength less falling x xs) + 1 else return 0

/-- The place of an item among sorted ones between two positions, behind those equal to it. -/
def placeOf (less : Less α) (x : α) (xs : List α) (lo hi : Nat) : Except Fault Nat :=
  if lo < hi then do
    let mid := lo + (hi - lo) / 2
    match xs[mid]? with
    | none => return lo
    | some y => if ← less x y then placeOf less x xs lo mid else placeOf less x xs (mid + 1) hi
  else return lo
termination_by hi - lo
decreasing_by all_goals (simp_wf; omega)

def insertSorted (less : Less α) (sorted : List α) (x : α) : Except Fault (List α) := do
  let i ← placeOf less x sorted 0 sorted.length
  return sorted.take i ++ x :: sorted.drop i

def sortWith (less : Less α) : List α → Except Fault (List α)
  | [] => .ok []
  | [x] => .ok [x]
  | x :: y :: rest => do
    let falling ← less y x
    let n := (← runLength less falling y rest) + 2
    let all := x :: y :: rest
    let start := if falling then (all.take n).reverse else all.take n
    (all.drop n).foldlM (insertSorted less) start

/-- The items by falling keys; those with equal keys keep their order. -/
def sortFalling (key : α → Value) (xs : List α) : Except Fault (List α) := do
  let sorted ← sortWith (fun a b => (key a).related .lt (key b)) xs.reverse
  return sorted.reverse

def sort (vs : List Value) : Except Fault (List Value) := sortWith (fun a b => a.related .lt b) vs

def extreme (r : Relation) (key : α → Except Fault Value) (x : α) (xs : List α) :
    Except Fault α := do
  let (best, _) ← xs.foldlM (fun (best, k) y => do
    let l ← key y
    return if ← l.related r k then (y, l) else (best, k)) (x, ← key x)
  return best

/-! ### Arithmetic on values -/

open Number (Decimal Ratio)
-- Powers are those of the core library, also where there are others.
attribute [local instance (high)] instPowNat

def ratioToFloat (r : Ratio) : Float :=
  if r.num = 0 then 0.0
  else
    let shift : Int := 55 - ((r.num.log2 : Int) - r.den.log2)
    let s : Ratio := if 0 ≤ shift then ⟨r.num * 2 ^ shift.toNat, r.den⟩
      else ⟨r.num, r.den * 2 ^ (-shift).toNat⟩
    let q := s.num / s.den
    let q := if s.num % s.den = 0 then q else q ||| 1
    let drop := q.log2 - 52
    let m := (Ratio.mk q (2 ^ drop)).round
    Float.scaleB (Float.ofNat m) ((drop : Int) - shift)

/-- A number in one of the two forms that arithmetic is done in. -/
inductive Operand where
  | whole (n : Int)
  | real (x : Float)

def operand? : Value → Option Operand
  | bool b => some (.whole b.toNat)
  | int n => some (.whole n)
  | float x => some (.real x)
  | _ => none

def Operand.toFloat : Operand → Except Fault Float
  | real x => .ok x
  | whole n => (intToFloat? n).elim
      (.error (.overflow "int too large to convert to float")) .ok

def decimal? : Value → Option Decimal
  | bool b => some (.ofInt b.toNat)
  | int n => some (.ofInt n)
  | decimal d => some d
  | _ => none

structure Operation where
  sign : String
  onWhole : Int → Int → Int
  onReal : Float → Float → Float
  onDecimal : Decimal → Decimal → Except String Decimal

/-- An operation on decimals if one of the operands is one, on whole numbers if both are, otherwise on
floating-point numbers. -/
def arithmetic (o : Operation) (v w : Value) : Except Fault Value :=
  if eitherDecimal v w then
    match v.decimal?, w.decimal? with
    | some a, some b =>
      match o.onDecimal a b with
      | .ok d => .ok (.decimal d)
      | .error signal => .error (.decimal signal)
    | _, _ => .error (.operands o.sign v.fullKind w.fullKind)
  else match v.operand?, w.operand? with
  | some (.whole m), some (.whole n) => .ok (.int (o.onWhole m n))
  | some a, some b => do return .float (o.onReal (← a.toFloat) (← b.toFloat))
  | _, _ => .error (.operands o.sign v.fullKind w.fullKind)

/-- The sum of two numbers, or one text or list after the other. `sign` is how the operation is
written where it is used. -/
def addAs (sign : String) (v w : Value) : Except Fault Value :=
  match v, w with
  | text s, text t => .ok (.text (s ++ t))
  | list xs, list ys => .ok (.list (xs ++ ys))
  | text _, _ => .error (.mistyped
      s!"can only concatenate str (not \"{w.fullKind}\") to str")
  | list _, _ => .error (.mistyped
      s!"can only concatenate list (not \"{w.fullKind}\") to list")
  | _, _ => arithmetic ⟨sign, (· + ·), (· + ·), Decimal.add⟩ v w

def add (v w : Value) : Except Fault Value := addAs "+" v w

def sub (v w : Value) : Except Fault Value :=
  arithmetic ⟨"-", (· - ·), (· - ·), Decimal.sub⟩ v w

def mul (v w : Value) : Except Fault Value :=
  let times (v : Value) (n : Int) : Except Fault Value :=
    match v with
    | text s => .ok (ofChars (copies n.toNat s.toList))
    | list xs => .ok (.list (List.replicate n.toNat xs).flatten)
    | _ => .error (.operands "*" v.fullKind "int")
  match v, w with
  | text _, int n | list _, int n => times v n
  | text _, bool b | list _, bool b => times v b.toNat
  | int n, text _ | int n, list _ => times w n
  | bool b, text _ | bool b, list _ => times w b.toNat
  | text _, _ | list _, _ =>
    .error (.mistyped s!"can't multiply sequence by non-int of type '{w.fullKind}'")
  | _, text _ | _, list _ =>
    .error (.mistyped s!"can't multiply sequence by non-int of type '{v.fullKind}'")
  | _, _ => arithmetic ⟨"*", (· * ·), (· * ·), Decimal.mul⟩ v w

/-- The quotient of two numbers as a decimal if one of them is, otherwise as a floating-point
number. -/
def div (v w : Value) : Except Fault Value :=
  if eitherDecimal v w then
    match v.decimal?, w.decimal? with
    | some a, some b =>
      match a.div b with
      | .ok d => .ok (.decimal d)
      | .error "DivisionByZero" => .error (.named "DivisionByZero"
          "[<class 'decimal.DivisionByZero'>]")
      | .error signal => .error (.decimal signal)
    | _, _ => .error (.operands "/" v.fullKind w.fullKind)
  else match v.operand?, w.operand? with
  | some (.whole m), some (.whole n) =>
    if n = 0 then .error (.divisionByZero "division by zero")
    else
      let size := ratioToFloat ⟨m.natAbs, n.natAbs⟩
      if floatLimit * n.natAbs ≤ m.natAbs then
        .error (.overflow "integer division result too large for a float")
      else .ok (.float (if (m < 0) != (n < 0) then -size else size))
  | some a, some b => do
    let x ← a.toFloat
    let y ← b.toFloat
    if y == 0.0 then .error (.divisionByZero "float division by zero") else return .float (x / y)
  | _, _ => .error (.operands "/" v.fullKind w.fullKind)

def sumFrom (start : Value) : List Value → Except Fault Value
  | [] => .ok start
  | v :: vs => do sumFrom (← start.add v) vs

def sum (vs : List Value) : Except Fault Value := sumFrom (.int 0) vs

def fixed (places : Nat) (v : Value) : Except Fault (List Char) :=
  match v with
  | float x => .ok (Number.fixed places x)
  | int n =>
    if floatLimit ≤ n.natAbs then .error (.overflow "int too large to convert to float")
    else
      let body := placed places (nearest n.natAbs * 10 ^ places)
      .ok (if n < 0 then '-' :: body else body)
  | bool b => .ok (placed places (b.toNat * 10 ^ places))
  | decimal d =>
    match d with
    | .finite negative n e =>
      let body := placed places (((Ratio.mk n 1).shift e).shift places).round
      .ok (if negative then '-' :: body else body)
    | _ => .ok d.toText
  | text _ => .error (.badFormat "f" "str")
  | _ => .error (.noFormat v.fullKind)

/-! ### Values in columns and sentences -/

def groupedText (v : Value) : Except Fault (List Char) :=
  match v with
  | int n => .ok (groupedInt n)
  | bool b => .ok (groupedInt b.toNat)
  | float x =>
    let cs := ofFloat x
    if cs.contains 'e' || !cs.any Char.isDigit then .ok cs
    else
      let (sign, body) := cs.span (· == '-')
      let (whole, rest) := body.span Char.isDigit
      .ok (sign ++ grouped whole ++ rest)
  | text _ => .error (.mistyped "Cannot specify ',' with 's'.")
  | _ => .error (.noFormat v.fullKind)

def lead (n : Nat) (v : Value) : Except Fault Value :=
  match v with
  | text s => .ok (ofChars (s.toList.take n))
  | list xs => .ok (.list (xs.take n))
  | bytes bs => .ok (.bytes (bs.take n))
  | map _ => .error (.unhashable "slice")
  | _ => .error (.notSubscriptable v.fullKind)

def truncated (v : Value) : Except Fault Int :=
  match v with
  | int n => .ok n
  | bool b => .ok b.toNat
  | float x =>
    match truncate? x with
    | some n => .ok n
    | none =>
      if x.isNaN then .error (.refused "cannot convert float NaN to integer")
      else .error (.overflow "cannot convert float infinity to integer")
  | _ => .error (.mistyped
      s!"int() argument must be a string, a bytes-like object or a real number, not '{v.fullKind}'")

/-! ### Values as whole numbers and decimals -/

open Number (Decimal)

/-- Digits of any script with single low lines between them, as a number. -/
def wholeDigits? (n : Nat) : List Char → Option Nat
  | [] => none
  | [c] => (digitValue? c).map (n * 10 + ·)
  | c :: '_' :: cs => do wholeDigits? (n * 10 + (← digitValue? c)) cs
  | c :: cs => do wholeDigits? (n * 10 + (← digitValue? c)) cs

def wholeText? (cs : List Char) : Option Int :=
  match trim cs with
  | '-' :: r => (wholeDigits? 0 r).map fun n => -(n : Int)
  | '+' :: r => (wholeDigits? 0 r).map fun n => n
  | r => (wholeDigits? 0 r).map fun n => n

/-- A value as a whole number: fractions are dropped and texts are read. -/
def asInt (v : Value) : Except Fault Int :=
  match v with
  | text s =>
    match wholeText? s.toList with
    | some n =>
      let digits := s.toList.countP fun c => (digitValue? c).isSome
      if digits > Json.maxDigits then .error (.refused (tooManyDigits digits)) else .ok n
    | none => .error (.refused ("invalid literal for int() with base 10: " ++ quote s))
  | decimal d =>
    match d with
    | .nan _ => .error (.refused "cannot convert NaN to integer")
    | .infinite _ => .error (.overflow "cannot convert Infinity to integer")
    | _ => .ok (d.truncate?.getD 0)
  | _ => v.truncated

def asDecimal (v : Value) : Except Fault Decimal :=
  (Decimal.ofText? v.display).elim (.error (.decimal "ConversionSyntax")) .ok

def negated (v : Value) : Except Fault Value :=
  match v with
  | int n => .ok (.int (-n))
  | bool b => .ok (.int (-(b.toNat : Int)))
  | float x => .ok (.float (-x))
  | decimal d => .ok (.decimal d.negated)
  | _ => .error (.mistyped s!"bad operand type for unary -: '{v.fullKind}'")

end Unbundle.Value

namespace Unbundle.Moment

open Number (Binary Ratio)

-- Powers are those of the core library, also where there are others.
attribute [local instance (high)] instPowNat

/-! ## Moments and clocks -/

/-- The year of a day number; it may lie outside the calendar. -/
def yearOf (n : Int) : Int :=
  let era := Int.fdiv n 146097
  let dayOfEra := n - era * 146097
  let yearOfEra := (dayOfEra - dayOfEra / 1460 + dayOfEra / 36524 - dayOfEra / 146096) / 365
  let dayOfYear := dayOfEra - (365 * yearOfEra + yearOfEra / 4 - yearOfEra / 100)
  yearOfEra + era * 400 + (if (5 * dayOfYear + 2) / 153 < 10 then 0 else 1)

def daySeconds : Int := 86400

def yearOfSecond (s : Int) : Int := yearOf (Int.fdiv s daySeconds + epochDay)

def fitsBits (bits : Nat) (n : Int) : Bool := -(2 ^ (bits - 1) : Int) ≤ n && n < 2 ^ (bits - 1)

def outOfCalendar (year : Int) : Fault :=
  let shown := if fitsBits 32 year then year else year - 2 ^ (32 : Nat)
  .refused s!"year {shown} is out of range"

def ofSecond (s : Int) (micro : Nat) : Except Fault Moment :=
  let year := yearOfSecond s
  if !fitsBits 64 s then .error (.overflow "timestamp out of range for platform time_t")
  else if !fitsBits 32 (year - 1900) then
    .error (.named "OSError" "[Errno 75] Value too large for defined data type")
  else if year < 1 ∨ 9999 < year then .error (outOfCalendar year)
  else
    let before := yearOfSecond (s - daySeconds)
    if before < 1 then .error (outOfCalendar before) else .ok (ofEpoch s micro)

def roundFloat (x : Float) : Int :=
  match Binary.ofFloat x with
  | .finite negative m e =>
    let n : Int := (Ratio.ofDyadic m e).round
    if negative then -n else n
  | _ => 0

/-- The moment of a number of seconds with a fraction, to the nearest microsecond. -/
def ofSeconds (x : Float) : Except Fault Moment :=
  match truncate? x with
  | none =>
    if x.isNaN then .error (.refused "Invalid value NaN (not a number)")
    else .error (.overflow "timestamp out of range for platform time_t")
  | some whole =>
    let fraction := x - (if x < 0 then x.ceil else x.floor)
    let micro := roundFloat (fraction * 1e6)
    if 1000000 ≤ micro then ofSecond (whole + 1) (micro - 1000000).toNat
    else if micro < 0 then ofSecond (whole - 1) (micro + 1000000).toNat
    else ofSecond whole micro.toNat

def ofTimestamp (v : Value) : Except Fault Moment :=
  match v with
  | .int n => ofSecond n 0
  | .bool b => ofSecond b.toNat 0
  | .float x => ofSeconds x
  | _ => .error (.mistyped s!"'{v.fullKind}' object cannot be interpreted as an integer")

def wholeSeconds (t : Moment) : Int :=
  let s := t.toEpoch
  if s < 0 ∧ t.micro ≠ 0 then s + 1 else s

def plusDays (t : Moment) (days : Nat) : Except Fault Moment :=
  let later := t.plusSeconds (days * daySeconds)
  if 9999 < later.year then .error (.overflow "date value out of range") else .ok later

def before (s t : Moment) : Bool :=
  s.toEpoch < t.toEpoch || (s.toEpoch == t.toEpoch && s.micro < t.micro)

/-! ### Reading -/

def takeDigits? : Nat → Nat → List Char → Option (Nat × List Char)
  | 0, n, cs => some (n, cs)
  | k + 1, n, c :: cs => if c.isDigit then takeDigits? k (n * 10 + (c.toNat - '0'.toNat)) cs else none
  | _ + 1, _, [] => none

def isLeap (year : Nat) : Bool := year % 4 == 0 && (year % 100 != 0 || year % 400 == 0)

def monthDays (year month : Nat) : Nat :=
  if month = 2 then if isLeap year then 29 else 28
  else if month = 4 ∨ month = 6 ∨ month = 9 ∨ month = 11 then 30
  else 31

def isDate (year month day : Nat) : Bool :=
  1 ≤ year && year ≤ 9999 && 1 ≤ month && month ≤ 12 && 1 ≤ day && day ≤ monthDays year month

def weekday (n : Int) : Int := (n - epochDay + 3) % 7

def firstMonday (year : Nat) : Int :=
  let first := dayNumber year 1 1
  let monday := first - weekday first
  if weekday first ≤ 3 then monday else monday + 7

def ofWeek? (year week day : Nat) : Option (Nat × Nat × Nat) :=
  let first := weekday (dayNumber year 1 1)
  let long := first = 3 ∨ (first = 2 ∧ isLeap year)
  if year < 1 ∨ 9999 < year ∨ week < 1 ∨ 53 < week ∨ (week = 53 ∧ ¬long) ∨ day < 1 ∨ 7 < day then none
  else
    let n := firstMonday year + (week - 1) * 7 + (day - 1)
    if 9999 < yearOf n ∨ yearOf n < 1 then none else some (ofDayNumber n)

def dateText? (cs : List Char) : Option (Nat × Nat × Nat) := do
  let (year, rest) ← takeDigits? 4 0 cs
  let (dashed, rest) := match rest with
    | '-' :: r => (true, r)
    | r => (false, r)
  let skipDash (r : List Char) : Option (List Char) :=
    if !dashed then some r
    else match r with
      | '-' :: r => some r
      | _ => none
  match rest with
  | 'W' :: rest => do
    let (week, rest) ← takeDigits? 2 0 rest
    match rest with
    | [] => ofWeek? year week 1
    | _ => do
      let (day, _) ← takeDigits? 1 0 (← skipDash rest)
      ofWeek? year week day
  | _ => do
    let (month, rest) ← takeDigits? 2 0 rest
    let (day, rest) ← takeDigits? 2 0 (← skipDash rest)
    if rest.isEmpty && isDate year month day then some (year, month, day) else none

/-- The length of the date at the start of a text. Any one character may stand between date and
time, so the form of the date decides. -/
def dateLength? (cs : List Char) : Option Nat :=
  let digitAt (i : Nat) : Bool := (cs[i]?.map Char.isDigit).getD false
  let size := byteLength cs
  if size < 7 then none
  else if size = 7 then some 7
  else if cs[4]? = some '-' then
    if cs[5]? = some 'W' then
      if cs[8]? = some '-' then
        if size = 9 then none
        else if digitAt 10 then some 8
        else some 10
      else some 8
    else some 10
  else if cs[4]? = some 'W' then
    let pos := 7 + ((cs.drop 7).takeWhile Char.isDigit).length
    if pos < 9 then some pos
    else if pos % 2 = 0 then some 7
    else some 8
  else some 8

def fraction? (cs : List Char) : Option Nat :=
  if cs.isEmpty || !cs.all Char.isDigit then none
  else
    let ds := cs.take 6
    (takeDigits? ds.length 0 ds).map fun (n, _) => n * 10 ^ (6 - ds.length)

/-- Reads a time of day: up to three parts of two digits, with colons between them or without, and a
fraction. `parts` are the ones read so far. -/
def timeParts? (colons : Bool) : Nat → List Nat → List Char → Option (List Nat × Nat)
  | 0, parts, cs => (fraction? cs).map fun us => (parts, us)
  | k + 1, parts, cs => do
    let (n, rest) ← takeDigits? 2 0 cs
    let parts := parts ++ [n]
    let colons := if parts.length = 1 then rest.head? == some ':' else colons
    match rest with
    | [] => some (parts, 0)
    | [_] => none
    | c :: r =>
      if colons && c == ':' then timeParts? colons k parts r
      else if c == '.' || c == ',' then (fraction? r).map fun us => (parts, us)
      else if !colons then timeParts? colons k parts rest
      else none

def timeText? (cs : List Char) : Option (Nat × Nat × Nat × Nat) := do
  let (parts, micro) ← timeParts? true 3 [] cs
  let hour := parts.getD 0 0
  let minute := parts.getD 1 0
  let second := parts.getD 2 0
  if hour < 24 && minute < 60 && second < 60 then some (hour, minute, second, micro) else none

def ofIsoText? (cs : List Char) : Option Moment := do
  let size ← dateLength? cs
  let (year, month, day) ← dateText? (cs.take size)
  match cs.drop size with
  | [] => some ⟨year, month, day, 0, 0, 0, 0⟩
  | _ :: time => do
    let (hour, minute, second, micro) ← timeText? time
    some ⟨year, month, day, hour, minute, second, micro⟩

end Unbundle.Moment
