import Unbundle.Text.Packed

/-!
# Values

The values that reports, logs and service calls are made of. The first seven forms are those of a
data format with ordered fields; the others come from a data store or a client library. Whole
numbers and floating-point numbers are different values even when they are equal as numbers.
-/

namespace Unbundle.Number

-- Powers are those of the core library, also where there are others.
attribute [local instance (high)] instPowNat

/-! ## Decimal numbers with their written form -/

/-! ### Numbers as text -/

/-! ### Binary floating-point numbers, exactly -/

inductive Binary where
  | nan
  | infinite (negative : Bool)
  /-- `± mantissa · 2 ^ exponent` -/
  | finite (negative : Bool) (mantissa : Nat) (exponent : Int)
  deriving DecidableEq, Repr

/-- Reads the bits of a number: one for the sign, eleven for the exponent, the rest the fraction. -/
def Binary.ofFloat (x : Float) : Binary :=
  let bits : Nat := x.toBits.toNat
  let negative := bits / 2 ^ (63 : Nat) == 1
  let exponent : Nat := bits / 2 ^ (52 : Nat) % 2048
  let fraction : Nat := bits % 2 ^ (52 : Nat)
  if exponent = 2047 then
    if fraction = 0 then .infinite negative else .nan
  else if exponent = 0 then .finite negative fraction (-1074)
  else .finite negative (fraction + 2 ^ (52 : Nat)) ((exponent : Int) - 1075)

/-- A non-negative rational `num / den`. -/
structure Ratio where
  num : Nat
  den : Nat
  deriving DecidableEq, Repr

def Ratio.ofDyadic (m : Nat) (e : Int) : Ratio :=
  if 0 ≤ e then ⟨m * 2 ^ e.toNat, 1⟩ else ⟨m, 2 ^ (-e).toNat⟩

def Ratio.shift (r : Ratio) (e : Int) : Ratio :=
  if 0 ≤ e then ⟨r.num * 10 ^ e.toNat, r.den⟩ else ⟨r.num, r.den * 10 ^ (-e).toNat⟩

def Ratio.round (r : Ratio) : Nat :=
  let q := r.num / r.den
  let rest := 2 * (r.num % r.den)
  if rest < r.den then q
  else if r.den < rest then q + 1
  else if q % 2 = 0 then q else q + 1

def Ratio.floor (r : Ratio) : Nat := r.num / r.den

def digits (n : Nat) : List Char := Nat.toDigits 10 n

/-! ### The shortest decimal that reads back -/

/-- A decimal `digits · 10 ^ exponent`. -/
structure Decimals where
  digits : Nat
  exponent : Int
  deriving DecidableEq, Repr

/-- The least `k` with `r < 10 ^ k`, for a positive rational. -/
def magnitude (r : Ratio) : Int :=
  let guess : Int := ((r.num.log2 : Int) - r.den.log2) * 30103 / 100000
  let fits (k : Int) : Bool :=
    let s := r.shift (-k)
    s.num < s.den
  if fits (guess - 1) then guess - 1
  else if fits guess then guess
  else if fits (guess + 1) then guess + 1
  else guess + 2

/-- The decimals with one significant digit, with two, and so on up to seventeen, are tried in turn. -/
def shortest (mantissa : Nat) (exponent : Int) : Decimals :=
  let quarter := exponent - 2
  let value := Ratio.ofDyadic (4 * mantissa) quarter
  let low := Ratio.ofDyadic
    (4 * mantissa - (if mantissa = 2 ^ (52 : Nat) ∧ exponent ≠ -1074 then 1 else 2)) quarter
  let high := Ratio.ofDyadic (4 * mantissa + 2) quarter
  let closed := mantissa % 2 = 0
  let k := magnitude value
  let pick (n : Nat) : Option Decimals :=
    let e := k - n
    let v := value.shift (-e)
    let l := low.shift (-e)
    let h := high.shift (-e)
    let inside (c : Nat) : Bool :=
      if closed then l.num ≤ c * l.den && c * h.den ≤ h.num
      else l.num < c * l.den && c * h.den < h.num
    let near := v.round
    let below := v.floor
    if inside near then some ⟨near, e⟩
    else if inside below then some ⟨below, e⟩
    else if inside (below + 1) then some ⟨below + 1, e⟩
    else none
  ((List.range 17).findSome? fun i => pick (i + 1)).getD
    ⟨(value.shift (17 - k)).round, k - 17⟩

def Decimals.strip (d : Decimals) : Decimals :=
  go d.digits d.exponent d.digits
where
  go (n : Nat) (e : Int) : Nat → Decimals
    | 0 => ⟨n, e⟩
    | fuel + 1 => if n ≠ 0 ∧ n % 10 = 0 then go (n / 10) (e + 1) fuel else ⟨n, e⟩

/-! ### Numbers as text -/

def zeros (n : Nat) : List Char := List.replicate n '0'

def ofInt (n : Int) : List Char :=
  if n < 0 then '-' :: digits n.natAbs else digits n.natAbs

def positional (ds : List Char) (point : Int) : List Char :=
  if point ≤ 0 then '0' :: '.' :: (zeros (-point).toNat ++ ds)
  else if ds.length ≤ point.toNat then ds ++ zeros (point.toNat - ds.length) ++ ['.', '0']
  else ds.take point.toNat ++ '.' :: ds.drop point.toNat

def scientific (ds : List Char) (point : Int) : List Char :=
  let e := point - 1
  let head := match ds with
    | [] => ['0']
    | [d] => [d]
    | d :: rest => d :: '.' :: rest
  let size := digits e.natAbs
  head ++ ['e', if e < 0 then '-' else '+'] ++ zeros (2 - size.length) ++ size

def ofFloat (x : Float) : List Char :=
  match Binary.ofFloat x with
  | .nan => "nan".toList
  | .infinite negative => if negative then "-inf".toList else "inf".toList
  | .finite negative m e =>
    let body :=
      if m = 0 then "0.0".toList
      else
        let d := (shortest m e).strip
        let ds := digits d.digits
        let point := ds.length + d.exponent
        if -4 < point ∧ point ≤ 16 then positional ds point else scientific ds point
    if negative then '-' :: body else body

def placed (places n : Nat) : List Char :=
  let ds := digits n
  let ds := zeros (places + 1 - ds.length) ++ ds
  if places = 0 then ds
  else ds.take (ds.length - places) ++ '.' :: ds.drop (ds.length - places)

def fixed (places : Nat) (x : Float) : List Char :=
  match Binary.ofFloat x with
  | .nan => "nan".toList
  | .infinite negative => if negative then "-inf".toList else "inf".toList
  | .finite negative m e =>
    let body := placed places ((Ratio.ofDyadic m e).shift places).round
    if negative then '-' :: body else body

def grouped (ds : List Char) : List Char :=
  (go ds.reverse).reverse
where
  go : List Char → List Char
    | a :: b :: c :: d :: rest => a :: b :: c :: ',' :: go (d :: rest)
    | short => short

def groupedInt (n : Int) : List Char :=
  if n < 0 then '-' :: grouped (digits n.natAbs) else grouped (digits n.natAbs)

/-- The nearest floating-point number to a rational in decimal form, `n · 10 ^ e`. Exponents that
leave the range of the format give zero or infinity. -/
def toFloat (negative : Bool) (n : Nat) (e : Int) : Float :=
  let size : Int := (digits n).length
  let x :=
    if n = 0 then 0.0
    else if size + e > 400 then 1.0 / 0.0
    else if size + e < -400 then 0.0
    else if 0 ≤ e then Float.ofScientific n false e.toNat
    else Float.ofScientific n true (-e).toNat
  if negative then -x else x

/-- The whole number a floating-point number is after its fraction is dropped; none for the
infinities and NaN. -/
def truncate? (x : Float) : Option Int :=
  match Binary.ofFloat x with
  | .finite negative m e =>
    let n : Int := (Ratio.ofDyadic m e).floor
    some (if negative then -n else n)
  | _ => none

/-- Whole numbers from here on are too large for a floating-point number. -/
def floatLimit : Nat := 2 ^ (1024 : Nat) - 2 ^ (970 : Nat)

/-- The nearest number that has at most fifty-three binary digits before its zeros. -/
def nearest (n : Nat) : Nat :=
  let drop := n.log2 - 52
  (Ratio.mk n (2 ^ drop)).round * 2 ^ drop

/-- The nearest floating-point number to a whole number; none when it leaves the range. -/
def intToFloat? (n : Int) : Option Float :=
  let x := toFloat (n < 0) n.natAbs 0
  if x.isInf then none else some x

/-! ### Decimal numbers with their written form -/

inductive Decimal where
  /-- `± coefficient · 10 ^ exponent` -/
  | finite (negative : Bool) (coefficient : Nat) (exponent : Int)
  | infinite (negative : Bool)
  | nan (signalling : Bool)
  deriving DecidableEq, Repr, Inhabited

namespace Decimal

def ofInt (n : Int) : Decimal := .finite (n < 0) n.natAbs 0

/-- The text of a decimal: positional when the exponent is at most zero and the number is not too
small, scientific otherwise. -/
def toText : Decimal → List Char
  | .infinite negative => if negative then "-Infinity".toList else "Infinity".toList
  | .nan signalling => if signalling then "sNaN".toList else "NaN".toList
  | .finite negative n e =>
    let ds := digits n
    let left : Int := e + ds.length
    let point : Int := if e ≤ 0 ∧ -6 < left then left else 1
    let whole :=
      if point ≤ 0 then ['0']
      else if ds.length ≤ point.toNat then ds ++ zeros (point.toNat - ds.length)
      else ds.take point.toNat
    let fraction :=
      if point ≤ 0 then '.' :: (zeros (-point).toNat ++ ds)
      else if ds.length ≤ point.toNat then []
      else '.' :: ds.drop point.toNat
    let power :=
      if left = point then []
      else 'E' :: (if 0 < left - point then ['+'] else []) ++ Number.ofInt (left - point)
    (if negative then ['-'] else []) ++ whole ++ fraction ++ power

/-- The nearest floating-point number; a signalling NaN has none. -/
def toFloat? : Decimal → Option Float
  | .infinite negative => some (if negative then -1.0 / 0.0 else 1.0 / 0.0)
  | .nan signalling => if signalling then none else some (0.0 / 0.0)
  | .finite negative n e => some (Number.toFloat negative n e)

def truncate? : Decimal → Option Int
  | .finite negative n e =>
    let m : Int := if 0 ≤ e then n * 10 ^ e.toNat else (n / 10 ^ (-e).toNat : Nat)
    some (if negative then -m else m)
  | _ => none

def isWhole : Decimal → Bool
  | .finite _ n e => 0 ≤ e || n % 10 ^ (-e).toNat == 0
  | _ => false

end Decimal

end Unbundle.Number

namespace Unbundle.Number.Decimal

-- Powers are those of the core library, also where there are others.
attribute [local instance (high)] instPowNat

/-! ### Decimal arithmetic -/

def precision : Nat := 28

def rounded (negative : Bool) (n : Nat) (e : Int) : Decimal :=
  let extra := (digits n).length - precision
  if extra = 0 then .finite negative n e
  else
    let m := (Ratio.mk n (10 ^ extra)).round
    if (digits m).length ≤ precision then .finite negative m (e + extra)
    else .finite negative (m / 10) (e + extra + 1)

def scaled (n : Nat) (e low : Int) : Nat := n * 10 ^ (e - low).toNat

def negated : Decimal → Decimal
  | .finite negative n e => .finite (!negative) n e
  | .infinite negative => .infinite (!negative)
  | .nan signalling => .nan signalling

def add : Decimal → Decimal → Except String Decimal
  | .nan true, _ | _, .nan true => .error "InvalidOperation"
  | .nan false, _ | _, .nan false => .ok (.nan false)
  | .infinite a, .infinite b => if a = b then .ok (.infinite a) else .error "InvalidOperation"
  | .infinite a, _ | _, .infinite a => .ok (.infinite a)
  | .finite a m d, .finite b n e =>
    let low := min d e
    let sum : Int := (if a then -1 else 1) * (scaled m d low : Int) +
      (if b then -1 else 1) * (scaled n e low : Int)
    .ok (rounded (if sum = 0 then a && b else sum < 0) sum.natAbs low)

def sub (x y : Decimal) : Except String Decimal := x.add y.negated

def mul : Decimal → Decimal → Except String Decimal
  | .nan true, _ | _, .nan true => .error "InvalidOperation"
  | .nan false, _ | _, .nan false => .ok (.nan false)
  | .infinite a, .infinite b => .ok (.infinite (a != b))
  | .infinite a, .finite b n _ | .finite b n _, .infinite a =>
    if n = 0 then .error "InvalidOperation" else .ok (.infinite (a != b))
  | .finite a m d, .finite b n e => .ok (rounded (a != b) (m * n) (d + e))

/-- Takes zeros off a coefficient as long as its exponent is below another. -/
def stripTo (ideal : Int) : (fuel n : Nat) → (e : Int) → Nat × Int
  | 0, n, e => (n, e)
  | fuel + 1, n, e => if e < ideal ∧ n % 10 = 0 then stripTo ideal fuel (n / 10) (e + 1) else (n, e)

/-- The quotient of two decimals. An exact one has the exponent nearest to the difference of the two
exponents. -/
def div : Decimal → Decimal → Except String Decimal
  | .nan true, _ | _, .nan true => .error "InvalidOperation"
  | .nan false, _ | _, .nan false => .ok (.nan false)
  | .infinite _, .infinite _ => .error "InvalidOperation"
  | .infinite a, .finite b _ _ => .ok (.infinite (a != b))
  | .finite a _ _, .infinite b => .ok (.finite (a != b) 0 (-1000026))
  | .finite a m d, .finite b n e =>
    if n = 0 then .error (if m = 0 then "DivisionUndefined" else "DivisionByZero")
    else
      let ideal := d - e
      if m = 0 then .ok (.finite (a != b) 0 ideal)
      else
        let shift := precision + 2 + (digits n).length - (digits m).length
        let q := m * 10 ^ shift / n
        if m * 10 ^ shift % n = 0 then
          let (q, x) := stripTo ideal shift q (ideal - shift)
          .ok (rounded (a != b) q x)
        else .ok (rounded (a != b) (if q % 5 = 0 then q + 1 else q) (ideal - shift))

/-- Whether a decimal is a whole number, by its remainder after division by one. There is no
remainder when the quotient has more digits than the precision. -/
def whole? : Decimal → Except String Bool
  | .nan signalling => if signalling then .error "InvalidOperation" else .ok false
  | .infinite _ => .error "InvalidOperation"
  | .finite s n e =>
    if n ≠ 0 ∧ (precision : Int) < (digits n).length + e then .error "DivisionImpossible"
    else .ok (Decimal.finite s n e).isWhole

/-! ### Reading -/

def spanNumber (n count : Nat) : List Char → Nat × Nat × List Char
  | [] => (n, count, [])
  | c :: cs =>
    match Text.digitValue? c with
    | some d => spanNumber (n * 10 + d) (count + 1) cs
    | none => (n, count, c :: cs)

def smallLetters (cs : List Char) : List Char := cs.map Char.toLower

def ofBody? (negative : Bool) (cs : List Char) : Option Decimal :=
  let name := String.ofList (smallLetters cs)
  if name = "inf" ∨ name = "infinity" then some (.infinite negative)
  else if name = "nan" then some (.nan false)
  else if name = "snan" then some (.nan true)
  else
    let (whole, before, rest) := spanNumber 0 0 cs
    let (n, after, rest) := match rest with
      | '.' :: r => spanNumber whole 0 r
      | r => (whole, 0, r)
    if before + after = 0 then none
    else
      match rest with
      | [] => some (.finite negative n (-(after : Int)))
      | e :: r =>
        if e = 'e' ∨ e = 'E' then
          let (down, r) := match r with
            | '-' :: r => (true, r)
            | '+' :: r => (false, r)
            | r => (false, r)
          match spanNumber 0 0 r with
          | (x, count, []) =>
            if count = 0 then none
            else some (.finite negative n ((if down then -(x : Int) else x) - after))
          | _ => none
        else none

/-- Reads the text of a decimal. Low lines between digits and white space around it are ignored. -/
def ofText? (cs : List Char) : Option Decimal :=
  match (Text.trim cs).filter (· != '_') with
  | '-' :: r => ofBody? true r
  | '+' :: r => ofBody? false r
  | r => ofBody? false r

end Unbundle.Number.Decimal

namespace Unbundle

/-! ## Values -/

/-! ### Moments -/

structure Moment where
  year : Nat
  month : Nat
  day : Nat
  hour : Nat
  minute : Nat
  second : Nat
  micro : Nat
  deriving DecidableEq, Repr, Inhabited

namespace Moment

def padded (width n : Nat) : List Char :=
  let ds := Number.digits n
  Number.zeros (width - ds.length) ++ ds

/-- The text `YYYY-MM-DDThh:mm:ss`, with microseconds when there are any. -/
def toIso (t : Moment) : List Char :=
  padded 4 t.year ++ '-' :: padded 2 t.month ++ '-' :: padded 2 t.day ++ 'T' ::
    padded 2 t.hour ++ ':' :: padded 2 t.minute ++ ':' :: padded 2 t.second ++
    (if t.micro = 0 then [] else '.' :: padded 6 t.micro)

/-- Days from the first of March of year zero to a date. The year is taken to begin in March, so that
a leap day comes last. -/
def dayNumber (year month day : Nat) : Int :=
  let y : Int := if month ≤ 2 then (year : Int) - 1 else year
  let era := Int.fdiv y 400
  let yearOfEra := y - era * 400
  let m : Int := if month ≤ 2 then (month : Int) + 9 else (month : Int) - 3
  let dayOfYear := (153 * m + 2) / 5 + (day : Int) - 1
  let dayOfEra := yearOfEra * 365 + yearOfEra / 4 - yearOfEra / 100 + dayOfYear
  era * 146097 + dayOfEra

/-- Days from the first of March of year zero to the first of January 1970. -/
def epochDay : Int := 719468

def ofDayNumber (n : Int) : Nat × Nat × Nat :=
  let era := Int.fdiv n 146097
  let dayOfEra := n - era * 146097
  let yearOfEra := (dayOfEra - dayOfEra / 1460 + dayOfEra / 36524 - dayOfEra / 146096) / 365
  let dayOfYear := dayOfEra - (365 * yearOfEra + yearOfEra / 4 - yearOfEra / 100)
  let m := (5 * dayOfYear + 2) / 153
  let day := dayOfYear - (153 * m + 2) / 5 + 1
  let month := if m < 10 then m + 3 else m - 9
  let year := yearOfEra + era * 400 + (if month ≤ 2 then 1 else 0)
  (year.toNat, month.toNat, day.toNat)

def toEpoch (t : Moment) : Int :=
  (dayNumber t.year t.month t.day - epochDay) * 86400 + t.hour * 3600 + t.minute * 60 + t.second

def ofEpoch (s : Int) (micro : Nat) : Moment :=
  let day := Int.fdiv s 86400
  let rest := (s - day * 86400).toNat
  let (y, m, d) := ofDayNumber (day + epochDay)
  ⟨y, m, d, rest / 3600, rest / 60 % 60, rest % 60, micro⟩

def plusSeconds (t : Moment) (s : Int) : Moment := ofEpoch (t.toEpoch + s) t.micro

/-- Reads the text `YYYY-MM-DDThh:mm:ss` with an optional fraction of six digits. -/
def ofIso? (cs : List Char) : Option Moment :=
  let number (from_ size : Nat) : Option Nat :=
    let part := (cs.drop from_).take size
    if part.length = size ∧ part.all Char.isDigit then
      some (part.foldl (fun n c => n * 10 + (c.toNat - '0'.toNat)) 0)
    else none
  match number 0 4, number 5 2, number 8 2, number 11 2, number 14 2, number 17 2 with
  | some y, some mo, some d, some h, some mi, some s =>
    match cs.drop 19 with
    | [] => some ⟨y, mo, d, h, mi, s, 0⟩
    | _ => (number 20 6).map fun us => ⟨y, mo, d, h, mi, s, us⟩
  | _, _, _, _, _, _ => none

end Moment

/-! ### Values -/

open Number (Decimal)

/-- A value of a report, a log or a service call. -/
inductive Value where
  | null
  | bool (b : Bool)
  | int (n : Int)
  | float (x : Float)
  | text (s : String)
  | list (items : List Value)
  /-- Fields in the order in which they were first set. -/
  | map (fields : List (String × Value))
  | decimal (d : Decimal)
  | moment (t : Moment)
  | bytes (bs : List UInt8)
  /-- The body of a reply, which is read as bytes. -/
  | stream (content : String)
  /-- An object of a client library that has nothing but attributes. -/
  | object (attributes : List (String × Value))
  /-- A condition on stored items: its operator, what it is about, and its arguments. -/
  | condition (parts : List Value)
  /-- Anything else, known only by the name of its kind. -/
  | handle (kind : String)
  deriving Repr, Inhabited

namespace Value

def kind : Value → String
  | null => "NoneType"
  | bool _ => "bool"
  | int _ => "int"
  | float _ => "float"
  | text _ => "str"
  | list _ => "list"
  | map _ => "dict"
  | decimal _ => "Decimal"
  | moment _ => "datetime"
  | bytes _ => "bytes"
  | stream _ => "Body"
  | object _ => "SimpleNamespace"
  | condition _ => "Condition"
  | handle k => k

def fullKind : Value → String
  | decimal _ => "decimal.Decimal"
  | moment _ => "datetime.datetime"
  | object _ => "types.SimpleNamespace"
  | v => v.kind

/-- Whether a value counts as true: zero, the empty ones and null do not. -/
def truthy : Value → Bool
  | null => false
  | bool b => b
  | int n => n != 0
  | float x => x != 0.0
  | text s => s != ""
  | list xs => !xs.isEmpty
  | map fs => !fs.isEmpty
  | decimal (.finite _ n _) => n != 0
  | bytes bs => !bs.isEmpty
  | _ => true

def lookup (key : String) : List (String × Value) → Option Value
  | [] => none
  | (k, v) :: fs => if k = key then some v else lookup key fs

/-- The fields with one set: replaced in its place, or added at the end. -/
def put (key : String) (v : Value) : List (String × Value) → List (String × Value)
  | [] => [(key, v)]
  | (k, w) :: fs => if k = key then (k, v) :: fs else (k, w) :: put key v fs

def erase (key : String) (fs : List (String × Value)) : List (String × Value) :=
  fs.filter fun (k, _) => k != key

def ofChars (cs : List Char) : Value := .text (String.ofList cs)

def ofTexts (ss : List String) : Value := .list (ss.map .text)

def ofText? : Option String → Value
  | some s => .text s
  | none => .null

mutual

def shown : Value → List Char
  | null => "None".toList
  | bool b => if b then "True".toList else "False".toList
  | int n => Number.ofInt n
  | float x => Number.ofFloat x
  | text s => Text.quoted s.toList
  | list xs => '[' :: shownItems xs ++ [']']
  | map fs => '{' :: shownFields fs ++ ['}']
  | decimal d => "Decimal('".toList ++ d.toText ++ "')".toList
  | moment t =>
    let parts := [t.year, t.month, t.day, t.hour, t.minute] ++
      (if t.second = 0 ∧ t.micro = 0 then [] else [t.second]) ++
      (if t.micro = 0 then [] else [t.micro])
    "datetime.datetime(".toList ++ Text.join ", ".toList (parts.map Number.digits) ++ [')']
  | bytes bs => Text.quotedBytes bs
  | stream _ => "<Body>".toList
  | object fs => "namespace(".toList ++ shownAttributes fs ++ [')']
  | condition _ => "<Condition>".toList
  | handle k => ('<' :: k.toList) ++ ['>']

def shownItems : List Value → List Char
  | [] => []
  | [x] => shown x
  | x :: xs => shown x ++ ',' :: ' ' :: shownItems xs

def shownFields : List (String × Value) → List Char
  | [] => []
  | [(k, x)] => Text.quoted k.toList ++ ':' :: ' ' :: shown x
  | (k, x) :: fs => Text.quoted k.toList ++ ':' :: ' ' :: shown x ++ ',' :: ' ' :: shownFields fs

def shownAttributes : List (String × Value) → List Char
  | [] => []
  | [(k, x)] => k.toList ++ '=' :: shown x
  | (k, x) :: fs => k.toList ++ '=' :: shown x ++ ',' :: ' ' :: shownAttributes fs

end

/-- A value as it stands in a sentence: a text as itself, a decimal or a moment plainly, all else as
it is shown. -/
def display : Value → List Char
  | text s => s.toList
  | decimal d => d.toText
  | moment t => t.toIso.map fun c => if c = 'T' then ' ' else c
  | v => v.shown

def str (v : Value) : String := String.ofList v.display

end Value

end Unbundle
