import Unbundle.Value.Basic

/-!
# Reading JSON

The reader takes the language of RFC 8259 and, beside it, the three names `NaN`, `Infinity` and
`-Infinity`. A number without fraction and exponent is a whole number. Of two fields with one name the
later value stays, in the place of the first.

Each step works on what is left of the text together with its offset. A step takes at least one
character, so the length of the text bounds the recursion; how deep values may nest is apart.
-/

namespace Unbundle.Json

/-! ## What can be wrong with a JSON text -/

inductive Problem where
  | noValue
  | noPropertyName
  | noColon
  | noComma
  | openString
  | controlCharacter
  | badEscape
  | badUnicodeEscape
  | extraData
  | byteOrderMark
  deriving DecidableEq, Repr

def Problem.name : Problem → String
  | .noValue => "Expecting value"
  | .noPropertyName => "Expecting property name enclosed in double quotes"
  | .noColon => "Expecting ':' delimiter"
  | .noComma => "Expecting ',' delimiter"
  | .openString => "Unterminated string starting at"
  | .controlCharacter => "Invalid control character at"
  | .badEscape => "Invalid \\escape"
  | .badUnicodeEscape => "Invalid \\uXXXX escape"
  | .extraData => "Extra data"
  | .byteOrderMark => "Unexpected UTF-8 BOM (decode using utf-8-sig)"

/-- A problem with its place: line and column count from one, the offset from zero. -/
structure Error where
  problem : Problem
  line : Nat
  column : Nat
  offset : Nat
  deriving DecidableEq, Repr

def Error.at (problem : Problem) (cs : List Char) (offset : Nat) : Error :=
  let before := cs.take offset
  { problem
    line := before.count '\n' + 1
    column := (Text.afterLast '\n' before).length + 1
    offset }

def Error.message (e : Error) : String :=
  s!"{e.problem.name}: line {e.line} column {e.column} (char {e.offset})"

def maxDigits : Nat := 4300

def maxNesting : Nat := 990

inductive Failure where
  | malformed (e : Error)
  /-- A list, or else a map, is inside too many others. -/
  | tooDeep (list : Bool)
  /-- A whole number has too many digits. -/
  | tooLong (digits : Nat)
  deriving DecidableEq, Repr

/-! ## Reading JSON -/

structure Rest where
  chars : List Char
  offset : Nat
  deriving Repr

inductive Stop where
  | problem (p : Problem) (offset : Nat)
  /-- A list, or else a map, is inside too many others. -/
  | tooDeep (list : Bool)
  /-- A whole number has too many digits. -/
  | tooLong (digits : Nat)
  deriving DecidableEq, Repr

abbrev Step (α : Type) := Except Stop (α × Rest)

def isSpace (c : Char) : Bool := c == ' ' || c == '\t' || c == '\n' || c == '\r'

def skipSpace (cs : List Char) (offset : Nat) : Rest :=
  match cs with
  | [] => ⟨[], offset⟩
  | c :: rest => if isSpace c then skipSpace rest (offset + 1) else ⟨c :: rest, offset⟩

def hex4? (a b c d : Char) : Option Nat := do
  let a ← Text.hexValue? a
  let b ← Text.hexValue? b
  let c ← Text.hexValue? c
  let d ← Text.hexValue? d
  return ((a * 16 + b) * 16 + c) * 16 + d

def escape? : Char → Option Char
  | '"' => some '"'
  | '\\' => some '\\'
  | '/' => some '/'
  | 'b' => some '\x08'
  | 'f' => some '\x0c'
  | 'n' => some '\n'
  | 'r' => some '\r'
  | 't' => some '\t'
  | _ => none

/-- The second half of a surrogate pair that follows in the text, if there is one; the text must go
on after it. -/
def lowSurrogate? : List Char → Except Problem (Option Nat)
  | '\\' :: 'u' :: a :: b :: c :: d :: _ :: _ =>
    match hex4? a b c d with
    | none => .error .badUnicodeEscape
    | some n => .ok (if 0xdc00 ≤ n ∧ n ≤ 0xdfff then some n else none)
  | _ => .ok none

/-- Reads the characters of a string up to its closing quote. `start` is the offset of the opening
one. -/
def readChars (start : Nat) : List Char → Nat → List Char → Step (List Char)
  | [], _, _ => .error (.problem .openString start)
  | '"' :: rest, offset, acc => .ok (acc.reverse, ⟨rest, offset + 1⟩)
  | '\\' :: 'u' :: a :: b :: c :: d :: e :: rest, offset, acc =>
    match hex4? a b c d with
    | none => .error (.problem .badUnicodeEscape (offset + 1))
    | some n =>
      if 0xd800 ≤ n ∧ n ≤ 0xdbff then
        match lowSurrogate? (e :: rest) with
        | .error p => .error (.problem p (offset + 7))
        | .ok none => readChars start (e :: rest) (offset + 6) ('\ufffd' :: acc)
        | .ok (some low) =>
          readChars start (rest.drop 5) (offset + 12)
            (Char.ofNat (0x10000 + (n - 0xd800) * 0x400 + (low - 0xdc00)) :: acc)
      else
        let c := if 0xdc00 ≤ n ∧ n ≤ 0xdfff then '\ufffd' else Char.ofNat n
        readChars start (e :: rest) (offset + 6) (c :: acc)
  | '\\' :: 'u' :: _, offset, _ => .error (.problem .badUnicodeEscape (offset + 1))
  | ['\\'], _, _ => .error (.problem .openString start)
  | '\\' :: c :: rest, offset, acc =>
    match escape? c with
    | none => .error (.problem .badEscape offset)
    | some x => readChars start rest (offset + 2) (x :: acc)
  | c :: rest, offset, acc =>
    if c.toNat < 0x20 then .error (.problem .controlCharacter offset)
    else readChars start rest (offset + 1) (c :: acc)
termination_by cs => cs.length

def spanDigits (cs : List Char) : List Char × List Char := cs.span Char.isDigit

def natOfDigits (ds : List Char) : Nat :=
  ds.foldl (fun n c => n * 10 + (c.toNat - '0'.toNat)) 0

/-- The whole part of a number: a zero, or digits that do not begin with one. -/
def wholePart? : List Char → Option (List Char × List Char)
  | '0' :: rest => some (['0'], rest)
  | c :: rest => if c.isDigit then some (spanDigits (c :: rest)) else none
  | [] => none

/-- The exponent of a number, if a complete one follows, with the length of its text. -/
def exponentPart? : List Char → Option (Int × Nat × List Char)
  | e :: rest =>
    if e = 'e' ∨ e = 'E' then
      let (negative, sign, rest) := match rest with
        | '-' :: r => (true, 1, r)
        | '+' :: r => (false, 1, r)
        | r => (false, 0, r)
      match spanDigits rest with
      | ([], _) => none
      | (ds, r) =>
        let n : Int := natOfDigits ds
        some (if negative then -n else n, 1 + sign + ds.length, r)
    else none
  | [] => none

def fractionPart (cs : List Char) : List Char × List Char :=
  match cs with
  | '.' :: r =>
    match spanDigits r with
    | ([], _) => ([], cs)
    | (ds, r') => (ds, r')
  | r => ([], r)

/-- The parts of a number: its sign, the digits before and after the point, its exponent if it has one,
and the length of its text. -/
structure Numeral where
  negative : Bool
  whole : List Char
  fraction : List Char
  exponent : Option Int
  length : Nat

def numeral? (cs : List Char) : Option (Numeral × List Char) :=
  let (negative, body) := match cs with
    | '-' :: r => (true, r)
    | r => (false, r)
  match wholePart? body with
  | none => none
  | some (whole, rest) =>
    let (fraction, rest) := fractionPart rest
    let points := if fraction.isEmpty then 0 else 1
    let length := (if negative then 1 else 0) + whole.length + points + fraction.length
    match exponentPart? rest with
    | some (e, n, r) => some (⟨negative, whole, fraction, some e, length + n⟩, r)
    | none => some (⟨negative, whole, fraction, none, length⟩, rest)

def Numeral.isWhole (n : Numeral) : Bool := n.fraction.isEmpty && n.exponent.isNone

def Numeral.value (n : Numeral) : Value :=
  if n.isWhole then
    let m : Int := natOfDigits n.whole
    .int (if n.negative then -m else m)
  else
    .float (Number.toFloat n.negative (natOfDigits (n.whole ++ n.fraction))
      (n.exponent.getD 0 - n.fraction.length))

def names : List (String × Value) :=
  [("null", .null), ("true", .bool true), ("false", .bool false), ("NaN", .float (0.0 / 0.0)),
    ("Infinity", .float (1.0 / 0.0)), ("-Infinity", .float (-1.0 / 0.0))]

def readName? (cs : List Char) (offset : Nat) : Option (Value × Rest) :=
  names.findSome? fun (name, v) =>
    (Text.dropLead? name.toList cs).map fun rest => (v, ⟨rest, offset + name.length⟩)

def readPlain (cs : List Char) (offset : Nat) : Step Value :=
  match readName? cs offset with
  | some found => .ok found
  | none =>
    match numeral? cs with
    | none => .error (.problem .noValue offset)
    | some (n, rest) =>
      if n.isWhole ∧ n.whole.length > maxDigits then .error (.tooLong n.whole.length)
      else .ok (n.value, ⟨rest, offset + n.length⟩)

mutual

def readValue : Nat → (levels : Nat) → List Char → Nat → Step Value
  | 0, _, _, offset => .error (.problem .noValue offset)
  | fuel + 1, levels, cs, offset =>
    match cs, levels with
    | '"' :: rest, _ =>
      match readChars offset rest (offset + 1) [] with
      | .ok (chars, after) => .ok (.text (String.ofList chars), after)
      | .error e => .error e
    | '{' :: _, 0 => .error (.tooDeep false)
    | '{' :: rest, levels + 1 =>
      let after := skipSpace rest (offset + 1)
      match after.chars with
      | '}' :: r => .ok (.map [], ⟨r, after.offset + 1⟩)
      | _ => readFields fuel levels after.chars after.offset []
    | '[' :: _, 0 => .error (.tooDeep true)
    | '[' :: rest, levels + 1 =>
      let after := skipSpace rest (offset + 1)
      match after.chars with
      | ']' :: r => .ok (.list [], ⟨r, after.offset + 1⟩)
      | _ => readItems fuel levels after.chars after.offset []
    | _, _ => readPlain cs offset

def readItems : Nat → (levels : Nat) → List Char → Nat → List Value → Step Value
  | 0, _, _, offset, _ => .error (.problem .noValue offset)
  | fuel + 1, levels, cs, offset, acc =>
    match readValue fuel levels cs offset with
    | .error e => .error e
    | .ok (v, after) =>
      let after := skipSpace after.chars after.offset
      match after.chars with
      | ']' :: r => .ok (.list (v :: acc).reverse, ⟨r, after.offset + 1⟩)
      | ',' :: r =>
        let next := skipSpace r (after.offset + 1)
        readItems fuel levels next.chars next.offset (v :: acc)
      | _ => .error (.problem .noComma after.offset)

def readFields : Nat → (levels : Nat) → List Char → Nat → List (String × Value) → Step Value
  | 0, _, _, offset, _ => .error (.problem .noPropertyName offset)
  | fuel + 1, levels, cs, offset, acc =>
    match cs with
    | '"' :: rest =>
      match readChars offset rest (offset + 1) [] with
      | .error e => .error e
      | .ok (name, after) =>
        let after := skipSpace after.chars after.offset
        match after.chars with
        | ':' :: r =>
          let start := skipSpace r (after.offset + 1)
          match readValue fuel levels start.chars start.offset with
          | .error e => .error e
          | .ok (v, after) =>
            let acc := Value.put (String.ofList name) v acc
            let after := skipSpace after.chars after.offset
            match after.chars with
            | '}' :: r => .ok (.map acc, ⟨r, after.offset + 1⟩)
            | ',' :: r =>
              let next := skipSpace r (after.offset + 1)
              readFields fuel levels next.chars next.offset acc
            | _ => .error (.problem .noComma after.offset)
        | _ => .error (.problem .noColon after.offset)
    | _ => .error (.problem .noPropertyName offset)

end

def Stop.failure (cs : List Char) : Stop → Failure
  | .problem p offset => .malformed (Error.at p cs offset)
  | .tooDeep list => .tooDeep list
  | .tooLong digits => .tooLong digits

def read (cs : List Char) : Except Failure Value :=
  match cs with
  | '\ufeff' :: _ => .error (.malformed (Error.at .byteOrderMark cs 0))
  | _ =>
    let start := skipSpace cs 0
    match readValue (cs.length + 1) maxNesting start.chars start.offset with
    | .error stop => .error (stop.failure cs)
    | .ok (v, after) =>
      let after := skipSpace after.chars after.offset
      match after.chars with
      | [] => .ok v
      | _ => .error (.malformed (Error.at .extraData cs after.offset))

end Unbundle.Json
