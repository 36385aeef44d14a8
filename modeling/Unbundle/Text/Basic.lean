/-!
# Texts as lists of characters

The operations on texts that the analyses share. They work on lists of characters, so that each
can be reasoned about by induction; `String` appears only where a text is stored.
-/

namespace Unbundle.Text

/-- The parts of a text between the occurrences of `sep`. There is always at least one part. -/
def splitOn (sep : Char) : List Char → List (List Char)
  | [] => [[]]
  | c :: cs =>
    if c = sep then [] :: splitOn sep cs
    else
      match splitOn sep cs with
      | [] => [[c]]
      | part :: parts => (c :: part) :: parts

def join (sep : List Char) : List (List Char) → List Char
  | [] => []
  | [t] => t
  | t :: ts => t ++ sep ++ join sep ts

def occursIn (sub : List Char) : List Char → Bool
  | [] => sub.isEmpty
  | c :: cs => sub.isPrefixOf (c :: cs) || occursIn sub cs

def dropLead? : List Char → List Char → Option (List Char)
  | [], cs => some cs
  | _ :: _, [] => none
  | p :: ps, c :: cs => if p = c then dropLead? ps cs else none

def dropEndWhile (p : Char → Bool) : List Char → List Char
  | [] => []
  | c :: cs =>
    match dropEndWhile p cs with
    | [] => if p c then [] else [c]
    | rest => c :: rest

def trimBy (p : Char → Bool) (cs : List Char) : List Char :=
  dropEndWhile p (cs.dropWhile p)

def cutAt? (sub : List Char) : List Char → Option (List Char × List Char)
  | [] => if sub.isEmpty then some ([], []) else none
  | c :: cs =>
    match dropLead? sub (c :: cs) with
    | some rest => some ([], rest)
    | none => (cutAt? sub cs).map fun (before, after) => (c :: before, after)

def afterLast (sep : Char) (cs : List Char) : List Char :=
  (splitOn sep cs).getLastD []

def replaceChar (old new : Char) (cs : List Char) : List Char :=
  cs.map fun c => if c = old then new else c

/-- The text with every occurrence of `old` replaced by `new`, from the left. `skip` characters belong
to an occurrence that was replaced already. -/
def replaceFrom (old new : List Char) : (skip : Nat) → List Char → List Char
  | _, [] => []
  | skip + 1, _ :: cs => replaceFrom old new skip cs
  | 0, c :: cs =>
    if old.isPrefixOf (c :: cs) then new ++ replaceFrom old new (old.length - 1) cs
    else c :: replaceFrom old new 0 cs

def replaceAll (old new cs : List Char) : List Char := replaceFrom old new 0 cs

def copies (n : Nat) (cs : List Char) : List Char :=
  (List.replicate n cs).flatten

/-! ### White space

White space is a character of bidirectional class B, S or WS or of general category Zs. That takes
in the four information separators U+001C to U+001F and the next-line control U+0085. -/

def isBlank (c : Char) : Bool :=
  let n := c.toNat
  (0x09 ≤ n && n ≤ 0x0d) || (0x1c ≤ n && n ≤ 0x20) || n == 0x85 || n == 0xa0 || n == 0x1680 ||
  (0x2000 ≤ n && n ≤ 0x200a) || n == 0x2028 || n == 0x2029 || n == 0x202f || n == 0x205f ||
  n == 0x3000

def trim (cs : List Char) : List Char := trimBy isBlank cs

def trimEnd (cs : List Char) : List Char := dropEndWhile isBlank cs

def words (cs : List Char) : List (List Char) :=
  (cs.splitBy fun a b => isBlank a == isBlank b).filter fun run => run.any (!isBlank ·)

def trimmed (s : String) : String := String.ofList (trim s.toList)

/-! ### Line breaks -/

/-- Every line break written as a line feed, where a break is a carriage return, a line feed, or the
first followed by the second. -/
def unifyBreaks : List Char → List Char
  | [] => []
  | '\r' :: '\n' :: cs => '\n' :: unifyBreaks cs
  | c :: cs => (if c = '\r' then '\n' else c) :: unifyBreaks cs

def isLineBreak (c : Char) : Bool :=
  let n := c.toNat
  (0x0a ≤ n && n ≤ 0x0d) || (0x1c ≤ n && n ≤ 0x1e) || n == 0x85 || n == 0x2028 || n == 0x2029

/-- The lines of a text without their breaks. A carriage return and the line feed after it are one
break. A break at the very end starts no further line, and the empty text has no lines. -/
def lines : List Char → List (List Char)
  | [] => []
  | '\r' :: '\n' :: cs => [] :: lines cs
  | c :: cs =>
    if isLineBreak c then [] :: lines cs
    else
      match lines cs with
      | [] => [[c]]
      | l :: ls => (c :: l) :: ls

/-- The lines a text file gives one by one: each with its line feed kept, the last perhaps without. -/
def fileLines : List Char → List (List Char)
  | [] => []
  | c :: cs =>
    if c = '\n' then ['\n'] :: fileLines cs
    else
      match fileLines cs with
      | [] => [[c]]
      | l :: ls => (c :: l) :: ls

/-! ### Base64 -/

inductive Base64Error where
  /-- So many characters hold data, one more than a multiple of four. -/
  | loneCharacter (count : Nat)
  /-- The last bytes are not padded. -/
  | padding
  deriving DecidableEq, Repr

def Base64Error.message : Base64Error → String
  | .loneCharacter count =>
    s!"Invalid base64-encoded string: number of data characters ({count}) " ++
      "cannot be 1 more than a multiple of 4"
  | .padding => "Incorrect padding"

def sixBits? (c : Char) : Option Nat :=
  if c.isUpper then some (c.toNat - 'A'.toNat)
  else if c.isLower then some (c.toNat - 'a'.toNat + 26)
  else if c.isDigit then some (c.toNat - '0'.toNat + 52)
  else if c = '+' then some 62
  else if c = '/' then some 63
  else none

/-- Where a reader is within a group of four characters: how many it has seen, the bits that are not
yet part of a byte, and how many pads it has seen. -/
structure Group where
  seen : Nat
  rest : Nat
  pads : Nat

def Group.feed (g : Group) (bits : Nat) : Option UInt8 × Group :=
  match g.seen with
  | 0 => (none, ⟨1, bits, 0⟩)
  | 1 => (some (UInt8.ofNat (g.rest * 4 + bits / 16)), ⟨2, bits % 16, 0⟩)
  | 2 => (some (UInt8.ofNat (g.rest * 16 + bits / 4)), ⟨3, bits % 4, 0⟩)
  | _ => (some (UInt8.ofNat (g.rest * 64 + bits)), ⟨0, 0, 0⟩)

/-- The bytes of a text in base64, after those already read. -/
def base64From (bytes : List UInt8) (g : Group) : List Char → Except Base64Error (List UInt8)
  | [] =>
    if g.seen = 0 then .ok bytes
    else if g.seen = 1 then .error (.loneCharacter (bytes.length / 3 * 4 + 1))
    else .error .padding
  | c :: cs =>
    if c = '=' then
      if g.seen < 2 then base64From bytes g cs
      else if g.seen + g.pads + 1 ≥ 4 then .ok bytes
      else base64From bytes { g with pads := g.pads + 1 } cs
    else
      match sixBits? c with
      | none => base64From bytes g cs
      | some bits =>
        let (byte, g) := g.feed bits
        base64From (bytes ++ byte.toList) g cs

def ofBase64 (cs : List Char) : Except Base64Error (List UInt8) := base64From [] ⟨0, 0, 0⟩ cs

/-! ## Reading and writing UTF-8 -/

inductive Utf8Flaw where
  | badStart
  | badContinuation
  /-- The bytes end inside a sequence. -/
  | cutShort
  deriving DecidableEq, Repr

/-- The place of an ill-formed part: the bytes from `start` on, `length` of them. -/
structure Utf8Error where
  flaw : Utf8Flaw
  first : UInt8
  start : Nat
  length : Nat
  deriving DecidableEq, Repr

def Utf8Flaw.reason : Utf8Flaw → String
  | .badStart => "invalid start byte"
  | .badContinuation => "invalid continuation byte"
  | .cutShort => "unexpected end of data"

def hexByte (b : UInt8) : String :=
  String.ofList [Nat.digitChar (b.toNat / 16), Nat.digitChar (b.toNat % 16)]

def Utf8Error.message (e : Utf8Error) : String :=
  if e.length = 1 then
    s!"'utf-8' codec can't decode byte 0x{hexByte e.first} in position {e.start}: {e.flaw.reason}"
  else
    s!"'utf-8' codec can't decode bytes in position {e.start}-{e.start + e.length - 1}: " ++
      e.flaw.reason

/-- How many further bytes a first byte asks for, and the range of the first of them. -/
def continuation? (b : Nat) : Option (Nat × Nat × Nat) :=
  if b < 0x80 then some (0, 0x80, 0xbf)
  else if b < 0xc2 then none
  else if b < 0xe0 then some (1, 0x80, 0xbf)
  else if b = 0xe0 then some (2, 0xa0, 0xbf)
  else if b = 0xed then some (2, 0x80, 0x9f)
  else if b < 0xf0 then some (2, 0x80, 0xbf)
  else if b = 0xf0 then some (3, 0x90, 0xbf)
  else if b < 0xf4 then some (3, 0x80, 0xbf)
  else if b = 0xf4 then some (3, 0x80, 0x8f)
  else none

def leadBits (b more : Nat) : Nat :=
  match more with
  | 0 => b
  | 1 => b - 0xc0
  | 2 => b - 0xe0
  | _ => b - 0xf0

/-- Takes `more` continuation bytes, the first within `lo` and `hi`. Gives the code point, or the
flaw and the number of bytes taken. -/
def takeTail : (more lo hi acc taken : Nat) → List UInt8 → Except (Utf8Flaw × Nat) Nat
  | 0, _, _, acc, _, _ => .ok acc
  | _ + 1, _, _, _, taken, [] => .error (.cutShort, taken)
  | more + 1, lo, hi, acc, taken, b :: bs =>
    if lo ≤ b.toNat ∧ b.toNat ≤ hi then
      takeTail more 0x80 0xbf (acc * 64 + (b.toNat - 0x80)) (taken + 1) bs
    else .error (.badContinuation, taken)

/-- The first character of a byte sequence with its length in bytes, or the flaw and length of the
ill-formed part there. -/
def firstChar (b : UInt8) (bs : List UInt8) : Except (Utf8Flaw × Nat) (Char × Nat) :=
  match continuation? b.toNat with
  | none => .error (.badStart, 1)
  | some (more, lo, hi) =>
    match takeTail more lo hi (leadBits b.toNat more) 1 bs with
    | .ok n => .ok (Char.ofNat n, more + 1)
    | .error e => .error e

def decodeSkipping : List UInt8 → List Char
  | [] => []
  | b :: bs =>
    match firstChar b bs with
    | .ok (c, n) => c :: decodeSkipping (bs.drop (n - 1))
    | .error (_, n) => decodeSkipping (bs.drop (n - 1))
termination_by bs => bs.length

/-- The characters of a byte sequence that starts at position `pos`, or its first flaw. -/
def decodeFrom (pos : Nat) : List UInt8 → Except Utf8Error (List Char)
  | [] => .ok []
  | b :: bs =>
    match firstChar b bs with
    | .ok (c, n) => (decodeFrom (pos + n) (bs.drop (n - 1))).map (c :: ·)
    | .error (flaw, n) => .error ⟨flaw, b, pos, n⟩
termination_by bs => bs.length

def decode (bs : List UInt8) : Except Utf8Error (List Char) := decodeFrom 0 bs

def blockSize : Nat := 8192

def isContinuation (b : UInt8) : Bool := b.toNat / 64 == 2

/-- Where the block begins that holds the byte at `pos`: at a multiple of the block size, or before it
if a character straddles that place. -/
def blockStart (bs : List UInt8) (pos : Nat) : Nat :=
  let start := pos / blockSize * blockSize
  let straddles := (bs[start]?).any isContinuation
  if straddles then start - (((bs.take start).reverse.takeWhile isContinuation).length + 1) else start

/-- A flaw as it is met when the bytes are read in blocks: positions count from the start of the
block, and of what is cut short from its own start. -/
def Utf8Error.inBlock (bs : List UInt8) (e : Utf8Error) : Utf8Error :=
  match e.flaw with
  | .cutShort => { e with start := 0 }
  | .badStart => { e with start := e.start - blockStart bs e.start }
  | .badContinuation =>
    let reveals := e.start + e.length
    if e.start < reveals / blockSize * blockSize then { e with start := 0 }
    else { e with start := e.start - blockStart bs e.start }

def decodeBlocks (bs : List UInt8) : Except Utf8Error (List Char) :=
  match decode bs with
  | .ok cs => .ok cs
  | .error e => .error (e.inBlock bs)

def encodeChar (c : Char) : List UInt8 :=
  let n := c.toNat
  if n < 0x80 then [n.toUInt8]
  else if n < 0x800 then [(0xc0 + n / 64).toUInt8, (0x80 + n % 64).toUInt8]
  else if n < 0x10000 then
    [(0xe0 + n / 4096).toUInt8, (0x80 + n / 64 % 64).toUInt8, (0x80 + n % 64).toUInt8]
  else
    [(0xf0 + n / 262144).toUInt8, (0x80 + n / 4096 % 64).toUInt8,
      (0x80 + n / 64 % 64).toUInt8, (0x80 + n % 64).toUInt8]

def encode (cs : List Char) : List UInt8 := cs.flatMap encodeChar

def byteLength (cs : List Char) : Nat := (encode cs).length

end Unbundle.Text
