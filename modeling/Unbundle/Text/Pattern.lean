import Unbundle.Text.Packed

/-!
# Patterns of text

A pattern describes a piece of text by classes of characters, sequences, choices and repetitions. A
repetition takes as many characters as it can and gives them back one by one as long as the rest of
the pattern does not fit; of two choices the first that leads to a match is taken. `Pattern.run` is
the matcher; it recurses on the pattern, so it always ends.
-/

namespace Unbundle.Text

/-- A place in a text: the character before it, what follows, and how many characters came before. -/
structure Place where
  last : Option Char
  rest : List Char
  offset : Nat

def Place.start (cs : List Char) : Place := ⟨none, cs, 0⟩

inductive Pattern where
  | one (p : Char → Bool)
  /-- Characters of a class, at least so many. -/
  | many (p : Char → Bool) (least : Nat)
  | seq (a b : Pattern)
  | either (a b : Pattern)
  | maybe (a : Pattern)
  /-- A part whose text is kept. -/
  | group (a : Pattern)
  /-- A place between a word character and another or none. -/
  | edge
  | atStart
  | atEnd
  | unlessAfter (p : Char → Bool)
  /-- A place after which no character of the class stands. -/
  | unlessBefore (p : Char → Bool)

/-- A piece of a text: what starts with it, and how long it is. -/
structure Piece where
  rest : List Char
  length : Nat

def Piece.chars (p : Piece) : List Char := p.rest.take p.length

/-- A piece of a text that fits a pattern: where it starts, how long it is, and its groups. -/
structure Match where
  start : Nat
  length : Nat
  groups : List (List Char)

namespace Pattern

def reach (p : Char → Bool) (last : Option Char) (offset : Nat) (acc : List Place) :
    List Char → List Place
  | [] => ⟨last, [], offset⟩ :: acc
  | c :: cs =>
    let acc := ⟨last, c :: cs, offset⟩ :: acc
    if p c then reach p (some c) (offset + 1) acc cs else acc

/-- Matches a pattern at a place and goes on with `k` from each place where it can end, until `k`
succeeds. Groups are listed in the order in which they end. -/
def run {α : Type} : Pattern → Place → List Piece → (Place → List Piece → Option α) → Option α
  | one p, s, gs, k =>
    match s.rest with
    | [] => none
    | c :: cs => if p c then k ⟨some c, cs, s.offset + 1⟩ gs else none
  | many p least, s, gs, k =>
    (reach p s.last s.offset [] s.rest).findSome? fun t =>
      if t.offset < s.offset + least then none else k t gs
  | seq a b, s, gs, k => a.run s gs fun t hs => b.run t hs k
  | either a b, s, gs, k => a.run s gs k <|> b.run s gs k
  | maybe a, s, gs, k => a.run s gs k <|> k s gs
  | group a, s, gs, k => a.run s gs fun t hs => k t (hs ++ [⟨s.rest, t.offset - s.offset⟩])
  | edge, s, gs, k => if isWordEdge s.last s.rest.head? then k s gs else none
  | atStart, s, gs, k => if s.offset = 0 then k s gs else none
  | atEnd, s, gs, k => if s.rest.isEmpty then k s gs else none
  | unlessAfter p, s, gs, k => if s.last.any p then none else k s gs
  | unlessBefore p, s, gs, k => if s.rest.head?.any p then none else k s gs

def matchAt (pat : Pattern) (s : Place) : Option Match :=
  pat.run s [] fun t gs => some ⟨s.offset, t.offset - s.offset, gs.map Piece.chars⟩

/-- The matches of a pattern from a place on that do not overlap, each as early as can be. The first
`skip` characters belong to a match before. -/
def findFrom (pat : Pattern) (skip : Nat) (last : Option Char) (offset : Nat) :
    List Char → List Match
  | [] => if skip = 0 then (pat.matchAt ⟨last, [], offset⟩).toList else []
  | c :: cs =>
    match skip with
    | n + 1 => findFrom pat n (some c) (offset + 1) cs
    | 0 =>
      match pat.matchAt ⟨last, c :: cs, offset⟩ with
      | none => findFrom pat 0 (some c) (offset + 1) cs
      | some m => m :: findFrom pat (m.length - 1) (some c) (offset + 1) cs

def findAll (pat : Pattern) (cs : List Char) : List Match := pat.findFrom 0 none 0 cs

def find? (pat : Pattern) (cs : List Char) : Option Match := (pat.findAll cs).head?

def occurs (pat : Pattern) (cs : List Char) : Bool := (pat.find? cs).isSome

/-! ### Common patterns -/

def sequence : List Pattern → Pattern
  | [] => maybe (one fun _ => false)
  | [a] => a
  | a :: as => seq a (sequence as)

def choice : List Pattern → Pattern
  | [] => one fun _ => false
  | [a] => a
  | a :: as => either a (choice as)

def char (c : Char) : Pattern := one (· == c)

def word (s : String) : Pattern := sequence (s.toList.map char)

/-- Whether a character stands for a small letter when case does not count. The long s counts as an s
and both dotted and dotless i of Turkish as an i. -/
def isLetter (small c : Char) : Bool :=
  c == small || lowerChar c == [small] || (small == 's' && c.toNat == 0x17f) ||
    (small == 'i' && (c.toNat == 0x130 || c.toNat == 0x131))

def wordAnyCase (s : String) : Pattern := sequence (s.toList.map fun c => one (isLetter c))

def blanks : Pattern := many isBlank 0

def gap : Pattern := many isBlank 1

def isQuote (c : Char) : Bool := c == '\'' || c == '"'

def quote : Pattern := one isQuote

def unquoted : Pattern := group (many (fun c => !isQuote c) 1)

def quoted : Pattern := sequence [quote, unquoted, quote]

end Pattern

end Unbundle.Text
