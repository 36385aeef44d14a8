import Unbundle.Grammar.Tree

/-!
# Reading token sequences

A parser takes tokens from the front of a sequence. It also remembers the last line of text it has
passed, which is where a construct ends, and how many rules of the language are open. A source in which
too many are open at a time is refused.
-/

namespace Unbundle.Grammar

/-! ## From text to tokens -/

/-! ### Numerals -/

/-- What a numeral is: whether imaginary, and how many digits it has if it is a decimal whole number. -/
structure Numeral where
  imaginary : Bool
  wholeDigits : Nat
  deriving DecidableEq, Repr

def maxWholeDigits : Nat := 4300

/-- What follows digits of a class and single low lines between them; the text must start with a
digit. -/
def digitsTail? (isDigit : Char → Bool) : List Char → Option (List Char)
  | [] => none
  | c :: cs =>
    if isDigit c then
      match cs with
      | '_' :: rest => digitsTail? isDigit rest
      | d :: rest => if isDigit d then digitsTail? isDigit (d :: rest) else some (d :: rest)
      | [] => some []
    else none

def continuesAs (word : String) (cs : List Char) : Bool :=
  match Text.dropLead? word.toList cs with
  | none => false
  | some [] => true
  | some (c :: _) => !isWordPart c

def endsNumeral (cs : List Char) : Bool :=
  match cs with
  | [] => true
  | 'i' :: c :: _ => c == 'f' || c == 'n' || c == 's'
  | c :: _ =>
    ["and", "else", "for", "or", "not"].any (continuesAs · cs) || !isWordPart c

/-- An exponent, the letter `e` included, and what follows; none if the letter is not followed by
digits. -/
inductive ExponentScan where
  | absent
  | wrong
  | taken (rest : List Char)

def scanExponent (cs : List Char) : ExponentScan :=
  match cs with
  | e :: rest =>
    if e = 'e' ∨ e = 'E' then
      match rest with
      | [] => .absent
      | sign :: ds =>
        if sign = '+' ∨ sign = '-' then
          (digitsTail? Char.isDigit ds).elim .wrong .taken
        else if sign.isDigit then (digitsTail? Char.isDigit rest).elim .wrong .taken
        else .absent
    else .absent
  | [] => .absent

def numeralEnd? (wholeDigits : Nat) (cs : List Char) : Option (Numeral × List Char) :=
  match scanExponent cs with
  | .wrong => none
  | .taken rest => mark? 0 rest
  | .absent => mark? wholeDigits cs
where
  mark? (wholeDigits : Nat) (cs : List Char) : Option (Numeral × List Char) :=
    match cs with
    | c :: rest =>
      if c = 'j' ∨ c = 'J' then
        if endsNumeral rest then some (⟨true, 0⟩, rest) else none
      else if endsNumeral cs then some (⟨false, wholeDigits⟩, cs) else none
    | [] => some (⟨false, wholeDigits⟩, [])

def fraction? (cs : List Char) : Option (List Char) :=
  match cs with
  | c :: _ => if c.isDigit then digitsTail? Char.isDigit cs else some cs
  | [] => some []

def leadingDigits (cs : List Char) : List Char :=
  (cs.takeWhile fun c => c.isDigit || c == '_').filter Char.isDigit

def basedNumeral? (isDigit : Char → Bool) (cs : List Char) : Option (Numeral × List Char) :=
  let cs := match cs with
    | '_' :: rest => rest
    | rest => rest
  match digitsTail? isDigit cs with
  | none => none
  | some rest =>
    if rest.head?.any Char.isDigit then none
    else if endsNumeral rest then some (⟨false, 0⟩, rest)
    else none

/-- A decimal numeral. A whole number other than zero has no zero in front. -/
def decimalNumeral? (cs : List Char) : Option (Numeral × List Char) :=
  match digitsTail? Char.isDigit cs with
  | none => none
  | some rest =>
    match rest with
    | '.' :: after =>
      match fraction? after with
      | none => none
      | some rest => numeralEnd? 0 rest
    | _ =>
      let digits := leadingDigits cs
      match numeralEnd? digits.length rest with
      | none => none
      | some (n, after) =>
        let padded := digits.head? == some '0' && digits.any (· != '0')
        if padded && n.wholeDigits != 0 then none
        else if n.wholeDigits > maxWholeDigits then none
        else some (n, after)

def numeral? (cs : List Char) : Option (Numeral × List Char) :=
  match cs with
  | '.' :: after =>
    match fraction? after with
    | none => none
    | some rest => numeralEnd? 0 rest
  | '0' :: b :: rest =>
    if b = 'x' ∨ b = 'X' then basedNumeral? (fun c => (Text.hexValue? c).isSome) rest
    else if b = 'o' ∨ b = 'O' then basedNumeral? (fun c => '0' ≤ c && c ≤ '7') rest
    else if b = 'b' ∨ b = 'B' then basedNumeral? (fun c => c == '0' || c == '1') rest
    else decimalNumeral? cs
  | _ => decimalNumeral? cs

/-! ### From text to tokens -/

def maxBrackets : Nat := 200

def maxBlocks : Nat := 99

/-- The width of an indentation, with tabs to multiples of eight and with tabs of width one. -/
structure Column where
  wide : Nat
  narrow : Nat
  deriving DecidableEq, Repr

structure Lexer where
  rest : List Char
  line : Nat
  /-- Whether a logical line may start here. -/
  fresh : Bool
  /-- The brackets that are open, the innermost first. -/
  brackets : List Char
  /-- The indentations of the blocks that are open, the innermost first. -/
  blocks : List Column
  /-- The tokens so far, in reverse. -/
  done : List Token

structure Indentation where
  column : Column
  /-- The column at the first backslash that joins lines, if there was one beyond column zero. -/
  joined : Nat
  rest : List Char
  line : Nat

def indentation? : List Char → Nat → Column → Nat → Option Indentation
  | ' ' :: cs, line, col, joined => indentation? cs line ⟨col.wide + 1, col.narrow + 1⟩ joined
  | '\t' :: cs, line, col, joined =>
    indentation? cs line ⟨(col.wide / 8 + 1) * 8, col.narrow + 1⟩ joined
  | '\x0c' :: cs, line, _, joined => indentation? cs line ⟨0, 0⟩ joined
  | '\\' :: '\n' :: c :: cs, line, col, joined =>
    indentation? (c :: cs) (line + 1) col (if joined = 0 then col.wide else joined)
  | '\\' :: _, _, _, _ => none
  | cs, line, col, joined => some ⟨col, joined, cs, line⟩

def closeBlocks? (col : Column) (line : Nat) :
    List Column → List Token → Option (List Column × List Token)
  | [], done => if col.wide = 0 ∧ col.narrow = 0 then some ([], done) else none
  | b :: bs, done =>
    if b.wide = col.wide then
      if b.narrow = col.narrow then some (b :: bs, done) else none
    else if col.wide < b.wide then closeBlocks? col line bs (⟨.dedent, line, line⟩ :: done)
    else none

def enterColumn? (s : Lexer) (col : Column) : Option Lexer :=
  let here := s.blocks.headD ⟨0, 0⟩
  if here.wide < col.wide then
    if s.blocks.length ≥ maxBlocks ∨ col.narrow ≤ here.narrow then none
    else some { s with blocks := col :: s.blocks, done := ⟨.indent, s.line, s.line⟩ :: s.done }
  else
    (closeBlocks? col s.line s.blocks s.done).map fun (blocks, done) => { s with blocks, done }

/-- Begins a line: a line without content does not touch the blocks, nor does one inside brackets. -/
def beginLine? (s : Lexer) : Option Lexer :=
  match indentation? s.rest s.line ⟨0, 0⟩ 0 with
  | none => none
  | some i =>
    let s := { s with rest := i.rest, line := i.line, fresh := false }
    let col := if i.joined = 0 then i.column else ⟨i.joined, i.joined⟩
    match i.rest with
    | '#' :: _ | '\n' :: _ => some s
    | _ => if s.brackets.isEmpty then enterColumn? s col else some s

def closerOf : Char → Char
  | '(' => ')'
  | '[' => ']'
  | _ => '}'

def Lexer.emit (s : Lexer) (kind : Token.Kind) (rest : List Char) : Lexer :=
  { s with rest, done := ⟨kind, s.line, s.line⟩ :: s.done }

def emitOperator? (s : Lexer) : Option Lexer :=
  match operator? s.rest with
  | none => none
  | some (sign, rest) =>
    let s' := s.emit (.op sign) rest
    match sign.toList with
    | [c] =>
      if c = '(' ∨ c = '[' ∨ c = '{' then
        if s.brackets.length ≥ maxBrackets then none else some { s' with brackets := c :: s.brackets }
      else if c = ')' ∨ c = ']' ∨ c = '}' then
        match s.brackets with
        | [] => none
        | b :: bs => if closerOf b = c then some { s' with brackets := bs } else none
      else some s'
    | _ => some s'

def emitLiteral? (s : Lexer) (marks : Literal) (cs : List Char) : Option Lexer :=
  match literalBody? cs with
  | none => none
  | some (body, rest) =>
    let last := s.line + body.count '\n'
    some { s with
      rest, line := last
      done := ⟨.literal { marks with body }, s.line, last⟩ :: s.done }

def emitWord? (s : Lexer) : Option Lexer :=
  let (w, rest) := s.rest.span isWordPart
  let plain := (wordKind? w).map fun kind => s.emit kind rest
  match rest with
  | q :: _ =>
    if q = '"' ∨ q = '\'' then
      match literalMarks? w with
      | some marks => emitLiteral? s marks rest
      | none => plain
    else plain
  | [] => plain

def Lexer.hasContent (s : Lexer) : Bool :=
  match s.done with
  | [] => false
  | t :: _ => t.isVisible

def Lexer.step? (s : Lexer) : Option Lexer :=
  if s.fresh then beginLine? s
  else
    match s.rest with
    | [] => some s
    | c :: cs =>
      if c = ' ' ∨ c = '\t' ∨ c = '\x0c' then some { s with rest := cs }
      else if c = '#' then some { s with rest := cs.dropWhile (· != '\n') }
      else if c = '\n' then
        let ended := if s.brackets.isEmpty && s.hasContent then s.emit .newline cs
          else { s with rest := cs }
        some { ended with line := s.line + 1, fresh := true }
      else if c = '\\' then
        match cs with
        | '\n' :: d :: rest => some { s with rest := d :: rest, line := s.line + 1 }
        | _ => none
      else if isWordStart c then emitWord? s
      else if c = '"' ∨ c = '\'' then emitLiteral? s ⟨false, false, false, []⟩ s.rest
      else if c.isDigit || (c == '.' && cs.head?.any Char.isDigit) then
        (numeral? s.rest).map fun (n, rest) => s.emit (.number n.imaginary) rest
      else emitOperator? s

def Lexer.stuck (s : Lexer) : Lexer :=
  { s with rest := [], done := ⟨.unreadable, s.line, s.line⟩ :: s.done }

def Lexer.isStuck (s : Lexer) : Bool := s.done.head?.any (·.kind == .unreadable)

def Lexer.run : Nat → Lexer → Lexer
  | 0, s => s.stuck
  | fuel + 1, s =>
    if s.rest.isEmpty then s
    else
      match s.step? with
      | none => s.stuck
      | some s' => run fuel s'

/-- The tokens of a text whose first line has number `line`. If it cannot be read to its end, the last
token says so; that an open bracket is never closed is found at the end. Every step but the beginning
of a line takes a character, so twice the length of the text is enough. -/
def tokens (line : Nat) (cs : List Char) : List Token :=
  let cs := Text.unifyBreaks cs
  if cs.contains '\x00' then [⟨.unreadable, line, line⟩]
  else
    let cs := if cs.getLast? == some '\n' then cs else cs ++ ['\n']
    let s := Lexer.run (2 * cs.length + 2) ⟨cs, line, true, [], [], []⟩
    if s.isStuck then s.done.reverse
    else if s.brackets.isEmpty then
      ((s.blocks.map fun _ => (⟨.dedent, s.line, s.line⟩ : Token)) ++ s.done).reverse
    else s.stuck.done.reverse

/-! ## Reading token sequences -/

def maxLevel : Nat := 6000

structure Cursor where
  rest : List Token
  /-- How many tokens there were at first, a bound for every repetition. -/
  size : Nat
  /-- The line on which the last visible token ended. -/
  lastLine : Nat
  /-- How many rules are open: at the statement that is read, or at an operand inside it. -/
  level : Nat
  /-- How many rules are open at an operand that comes next, if it is first tried as a place to assign
  to. -/
  lead : Option Nat
  deriving Repr

def Cursor.start (tokens : List Token) (line level : Nat) : Cursor :=
  ⟨tokens, tokens.length, line, level, none⟩

abbrev Parser := StateT Cursor (Except Refusal)

namespace Parser

def fail {α : Type} : Parser α := fun _ => .error .malformed

def peek : Parser (Option Token.Kind) := do
  return (← get).rest.head?.map Token.kind

def peekTwo : Parser (Option Token.Kind × Option Token.Kind) := do
  let rest := (← get).rest
  return (rest.head?.map Token.kind, rest.tail.head?.map Token.kind)

def peekLine : Parser Nat := do
  return ((← get).rest.head?.map Token.line).getD 0

def next : Parser Token := fun s =>
  match s.rest with
  | [] => .error .malformed
  | t :: rest =>
    .ok (t, { s with rest, lastLine := if t.isVisible then t.lastLine else s.lastLine, lead := none })

def take? (kind : Token.Kind) : Parser Bool := do
  if (← peek) == some kind then
    let _ ← next
    return true
  else return false

def expect (kind : Token.Kind) : Parser Unit := do
  if !(← take? kind) then fail

def op? (sign : String) : Parser Bool := take? (.op sign)

def op (sign : String) : Parser Unit := expect (.op sign)

def word? (w : String) : Parser Bool := take? (.keyword w)

def word (w : String) : Parser Unit := expect (.keyword w)

def atOp (sign : String) : Parser Bool := do return (← peek) == some (.op sign)

def atWord (w : String) : Parser Bool := do return (← peek) == some (.keyword w)

def identifier : Parser Identifier := do
  match (← next).kind with
  | .name written =>
    match identifier? written with
    | some id => return id
    | none => fail
  | _ => fail

def name : Parser String := do return (← identifier).text

/-! ### Levels -/

/-- Reads with a number of rules open, and goes back to those that were open before. -/
def atLevel {α : Type} (level : Nat) (p : Parser α) : Parser α := do
  let before := (← get).level
  if maxLevel < level then throw .deepRules
  else
    modify fun s => { s with level }
    let a ← p
    modify fun s => { s with level := before }
    return a

def deeper {α : Type} (k : Nat) (p : Parser α) : Parser α := do
  atLevel ((← get).level + k) p

/-- Reads something whose first operand is first tried as a place to assign to, with `k` more rules
open. -/
def leading {α : Type} (k : Nat) (p : Parser α) : Parser α := do
  modify fun s => { s with lead := some (s.level + k) }
  p

/-- Reads an operand at the level at which it is first tried. -/
def atLead {α : Type} (p : Parser α) : Parser α := do
  match (← get).lead with
  | none => p
  | some level => atLevel level p

/-! ### Repetition -/

def loop {α : Type} (step : α → Parser (Option α)) : Nat → α → Parser α
  | 0, _ => fail
  | fuel + 1, a => do
    match ← step a with
    | none => return a
    | some b => loop step fuel b

def repeated {α : Type} (step : α → Parser (Option α)) (a : α) : Parser α := do
  loop step ((← get).size + 1) a

/-- One or more of something with `sign` between them; `later` reads those after the first. -/
def separated {α : Type} (sign : String) (first later : Parser α) : Parser (List α) := do
  let a ← first
  let rest ← repeated (fun acc => do
    if ← op? sign then return some ((← later) :: acc) else return none) [a]
  return rest.reverse

/-- One or more of something with commas between them; `later` reads those after the first. The last
comma may be followed by a token that `closes` accepts. Says also whether there was a comma. -/
def commaList {α : Type} (closes : Token.Kind → Bool) (first later : Parser α) :
    Parser (List α × Bool) := do
  let a ← first
  let (items, commas, _) ← repeated (fun (acc, _, ended) => do
    if ended then return none
    else if ← op? "," then
      if (← peek).all closes then return some (acc, true, true)
      else return some ((← later) :: acc, true, false)
    else return none) ([a], false, false)
  return (items.reverse, commas)

/-- Tries one reader and, if it finds the source not well formed, another from the same place. -/
def orElse {α : Type} (p q : Parser α) : Parser α := fun s =>
  match p s with
  | .error .malformed => q s
  | outcome => outcome

end Parser

end Unbundle.Grammar
