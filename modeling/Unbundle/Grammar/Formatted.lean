import Unbundle.Grammar.Tree
import Unbundle.Text.CharacterName

/-!
# Formatted string literals

Between its literal parts a formatted literal holds expressions in braces, each with an optional
conversion and an optional format, in which expressions may stand once more. An expression in a
formatted literal cannot contain a backslash or a comment.
-/

open List

namespace Unbundle.Grammar

/-! ## Escapes in string literals -/

def letterEscape? : Char → Option Char
  | '\\' => some '\\'
  | '\'' => some '\''
  | '"' => some '"'
  | 'a' => some '\x07'
  | 'b' => some '\x08'
  | 'f' => some '\x0c'
  | 'n' => some '\n'
  | 'r' => some '\r'
  | 't' => some '\t'
  | 'v' => some '\x0b'
  | _ => none

def octalValue? (c : Char) : Option Nat :=
  if '0' ≤ c ∧ c ≤ '7' then some (c.toNat - '0'.toNat) else none

def hexNumber? (cs : List Char) : Option Nat :=
  if cs.all fun c => (Text.hexValue? c).isSome then some (Text.ofHex cs) else none

def takeOctal : Nat → List Char → List Nat × List Char
  | 0, cs => ([], cs)
  | _ + 1, [] => ([], [])
  | n + 1, c :: cs =>
    match octalValue? c with
    | none => ([], c :: cs)
    | some d =>
      let (ds, rest) := takeOctal n cs
      (d :: ds, rest)

theorem takeOctal_length (n : Nat) (cs : List Char) : (takeOctal n cs).2.length ≤ cs.length := by
  induction n generalizing cs with
  | zero => simp [takeOctal]
  | succ n ih =>
    cases cs with
    | nil => simp [takeOctal]
    | cons c cs =>
      simp only [takeOctal]
      split
      · simp
      · have := ih cs
        simp only [length_cons]
        omega

def charOf (n : Nat) : Char :=
  if 0xd800 ≤ n ∧ n ≤ 0xdfff then '\ufffd' else Char.ofNat n

def unescape? : List Char → Option (List Char)
  | [] => some []
  | '\\' :: 'x' :: a :: b :: cs => do
    let n ← hexNumber? [a, b]
    return charOf n :: (← unescape? cs)
  | '\\' :: 'x' :: _ => none
  | '\\' :: 'u' :: a :: b :: c :: d :: cs => do
    let n ← hexNumber? [a, b, c, d]
    return charOf n :: (← unescape? cs)
  | '\\' :: 'u' :: _ => none
  | '\\' :: 'U' :: a :: b :: c :: d :: e :: f :: g :: h :: cs => do
    let n ← hexNumber? [a, b, c, d, e, f, g, h]
    if n > 0x10ffff then none else return charOf n :: (← unescape? cs)
  | '\\' :: 'U' :: _ => none
  | '\\' :: 'N' :: '{' :: cs =>
    let after := cs.dropWhile (· != '}')
    if after.isEmpty then none
    else do
      let c ← Text.ofName? (cs.takeWhile (· != '}'))
      return c :: (← unescape? after.tail)
  | '\\' :: 'N' :: _ => none
  | '\\' :: '\n' :: cs => unescape? cs
  | '\\' :: c :: cs =>
    match letterEscape? c with
    | some x => (unescape? cs).map (x :: ·)
    | none =>
      match octalValue? c with
      | none => (unescape? cs).map ('\\' :: c :: ·)
      | some d =>
        let n := (takeOctal 2 cs).1.foldl (fun n d => n * 8 + d) d
        (unescape? (takeOctal 2 cs).2).map (charOf n :: ·)
  | c :: cs => (unescape? cs).map (c :: ·)
termination_by cs => cs.length
decreasing_by
  all_goals try (simp only [length_cons]; omega)
  · have := (dropWhile_sublist (l := cs) (fun x => x != '}')).length_le
    simp only [length_cons, length_tail]
    omega
  · have := takeOctal_length 2 cs
    simp only [length_cons]
    omega

def bytesEscapesOk : List Char → Bool
  | [] => true
  | '\\' :: 'x' :: a :: b :: cs => (hexNumber? [a, b]).isSome && bytesEscapesOk cs
  | '\\' :: 'x' :: _ => false
  | '\\' :: _ :: cs => bytesEscapesOk cs
  | _ :: cs => bytesEscapesOk cs

/-- Whether the body of a literal is well formed, formatted parts apart. -/
def Literal.text? (l : Literal) : Option (List Char) :=
  if l.bytes then
    if l.body.all (·.toNat < 128) && (l.raw || bytesEscapesOk l.body) then some [] else none
  else if l.raw then some l.body
  else unescape? l.body

end Unbundle.Grammar

namespace Unbundle.Grammar.Formatted

/-! ## Formatted string literals -/

/-- The literal part at the start of a body, what follows it, and whether it ended in a doubled
brace, of which one has been kept. -/
structure LiteralPart where
  text : List Char
  rest : List Char
  doubled : Bool

/-- Finds the end of a literal part. At the outermost `level` a brace may be doubled and a closing one
must be. -/
def literalPart? (raw : Bool) (level : Nat) : List Char → List Char → Option LiteralPart
  | [], acc => some ⟨acc.reverse, [], false⟩
  | c :: cs, acc =>
    if !raw && c == '\\' && !cs.isEmpty then
      match cs with
      | 'N' :: '{' :: rest =>
        let named := '\\' :: 'N' :: '{' :: rest.takeWhile (· != '}')
        let after := rest.dropWhile (· != '}')
        if after.isEmpty then some ⟨acc.reverse ++ named, [], false⟩
        else literalPart? raw level after.tail ('}' :: named.reverse ++ acc)
      | d :: rest =>
        if d = '{' ∨ d = '}' then brace? d rest ('\\' :: acc)
        else literalPart? raw level rest (d :: '\\' :: acc)
      | [] => none
    else if c = '{' ∨ c = '}' then brace? c cs acc
    else literalPart? raw level cs (c :: acc)
termination_by cs => cs.length
decreasing_by
  all_goals try (simp only [length_cons]; omega)
  · have := (dropWhile_sublist (l := rest) (fun x => x != '}')).length_le
    simp only [length_cons, length_tail]
    omega
where
  brace? (c : Char) (cs acc : List Char) : Option LiteralPart :=
    if level = 0 then
      if cs.head? == some c then some ⟨(c :: acc).reverse, cs.tail, true⟩
      else if c = '}' then none
      else some ⟨acc.reverse, c :: cs, false⟩
    else some ⟨acc.reverse, c :: cs, false⟩

def openerOf : Char → Char
  | ')' => '('
  | ']' => '['
  | _ => '{'

/-- The expression at the start of a text and what follows it: a conversion mark, a colon, an equals
sign or the closing brace, outside of brackets and quotes. `inside` is the quote that is open, with
whether it is a tripled one, and `brackets` the brackets that are open. -/
def expressionPart? : (fuel : Nat) → List Char → (inside : Option (Char × Bool)) →
    (brackets : List Char) → (acc : List Char) → Option (List Char × List Char)
  | 0, _, _, _, _ => none
  | _ + 1, [], _, _, _ => none
  | fuel + 1, c :: cs, inside, brackets, acc =>
    if c = '\\' then none
    else
      match inside with
      | some (q, tripled) =>
        if c = q then
          if tripled then
            match cs with
            | a :: b :: rest =>
              if a = q ∧ b = q then expressionPart? fuel rest none brackets (b :: a :: c :: acc)
              else expressionPart? fuel cs inside brackets (c :: acc)
            | _ => expressionPart? fuel cs inside brackets (c :: acc)
          else expressionPart? fuel cs none brackets (c :: acc)
        else expressionPart? fuel cs inside brackets (c :: acc)
      | none =>
        if c = '\'' ∨ c = '"' then
          match cs with
          | a :: b :: rest =>
            if a = c ∧ b = c then
              expressionPart? fuel rest (some (c, true)) brackets (b :: a :: c :: acc)
            else expressionPart? fuel cs (some (c, false)) brackets (c :: acc)
          | _ => expressionPart? fuel cs (some (c, false)) brackets (c :: acc)
        else if c = '(' ∨ c = '[' ∨ c = '{' then
          if brackets.length ≥ 200 then none
          else expressionPart? fuel cs none (c :: brackets) (c :: acc)
        else if c = '#' then none
        else if brackets.isEmpty && ['!', ':', '}', '=', '<', '>'].contains c then
          if cs.head? == some '=' && ['!', '=', '<', '>'].contains c then
            expressionPart? fuel (cs.drop 1) none brackets ('=' :: c :: acc)
          else if c = '<' ∨ c = '>' then expressionPart? fuel cs none brackets (c :: acc)
          else some (acc.reverse, c :: cs)
        else if c = ')' ∨ c = ']' ∨ c = '}' then
          match brackets with
          | [] => none
          | b :: bs => if b = openerOf c then expressionPart? fuel cs none bs (c :: acc) else none
        else expressionPart? fuel cs none brackets (c :: acc)

def isFiller (c : Char) : Bool := c == ' ' || c == '\t' || c == '\n' || c == '\x0c'

def isGap (c : Char) : Bool := c == ' ' || ('\t' ≤ c && c ≤ '\r')

def afterShown (cs : List Char) : List Char :=
  match cs with
  | '=' :: rest => rest.dropWhile isGap
  | _ => cs

def afterConversion? (cs : List Char) : Option (List Char) :=
  match cs with
  | '!' :: c :: rest => if c = 's' ∨ c = 'r' ∨ c = 'a' then some rest else none
  | '!' :: [] => none
  | _ => some cs

/-- How many line feeds stand in `cs` before `rest`, which is what remains of it. -/
def linesBetween (cs rest : List Char) : Nat :=
  (cs.take (cs.length - rest.length)).count '\n'

/-- The nodes of the expressions of a body from `cs` on, and what is left: nothing at the outermost
level, the closing brace of the format inside a format. `line` is the line of `cs`, and `sub` reads
an expression that starts on a line. -/
def parts (sub : Nat → List Char → Except Refusal Node) (raw : Bool) :
    (fuel level : Nat) → List Char → (line : Nat) → List Node →
      Except Refusal (List Node × List Char × Nat)
  | 0, _, _, _, _ => .error .malformed
  | fuel + 1, level, cs, line, acc => do
    let lit ← required (literalPart? raw level cs [])
    if !raw then
      let _ ← required (unescape? lit.text)
    let line := line + linesBetween cs lit.rest
    if lit.doubled then parts sub raw fuel level lit.rest line acc
    else
      match lit.rest with
      | '{' :: inner =>
        if level ≥ 2 then throw .malformed
        else
          let (expr, rest) ← required (expressionPart? (inner.length + 1) inner none [] [])
          if expr.all isFiller then throw .malformed
          else
            let value ← sub line ('(' :: (expr ++ [')']))
            let after ← required (afterConversion? (afterShown rest))
            let line' := line + linesBetween inner after
            match after with
            | ':' :: spec =>
              let (inSpec, close, line'') ← parts sub raw fuel (level + 1) spec line' []
              match close with
              | '}' :: more =>
                parts sub raw fuel level more line''
                  (.compound [value, .compound inSpec.reverse] :: acc)
              | _ => throw .malformed
            | '}' :: more => parts sub raw fuel level more line' (.compound [value] :: acc)
            | _ => throw .malformed
      | rest => return (acc, rest, line)

def nodes (sub : Nat → List Char → Except Refusal Node) (l : Literal) (line : Nat) :
    Except Refusal (List Node) := do
  let (found, rest, _) ← parts sub l.raw (2 * l.body.length + 2) 0 l.body line []
  if rest.isEmpty then return found.reverse else throw .malformed

end Unbundle.Grammar.Formatted
