import Unbundle.Text.Packed

/-!
# Trees of Python sources

The tree of a source keeps apart what the analyses look at: names, attributes, calls, literals,
definitions and imports. All other constructs are compounds of their parts. The parts of a node stand
in a fixed order, which the order of findings in a report follows.

A source that is at fault has none, and neither has one that is well formed and nests too deep: too many rules are
open while it is read, or its tree has too many levels.
-/

namespace Unbundle.Grammar

/-! ## Tokens of Python sources -/

/-- A string literal as written: what its letters in front say, and what stands between its quotes. -/
structure Literal where
  bytes : Bool
  raw : Bool
  formatted : Bool
  body : List Char
  deriving DecidableEq, Repr

inductive Token.Kind where
  /-- A word that can name something, as it is written. -/
  | name (written : String)
  | keyword (word : String)
  | number (imaginary : Bool)
  | literal (l : Literal)
  | op (sign : String)
  | newline
  | indent
  | dedent
  /-- The place from which on a text cannot be read. -/
  | unreadable
  deriving DecidableEq, Repr

structure Token where
  kind : Token.Kind
  line : Nat
  lastLine : Nat
  deriving DecidableEq, Repr

def Token.isVisible (t : Token) : Bool :=
  match t.kind with
  | .newline | .indent | .dedent | .unreadable => false
  | _ => true

def keywords : List String :=
  ["False", "None", "True", "and", "as", "assert", "async", "await", "break", "class", "continue",
    "def", "del", "elif", "else", "except", "finally", "for", "from", "global", "if", "import", "in",
    "is", "lambda", "nonlocal", "not", "or", "pass", "raise", "return", "try", "while", "with",
    "yield"]

def operators : List String :=
  ["**=", "...", "//=", "<<=", ">>=", "!=", "%=", "&=", "**", "*=", "+=", "-=", "->", "//", "/=",
    ":=", "<<", "<=", "==", ">=", ">>", "@=", "^=", "|=", "%", "&", "(", ")", "*", "+", ",", "-", ".",
    "/", ":", ";", "<", "=", ">", "@", "[", "]", "^", "\x7b", "|", "\x7d", "~"]

def operator? (cs : List Char) : Option (String × List Char) :=
  operators.findSome? fun sign => (Text.dropLead? sign.toList cs).map fun rest => (sign, rest)

/-- Whether a character can stand in a word: an ASCII letter or digit, the low line, or anything
beyond ASCII. What is beyond ASCII is checked when the word is complete. -/
def isWordPart (c : Char) : Bool := c.isAlphanum || c == '_' || 128 ≤ c.toNat

def isWordStart (c : Char) : Bool := isWordPart c && !c.isDigit

def wordKind? (w : List Char) : Option Token.Kind :=
  if keywords.contains (String.ofList w) then some (.keyword (String.ofList w))
  else if Text.isIdentifier w then some (.name (String.ofList w))
  else none

structure Identifier where
  text : String
  valid : Text.isIdentifier text.toList = true
  deriving DecidableEq, Repr

/-- The identifier that a word stands for: two spellings with one composed form are one identifier. The
composed form has to be an identifier itself. -/
def identifier? (written : String) : Option Identifier :=
  let text := String.ofList (Text.composed written.toList)
  if valid : Text.isIdentifier text.toList then some ⟨text, valid⟩ else none

def literalMarks? (w : List Char) : Option Literal :=
  match w.map Char.toLower with
  | [] => some ⟨false, false, false, []⟩
  | ['u'] => some ⟨false, false, false, []⟩
  | ['b'] => some ⟨true, false, false, []⟩
  | ['r'] => some ⟨false, true, false, []⟩
  | ['f'] => some ⟨false, false, true, []⟩
  | ['b', 'r'] | ['r', 'b'] => some ⟨true, true, false, []⟩
  | ['f', 'r'] | ['r', 'f'] => some ⟨false, true, true, []⟩
  | _ => none

/-- The body of a literal closed by one quote on the same line, and the rest. A backslash takes the
next character with it. -/
def shortBody? (quote : Char) : List Char → Option (List Char × List Char)
  | [] => none
  | '\\' :: c :: cs => (shortBody? quote cs).map fun (body, rest) => ('\\' :: c :: body, rest)
  | c :: cs =>
    if c = quote then some ([], cs)
    else if c = '\n' then none
    else (shortBody? quote cs).map fun (body, rest) => (c :: body, rest)

def longBody? (quote : Char) : List Char → Option (List Char × List Char)
  | [] => none
  | '\\' :: c :: cs => (longBody? quote cs).map fun (body, rest) => ('\\' :: c :: body, rest)
  | c :: cs =>
    match Text.dropLead? [quote, quote, quote] (c :: cs) with
    | some rest => some ([], rest)
    | none => (longBody? quote cs).map fun (body, rest) => (c :: body, rest)

def literalBody? (cs : List Char) : Option (List Char × List Char) :=
  match cs with
  | [] => none
  | quote :: rest =>
    match Text.dropLead? [quote, quote] rest with
    | some inner => longBody? quote inner
    | none => shortBody? quote rest

/-! ## Trees of Python sources -/

inductive Refusal where
  /-- It is not well formed. -/
  | malformed
  /-- Its constructs nest deeper than rules can be open at a time. -/
  | deepRules
  /-- Its tree has too many levels. -/
  | deepTree
  deriving DecidableEq, Repr

def required {α : Type} : Option α → Except Refusal α
  | some a => .ok a
  | none => .error .malformed

/-- The lines of a definition. The first line of a source has number one. -/
structure Span where
  first : Nat
  last : Nat
  ordered : 1 ≤ first ∧ first ≤ last
  deriving DecidableEq, Repr

/-- A name brought in by an import, with the name it gets if that is another one. -/
structure Alias where
  name : String
  rename : Option String
  deriving DecidableEq, Repr

def Alias.bound (a : Alias) : String := a.rename.getD a.name

/-- A node of the tree of a source. What it defines goes by an identifier. -/
inductive Node where
  | name (id : String)
  | member (value : Node) (attr : String)
  | subscript (value index : Node)
  | starred (value : Node)
  | call (line : Nat) (func : Node) (args keywords : List Node)
  /-- An argument given by name, or a map of such. -/
  | keyword (arg : Option String) (value : Node)
  /-- A string literal that is neither bytes nor formatted. -/
  | text (s : String)
  /-- Any other literal. -/
  | constant
  | list (elements : List Node)
  | tuple (elements : List Node)
  | await (value : Node)
  /-- An expression that is a statement. -/
  | discarded (value : Node)
  | function (name : Identifier) (span : Span) (parameters : Node) (body decorators returns : List Node)
  | classDef (name : Identifier) (span : Span) (bases keywords body decorators : List Node)
  | importNames (aliases : List Alias)
  /-- Names from a module, with the number of dots in front of it; none if it is given by dots alone. -/
  | importFrom (dots : Nat) (source : Option String) (aliases : List Alias)
  | compound (parts : List Node)
  deriving Repr, Inhabited

namespace Node

def parts : Node → List Node
  | name _ | text _ | constant | importNames _ | importFrom .. => []
  | member v _ | starred v | keyword _ v | await v | discarded v => [v]
  | subscript v i => [v, i]
  | call _ f args keywords => f :: (args ++ keywords)
  | list xs | tuple xs | compound xs => xs
  | function _ _ parameters body decorators returns => parameters :: (body ++ decorators ++ returns)
  | classDef _ _ bases keywords body decorators => bases ++ keywords ++ body ++ decorators

mutual

def depth : Node → Nat
  | name _ | text _ | constant | importNames _ | importFrom .. => 1
  | member v _ | starred v | keyword _ v | await v | discarded v => depth v + 1
  | subscript v i => max (depth v) (depth i) + 1
  | call _ f args keywords => max (depth f) (max (depthAll args) (depthAll keywords)) + 1
  | list xs | tuple xs | compound xs => depthAll xs + 1
  | function _ _ parameters body decorators returns =>
    max (depth parameters) (max (depthAll body) (max (depthAll decorators) (depthAll returns))) + 1
  | classDef _ _ bases keywords body decorators =>
    max (depthAll bases) (max (depthAll keywords) (max (depthAll body) (depthAll decorators))) + 1

def depthAll : List Node → Nat
  | [] => 0
  | x :: xs => max (depth x) (depthAll xs)

end

mutual

def isTarget : Node → Bool
  | name _ | member _ _ | subscript _ _ => true
  | starred (starred _) => false
  | starred v => isTarget v
  | list xs | tuple xs => allTargets xs
  | _ => false

def allTargets : List Node → Bool
  | [] => true
  | x :: xs => isTarget x && allTargets xs

end

mutual

def isDeletable : Node → Bool
  | name _ | member _ _ | subscript _ _ => true
  | list xs | tuple xs => allDeletable xs
  | _ => false

def allDeletable : List Node → Bool
  | [] => true
  | x :: xs => isDeletable x && allDeletable xs

end

def isPlace : Node → Bool
  | name _ | member _ _ | subscript _ _ => true
  | _ => false

end Node

end Unbundle.Grammar
