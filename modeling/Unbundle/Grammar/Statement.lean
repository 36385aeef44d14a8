import Unbundle.Grammar.Expression

/-!
# Statements

Simple statements share a line; compound ones hold blocks. A block is a line of simple statements or
an indented sequence of statements. The numbers of levels are counted from a statement to the operands
and blocks inside it.
-/

namespace Unbundle.Grammar.Pattern

open Grammar.Parser

/-! ## Patterns -/

/-- Whether a name cannot capture because of what follows it. -/
def isExtended : Option Token.Kind → Bool
  | some (.op sign) => sign == "." || sign == "(" || sign == "="
  | _ => false

def capture : Parser Unit := do
  match ← peekTwo with
  | (some (.name written), second) =>
    if written = "_" || isExtended second then fail
    else
      let _ ← next
  | _ => fail

def captureOrWildcard : Parser Unit := do
  if !(← take? (.name "_")) then capture

def number : Parser Node := do
  let _ ← op? "-"
  match (← next).kind with
  | .number imaginary =>
    let plus ← op? "+"
    let minus ← if plus then pure true else op? "-"
    if minus then
      match (← next).kind with
      | .number second => if imaginary || !second then fail else return .constant
      | _ => fail
    else return .constant
  | _ => fail

def literal (rules : Rules) : Parser Node := do
  match ← peek with
  | some (.number _) | some (.op "-") => number
  | some (.literal _) => Expression.literals rules
  | some (.keyword w) =>
    if w = "None" ∨ w = "True" ∨ w = "False" then
      let _ ← next
      return .constant
    else fail
  | _ => fail

def dotted (first : String) : Parser Node :=
  repeated (fun node => do
    if ← op? "." then return some (.member node (← name)) else return none) (.name first)

def element (pattern : Parser Node) : Parser (Node × Bool) := do
  if ← op? "*" then
    captureOrWildcard
    return (.compound [], true)
  else return (← pattern, false)

def bracketed (pattern : Parser Node) : Parser Node := do
  if ← op? "]" then return .compound []
  else
    let (items, _) ← commaList isCloser (element pattern) (element pattern)
    op "]"
    return .compound (items.map Prod.fst)

def parenthesized (pattern : Parser Node) : Parser Node := do
  if ← op? ")" then return .compound []
  else
    let (items, commas) ← commaList isCloser (element pattern) (element pattern)
    op ")"
    match items, commas with
    | [(x, starred)], false => if starred then fail else return x
    | xs, _ => return .compound (xs.map Prod.fst)

def entry (rules : Rules) (pattern : Parser Node) : Parser (Option (Node × Node)) := do
  if ← op? "**" then
    capture
    return none
  else
    let key ← match ← peek with
      | some (.name _) => do
        match ← dotted (← name) with
        | .name _ => fail
        | node => pure node
      | _ => literal rules
    op ":"
    return some (key, ← pattern)

/-- What stands between braces. Only the last entry can take the rest. -/
def braced (rules : Rules) (pattern : Parser Node) : Parser Node := do
  if ← op? "\x7d" then return .compound []
  else
    let (items, _) ← commaList isCloser (entry rules pattern) (entry rules pattern)
    op "\x7d"
    if items.dropLast.any Option.isNone then fail
    else
      let found := items.filterMap id
      return .compound (found.map Prod.fst ++ found.map Prod.snd)

def argument (pattern : Parser Node) : Parser (Node × Bool) := do
  match ← peekTwo with
  | (some (.name _), some (.op "=")) =>
    let _ ← next
    let _ ← next
    return (← pattern, true)
  | _ => return (← pattern, false)

def arguments (cls : Node) (pattern : Parser Node) : Parser Node := do
  if ← op? ")" then return .compound [cls]
  else
    let (items, _) ← commaList isCloser (argument pattern) (argument pattern)
    op ")"
    let byName := items.dropWhile fun (_, named) => !named
    if byName.all Prod.snd then return .compound (cls :: items.map Prod.fst) else fail

def closed (rules : Rules) (pattern : Parser Node) : Parser Node := do
  match ← peek with
  | some (.name "_") =>
    let _ ← next
    return .compound []
  | some (.name _) =>
    let node ← dotted (← name)
    if ← op? "(" then arguments node pattern
    else if ← atOp "=" then fail
    else
      match node with
      | .name _ => return .compound []
      | value => return .compound [value]
  | some (.op "(") =>
    let _ ← next
    parenthesized pattern
  | some (.op "[") =>
    let _ ← next
    bracketed pattern
  | some (.op "\x7b") =>
    let _ ← next
    braced rules pattern
  | _ => return .compound [← literal rules]

/-- Alternatives, perhaps with a name for what they match. -/
def step (rules : Rules) (pattern : Parser Node) : Parser Node := do
  let found ← separated "|" (closed rules pattern) (closed rules pattern)
  let node := match found with
    | [x] => x
    | xs => .compound xs
  if ← word? "as" then
    capture
    return .compound [node]
  else return node

def read (rules : Rules) : Nat → Parser Node
  | 0 => Parser.fail
  | n + 1 => step rules (read rules n)

/-- The patterns of a case: one, or a sequence without brackets. A pattern is inside another one only in
brackets. -/
def ofCase (rules : Rules) : Parser Node := do
  let one := element (read rules (maxBrackets + 1))
  let (items, commas) ← commaList (fun k => k == .op ":" || k == .keyword "if") one one
  match items, commas with
  | [(x, starred)], false => if starred then fail else return x
  | xs, _ => return .compound (xs.map Prod.fst)

end Unbundle.Grammar.Pattern

namespace Unbundle.Grammar.Statement

open Grammar.Parser

/-! ## Statements -/

abbrev Block := Parser (List Node)

def endsSimple (k : Token.Kind) : Bool := k == .newline || k == .op ";"

/-! ### Simple statements -/

def assigned (rules : Rules) (k : Nat) : Parser Node := do
  if ← word? "yield" then rules.inside (k + 1) .yieldTail else rules.inside k .starExpressions

def augmented : List String :=
  ["+=", "-=", "*=", "/=", "//=", "%=", "@=", "&=", "|=", "^=", ">>=", "<<=", "**="]

/-- The rest of an assignment with equals signs, from its first place on. What follows a sign is first
tried as another place. -/
def assignment (rules : Rules) (first : Node) : Parser Node := do
  let (places, last, _) ← repeated (fun (places, last, isYield) => do
    if ← op? "=" then
      if isYield || !last.isTarget then fail
      else
        let isYield ← atWord "yield"
        let value ← leading 11 (assigned rules 24)
        return some (last :: places, value, isYield)
    else return none) ([], first, false)
  return .compound (places.reverse ++ [last])

def expressionStatement (rules : Rules) : Parser Node := do
  let first ← leading 8 (rules.inside 22 .starExpressions)
  match ← peek with
  | some (.op ":") =>
    if !first.isPlace then fail
    else
      op ":"
      let annotation ← rules.inside 26 .expression
      if ← op? "=" then return .compound [first, annotation, ← assigned rules 25]
      else return .compound [first, annotation]
  | some (.op "=") => assignment rules first
  | some (.op sign) =>
    if augmented.contains sign then
      if !first.isPlace then fail
      else
        let _ ← next
        return .compound [first, ← assigned rules 24]
    else return .discarded first
  | _ => return .discarded first

def dottedName : Parser String := do
  let parts ← separated "." name name
  return String.intercalate "." parts

def rename? : Parser (Option String) := do
  if ← word? "as" then some <$> name else return none

def importNames : Parser Node := do
  let one : Parser Alias := do
    let n ← dottedName
    return Alias.mk n (← rename?)
  return .importNames (← separated "," one one)

def dots : Parser Nat :=
  repeated (fun n => do
    if ← op? "." then return some (n + 1)
    else if ← op? "..." then return some (n + 3)
    else return none) 0

def importedNames : Parser (List Alias) := do
  let one : Parser Alias := do
    let n ← name
    return Alias.mk n (← rename?)
  if ← op? "*" then return [Alias.mk "*" none]
  else if ← op? "(" then
    let (aliases, _) ← commaList isCloser one one
    op ")"
    return aliases
  else separated "," one one

def importFrom : Parser Node := do
  let level ← dots
  if ← word? "import" then
    if level = 0 then fail else return .importFrom level none (← importedNames)
  else
    let source ← dottedName
    word "import"
    return .importFrom level (some source) (← importedNames)

def optional (present : Parser Bool) (rules : Rules) : Parser (List Node) := do
  if ← present then return [← rules.inside 27 .expression] else return []

def simple (rules : Rules) : Parser Node := do
  match ← peek with
  | some (.keyword w) =>
    if w = "return" then
      let _ ← next
      if (← peek).all endsSimple then return .compound []
      else return .compound [← rules.inside 23 .starExpressions]
    else if w = "import" then
      let _ ← next
      importNames
    else if w = "from" then
      let _ ← next
      importFrom
    else if w = "raise" then
      let _ ← next
      if (← peek).all endsSimple then return .compound []
      else
        let error ← rules.inside 26 .expression
        let cause ← optional (word? "from") rules
        return .compound (error :: cause)
    else if w = "pass" ∨ w = "break" ∨ w = "continue" then
      let _ ← next
      return .compound []
    else if w = "del" then
      let _ ← next
      let (places, _) ← commaList endsSimple (rules.inside 9 .expression)
        (rules.inside 10 .expression)
      if places.all Node.isDeletable then return .compound places else fail
    else if w = "yield" then
      let _ ← next
      return .discarded (← rules.inside 24 .yieldTail)
    else if w = "assert" then
      let _ ← next
      let test ← rules.inside 26 .expression
      let message ← optional (op? ",") rules
      return .compound (test :: message)
    else if w = "global" ∨ w = "nonlocal" then
      let _ ← next
      let _ ← separated "," name name
      return .compound []
    else expressionStatement rules
  | _ => expressionStatement rules

def simpleLine (rules : Rules) : Block := do
  let first ← simple rules
  let (found, _) ← repeated (fun (acc, ended) => do
    if ended then return none
    else if ← op? ";" then
      if (← peek) == some .newline then return some (acc, true)
      else return some ((← deeper 2 (simple rules)) :: acc, false)
    else return none) ([first], false)
  expect .newline
  return found.reverse

/-! ### Compound statements -/

def guarded (rules : Rules) (block : Block) : Parser (Node × List Node) := do
  let test ← rules.inside 26 .named
  op ":"
  return (test, ← deeper 3 block)

def otherwise (block : Block) : Block := do
  if ← word? "else" then
    op ":"
    deeper 4 block
  else return []

def nest : List (Node × List Node) → List Node → List Node
  | [], last => last
  | (test, body) :: more, last => [.compound (test :: (body ++ nest more last))]

def ifTail (rules : Rules) (block : Block) : Parser Node := do
  let (test, body) ← guarded rules block
  let (branches, count) ← repeated (fun (acc, count) => do
    if ← word? "elif" then
      return some ((← deeper (count + 1) (guarded rules block)) :: acc, count + 1)
    else return none) (([] : List (Node × List Node)), 0)
  let last ← deeper count (otherwise block)
  return .compound (test :: (body ++ nest branches.reverse last))

def whileTail (rules : Rules) (block : Block) : Parser Node := do
  let (test, body) ← guarded rules block
  return .compound (test :: (body ++ (← otherwise block)))

def forTail (rules : Rules) (block : Block) : Parser Node := do
  let target ← Expression.targets (rules.inside 8 .target)
  word "in"
  let source ← rules.inside 22 .starExpressions
  op ":"
  let body ← deeper 3 block
  return .compound (target :: source :: (body ++ (← otherwise block)))

def withItem (rules : Rules) : Parser Node := do
  let value ← rules.inside 27 .expression
  if ← word? "as" then
    let target ← rules.inside 9 .target
    match ← peek with
    | some (.op ",") | some (.op ")") | some (.op ":") => return .compound [value, target]
    | _ => fail
  else return .compound [value]

def withItems (rules : Rules) : Parser (List Node) :=
  orElse
    (do
      op "("
      let (items, _) ← commaList isCloser (withItem rules) (deeper 1 (withItem rules))
      op ")"
      op ":"
      return items)
    (do
      let items ← separated "," (withItem rules) (deeper 1 (withItem rules))
      op ":"
      return items)

def withTail (rules : Rules) (block : Block) : Parser Node := do
  let items ← withItems rules
  return .compound (items ++ (← deeper 3 block))

def handlers (rules : Rules) (block : Block) : Parser (List Node) := do
  let (found, _) ← repeated (fun (acc, starred) => do
    if ← word? "except" then
      let star ← op? "*"
      if starred.any (· != star) then fail
      else if ← op? ":" then
        if star then fail else return some (.compound (← deeper 5 block) :: acc, some star)
      else
        let kind ← rules.inside 27 .expression
        let _ ← rename?
        op ":"
        return some (.compound (kind :: (← deeper 5 block)) :: acc, some star)
    else return none) (([] : List Node), (none : Option Bool))
  return found.reverse

def finally? (block : Block) : Parser (Option (List Node)) := do
  if ← word? "finally" then
    op ":"
    some <$> deeper 4 block
  else return none

def tryTail (rules : Rules) (block : Block) : Parser Node := do
  op ":"
  let body ← deeper 3 block
  match ← handlers rules block with
  | [] =>
    match ← finally? block with
    | none => fail
    | some last => return .compound (body ++ last)
  | caught =>
    let other ← otherwise block
    let last ← finally? block
    return .compound (body ++ caught ++ other ++ last.getD [])

/-- The lines of a definition that starts on the line `first` and ends here. -/
def spanFrom (first : Nat) : Parser Span := do
  let last := (← get).lastLine
  -- `first` is the line of a token that has been taken, so the lines are in order
  if ordered : 1 ≤ first ∧ first ≤ last then return ⟨first, last, ordered⟩ else fail

def functionTail (rules : Rules) (block : Block) (first : Nat) (decorators : List Node) :
    Parser Node := do
  let id ← identifier
  op "("
  let ps ← deeper 24 (Expression.parameters rules true ")")
  op ")"
  let returns ← optional (op? "->") rules
  op ":"
  let body ← deeper 4 block
  return .function id (← spanFrom first) ps body decorators returns

def classTail (rules : Rules) (block : Block) (first : Nat) (decorators : List Node) :
    Parser Node := do
  let id ← identifier
  let (bases, keywords) ←
    if ← op? "(" then deeper 5 (Expression.arguments rules false) else pure ([], [])
  op ":"
  let body ← deeper 4 block
  return .classDef id (← spanFrom first) bases keywords body decorators

def decorated (rules : Rules) (block : Block) : Parser Node := do
  let found ← repeated (fun acc => do
    if ← op? "@" then
      let value ← rules.inside 29 .named
      expect .newline
      return some (value :: acc)
    else return none) []
  let decorators := found.reverse
  let first ← peekLine
  if ← word? "def" then functionTail rules block first decorators
  else if ← word? "class" then classTail rules block first decorators
  else
    word "async"
    word "def"
    functionTail rules block first decorators

def caseBlock (rules : Rules) (block : Block) : Parser Node := do
  expect (.name "case")
  let pattern ← Pattern.ofCase rules
  let guard ← if ← word? "if" then (do return [← rules.inside 29 .named]) else pure []
  op ":"
  return .compound (pattern :: (guard ++ (← deeper 5 block)))

def subject (rules : Rules) : Parser Node := do
  let (items, commas) ← commaList (· == .op ":") (Expression.element rules 28)
    (Expression.element rules 30)
  match items, commas with
  | [x], false => if Expression.isStarred x then fail else return x
  | xs, _ => return .tuple xs

def matchStatement (rules : Rules) (block : Block) : Parser Node := do
  expect (.name "match")
  let value ← subject rules
  op ":"
  expect .newline
  expect .indent
  let first ← caseBlock rules block
  let cases ← repeated (fun acc => do
    if ← take? .dedent then return none
    else return some ((← caseBlock rules block) :: acc)) [first]
  return .compound (value :: cases.reverse)

def statement (rules : Rules) (block : Block) : Block := do
  let single (p : Parser Node) : Block := do return [← p]
  match ← peek with
  | some (.keyword w) =>
    if w = "if" then
      let _ ← next
      single (ifTail rules block)
    else if w = "while" then
      let _ ← next
      single (whileTail rules block)
    else if w = "for" then
      let _ ← next
      single (forTail rules block)
    else if w = "with" then
      let _ ← next
      single (withTail rules block)
    else if w = "try" then
      let _ ← next
      single (tryTail rules block)
    else if w = "def" ∨ w = "class" then single (decorated rules block)
    else if w = "async" then
      match (← peekTwo).2 with
      | some (.keyword "for") =>
        let _ ← next
        let _ ← next
        single (forTail rules block)
      | some (.keyword "with") =>
        let _ ← next
        let _ ← next
        single (withTail rules block)
      | _ => single (decorated rules block)
    else simpleLine rules
  | some (.op "@") => single (decorated rules block)
  | some (.name "match") => orElse (single (matchStatement rules block)) (simpleLine rules)
  | _ => simpleLine rules

/-- A block, given a reader for the blocks inside it. -/
def blockStep (rules : Rules) (block : Block) : Block := do
  if ← take? .newline then
    expect .indent
    let first ← deeper 3 (statement rules block)
    let found ← repeated (fun acc => do
      if ← take? .dedent then return none
      else return some ((← deeper 3 (statement rules block)).reverse ++ acc)) first.reverse
    return found.reverse
  else simpleLine rules

def block (rules : Rules) : Nat → Block
  | 0 => Parser.fail
  | n + 1 => blockStep rules (block rules n)

def all (rules : Rules) : Block := do
  let found ← repeated (fun acc => do
    if (← get).rest.isEmpty then return none
    else return some ((← statement rules (block rules (maxBlocks + 1))).reverse ++ acc)) []
  return found.reverse

end Unbundle.Grammar.Statement

namespace Unbundle.Grammar

def statementLevel : Nat := 4

def maxTreeDepth : Nat := 2982

/-- The tree of a source, as the list of its statements, or why it has none. -/
def parse (source : List Char) : Except Refusal (List Node) := do
  let (nodes, _) ← Statement.all Expression.rules (.start (tokens 1 source) 0 statementLevel)
  if maxTreeDepth ≤ Node.depthAll nodes then throw .deepTree else return nodes

end Unbundle.Grammar

namespace Unbundle.Grammar.Node

/-! ### Going through a tree -/

mutual

def preorder : Node → List Node
  | node@(name _) | node@(text _) | node@constant | node@(importNames _) | node@(importFrom ..) =>
    [node]
  | node@(member v _) | node@(starred v) | node@(keyword _ v) | node@(await v)
  | node@(discarded v) => node :: preorder v
  | node@(subscript v i) => node :: (preorder v ++ preorder i)
  | node@(call _ f args keywords) =>
    node :: (preorder f ++ preorderAll args ++ preorderAll keywords)
  | node@(list xs) | node@(tuple xs) | node@(compound xs) => node :: preorderAll xs
  | node@(function _ _ parameters body decorators returns) =>
    node :: (preorder parameters ++ preorderAll body ++ preorderAll decorators ++
      preorderAll returns)
  | node@(classDef _ _ bases keywords body decorators) =>
    node :: (preorderAll bases ++ preorderAll keywords ++ preorderAll body ++
      preorderAll decorators)

def preorderAll : List Node → List Node
  | [] => []
  | x :: xs => preorder x ++ preorderAll xs

end

/-- What a node is part of decides what becomes of its value: whether the node is a statement of its own,
whether its value is used, and whether it is awaited. Of an awaited value, the use is that of the
result. -/
structure Use where
  direct : Bool
  used : Bool
  awaited : Bool
  deriving DecidableEq, Repr

def Use.part : Use := ⟨true, true, false⟩

def useOfParts (node : Node) (use : Use) : Use :=
  match node with
  | discarded _ => ⟨false, false, false⟩
  | await _ => ⟨true, use.direct, true⟩
  | _ => .part

def usedParts (p : Node × Use) : List (Node × Use) :=
  p.1.parts.map fun part => (part, useOfParts p.1 p.2)

def levels : Nat → List (Node × Use) → List (Node × Use)
  | 0, _ => []
  | n + 1, ps => ps ++ levels n (ps.flatMap usedParts)

def walk (nodes : List Node) : List (Node × Use) :=
  levels (depthAll nodes) (nodes.map fun node => (node, Use.part))

end Unbundle.Grammar.Node
