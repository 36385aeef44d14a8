import Unbundle.Grammar.Formatted
import Unbundle.Grammar.Parser

/-!
# Expressions

Each rule is written for given readers of the expressions inside it; `read` ties them together.
A reader is asked for an inner expression only with more rules open, so their number bounds the
nesting. The numbers of levels are those of a grammar with a rule for every kind of operator and for
every repetition in brackets, counted from one operand to an operand inside it.
-/

namespace Unbundle.Grammar

open Grammar.Parser

/-- The expressions that a larger construct asks for. -/
inductive Rule where
  /-- Anything but a tuple without parentheses, a starred expression and an assignment. -/
  | expression
  | named
  /-- One or more expressions with commas, starred ones among them. -/
  | starExpressions
  /-- An expression without a conditional and a function literal at its top. -/
  | disjunction
  /-- A negation or comparison. -/
  | inversion
  | bitOr
  /-- A signed operand. -/
  | factor
  /-- A place to assign to, perhaps starred. -/
  | target
  /-- Everything that follows `yield`. -/
  | yieldTail
  deriving DecidableEq, Repr

abbrev Rules := Rule → Parser Node

def joined : List Node → Node
  | [x] => x
  | xs => .compound xs

/-- Reads a rule with `k` more rules open. -/
def Rules.inside (rules : Rules) (k : Nat) (r : Rule) : Parser Node := Parser.deeper k (rules r)

/-- Whether a list of things ends here. -/
def isCloser : Token.Kind → Bool
  | .op sign => sign == ")" || sign == "]" || sign == "\x7d"
  | _ => false

namespace Expression

/-! ### Literals -/

/-- How many rules are open at an operand of a text that is a list of expressions. -/
def expressionLevel : Nat := 21

/-- Reads the expression inside a formatted literal, which is a text of its own. -/
def subExpression (rules : Rules) (line : Nat) (cs : List Char) : Except Refusal Node := do
  let (node, after) ← rules .starExpressions (.start (tokens line cs) line expressionLevel)
  match after.rest with
  | [t] => if t.kind = .newline then return node else throw .malformed
  | _ => throw .malformed

def literals (rules : Rules) : Parser Node := do
  let found ← repeated (fun acc => do
    match ← peek with
    | some (.literal l) =>
      let t ← next
      return some ((l, t.line) :: acc)
    | _ => return none) []
  let ls := found.reverse
  let bytes := ls.any fun (l, _) => l.bytes
  if bytes && !ls.all (fun (l, _) => l.bytes) then fail
  else if ls.any fun (l, _) => l.formatted then
    let parts ← StateT.lift (ls.mapM fun (l, line) =>
      if l.formatted then Formatted.nodes (subExpression rules) l line
      else required (l.text?.map fun _ => []))
    return .compound parts.flatten
  else
    let texts ← StateT.lift (ls.mapM fun (l, _) => required l.text?)
    return if bytes then .constant else .text (String.ofList texts.flatten)

/-! ### Comprehensions -/

def targets (one : Parser Node) : Parser Node := do
  let (items, commas) ← commaList
    (fun k => k == .keyword "in" || k == .op "=") one (deeper 2 one)
  match items with
  | [x] => return if commas then .tuple [x] else x
  | xs => return .tuple xs

def atClause : Parser Bool := do
  match ← peekTwo with
  | (some (.keyword "for"), _) => return true
  | (some (.keyword "async"), some (.keyword "for")) => return true
  | _ => return false

/-- The clauses of a comprehension that is an argument; in brackets two more rules are open. -/
def clauses (rules : Rules) : Parser (List Node) := do
  let found ← repeated (fun acc => do
    if ← atClause then
      let _ ← word? "async"
      word "for"
      let target ← targets (rules.inside 9 .target)
      word "in"
      let source ← rules.inside 25 .disjunction
      let conditions ← repeated (fun cs => do
        if ← word? "if" then return some ((← rules.inside 27 .disjunction) :: cs)
        else return none) []
      return some (.compound (target :: source :: conditions.reverse) :: acc)
    else return none) []
  match found with
  | [] => fail
  | cs => return cs.reverse

/-! ### Parameters -/

structure Parameters where
  positionalOnly : List Node := []
  positional : List Node := []
  defaults : List Node := []
  rest : List Node := []
  keywordOnly : List Node := []
  keywordDefaults : List Node := []
  keywordRest : List Node := []
  slash : Bool := false
  star : Bool := false
  /-- A star without a name has been read and no parameter after it yet. -/
  bare : Bool := false

def Parameters.node (p : Parameters) : Node :=
  .compound (p.positionalOnly ++ p.positional ++ p.rest ++ p.keywordOnly ++ p.keywordDefaults ++
    p.keywordRest ++ p.defaults)

/-- A parameter's name with its annotation, which only some lists allow, and before which `k` more rules are
open. -/
def parameter (rules : Rules) (annotated starred : Bool) (k : Nat) : Parser Node := do
  let _ ← name
  if annotated then
    if ← op? ":" then
      if starred then
        if ← op? "*" then return .compound [.starred (← rules.inside (k - 4) .bitOr)]
      return .compound [← rules.inside k .expression]
  return .compound []

def parameterItem (rules : Rules) (annotated : Bool) (p : Parameters) : Parser Parameters := do
  if !p.keywordRest.isEmpty then fail
  else if ← op? "/" then
    if p.slash || p.star || p.positional.isEmpty then fail
    else return { p with positionalOnly := p.positional, positional := [], slash := true }
  else if ← op? "**" then
    if p.bare then fail
    else
      let node ← parameter rules annotated false 9
      return { p with keywordRest := [node] }
  else if ← op? "*" then
    if p.star then fail
    else if ← atOp "," then return { p with star := true, bare := true }
    else
      let node ← parameter rules annotated true 8
      return { p with rest := [node], star := true }
  else
    let k := if p.slash && !p.star then 7 else 8
    let node ← parameter rules annotated false (k + 1)
    let default? ← if ← op? "=" then some <$> rules.inside k .expression else pure none
    match p.star, default? with
    | true, _ => return { p with
        keywordOnly := p.keywordOnly ++ [node]
        keywordDefaults := p.keywordDefaults ++ default?.toList
        bare := false }
    | false, some d =>
      return { p with positional := p.positional ++ [node], defaults := p.defaults ++ [d] }
    | false, none =>
      if p.defaults.isEmpty then return { p with positional := p.positional ++ [node] } else fail

def parameters (rules : Rules) (annotated : Bool) (closing : String) : Parser Node := do
  if ← atOp closing then return .compound []
  else
    let first ← parameterItem rules annotated {}
    let (p, _) ← repeated (fun (p, ended) => do
      if ended then return none
      else if ← op? "," then
        if ← atOp closing then return some (p, true)
        else return some (← parameterItem rules annotated p, false)
      else return none) (first, false)
    if p.bare then fail
    else if ← atOp closing then return p.node
    else fail

/-! ### Arguments -/

/-- How far an argument list has come: places may not follow names, and stars may not follow maps. -/
inductive ArgumentStage where
  | places
  | names
  | maps
  deriving DecidableEq

/-- Reads one argument. `first` says how many rules are open at the first one of the list, if it is no
comprehension; the later ones are parts of a repetition. -/
def argument (rules : Rules) (first : Nat) (args keywords : List Node) (stage : ArgumentStage) :
    Parser (List Node × List Node × ArgumentStage) := do
  let named := 27 + (if args.isEmpty then 0 else 1) + (if keywords.isEmpty then 0 else 1)
  let placed := if args.isEmpty && keywords.isEmpty then 27 else 28
  match ← peekTwo with
  | (some (.name _), some (.op "=")) =>
    let id ← name
    let _ ← next
    let value ← rules.inside named .expression
    return (args, .keyword (some id) value :: keywords,
      if stage = .maps then .maps else .names)
  | (some (.op "**"), _) =>
    let _ ← next
    let value ← rules.inside (if stage = .names then named - 1 else named) .expression
    return (args, .keyword none value :: keywords, .maps)
  | (some (.op "*"), _) =>
    if stage = .maps then fail
    else
      let _ ← next
      let value ← rules.inside (if stage = .names then named + 1 else placed) .expression
      return (.starred value :: args, keywords, stage)
  | _ =>
    if stage ≠ .places then fail
    else
      let value ← rules.inside (if args.isEmpty then first else 28) .named
      if ← atOp "=" then fail else return (value :: args, keywords, stage)

/-- Reads arguments up to the closing parenthesis, which is taken. A comprehension may be the only
argument where `comprehension` allows it, and is then tried first. -/
def arguments (rules : Rules) (comprehension : Bool) : Parser (List Node × List Node) := do
  let first := if comprehension then 24 else 27
  if ← op? ")" then deeper first (return ([], []))
  else
    let (args, keywords, stage) ← argument rules first [] [] .places
    if ← atClause then
      match args, keywords with
      | [.starred _], _ => fail
      | [x], [] =>
        if !comprehension then fail
        else
          let cs ← clauses rules
          op ")"
          return ([.compound (x :: cs)], [])
      | _, _ => fail
    else
      let (args, keywords, _, _) ← repeated (fun (args, keywords, stage, ended) => do
        if ended then return none
        else if ← op? "," then
          if ← atOp ")" then return some (args, keywords, stage, true)
          else
            let (args, keywords, stage) ← argument rules first args keywords stage
            return some (args, keywords, stage, false)
        else return none) (args, keywords, stage, false)
      op ")"
      return (args.reverse, keywords.reverse)

/-! ### Subscripts -/

def bound (rules : Rules) (k : Nat) : Parser (List Node) := do
  match ← peek with
  | some (.op ":") | some (.op ",") | some (.op "]") => return []
  | _ => return [← rules.inside k .expression]

def atAssignment : Parser Bool := do
  match ← peekTwo with
  | (some (.name _), some (.op ":=")) => return true
  | _ => return false

def index (rules : Rules) : Parser Node := do
  let rest (lower : List Node) : Parser Node := do
    let upper ← bound rules 24
    let step ← if ← op? ":" then bound rules 25 else pure []
    return .compound (lower ++ upper ++ step)
  if ← op? ":" then rest []
  else if ← atAssignment then rules.inside 25 .named
  else
    let first ← rules.inside 24 .named
    if ← op? ":" then rest [first] else return first

def indices (rules : Rules) : Parser Node := do
  let item (k : Nat) : Parser (Node × Bool) := do
    if ← op? "*" then return (.starred (← rules.inside (26 + k) .expression), true)
    else return (← deeper k (index rules), false)
  let (items, commas) ← commaList isCloser (item 0) (item 3)
  op "]"
  match items with
  | [(x, false)] => return if commas then .tuple [x] else x
  | xs => return .tuple (xs.map Prod.fst)

/-! ### Atoms -/

/-- An element of a display with `k` more rules open; a starred one stands for an operand only. -/
def element (rules : Rules) (k : Nat) : Parser Node := do
  if ← op? "*" then return .starred (← rules.inside (k - 6) .bitOr) else rules.inside k .named

def isStarred : Node → Bool
  | .starred _ => true
  | _ => false

def bracketedClauses (rules : Rules) : Parser (List Node) := deeper 2 (clauses rules)

def parenthesized (rules : Rules) : Parser Node := do
  if ← op? ")" then deeper 28 (return .tuple [])
  else if ← word? "yield" then
    let node ← rules.inside 24 .yieldTail
    op ")"
    return node
  else
    let first ← element rules 28
    if ← atClause then
      if isStarred first then fail
      else
        let cs ← bracketedClauses rules
        op ")"
        return .compound (first :: cs)
    else if ← op? ")" then
      if isStarred first then fail else return first
    else
      op ","
      if ← op? ")" then return .tuple [first]
      else
        let (more, _) ← commaList isCloser (element rules 30) (element rules 31)
        op ")"
        return .tuple (first :: more)

def bracketed (rules : Rules) : Parser Node := do
  if ← op? "]" then deeper 29 (return .list [])
  else
    let first ← element rules 29
    if ← atClause then
      if isStarred first then fail
      else
        let cs ← bracketedClauses rules
        op "]"
        return .compound (first :: cs)
    else if ← op? "]" then return .list [first]
    else
      op ","
      if ← op? "]" then return .list [first]
      else
        let (more, _) ← commaList isCloser (element rules 30) (element rules 30)
        op "]"
        return .list (first :: more)

def entry (rules : Rules) : Parser (List Node × Node) := do
  if ← op? "**" then return ([], ← rules.inside 24 .bitOr)
  else
    let key ← rules.inside 30 .expression
    op ":"
    return ([key], ← rules.inside 30 .expression)

def entries (rules : Rules) (first : List Node × Node) : Parser Node := do
  let close (es : List (List Node × Node)) : Node :=
    .compound (es.flatMap Prod.fst ++ es.map Prod.snd)
  if ← op? "\x7d" then return close [first]
  else
    op ","
    if ← op? "\x7d" then return close [first]
    else
      let (more, _) ← commaList isCloser (entry rules) (entry rules)
      op "\x7d"
      return close (first :: more)

def braced (rules : Rules) : Parser Node := do
  if ← op? "\x7d" then deeper 29 (return .compound [])
  else if ← op? "**" then
    let value ← rules.inside 23 .bitOr
    entries rules ([], value)
  else
    let assignment ← atAssignment
    let first ← element rules 29
    if ← op? ":" then
      if assignment || isStarred first then fail
      else
        let value ← rules.inside 29 .expression
        if ← atClause then
          let cs ← bracketedClauses rules
          op "\x7d"
          return .compound (first :: value :: cs)
        else entries rules ([first], value)
    else if ← atClause then
      if isStarred first then fail
      else
        let cs ← bracketedClauses rules
        op "\x7d"
        return .compound (first :: cs)
    else if ← op? "\x7d" then return .compound [first]
    else
      op ","
      if ← op? "\x7d" then return .compound [first]
      else
        let (more, _) ← commaList isCloser (element rules 30) (element rules 30)
        op "\x7d"
        return .compound (first :: more)

def atom (rules : Rules) : Parser Node := do
  match ← peek with
  | some (.name _) => return .name (← name)
  | some (.literal _) => literals rules
  | some (.number _) =>
    let _ ← next
    return .constant
  | some (.keyword w) =>
    if w = "None" ∨ w = "True" ∨ w = "False" then
      let _ ← next
      return .constant
    else fail
  | some (.op sign) =>
    let _ ← next
    if sign = "(" then parenthesized rules
    else if sign = "[" then bracketed rules
    else if sign = "\x7b" then braced rules
    else if sign = "..." then return .constant
    else fail
  | _ => fail

/-! ### Operators -/

def primary (rules : Rules) : Parser Node := do
  let line ← peekLine
  atLead (do
    let first ← atom rules
    repeated (fun node => do
      if ← op? "." then
        return some (.member node (← name))
      else if ← op? "(" then
        let (args, keywords) ← arguments rules true
        return some (.call line node args keywords)
      else if ← op? "[" then
        return some (.subscript node (← indices rules))
      else return none) first)

def target (rules : Rules) : Parser Node := do
  if ← op? "*" then
    if ← atOp "*" then fail
    else
      let inner ← rules.inside 2 .target
      match inner with
      | .starred _ => fail
      | v => return .starred v
  else
    let node ← primary rules
    if node.isTarget && !isStarred node then return node else fail

def power (rules : Rules) : Parser Node := do
  let base ← if ← word? "await" then .await <$> primary rules else primary rules
  if ← op? "**" then return .compound [base, ← rules.inside 2 .factor] else return base

def factor (rules : Rules) : Parser Node := do
  match ← peek with
  | some (.op "+") | some (.op "-") | some (.op "~") =>
    let _ ← next
    return .compound [← rules.inside 1 .factor]
  | _ => power rules

def chain (signs : List String) (operand : Parser Node) : Parser Node := do
  let first ← operand
  repeated (fun left => do
    match ← peek with
    | some (.op sign) =>
      if signs.contains sign then
        let _ ← next
        return some (.compound [left, ← operand])
      else return none
    | _ => return none) first

def levels : List (List String) :=
  [["|"], ["^"], ["&"], ["<<", ">>"], ["+", "-"], ["*", "/", "//", "%", "@"]]

def bitOr (rules : Rules) : Parser Node :=
  levels.foldr chain (factor rules)

def comparator? : Parser Bool := do
  match ← peekTwo with
  | (some (.op sign), _) =>
    if ["==", "!=", "<=", "<", ">=", ">"].contains sign then
      let _ ← next
      return true
    else return false
  | (some (.keyword "in"), _) =>
    let _ ← next
    return true
  | (some (.keyword "not"), some (.keyword "in")) =>
    let _ ← next
    let _ ← next
    return true
  | (some (.keyword "is"), second) =>
    let _ ← next
    if second == some (.keyword "not") then
      let _ ← next
    return true
  | _ => return false

def comparison (rules : Rules) : Parser Node := do
  let first ← bitOr rules
  let operands ← repeated (fun acc => do
    if ← comparator? then return some ((← deeper 3 (bitOr rules)) :: acc) else return none) [first]
  return joined operands.reverse

def inversion (rules : Rules) : Parser Node := do
  if ← word? "not" then return .compound [← rules.inside 1 .inversion] else comparison rules

def wordChain (w : String) (operand : Parser Node) : Parser Node := do
  let first ← operand
  let operands ← repeated (fun acc => do
    if ← word? w then return some ((← deeper 2 operand) :: acc) else return none) [first]
  return joined operands.reverse

def disjunction (rules : Rules) : Parser Node :=
  wordChain "or" (wordChain "and" (inversion rules))

def lambdaTail (rules : Rules) : Parser Node := do
  let ps ← parameters rules false ":"
  op ":"
  return .compound [ps, ← rules.inside 2 .expression]

def expression (rules : Rules) : Parser Node := do
  if ← word? "lambda" then lambdaTail rules
  else
    let body ← disjunction rules
    if ← word? "if" then
      let test ← disjunction rules
      word "else"
      return .compound [test, body, ← rules.inside 1 .expression]
    else return body

def named (rules : Rules) : Parser Node := do
  if ← atAssignment then
    let id ← name
    op ":="
    return .compound [.name id, ← rules.inside 1 .expression]
  else
    let node ← expression rules
    if ← atOp ":=" then fail else return node

/-- One expression of a list, perhaps starred. A starred one stands for an operand only, so fewer rules
are open at it. -/
def starExpression (rules : Rules) : Parser Node := do
  if ← op? "*" then return .starred (← bitOr rules) else deeper 5 (expression rules)

def endsExpressions : Token.Kind → Bool
  | .newline => true
  | .op sign => [")", "]", "\x7d", "=", ":", ";", "+=", "-=", "*=", "/=", "//=", "%=", "@=", "&=", "|=",
      "^=", ">>=", "<<=", "**="].contains sign
  | _ => false

def starExpressions (rules : Rules) : Parser Node := do
  let (items, commas) ← commaList endsExpressions (starExpression rules)
    (deeper 2 (starExpression rules))
  match items with
  | [x] => return if commas then .tuple [x] else x
  | xs => return .tuple xs

def yieldTail (rules : Rules) : Parser Node := do
  if ← word? "from" then return .compound [← deeper 3 (expression rules)]
  else
    if (← peek).all endsExpressions then return .compound []
    else return .compound [← starExpressions rules]

def step (rules : Rules) : Rules
  | .expression => expression rules
  | .named => named rules
  | .starExpressions => starExpressions rules
  | .disjunction => disjunction rules
  | .inversion => inversion rules
  | .bitOr => bitOr rules
  | .factor => factor rules
  | .target => target rules
  | .yieldTail => yieldTail rules

def read : Nat → Rules
  | 0 => fun _ => Parser.fail
  | n + 1 => step (read n)

/-- The rules for all constructs. In a text fewer than `maxLevel` rules are open inside one another, and
there are four kinds of quotes, so that a formatted literal is inside at most three others. -/
def rules : Rules := read (5 * maxLevel)

end Expression

end Unbundle.Grammar
