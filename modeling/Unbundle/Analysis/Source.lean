import Unbundle.Files.Store
import Unbundle.Grammar.Statement
import Unbundle.Text.Pattern
import Unbundle.Value.Access

/-!
# Findings in a Python source

The definitions, routes and imports of a source. A method is recorded twice: by its class under the
name of the class, and for itself.
-/

namespace Unbundle.Analysis

/-! ### Tags -/

/-- The service a source file seems to use. The order is that of the names. -/
inductive Tag where
  | sdk
  | auth
  | table
  | upload
  deriving DecidableEq, Repr

namespace Tag

def text : Tag → String
  | sdk => "AWS_SDK"
  | auth => "Auth"
  | table => "DynamoDB"
  | upload => "FileUpload"

def all : List Tag := [sdk, auth, table, upload]

def marks : Tag → List String
  | sdk => ["boto3"]
  | auth => ["jwt", "jsonwebtoken"]
  | table => ["dynamodb", "dynamo", "putitem", "getitem", "updateitem", "deleteitem", ".table(",
      "batchwriteitem"]
  | upload => [
      "request.files", "fileupload", "file.save(", "werkzeug.datastructures.filestorage",
      "uploadfile", "fastapi.uploadfile", "form.file", "multipart/form-data", "input_file",
      "output_filemulter", "formidable", "busboy", "multiparty", "express-fileupload",
      "req.files", "req.file", "upload.single", "upload.array", "upload.fields",
      "file upload", "upload file", "image upload", "avatar upload", "document upload",
      "file_upload", "upload_file", "image_upload", "avatar_upload",
      "send_file", "send_from_directory", "static/uploads", "/uploads/",
      "fs.writefile", "fs.createwritestream", "pipe(fs.createwritestream",
      "enctype=\"multipart/form-data\"", "enctype='multipart/form-data'",
      "s3.upload", "s3.putobject", "upload_to_s3", "uploadtos3",
      "boto3.client('s3')", "boto3.resource('s3')",
      ".save(", ".upload(", "allowed_extensions", "allowed_files",
      "file_allowed", "check_file_extension"]

def fits (tag : Tag) (small : List Char) : Bool :=
  tag.marks.any fun m => Text.occursIn m.toList small

end Tag

def tags (source : List Char) : List Tag :=
  let small := Text.lower source
  Tag.all.filter fun t => t.fits small

def tagNames (source : List Char) : List String := (tags source).map Tag.text

/-! ### Records of an analysis -/

inductive SymbolKind where
  | function
  | classDecl
  | routeHandler
  | eventHandler
  deriving DecidableEq, Repr

def SymbolKind.text : SymbolKind → String
  | function => "function"
  | classDecl => "class"
  | routeHandler => "route_handler"
  | eventHandler => "event_handler"

/-- A definition: its full name, its file and its lines. Only scripts have a kind. -/
structure Symbol where
  id : String
  file : String
  firstLine : Nat
  lastLine : Nat
  kind : Option SymbolKind
  deriving DecidableEq, Repr

def Symbol.toValue (s : Symbol) : Value :=
  .map ([("id", .text s.id), ("file_path", .text s.file), ("start_line", .int s.firstLine),
    ("end_line", .int s.lastLine)] ++ s.kind.toList.map fun k => ("kind", .text k.text))

/-- A web route and the function that serves it. -/
structure EntryPoint where
  file : String
  method : String
  path : String
  handler : String
  deriving DecidableEq, Repr

def EntryPoint.toValue (e : EntryPoint) : Value :=
  .map [("file", .text e.file), ("method", .text e.method), ("path", .text e.path),
    ("handler_function", .text e.handler)]

structure FileFindings where
  path : String
  tags : List String
  dependencies : List String
  entryPoints : List EntryPoint
  symbols : List Symbol
  deriving Repr

def FileFindings.toValue (f : FileFindings) : Value :=
  .map [("rel_path", .text f.path), ("tags", .ofTexts f.tags),
    ("dependencies", .ofTexts f.dependencies),
    ("entry_points", .list (f.entryPoints.map EntryPoint.toValue)),
    ("symbols", .list (f.symbols.map Symbol.toValue))]

/-- Calls from a function to a name of another file: the line of the first one, whether the result of
some call is used, and whether some call is awaited. -/
structure CallEdge where
  file : String
  caller : String
  line : Nat
  target : String
  symbol : String
  used : Bool
  awaited : Bool
  deriving DecidableEq, Repr

namespace CallEdge

def toValue (e : CallEdge) : Value :=
  .map [("caller_file", .text e.file), ("caller_function", .text e.caller),
    ("caller_line", .int e.line), ("callee_module", .text e.target),
    ("callee_symbol", .text e.symbol), ("return_value_used", .bool e.used),
    ("is_awaited", .bool e.awaited)]

def key (e : CallEdge) : String × String × String := (e.caller, e.target, e.symbol)

/-- The edges with one more call: it joins the edge of its key, or becomes the last edge. -/
def merge (e : CallEdge) : List CallEdge → List CallEdge
  | [] => [e]
  | f :: fs =>
    if f.key = e.key then
      { f with used := f.used || e.used, awaited := f.awaited || e.awaited } :: fs
    else f :: merge e fs

def mergeAll (calls : List CallEdge) : List CallEdge :=
  calls.foldl (fun edges e => merge e edges) []

end CallEdge

def sorted (xs : List String) : List String :=
  xs.eraseDups.mergeSort fun a b => decide (a ≤ b)

def qualify (app : Option String) (path : String) : String :=
  match app with
  | none | some "" => path
  | some a => s!"{a}/{path}"

/-! ### The tree that an analysis works on -/

open Grammar (Node)

/-- The statements of a source; none if it is not well formed. -/
def sourceNodes (source : List Char) : Except Fault (List Node) :=
  match Grammar.parse source with
  | .ok nodes => .ok nodes
  | .error .malformed => .ok []
  | .error .deepRules => .error (.nesting .rules)
  | .error .deepTree => .error (.nesting .tree)

mutual

/-- How many steps inside one another it takes to visit a node and what is below it. A visit is a step,
and so is going through the parts; definitions are looked at in a step of their own. The way in which a
name, list or tuple is used counts as a part of it. -/
def visitSteps : Node → Nat
  | .text _ | .constant | .importNames _ | .importFrom .. => 3
  | .name _ => 5
  | .member v _ | .starred v | .keyword _ v | .await v | .discarded v => visitSteps v + 2
  | .subscript v i => max (visitSteps v) (visitSteps i) + 2
  | .call _ f args keywords =>
    max (visitSteps f) (max (visitStepsAll args) (visitStepsAll keywords)) + 2
  | .list xs | .tuple xs => max 3 (visitStepsAll xs) + 2
  | .compound xs => visitStepsAll xs + 2
  | .function _ _ parameters body decorators returns =>
    max (visitSteps parameters)
      (max (visitStepsAll body) (max (visitStepsAll decorators) (visitStepsAll returns))) + 3
  | .classDef _ _ bases keywords body decorators =>
    max (visitStepsAll bases)
      (max (visitStepsAll keywords) (max (visitStepsAll body) (visitStepsAll decorators))) + 3

def visitStepsAll : List Node → Nat
  | [] => 1
  | x :: xs => max (visitSteps x) (visitStepsAll xs)

end

def maxSteps : Nat := 993

def visitableNodes (source : List Char) : Except Fault (List Node) := do
  let nodes ← sourceNodes source
  if maxSteps < visitStepsAll nodes then throw (.nesting .steps) else return nodes

/-! ### Findings in a Python source -/

open Files (Path)

def joinName (app : Option String) (parts : List String) : String :=
  match app with
  | none | some "" => String.intercalate "." parts
  | some a => String.intercalate "." (a :: parts)

def moduleName (root file : Path) (app : Option String) : Except Fault String := do
  let rel ← file.relativeTo root
  return joinName app (← rel.withoutSuffix).parts

structure Origin where
  file : String
  moduleName : String

def functionSymbol (o : Origin) (parent : Option String) : Node → List Symbol
  | .function name span .. =>
    let id := match parent with
      | some c => s!"{o.moduleName}.{c}.{name.text}"
      | none => s!"{o.moduleName}.{name.text}"
    [⟨id, o.file, span.first, span.last, none⟩]
  | _ => []

def nodeSymbols (o : Origin) : Node → List Symbol
  | .classDef name span _ _ body _ =>
    ⟨s!"{o.moduleName}.{name.text}", o.file, span.first, span.last, none⟩ ::
      body.flatMap (functionSymbol o (some name.text))
  | node => functionSymbol o none node

def literal? : Node → Option String
  | .text s => some s
  | _ => none

def literals : Node → List String
  | .list xs | .tuple xs => xs.filterMap literal?
  | _ => []

def routePath? (args : List Node) : Option String :=
  (args.head?.bind literal?).filter (· != "")

def routeMethods : List String := ["get", "post", "put", "delete", "patch"]

/-- The method that the named arguments of a route choose: the last text of the last list of methods,
in capital letters. -/
def chosenMethod (keywords : List Node) : String :=
  let named := keywords.flatMap fun
    | .keyword (some "methods") value => literals value
    | _ => []
  (named.getLast?.map Text.uppercase).getD "GET"

def route? : Node → Option (String × String)
  | .call _ (.member (.name _) attr) args keywords =>
    let small := Text.lowercase attr
    if small = "route" then (routePath? args).map fun p => (chosenMethod keywords, p)
    else if routeMethods.contains small then
      (routePath? args).map fun p => (Text.uppercase small, p)
    else none
  | _ => none

def functionEntries (o : Origin) : Node → List EntryPoint
  | .function name _ _ _ decorators _ =>
    (decorators.filterMap route?).map fun (method, path) => ⟨o.file, method, path, name.text⟩
  | _ => []

def nodeEntries (o : Origin) : Node → List EntryPoint
  | .classDef _ _ _ _ body _ => body.flatMap (functionEntries o)
  | node => functionEntries o node

def nodeImports : Node → List String
  | .importNames aliases => aliases.map fun a => a.name
  | .importFrom _ source _ => source.toList
  | _ => []

def findings (o : Origin) (tags : List String) (nodes : List Node) : FileFindings :=
  let all := Node.preorderAll nodes
  { path := o.file
    tags := tags
    dependencies := sorted (all.flatMap nodeImports)
    entryPoints := all.flatMap (nodeEntries o)
    symbols := all.flatMap (nodeSymbols o) }

/-- The findings in a Python source. One that is not well formed has tags only. -/
def sourceFindings (o : Origin) (source : List Char) : Except Fault FileFindings := do
  return findings o (tagNames source) (← visitableNodes source)

/-! ### Calls in a Python source -/

open Grammar (Node)
open Files (Location Path)

abbrev Imports := List (String × String)

def bind (name source : String) : Imports → Imports
  | [] => [(name, source)]
  | (n, s) :: rest => if n = name then (n, source) :: rest else (n, s) :: bind name source rest

def sourceOf? (name : String) : Imports → Option String
  | [] => none
  | (n, s) :: rest => if n = name then some s else sourceOf? name rest

def nodeBindings : Node → List (String × String)
  | .importFrom _ (some source) aliases => aliases.map fun a => (a.bound, source)
  | .importNames aliases => aliases.map fun a => (a.bound, a.name)
  | _ => []

def importsOf (nodes : List Node) : Imports :=
  ((Node.walk nodes).flatMap fun (node, _) => nodeBindings node).foldl
    (fun acc (name, source) => bind name source acc) []

/-- Whether a module is a file or a package of the project. The package is looked for only if there is
no such file. -/
def isLocal (root : Location) (source : String) : Except Fault Bool := do
  let names := (Text.splitOn '.' source.toList).map String.ofList
  let file := names.dropLast ++ [names.getLastD "" ++ ".py"]
  if (← root.look ⟨"", file⟩).isSome then return true
  else return (← root.look ⟨"", names ++ ["__init__.py"]⟩).isSome

def localImports (root : Location) (nodes : List Node) : Except Fault Imports :=
  (importsOf nodes).filterM fun (_, source) => isLocal root source

def callee? (imports : Imports) : Node → Option (String × String)
  | .member (.name obj) attr => (sourceOf? obj imports).map fun s => (s, s!"{obj}.{attr}")
  | .name id => (sourceOf? id imports).map fun s => (s, id)
  | _ => none

def callSite? (file caller : String) (imports : Imports) : Node × Node.Use → Option CallEdge
  | (.call line func _ _, use) =>
    (callee? imports func).map fun (target, symbol) =>
      ⟨file, caller, line, target, symbol, use.used, use.awaited⟩
  | _ => none

def functionCalls (file : String) (imports : Imports) : Node → List CallEdge
  | node@(.function name ..) => (Node.walk [node]).filterMap (callSite? file name.text imports)
  | _ => []

def nodeCalls (root : Location) (file : String) (nodes : List Node) :
    Except Fault (List CallEdge) := do
  let imports ← localImports root nodes
  return CallEdge.mergeAll
    ((Node.walk nodes).flatMap fun (node, _) => functionCalls file imports node)

def sourceCalls (root : Location) (file : String) (source : List Char) :
    Except Fault (List CallEdge) := do
  nodeCalls root file (← sourceNodes source)

/-! ## Findings in a script -/

/-! ### Ends of functions in scripts -/

/-- The parts of a line between marks of one kind, put together again without the quoted ones; a mark
without a partner stays. -/
def joinUnquoted (mark : Char) : List (List Char) → List Char
  | [] => []
  | [part] => part
  | [part, rest] => part ++ mark :: rest
  | part :: _ :: rest => part ++ joinUnquoted mark rest

def dropQuoted (mark : Char) (line : List Char) : List Char :=
  joinUnquoted mark (Text.splitOn mark line)

def bareLine (line : List Char) : List Char :=
  dropQuoted '\x60' (dropQuoted '"' (dropQuoted '\'' line))

structure Depth where
  open_ : Int
  started : Bool

def Depth.after? (d : Depth) : List Char → Option Depth
  | [] => some d
  | c :: cs =>
    if c = '{' then Depth.after? ⟨d.open_ + 1, true⟩ cs
    else if c = '}' then
      if d.started && d.open_ == 1 then none else Depth.after? ⟨d.open_ - 1, d.started⟩ cs
    else Depth.after? d cs

def closing? (d : Depth) (index : Nat) : List (List Char) → Option Nat
  | [] => none
  | line :: lines =>
    match d.after? (bareLine line) with
    | none => some index
    | some e => closing? e (index + 1) lines

def searchedLines : Nat := 1002

def functionLength (lines : List (List Char)) : Nat :=
  match closing? ⟨0, false⟩ 0 (lines.take searchedLines) with
  | some k => k + 1
  | none => 2

/-- The last line of the function that starts at an index. A negative index counts from the end, and
the search then goes on from the first line. -/
def functionEnd (lines : List (List Char)) (start : Int) : Except Fault Int :=
  if 0 ≤ start then .ok (start + functionLength (lines.drop start.toNat))
  else if lines.length < (-start).toNat then .error .outOfRange
  else .ok (start + functionLength (lines.drop (lines.length - (-start).toNat) ++ lines))

/-! ### Findings in a script -/

open Text (Pattern)
open Text.Pattern

def isNameChar (c : Char) : Bool := c.isAlphanum || c == '_' || c == '$'

def nameGroup : Pattern := group (many isNameChar 1)

/-! ### Imports and routes -/

def dependencyPatterns : List Pattern := [
  sequence [word "require(", quoted, char ')'],
  sequence [word "from", gap, quoted],
  sequence [word "import", gap, many (fun c => !isQuote c) 1, quoted]]

def scriptDependencies (source : List Char) : List String :=
  sorted ((dependencyPatterns.flatMap fun p => p.findAll source).flatMap fun m =>
    m.groups.map String.ofList)

/-- A route of an application or a router, in any case: who serves it, its method and its path. A
handler must follow. -/
def routePattern : Pattern := sequence [
  edge, group (either (wordAnyCase "app") (wordAnyCase "router")), char '.',
  group (choice (routeMethods.map wordAnyCase)), blanks, char '(', blanks, quoted, blanks,
  char ',', blanks, many (fun c => isNameChar c || c == '.' || isLetter 's' c || isLetter 'k' c ||
    isLetter 'i' c) 1]

/-- The name of the handler of a route: its method and its path, with the slashes and colons of the
path written as low lines. -/
def handlerName (method : String) (path : List Char) : String :=
  let name := Text.replaceChar ':' '_' (Text.replaceChar '/' '_' path)
  s!"{method}_{String.ofList name}"

def scriptEntries (file : String) (source : List Char) : List EntryPoint :=
  (routePattern.findAll source).filterMap fun m =>
    match m.groups with
    | [_, method, path] =>
      let method := String.ofList (Text.upper method)
      some ⟨file, method, String.ofList path, handlerName method path⟩
    | _ => none

/-! ### Definitions -/

def optionalWord (s : String) : Pattern := maybe (seq (word s) gap)

/-- Whether a value is a function: the keyword, or parameters and an arrow, perhaps asynchronous. -/
def functionValue : Pattern := sequence [
  maybe (seq (word "async") blanks),
  either (seq (word "function") edge)
    (sequence [char '(', many (· != ')') 0, char ')', blanks, word "=>"])]

def functionPattern : Pattern := sequence [
  atStart, blanks, optionalWord "async", optionalWord "export", word "function", gap, nameGroup,
  blanks, char '(']

def classPattern : Pattern := sequence [
  atStart, blanks, optionalWord "export", word "class", gap, nameGroup, edge]

def constantPattern : Pattern := sequence [
  atStart, blanks, optionalWord "export", choice [word "const", word "let", word "var"], gap,
  nameGroup, blanks, char '=', blanks, functionValue]

def routeLinePattern : Pattern := sequence [
  atStart, blanks, either (word "router") (word "app"), char '.',
  group (choice ((routeMethods ++ ["use"]).map word)), blanks, char '(', blanks, quoted]

def listenerPattern : Pattern := sequence [
  atStart, blanks, nameGroup, word ".on", blanks, char '(', blanks, quoted]

def exportPattern : Pattern := sequence [
  atStart, blanks, maybe (word "module."), word "exports.", nameGroup, blanks, char '=', blanks,
  functionValue]

def methodPattern : Pattern := sequence [
  atStart, blanks, optionalWord "async", nameGroup, blanks, char '(', many (· != ')') 0, char ')',
  blanks, char '{']

def controlWords : List String := ["if", "for", "while", "switch", "catch", "with"]

def groupsOn (p : Pattern) (line : List Char) : Option (List (List Char)) :=
  (p.find? line).map fun m => m.groups

/-- The name and kind of the definition on a line. The patterns are tried in turn, and the first that
fits decides. -/
def definition? (line : List Char) : Option (String × SymbolKind) :=
  match groupsOn functionPattern line with
  | some gs => some (String.ofList gs.flatten, .function)
  | none =>
  match groupsOn classPattern line with
  | some gs => some (String.ofList gs.flatten, .classDecl)
  | none =>
  match groupsOn constantPattern line with
  | some gs => some (String.ofList gs.flatten, .function)
  | none =>
  match groupsOn routeLinePattern line with
  | some (method :: path) =>
    some (handlerName (String.ofList (Text.upper method)) path.flatten, .routeHandler)
  | some [] => none
  | none =>
  match groupsOn listenerPattern line with
  | some (object :: event) =>
    some (s!"{String.ofList object}_on_{String.ofList event.flatten}", .eventHandler)
  | some [] => none
  | none =>
  match groupsOn exportPattern line with
  | some gs => some (String.ofList gs.flatten, .function)
  | none =>
  match groupsOn methodPattern line with
  | some gs =>
    let name := String.ofList gs.flatten
    if controlWords.contains name then none else some (name, .function)
  | none => none

/-- The symbols of some lines, the first of which has number `line`. -/
def lineSymbols (o : Origin) (line : Nat) : List (List Char) → List Symbol
  | [] => []
  | l :: ls =>
    let rest := lineSymbols o (line + 1) ls
    match definition? l with
    | some (name, kind) =>
      ⟨s!"{o.moduleName}.{name}", o.file, line, line - 1 + functionLength (l :: ls), some kind⟩ ::
        rest
    | none => rest

def scriptFindings (o : Origin) (source : List Char) : FileFindings :=
  { path := o.file
    tags := tagNames source
    dependencies := scriptDependencies source
    entryPoints := scriptEntries o.file source
    symbols := lineSymbols o 1 (Text.lines source) }

/-! ### Calls in a script -/

/-! ### The function around a line

Of the symbols whose lines contain a line the one with the fewest lines counts, and of several the
first. Symbols are given as values, since they may come from a report that someone else wrote. -/

/-- What stands for the function around a line outside all functions. -/
def moduleLevel : String := "(module-level)"

/-- The tightest symbol so far: its name and the number of lines after its first one. -/
structure Tightest where
  name : Option String
  span : Value

def Tightest.consider (best : Tightest) (line : Int) (symbol : Value) : Except Fault Tightest := do
  let first ← symbol.getD "start_line" (.int 0)
  let last ← symbol.getD "end_line" (.int 0)
  if ← first.related .le (.int line) then
    if ← (Value.int line).related .le last then
      let span ← last.sub first
      if ← span.related .lt best.span then
        let id ← (← symbol.field "id").textFor "rsplit"
        return ⟨some (String.ofList (Text.afterLast '.' id.toList)), span⟩
  return best

def enclosing (symbols : List Value) (line : Int) : Except Fault String := do
  let start : Tightest := ⟨none, .float (1.0 / 0.0)⟩
  let best ← symbols.foldlM (fun (best : Tightest) s => best.consider line s) start
  match best.name with
  | some "" | none => return moduleLevel
  | some name => return name

open Text (Pattern)
open Text.Pattern

/-! ### Imported names -/

def isNameStart (c : Char) : Bool := c.isAlpha || c == '_' || c == '$'

def relativeModule : Pattern :=
  sequence [quote, group (seq (char '.') (many (fun c => !isQuote c) 1)), quote]

def declares : Pattern := choice [word "const", word "let", word "var"]

def namesInBraces : Pattern := sequence [char '{', group (many (· != '}') 1), char '}']

def singleName : Pattern := group (seq (one isNameStart) (many isNameChar 0))

def required : Pattern := sequence [
  blanks, char '=', blanks, word "require(", blanks, relativeModule, blanks, char ')']

def requiredNames : Pattern := sequence [declares, blanks, namesInBraces, required]

def requiredModule : Pattern := sequence [declares, gap, singleName, required]

def importedNames : Pattern :=
  sequence [word "import", blanks, namesInBraces, blanks, word "from", blanks, relativeModule]

def importedModule : Pattern :=
  sequence [word "import", gap, singleName, gap, word "from", blanks, relativeModule]

def afterLastOf (sep : List Char) (fuel : Nat) (cs : List Char) : List Char :=
  match fuel with
  | 0 => cs
  | n + 1 =>
    match Text.cutAt? sep cs with
    | some (_, rest) => afterLastOf sep n rest
    | none => cs

def requiredName (cs : List Char) : List Char :=
  Text.trim (Text.afterLast ' ' (Text.trim (Text.afterLast ':' (Text.trim cs))))

def importedName (cs : List Char) : List Char :=
  Text.trim (afterLastOf " as ".toList cs.length (Text.trim cs))

def listedNames (nameOf : List Char → List Char) (cs : List Char) : List String :=
  ((Text.splitOn ',' cs).map nameOf).filterMap fun n =>
    if n.head?.any isNameStart then some (String.ofList n) else none

def bindings (p : Pattern) (names : List Char → List String) (source : List Char) :
    List (String × String) :=
  (p.findAll source).flatMap fun m =>
    match m.groups with
    | [listed, target] => (names listed).map fun n => (n, String.ofList target)
    | _ => []

def bindNew (name source : String) (imports : Imports) : Imports :=
  if (sourceOf? name imports).isSome then imports else imports ++ [(name, source)]

/-- The names that a script takes from other files of the project. Among names taken out of required
modules the last module counts, otherwise the first. -/
def scriptImports (source : List Char) : Imports :=
  let first := (bindings requiredNames (listedNames requiredName) source).foldl
    (fun acc (n, s) => bind n s acc) []
  let others := bindings requiredModule (fun n => [String.ofList n]) source ++
    bindings importedNames (listedNames importedName) source ++
    bindings importedModule (fun n => [String.ofList n]) source
  others.foldl (fun acc (n, s) => bindNew n s acc) first

/-! ### Calls -/

def methodCall (name : String) : Pattern :=
  sequence [edge, word name, char '.', singleName, blanks, char '(']

/-- `name(`, unless a point or a word character stands before it. -/
def directCall (name : String) : Pattern :=
  sequence [unlessAfter (fun c => c == '.' || Text.isWord c), word name, blanks, char '(']

def awaitedEnd : Pattern := sequence [blanks, maybe (seq (word "await") blanks), atEnd]

def assigns : Pattern := seq (char '=') (unlessBefore (· == '='))

/-- What stands before a call whose result is used: a declaration, an assignment or a return. -/
def usePattern : Pattern := choice [
  sequence [declares, gap, many (· != '\n') 1, assigns, awaitedEnd],
  sequence [one isNameStart, many (fun c => Text.isWord c || c == '$' || c == '.') 0, blanks,
    unlessAfter (· == '='), assigns, awaitedEnd],
  sequence [edge, word "return", awaitedEnd]]

def awaitPattern : Pattern := sequence [edge, word "await", edge]

structure ScriptCall where
  symbol : String
  lead : List Char

/-- The calls of an imported name on a line: those of its methods, then those of itself. -/
def callsOn (name : String) (line : List Char) : List ScriptCall :=
  ((methodCall name).findAll line).map (fun m =>
    ⟨s!"{name}.{String.ofList m.groups.flatten}", line.take m.start⟩) ++
  ((directCall name).findAll line).map fun m => ⟨name, line.take m.start⟩

def ScriptCall.toEdge (file caller : String) (line : Nat) (target : String) (c : ScriptCall) :
    CallEdge :=
  let lead := Text.trimEnd c.lead
  ⟨file, caller, line, target, c.symbol, usePattern.occurs lead, awaitPattern.occurs lead⟩

def callsOfName (file : String) (callerAt : Int → Except Fault String) (name target : String)
    (line : Nat) : List (List Char) → Except Fault (List CallEdge)
  | [] => .ok []
  | l :: ls => do
    let found ← (callsOn name l).mapM fun c => do
      return c.toEdge file (← callerAt line) line target
    return found ++ (← callsOfName file callerAt name target (line + 1) ls)

/-- The call edges of a script. `callerAt` gives the function around a line. -/
def scriptCalls (file : String) (callerAt : Int → Except Fault String) (source : List Char) :
    Except Fault (List CallEdge) := do
  let lines := Text.lines source
  let found ← (scriptImports source).mapM fun (name, target) =>
    callsOfName file callerAt name target 1 lines
  return CallEdge.mergeAll found.flatten

end Unbundle.Analysis
