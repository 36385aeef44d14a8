import Unbundle.Analysis.Source
import Unbundle.Json.Write

/-!
# The report on a project

All source files of a project are analysed one by one; then the calls between them are gathered, by
caller and by entry point.
-/

open Unbundle.Text

namespace Unbundle.Analysis

open Files
open Text (Pattern)
open Text.Pattern

/-! ## Database tables -/

/-! ### Files that define tables -/

def ignoredFolders : List String := [
  "frontend", "client", "public", "routes", "views", "controllers", "middleware", "components",
  "pages", "src/components", "src/pages"]

def setupMarks : List String := [
  "init-db", "init_db", "init_dynamodb", "initdb", "setup-db", "setup_db", "setup_dynamodb",
  "create-tables", "create_tables", "createtables", "_tables.py"]

def databaseFiles : List String := [
  "db.js", "db.py", "database.js", "database.py", "dynamodb.js", "dynamodb.py", "models.py"]

def databaseFolders : List String := ["config", "database", "utils", "services", "app/models", ""]

def priority (path : String) : Nat :=
  let p := Path.ofText path
  let file := lowercase p.name
  let parts := ((if p.root = "" then [] else [p.root]) ++ p.parts).map lowercase
  if ignoredFolders.any parts.contains then 99
  else if setupMarks.any fun m => occursIn m.toList file.toList then 1
  else if databaseFiles.contains file &&
      (databaseFolders.contains (parts.dropLast.getLastD "") || parts.length == 1 ||
        parts.contains "database") then 2
  else 50

def comesBefore (a b : Nat × String) : Bool :=
  a.1 < b.1 || (a.1 == b.1 && decide (a.2 ≤ b.2))

def schemaFiles (files : List String) : List String :=
  let ranked := (files.map fun f => (priority f, f)).filter fun p => p.1 < 99
  ((ranked.mergeSort comesBefore).take 3).map Prod.snd

/-! ### Names of tables -/

def isVariableChar (c : Char) : Bool := c.isUpper || c == '_'

def tableVariable : Pattern := sequence [many isVariableChar 0, word "TABLE", many isVariableChar 0]

def variableWithDefault (getter : String) : Pattern := sequence [
  word getter, blanks, char '(', blanks, quote, tableVariable, quote, blanks, char ',', blanks,
  quoted, blanks, char ')']

def tableEntities : List String :=
  ["todo", "user", "order", "product", "cart", "booking", "flight", "loyalty"]

/-- The five ways in which a source names a table; the name is the only group of each. -/
def tablePatterns : List Pattern := [
  variableWithDefault "environ.get",
  variableWithDefault "getenv",
  sequence [word "process.env.", tableVariable, blanks, word "||", blanks, quoted],
  sequence [one (fun c => c == 'T' || c == 't'), word "ableName", blanks,
    one (fun c => c == '=' || c == ':'), blanks, quoted],
  sequence [choice (tableEntities.map wordAnyCase), wordAnyCase "_table", blanks, char ':', blanks,
    quoted]]

def tableNames (source : List Char) : List String :=
  (tablePatterns.flatMap fun p => p.findAll source).flatMap fun m => m.groups.map String.ofList

structure TableInfo where
  used : Bool
  tables : List String
  schemaFiles : List String
  deriving DecidableEq, Repr

def TableInfo.toValue (i : TableInfo) : Value :=
  .map [("used", .bool i.used), ("probable_tables", .ofTexts i.tables),
    ("schema_files", .ofTexts i.schemaFiles)]

/-- The names of tables in a file below a folder. Warns of what cannot be read. A file that does not exist
has none. -/
def tablesInFile (root : Location) (file : String) : Printing (List String) := do
  let path := Path.ofText file
  match ← Printing.silent (root.look path) with
  | none => return []
  | some (.file content) => return tableNames (lenientText content)
  | some (.folder _) =>
    let reason := (Fault.file .isDirectory (root.path.join path).toText).message
    Printing.line s!"Warning: Failed to extract table names from {file}: {reason}"
    return []

def tableFiles (fileTags : Value) : Except Fault (List String) := do
  let found ← (← fileTags.fields).mapM fun (file, tags) => do
    return if ← tags.holdsName "DynamoDB" then [file] else []
  return found.flatten

def tableInfo (root : Location) (fileTags : Value) : Printing TableInfo := do
  match ← Printing.silent (tableFiles fileTags) with
  | [] => return ⟨false, [], []⟩
  | files =>
    let found ← files.mapM (tablesInFile root)
    return ⟨true, sorted found.flatten, schemaFiles files⟩

/-! ## The report on a project -/

/-! ### Drawing a project -/

def ignoredNames : List String := [
  "venv", "env", ".venv", "__pycache__", "node_modules", ".git", ".idea", ".vscode", "dist", "build",
  ".pytest_cache", ".mypy_cache", "htmlcov", ".tox", "eggs", ".eggs", "coverage"]

def isHidden (name : String) : Bool := name.toList.head? == some '.'

def isVisible (name : String) : Bool := !isHidden name && !ignoredNames.contains name

mutual

def visible : Entry → Entry
  | .file content => .file content
  | .folder es => .folder (visibleEntries es)

def visibleEntries : List (String × Entry) → List (String × Entry)
  | [] => []
  | (name, e) :: es =>
    if isVisible name then Entry.place name (visible e) (visibleEntries es) else visibleEntries es

end

mutual

def drawInside (indent : String) : Entry → List String
  | .file _ => []
  | .folder es => drawEntries indent es

def drawEntries (indent : String) : List (String × Entry) → List String
  | [] => []
  | [(name, e)] => s!"{indent}└── {name}" :: drawInside s!"{indent}    " e
  | (name, e) :: es =>
    s!"{indent}├── {name}" :: (drawInside s!"{indent}│   " e ++ drawEntries indent es)

end

def drawing (project : Location) : Except Fault String := do
  let first := s!"{project.path.name}/"
  match project.entry with
  | none => return first
  | some _ =>
    return String.intercalate "\n" (first :: drawEntries "" (visibleEntries (← project.entries)))

/-! ### Declared dependencies -/

structure Requirement where
  name : String
  version : Option String
  deriving DecidableEq, Repr

def Requirement.toValue (r : Requirement) : Value :=
  .map [("name", .text r.name), ("version", .ofText? r.version)]

/-- The requirement on a line without blanks at its ends: the name stands before the first `==`, or
else before the first `>=`, which then belongs to the version. -/
def requirement (line : List Char) : Requirement :=
  match cutAt? "==".toList line with
  | some (name, version) =>
    ⟨String.ofList (trim name), some (String.ofList (trim version))⟩
  | none =>
    match cutAt? ">=".toList line with
    | some (name, version) =>
      ⟨String.ofList (trim name), some (">=" ++ String.ofList (trim version))⟩
    | none => ⟨String.ofList line, none⟩

def requirement? (line : List Char) : Option Requirement :=
  match trim line with
  | [] => none
  | '#' :: _ => none
  | cs => some (requirement cs)

def requirements (source : List Char) : List Requirement :=
  (fileLines source).filterMap requirement?

def fileContent? (project : Location) (name : String) : Except Fault (Option (List UInt8)) :=
  match project.find? [name] with
  | none => .ok none
  | some (.file content) => .ok (some content)
  | some (.folder _) => .error (.file .isDirectory (project.path.child name).toText)

/-- A field of packages and versions as a list of records, if it is there and not empty. -/
def packageField (package : Value) (name : String) : Except Fault (List (String × Value)) := do
  if ← package.holdsName name then
    let found ← package.field name
    if found.truthy then
      let records := (← found.fields).map fun (k, v) => Value.map [("name", .text k), ("version", v)]
      return [(name, .list records)]
  return []

/-- The packages declared in `package.json`; nothing if it is not well formed. -/
def packages (source : List Char) : Except Fault (List (String × Value)) :=
  match Json.read source with
  | .error (.malformed _) => .ok []
  | .error e => .error (.ofJson e)
  | .ok package => do
    let used ← packageField package "dependencies"
    return used ++ (← packageField package "devDependencies")

def declaredRequirements (project : Location) : Except Fault (List (String × Value)) := do
  match ← fileContent? project "requirements.txt" with
  | none => return []
  | some content =>
    match requirements (← blockText content) with
    | [] => return []
    | rs => return [("python_dependencies", .list (rs.map Requirement.toValue))]

def declaredPackages (project : Location) : Except Fault (List (String × Value)) := do
  match ← fileContent? project "package.json" with
  | none => return []
  | some content =>
    match ← packages (← strictText content) with
    | [] => return []
    | fs => return [("nodejs_dependencies", .map fs)]

def declared (project : Location) : Except Fault (List (String × Value)) := do
  let python ← declaredRequirements project
  return python ++ (← declaredPackages project)

/-! ### Calls by entry point -/

/-- Values grouped by keys of two values; groups and members are in the order of their arrival. -/
abbrev Groups := List ((Value × Value) × List Value)

def sameKey (a b : Value × Value) : Bool := a.1.same b.1 && a.2.same b.2

def pairKey (a b : Value) : Except Fault (Value × Value) := do
  a.hashable
  b.hashable
  return (a, b)

def Groups.add (key : Value × Value) (v : Value) : Groups → Groups
  | [] => [(key, [v])]
  | (k, vs) :: rest =>
    if sameKey k key then (k, vs ++ [v]) :: rest else (k, vs) :: Groups.add key v rest

def Groups.members (key : Value × Value) : Groups → List Value
  | [] => []
  | (k, vs) :: rest => if sameKey k key then vs else Groups.members key rest

def edgesByCaller (edges : List Value) : Except Fault Groups :=
  edges.foldlM (fun groups edge => do
    let key ← pairKey (← edge.field "caller_file") (← edge.field "caller_function")
    return groups.add key edge) []

structure Callee where
  target : Value
  symbol : Value
  used : Value
  awaited : Value

def Callee.toValue (c : Callee) : Value :=
  .map [("callee_module", c.target), ("callee_symbol", c.symbol), ("return_value_used", c.used),
    ("is_awaited", c.awaited)]

/-- The callees with one more call: it sets the flags of its callee, or adds a new one. -/
def Callee.join (c : Callee) : List Callee → List Callee
  | [] => [c]
  | d :: ds =>
    if sameKey (d.target, d.symbol) (c.target, c.symbol) then
      { d with
        used := if c.used.truthy then .bool true else d.used
        awaited := if c.awaited.truthy then .bool true else d.awaited } :: ds
    else d :: Callee.join c ds

def callees (edges : List Value) : Except Fault (List Callee) :=
  edges.foldlM (fun acc edge => do
    let (target, symbol) ← pairKey (← edge.field "callee_module") (← edge.field "callee_symbol")
    let used ← edge.getD "return_value_used" (.bool false)
    let awaited ← edge.getD "is_awaited" (.bool false)
    return Callee.join ⟨target, symbol, used, awaited⟩ acc) []

/-- What an entry point depends on in other files: nothing if it has no handler or its handler calls
nothing there. -/
def entryCalls (groups : Groups) (entry : Value) : Except Fault (Option Value) := do
  let handler ← entry.get "handler_function"
  if !handler.truthy then return none
  let key ← pairKey (← entry.field "file") handler
  match groups.members key with
  | [] => return none
  | edges =>
    let found ← callees edges
    return some (.map [
      ("entry_point", .map [("method", ← entry.field "method"), ("path", ← entry.field "path"),
        ("file", ← entry.field "file")]),
      ("handler_function", handler),
      ("cross_file_calls", .list (found.map Callee.toValue))])

def callMap (entries edges : Value) : Except Fault (List Value) := do
  if !edges.truthy then return []
  let groups ← edgesByCaller (← edges.items)
  let found ← (← entries.items).mapM (entryCalls groups)
  return found.filterMap id

/-! ### The report on a project -/

inductive Language where
  | python
  | script
  deriving DecidableEq, Repr

def scriptEndings : List String := [".js", ".ts", ".jsx", ".tsx", ".vue"]

def language? (name : String) : Option Language :=
  let ending := lowercase (Path.suffixOf name)
  if ending = ".py" then some .python
  else if scriptEndings.contains ending then some .script
  else none

structure SourceFile where
  names : List String
  language : Language
  source : List Char
  deriving Repr

def sourcesIn (above : List String) (es : List (String × Entry)) : List SourceFile :=
  es.filterMap fun
    | (name, .file content) =>
      if isHidden name then none
      else (language? name).map fun l => ⟨above ++ [name], l, lenientText content⟩
    | (_, .folder _) => none

mutual

/-- The source files of a folder and below: first its own, then those of each visible folder in it. -/
def sourcesBelow (above : List String) : Entry → List SourceFile
  | .file _ => []
  | .folder es => sourcesIn above es ++ sourcesInFolders above es

def sourcesInFolders (above : List String) : List (String × Entry) → List SourceFile
  | [] => []
  | (name, e) :: es =>
    let inside := if isVisible name then sourcesBelow (above ++ [name]) e else []
    inside ++ sourcesInFolders above es

end

def sources (project : Location) : List SourceFile :=
  (project.entry.map (sourcesBelow [])).getD []

def SourceFile.origin (app : String) (f : SourceFile) : Origin :=
  let parts := f.names.dropLast ++ [Path.stemOf (f.names.getLastD "")]
  ⟨qualify (some app) (String.intercalate "/" f.names), joinName (some app) parts⟩

def SourceFile.findings (app : String) (f : SourceFile) : Except Fault FileFindings :=
  match f.language with
  | .python => sourceFindings (f.origin app) f.source
  | .script => .ok (scriptFindings (f.origin app) f.source)

def SourceFile.calls (project : Location) (app : String) (f : SourceFile) :
    Except Fault (List CallEdge) :=
  let origin := f.origin app
  match f.language with
  | .python => sourceCalls project origin.file f.source
  | .script =>
    let symbols := (scriptFindings origin f.source).symbols.map Symbol.toValue
    scriptCalls origin.file (enclosing symbols) f.source

structure Report where
  drawing : String
  files : List FileFindings
  calls : List CallEdge
  entryCalls : List Value
  declared : List (String × Value)
  tables : TableInfo

namespace Report

def entryPoints (r : Report) : List EntryPoint := r.files.flatMap fun f => f.entryPoints

def symbols (r : Report) : List Symbol := r.files.flatMap fun f => f.symbols

def dependencies (r : Report) : List (String × List String) :=
  r.files.map fun f => (f.path, f.dependencies)

def tags (r : Report) : List (String × List String) :=
  (r.files.filter fun f => !f.tags.isEmpty).map fun f => (f.path, f.tags)

def textsByName (xs : List (String × List String)) : Value :=
  .map (xs.map fun (k, v) => (k, .ofTexts v))

def fieldUnlessEmpty (name : String) (xs : List Value) : List (String × Value) :=
  if xs.isEmpty then [] else [(name, .list xs)]

def toValue (r : Report) : Value :=
  .map ([("project_structure", .text r.drawing),
    ("entry_points", .list (r.entryPoints.map EntryPoint.toValue)),
    ("dependency_graph", textsByName r.dependencies),
    ("file_tags", textsByName r.tags),
    ("symbol_table", .list (r.symbols.map Symbol.toValue))] ++
    fieldUnlessEmpty "call_graph" (r.calls.map CallEdge.toValue) ++
    fieldUnlessEmpty "entry_point_dependencies" r.entryCalls ++
    (if r.declared.isEmpty then [] else [("config_info", .map r.declared)]) ++
    (if r.tables.used then [("dynamodb_info", r.tables.toValue)] else []))

def withoutTables (project : Location) : Except Fault Report := do
  let app := project.path.name
  let drawing ← Analysis.drawing project
  let declared ← Analysis.declared project
  let found := sources project
  let files ← found.mapM fun f => f.findings app
  let calls := (← found.mapM fun f => f.calls project app).flatten
  let entryCalls ← callMap (.list ((files.flatMap fun f => f.entryPoints).map EntryPoint.toValue))
    (.list (calls.map CallEdge.toValue))
  return { drawing, files, calls, entryCalls, declared, tables := ⟨false, [], []⟩ }

def ofProject (project : Location) : Printing Report := do
  let report ← Printing.silent (withoutTables project)
  return { report with tables := ← tableInfo project (textsByName report.tags) }

def write (project : Location) : Printing String := do
  if project.entry.isNone then
    throw (.exit (.text s!"Monolith root not found: {project.path.toText}"))
  let report ← ofProject project
  Printing.silent (Json.write .pretty report.toValue)

end Report

end Unbundle.Analysis
