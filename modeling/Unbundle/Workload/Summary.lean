import Unbundle.Crew.Diagnosis
import Unbundle.Crew.Workflow

/-!
# Workloads

Work of a given size for each part of the library, with a short summary of what comes of it.
-/

open List

namespace Unbundle.Workload

open Files

/-! ## Sample projects -/

def textOf (lines : List String) : String := String.join (lines.map (· ++ "\n"))

def fileOf (text : String) : Entry := .file (Text.encode text.toList)

def services : String := textOf [
  "class CatalogService:",
  "    @staticmethod",
  "    def reserve_flight_seat(flight):",
  "        return flight",
  "",
  "    @staticmethod",
  "    def find(item):",
  "        return item",
  "",
  "",
  "def audit(event):",
  "    return event"]

def sourceModule (i : Nat) : String := textOf [
  "from flask import Flask",
  "from services import CatalogService, audit",
  "",
  "app = Flask(__name__)",
  "",
  "",
  s!"class Item{i}:",
  "    def load(self, key):",
  "        return CatalogService.find(key)",
  "",
  "",
  s!"@app.post('/items/{i}')",
  s!"def create_item_{i}(flight):",
  "    # A seat is reserved before anything is kept.",
  "    seat = CatalogService.reserve_flight_seat(flight)",
  "    audit(seat)",
  "    return seat",
  "",
  "",
  s!"@app.get('/items/{i}')",
  s!"def get_item_{i}(key):",
  "    audit(key)",
  "    return CatalogService.find(key)",
  "",
  "",
  s!"async def refresh_{i}(key):",
  "    return await CatalogService.find(key)",
  "",
  "",
  s!"def shape_{i}(value):",
  "    return audit(value)"]

/-- A script with nine functions and classes, two of them entry points, in which four other modules are
called in twelve ways. -/
def scriptModule (i : Nat) : String := textOf [
  "const express = require('express');",
  "const \x7b findUser, saveUser \x7d = require('./users');",
  "const billing = require('./billing');",
  "import \x7b publish \x7d from './events';",
  "import defaultExport from './defmod';",
  "const router = express.Router();",
  "",
  s!"router.get('/users/{i}', async (req, res) => \x7b",
  "  const user = await findUser(req.params.id);",
  "  res.json(user);",
  "\x7d);",
  s!"router.post('/users/{i}', async (req, res) => \x7b",
  "  await saveUser(req.body);",
  "  const bill = billing.charge(req.body);",
  "  publish(bill);",
  "  res.json(bill);",
  "\x7d);",
  "emitter.on('paid', (event) => \x7b",
  "  publish(event);",
  "\x7d);",
  s!"function extra{i}(value) \x7b",
  "  const shaped = defaultExport(value);",
  "  return billing.round(shaped);",
  "\x7d",
  s!"class Users{i} \x7b",
  "  find(id) \x7b",
  "    return findUser(id);",
  "  \x7d",
  "  store(user) \x7b",
  "    publish(user);",
  "    return saveUser(user);",
  "  \x7d",
  "\x7d",
  s!"const total{i} = (user) => \x7b",
  "  return billing.total(user);",
  "\x7d;",
  s!"exports.refund{i} = async (user) => \x7b",
  "  await billing.refund(user);",
  "\x7d;"]

def folderOf (files : List (String × Entry)) : List (String × Entry) :=
  files.foldl (fun es (name, e) => Entry.place name e es) []

def projectOf (name : String) (files : List (String × Entry)) : Location :=
  ⟨⟨"", [name]⟩, some (.folder (folderOf files))⟩

def servicesFile : String × Entry := ("services.py", fileOf services)

def sourceFile (i : Nat) : String × Entry := (s!"app_{i}.py", fileOf (sourceModule i))

def scriptFile (i : Nat) : String × Entry := (s!"routes_{i}.js", fileOf (scriptModule i))

def mixedFiles (n : Nat) : List (String × Entry) :=
  (range (n / 2)).flatMap fun i => [sourceFile i, scriptFile i]

def mixedProject (n : Nat) : Location := projectOf "demo" (servicesFile :: mixedFiles n)

def settings : String × Entry :=
  ("settings.py", fileOf (textOf ((range 200).map fun i => s!"OPTION_{i} = {i}")))

/-- A folder with three files and, unless it is the lowest, two folders of the same form. -/
def treeOf : Nat → List (String × Entry)
  | 0 => (range 3).map fun k => (s!"file_0_{k}.py", fileOf "")
  | depth + 1 =>
    let files := (range 3).map fun k => (s!"file_{depth + 1}_{k}.py", fileOf "")
    let folders := (range 2).map fun k => (s!"sub_{depth + 1}_{k}", .folder (treeOf depth))
    files ++ folders

/-! ## Workloads -/

open Files Analysis Index

-- Sums start from the zero of the core library, also where there are others.
attribute [local instance (high)] Zero.ofOfNat0

def count (n : Nat) : Value := .int n

def sizeOf (xs : List α) : Value := count xs.length

/-! ### Analysis -/

def report (n : Nat) : Except Fault Value := do
  let r ← (Report.ofProject (mixedProject n)).result.1
  return .list [sizeOf r.entryPoints, sizeOf r.symbols, sizeOf r.calls, .ofTexts r.tables.tables]

def writtenReport (n : Nat) : Except Fault Value := do
  let r ← (Report.ofProject (mixedProject n)).result.1
  let _ ← (Report.write (mixedProject n)).result.1
  return .list [sizeOf r.symbols, sizeOf r.entryPoints]

def findingSizes (f : FileFindings) : Value := .list [sizeOf f.symbols, sizeOf f.dependencies]

def sourceModules (n : Nat) : Except Fault Value := do
  return .list (← (range n).mapM fun i => do
    return findingSizes (← sourceFindings ⟨s!"app_{i}.py", s!"app_{i}"⟩ (sourceModule i).toList))

def scriptModules (n : Nat) : Value :=
  .list ((range n).map fun i =>
    findingSizes (scriptFindings ⟨s!"routes_{i}.js", s!"routes_{i}"⟩ (scriptModule i).toList))

def callsOf (project : Location) : Except Fault (List CallEdge) := do
  let calls ← (sources project).mapM fun f => f.calls project project.path.name
  return calls.flatten

def edgeOrNull (e : Option CallEdge) : Value := (e.map CallEdge.toValue).getD .null

def sourceModuleCalls (n : Nat) : Except Fault Value := do
  let calls ← callsOf (projectOf "demo" (servicesFile :: (range n).map sourceFile))
  return .list [sizeOf calls, edgeOrNull calls.head?]

def scriptModuleCalls (n : Nat) : Except Fault Value := do
  let calls ← callsOf (projectOf "demo" ((range n).map scriptFile))
  return .list [sizeOf calls, edgeOrNull calls.getLast?]

def taggedTexts : List String :=
  ["import boto3\ntable = boto3.resource('dynamodb').Table('items')",
    "const token = jwt.sign(payload, secret);", "def add(a, b):\n    return a + b",
    "const upload = multer(\x7b dest: 'uploads' \x7d);\nupload.single('avatar');"]

def turn (xs : List α) (n : Nat) : List α :=
  (range n).filterMap fun i => xs[i % xs.length]?

def taggings (n : Nat) : Value := .list ((turn taggedTexts n).map fun s => .ofTexts (tagNames s.toList))

def schemaPaths : List String :=
  ["scripts/init-db.js", "config/db.js", "routes/items.js", "services/orders.py",
    "frontend/db.js", "middleware/auth.js", "setup_db.py", "utils/dynamodb.js", "views/list.js",
    "database/models.py", "pages/home.js", "public/app.js"]

def schemaChoice (n : Nat) : Value :=
  .ofTexts (schemaFiles ((turn schemaPaths n).zipIdx.map fun (path, i) => s!"proj{i}/{path}"))

def sampleEdge (i k : Nat) (used awaited : Bool) : Value :=
  .map [("caller_file", .text s!"api_{i}.py"), ("caller_function", .text s!"handler_{i}"),
    ("callee_module", .text s!"svc{k}"), ("callee_symbol", .text s!"Svc.do{k}"),
    ("return_value_used", .bool used), ("is_awaited", .bool awaited)]

def sampleEntries (n : Nat) : Value :=
  .list ((range n).map fun i => .map [("file", .text s!"api_{i}.py"),
    ("method", .text "GET"), ("path", .text s!"/items/{i}"),
    ("handler_function", .text s!"handler_{i}")])

def sampleEdges (n : Nat) : Value :=
  .list ((range n).flatMap fun i =>
    [sampleEdge i 0 false true, sampleEdge i 1 true false, sampleEdge i 1 false true])

def entryCallMap (n : Nat) : Except Fault Value := do
  let without ← callMap (sampleEntries n) (.list [])
  let found ← callMap (sampleEntries n) (sampleEdges n)
  let first ← match found with
    | [] => pure .null
    | e :: _ => e.field "cross_file_calls"
  return .list [sizeOf without, sizeOf found, first]

def sixLines (i : Nat) : List String :=
  [s!"function fn{i}(a) \x7b", "  if (a > 0) \x7b", "    return a;", "  \x7d", "  return 0;", "\x7d"]

def functionEnds (n : Nat) : Except Fault Value := do
  let lines := ((range n).flatMap sixLines).map String.toList
  return .list (← (range n).mapM fun i => do return .int (← functionEnd lines (6 * i : Nat)))

def sampleSymbol (i : Nat) : Value :=
  .map [("id", .text s!"mod.fn{i}"), ("start_line", .int (10 * i + 1 : Nat)),
    ("end_line", .int (10 * i + 8 : Nat))]

def enclosingNames (n : Nat) : Except Fault Value := do
  let symbols := (range n).map sampleSymbol
  return .list (← (range (n + 1)).mapM fun i => do
    return .text (← enclosing symbols (10 * i + 4 : Nat)))

def treeDrawing (depth : Nat) : Except Fault Value := do
  return .text (← drawing (projectOf "proj" (treeOf depth)))

def tableModule (i : Nat) : String := textOf [
  s!"A = os.environ.get('A_TABLE', 'environ-{i}')",
  s!"B = os.getenv('B_TABLE', 'getenv-{i}')",
  s!"const c = process.env.C_TABLE || 'process-{i}'",
  s!"client.put_item(TableName='named-{i}')",
  s!"ORDER_TABLE: 'order-{i}'"]

/-- Looks for tables in files, one of which is missing and one of which is a folder: how many there are,
the files to look at, and whether any are used without files. -/
def tableSearch (n : Nat) : Except Fault Value := do
  let files := (range n).map fun i => (s!"svc_{i}.py", fileOf (tableModule i))
  let project := projectOf "demo" (("dir.py", .folder []) :: files)
  let tags := (files.map (·.1) ++ ["dir.py", "ghost.py"]).map fun f => (f, .ofTexts ["DynamoDB"])
  let found ← (tableInfo project (.map tags)).result.1
  let nothing ← (tableInfo project (.map [])).result.1
  return .list [sizeOf found.tables, .ofTexts found.schemaFiles, .bool nothing.used]

def declarations (n : Nat) : Except Fault Value := do
  let python := textOf ((range n).map fun i => s!"package-{i}==1.{i}")
  let scripts := Value.map [("dependencies",
    .map ((range n).map fun i => (s!"module-{i}", .text s!"^1.{i}.0")))]
  let found ← declared (projectOf "demo" [("requirements.txt", fileOf python),
    ("package.json", fileOf (← Json.write .compact scripts))])
  let nothing ← declared (projectOf "empty" [])
  let python ← (← (Value.map found).getD "python_dependencies" (.list [])).length
  let scripts ← (← (Value.map found).getD "nodejs_dependencies" (.map [])).getD "dependencies"
    (.list [])
  return .list [count python, count (← scripts.length), .map nothing]

/-! ### Index -/

def documentsOf (project : Location) : Except Fault (List Document) := do
  let r ← (Report.ofProject project).result.1
  (documents project r.toValue).result.1

def documentKinds (n : Nat) : Except Fault Value := do
  let docs ← documentsOf (projectOf "demo" (servicesFile :: settings :: mixedFiles n))
  let kinds ← docs.mapM fun d => do return (← d.metadata.field "type").str
  return .list [sizeOf docs, .ofTexts (sorted kinds)]

def indexing (n : Nat) : Except Fault Value := do
  let docs ← documentsOf (mixedProject n)
  let missing ← (loadReport "missing.json" none).result.1
  let broken ← (loadReport "broken.json" (some (Text.encode "\x7b".toList))).result.1
  return .list [sizeOf docs, missing, broken]

def numberedLines (n : Nat) : List Char :=
  Text.join ['\n'] ((range n).map fun i => s!"line{i}".toList)

/-- Cuts lines into windows of three that overlap in one: how many windows there are, how many an empty
text has, and the first and last line that they hold. -/
def windowing (n : Nat) : Except Fault Value := do
  let docs := windows (numberedLines n) "lines.py" 3 1
  let empty := windows [] "empty.py" defaultWindow defaultOverlap
  let bound (d : Option Document) (name : String) : Except Fault Value :=
    match d with
    | some d => d.metadata.field name
    | none => .ok .null
  return .list [sizeOf docs, sizeOf empty, ← bound docs.head? "start_line",
    ← bound docs.getLast? "end_line"]

def pieceLengths (n : Nat) : Value :=
  let source := numberedLines n
  .list ((range ((n + 39) / 40)).map fun i =>
    sizeOf (chunk source (40 * i + 1 : Nat) (some (40 * i + 40 : Nat))))

def smallSnippet (i : Nat) : Snippet :=
  ⟨.text s!"def func_{i}():\n    return {i}\n",
    .map [("file_path", .text s!"mod_{i}.py"), ("function_name", .text s!"func_{i}"),
      ("type", .text "function"), ("start_line", .int (i + 1 : Nat)),
      ("end_line", .int (i + 2 : Nat))], some (.float 0.5)⟩

def renderings (n : Nat) : Except Fault Value := do
  let nothing ← renderSnippets "query" []
  let all ← renderSnippets "query" ((range n).map smallSnippet)
  return .list [count nothing.length, count all.length]

def longFunction (i : Nat) : String :=
  textOf ([s!"def func_{i}(value, count=0):"] ++ replicate 23 "    count += value" ++
    ["    return count"])

def longSnippet (i : Nat) : Snippet :=
  ⟨.text (longFunction i),
    .map [("file_path", .text s!"services/inventory/counter_{i}.py"),
      ("function_name", .text s!"func_{i}"), ("type", .text "function"),
      ("start_line", .int (25 * i + 1 : Nat)), ("end_line", .int (25 * i + 25 : Nat))],
    some (.float 0.5)⟩

def questioning (n : Nat) : Except Fault Value := do
  let found := topSnippets defaultTop ((range 20).map longSnippet)
  let answers ← (range n).mapM fun i => renderSnippets s!"question {i}" found
  return .list [sizeOf answers, count (answers.map String.length).sum]

/-! ### Files -/

def writeAndRead (s : Store) (i : Nat) : List Nat × Store :=
  let path := s!"dir_{i}/f_{i}.txt"
  let (wrote, s) := s.write path "hello\n" false
  let (appended, s) := s.write path "world\n" true
  ([wrote.length, appended.length, (s.read path).length], s)

def writeAndReadAll (s : Store) : List Nat → List Nat × Store
  | [] => ([], s)
  | i :: rest =>
    let (sizes, s) := writeAndRead s i
    let (others, s) := writeAndReadAll s rest
    (sizes ++ others, s)

def fileWork (n : Nat) : Except Fault Value := do
  let start : Store := ⟨⟨"/", []⟩, ["work"], [("work", .folder [("empty", .folder [])])]⟩
  let (sizes, s) := writeAndReadAll start (range n)
  let refused := (s.write "bad\x00name" "x" false).1
  let all ← s.list "." false
  let files ← s.list "." true
  let missing ← s.list "missing" false
  let noFolder ← s.list "dir_0/f_0.txt" false
  return .list ((sizes ++ [(s.read "missing.txt").length, (s.read "bad\x00name").length,
    refused.length, all.length, files.length, missing.length, noFolder.length]).map count)

def beforeColon (s : String) : String := String.ofList (s.toList.takeWhile (· != ':'))

def templateChecks (n : Nat) : Except Fault Value := do
  let files := (range n).map fun i => (s!"template_{i}.yaml", fileOf "Resources:\n")
  let s : Store := ⟨⟨"/", []⟩, ["work"],
    [("work", .folder (folderOf (("template.yaml", fileOf "Resources:\n") :: files)))]⟩
  let missing ← s.validate "missing.yaml" none
  let unchecked ← s.validate "template.yaml" none
  let checked ← (range n).mapM fun i =>
    s.validate s!"template_{i}.yaml"
      (some (if i % 2 = 0 then ⟨0, "", ""⟩ else ⟨2, "E0000 Template is wrong", ""⟩))
  return .ofTexts ((missing :: unchecked :: checked).map beforeColon)

/-! ### Crew -/

def sampleEnvironments : List Crew.Environment :=
  [[("OPENAI_MODEL_NAME", "gpt-4")], [("OPENAI_MODEL_NAME", "gemini-pro")],
    [("OPENAI_MODEL_NAME", "gemini-pro"), ("GOOGLE_API_KEY", "sk-1")],
    [("OPENAI_MODEL_NAME", "deepseek-chat")],
    [("OPENAI_MODEL_NAME", "gemini-pro"), ("GOOGLE_API_KEY", "AIza1")],
    [("OPENAI_MODEL_NAME", "deepseek-chat"), ("OPENAI_API_KEY", "sk-1")]]

/-- Checks environments: how each complaint begins. Then a variable that is not set and a configuration
as it is read. -/
def environmentChecks : Value :=
  let outcome (env : Crew.Environment) : Value := match env.complaint? with
    | some text => .ofChars (text.toList.take 10)
    | none => .text "ok"
  let config := Value.map [("a", .int 1), ("b", .list [.int 1, .int 2, .int 3])]
  .list (sampleEnvironments.map outcome ++
    [.text (Crew.Environment.setting [] "MISSING"), config])

def sampleAgents : Value :=
  .map (Crew.posts.map fun p => (p.id, .map [("role", .text p.id), ("goal", .text "goal"),
    ("backstory", .text "backstory")]))

def sampleTasks : Value :=
  let task (id agent : String) (more : List (String × Value)) : Value :=
    .map ([("id", .text id), ("agent", .text agent), ("description", .text id)] ++ more)
  .map [("tasks", .list [task "design" "architect" [], task "review" "architect" [],
    task "generate_complete_application" "code_developer" [], task "polish" "code_developer" [],
    task "assemble_final_template" "sam_engineer" [("output_file", .text "out.txt")],
    task "validate_consistency" "consistency_validator" [], task "extra" "nobody" []])]

/-- Puts a crew together: its agents, the number of its tasks, how many of them write a file, and
which file. -/
def crewing : Except Fault Value := do
  let agents ← (Crew.assemble sampleAgents "storage/code_index").result.1
  let available := agents.map fun a => (a.post.id, a.role)
  let tasks ← (Crew.plan "tasks.yaml" (some sampleTasks) available).result.1
  let outputs := (tasks.map (·.output)).filter Value.truthy
  return .list [.ofTexts (sorted (agents.map fun a => a.post.id)), sizeOf tasks, sizeOf outputs,
    (outputs.head?).getD .null]

/-- Search tools on trial, each with its name: one that works, three that cannot be made and four with
answers of their own. -/
def sampleCandidates : List (String × Candidate) :=
  let sound := candidate "storage/code_index" true []
  let failing (e : Fault) : Candidate := ⟨sound.folder, true, throw e, sound.answer⟩
  let saying (a : Except Fault String) : Candidate := ⟨sound.folder, true, sound.make, a⟩
  [("NoneType", sound), ("ImportError", failing (.named "ImportError" "no tool")),
    ("FileNotFoundError", failing (.named "FileNotFoundError" "no index")),
    ("RuntimeError", failing (.named "RuntimeError" "no model")),
    ("_ShortTool", saying (.ok "short")), ("_ErrorTool", saying (.ok "Error: no answer")),
    ("_EmptyTool", saying (.ok "No relevant code snippets found")),
    ("_RaisingTool", saying (.error (.named "RuntimeError" "no answer")))]

def trials (folder : String) : Value :=
  let ended := sampleCandidates.filter fun (_, c) => (firstTrial c).result.1.isOk
  .list [.ofTexts (ended.map (·.1)), .text folder]

end Unbundle.Workload
