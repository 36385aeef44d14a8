import Unbundle.Index.Trial

/-!
# The workflow

The crew is put together, does its tasks one after the other, and the result is shown with the time it
took. A fault is reported and kept in a file.
-/

namespace Unbundle.Crew

open Printing

/-! ## The crew -/

structure Post where
  id : String
  tools : List String
  /-- The files that the agent may look up. -/
  reading : List String
  rounds : Nat

def posts : List Post :=
  let sam := "sam_reference.md"
  let coding := "lambda_coding_reference.md"
  let basic := "basic_serverless_architecture.md"
  let patterns := "async_serverless_patterns.md"
  let checking := ["ReadFileTool", "WriteFileTool", "FileListTool", "SAMValidateTool"]
  [⟨"architect", ["ReadFileTool", "WriteFileTool"], [basic, patterns], 50⟩,
    ⟨"code_developer", ["ReadFileTool", Index.toolName, "WriteFileTool"], [coding, patterns], 100⟩,
    ⟨"sam_engineer", checking, [sam], 50⟩,
    ⟨"consistency_validator", checking, [sam, coding, patterns], 30⟩]

structure Agent where
  post : Post
  role : Value
  goal : Value
  backstory : Value

def embedder : Value :=
  .map [("provider", .text "ollama"), ("config", .map [("model", .text "mxbai-embed-large"),
    ("base_url", .text "http://127.0.0.1:11434")])]

def knowledge (file : String) : Value :=
  .map [("file_paths", .ofTexts [file]), ("chunk_size", .int 1200), ("chunk_overlap", .int 150)]

def Agent.toValue (a : Agent) : Value :=
  .map [("role", a.role), ("goal", a.goal), ("backstory", a.backstory),
    ("tools", .ofTexts a.post.tools), ("knowledge_sources", .list (a.post.reading.map knowledge)),
    ("embedder", embedder), ("verbose", .bool true), ("allow_delegation", .bool false),
    ("max_iter", .int a.post.rounds)]

/-- Fills a post. An agent that searches code opens the index for it. -/
def fill (config : Value) (index : String) (post : Post) : Printing Agent := do
  let told ← config.field post.id
  let role ← told.field "role"
  let goal ← told.field "goal"
  let backstory ← told.field "backstory"
  if post.tools.contains Index.toolName then Index.openIndex index true Index.defaultTop
  return ⟨post, role, goal, backstory⟩

def assemble (config : Value) (index : String) : Printing (List Agent) :=
  posts.mapM (fill config index)

/-! ## Tasks -/

structure Task where
  description : Value
  expected : Value
  role : Value
  /-- Whether the task starts without what the tasks before it gave. -/
  fresh : Bool
  output : Value

def freshTasks : List String :=
  ["generate_complete_application", "generate_shared_resources_template",
    "generate_functions_template", "assemble_final_template", "validate_consistency"]

def Task.toValue (t : Task) : Value :=
  .map ([("description", t.description), ("expected_output", t.expected), ("agent", t.role),
    ("verbose", .bool true)] ++ (if t.fresh then [("context", .list [])] else []) ++
    [("output_file", t.output)])

def roleOf (available : List (String × Value)) (id : Value) : Except Fault (Option Value) := do
  id.hashable
  match id with
  | .text id => return available.lookup id
  | _ => return none

def isFresh (id : Value) : Except Fault Bool := do
  id.hashable
  match id with
  | .text id => return freshTasks.contains id
  | _ => return false

def taskOf (available : List (String × Value)) (config : Value) : Printing (Option Task) := do
  let agent ← config.field "agent"
  match ← roleOf available agent with
  | none =>
    let id ← config.get "id"
    line s!"Warning: Agent '{agent.str}' not found, skipping task {id.str}"
    return none
  | some role =>
    let description ← config.field "description"
    let expected ← config.getD "expected_output" (.text "Task completed successfully")
    let fresh ← isFresh (← config.get "id")
    let output ← if ← config.holdsName "output_file" then config.field "output_file"
      else pure .null
    return some ⟨description, expected, role, fresh, output⟩

def plan (path : String) (config : Option Value) (available : List (String × Value)) :
    Printing (List Task) := do
  match config with
  | none => throw (.file .notFound path)
  | some config =>
    let wanted ← (← config.field "tasks").items
    let tasks ← wanted.mapM (taskOf available)
    return tasks.filterMap id

/-! ## The workflow -/

structure Job where
  agents : Value
  tasks : Option Value
  /-- The times that are read off the clock, in order. -/
  clock : List Value
  /-- The result of the crew, or why it has none. -/
  outcome : Except Fault String
  /-- How many tasks the result has outputs of, if it says so. -/
  outputs : Option Nat

structure Site where
  root : String
  trace : Fault → String

def Site.path (s : Site) (name : String) : String := s!"{s.root}/{name}"

def Site.index (s : Site) : String := s.path "storage/code_index"

def Site.tasks (s : Site) : String := s.path "src/config/tasks.yaml"

def Site.report (s : Site) : String := s.path "crash_report.log"

def divider : String := String.ofList (List.replicate 60 '=')

def Job.time (j : Job) (n : Nat) : Except Fault Value :=
  (j.clock[n]?).elim (.error (.named "StopIteration" "")) .ok

def spanText (start stop : Value) : Except Fault String := do
  let span ← stop.sub start
  let seconds := String.ofList (← span.fixed 2)
  let minutes := String.ofList (← (← span.div (.int 60)).fixed 2)
  return s!"{seconds}秒 ({minutes}分钟)"

def showTasks (tasks : List Task) : Printing Unit := do
  lines ["\n" ++ divider, s!"准备顺序执行 {tasks.length} 个任务：", divider]
  lines ((tasks.zipIdx 1).map fun (t, i) => s!"  Task {i}: {t.role.str}")
  line (divider ++ "\n")

def showDone (tasks : List Task) (outputs : Nat) : Printing Unit := do
  line "\n任务执行摘要："
  lines (((tasks.take outputs).zipIdx 1).map fun (t, i) =>
    s!"  Task {i} ({t.role.str}) - 已完成")

def closing : List String :=
  ["\nGenerated artifacts:", "  - storage/blueprint.json (Architecture blueprint)",
    "  - output/lambdas/ (Lambda functions and shared code)",
    "  - output/layers/ (Shared Lambda layers, if applicable)",
    "  - output/template.yaml (AWS SAM template)",
    "  - output/consistency_report.json (Cross-artifact validation report)", "\nNext steps:",
    "  1. Review the generated code in output/", "  2. Configure deployment parameters",
    "  3. Run: sam build && sam deploy --guided"]

def work (s : Site) (j : Job) : Printing Unit := do
  lines [divider, "MAG System - Monolith to AWS Serverless Migration", divider]
  let start ← j.time 0
  let agents ← assemble j.agents s.index
  let tasks ← plan s.tasks j.tasks (agents.map fun a => (a.post.id, a.role))
  lines [s!"\nInitialized {agents.length} agents and {tasks.length} tasks.",
    "\nAgent roles:"]
  lines (agents.map fun a => s!"  - {a.post.id}: {a.role.str}")
  line "\nStarting migration workflow...\n"
  showTasks tasks
  let crewStart ← j.time 1
  let result ← j.outcome
  let crewStop ← j.time 2
  let span ← spanText crewStart crewStop
  line s!"\nCrew 总执行时间: {span}"
  match j.outputs with
  | some (n + 1) => showDone tasks (n + 1)
  | _ => pure ()
  let stop ← j.time 3
  lines ["\n" ++ divider, "Migration workflow completed!", divider]
  let span ← spanText start stop
  line s!"工作流总时间: {span}"
  line "\nResult:"
  line (← Json.write .pretty (.map [("result", .text result)]))
  lines closing

def run (s : Site) (j : Job) : Printing (Option Fault) := do
  try
    work s j
    return none
  catch e =>
    line s!"\nCRITICAL ERROR: {e.message}\n\n{s.trace e}"
    line s!"\nCrash report saved to: {s.report}"
    return some e

end Unbundle.Crew
