import Unbundle.Index.Build

/-!
# Trials of the search tool

The search tool is made and asked one question, and the answer is judged. There are two trials, which
judge differently; the second one ends with a status.
-/

namespace Unbundle.Index

open Printing

/-! ## Retrieved snippets -/

/-- A piece of code found by a search. A score may be missing. -/
structure Snippet where
  text : Value
  metadata : Value
  score : Option Value
  deriving Repr

def ruler : String := String.ofList (List.replicate 70 '=')

def Snippet.render (number : Nat) (s : Snippet) : Except Fault String := do
  let file ← s.metadata.getD "file_path" (.text "unknown")
  let name ← s.metadata.getD "function_name" (.text "unknown")
  let kind ← s.metadata.getD "type" (.text "code")
  let first ← s.metadata.getD "start_line" (.text "?")
  let last ← s.metadata.getD "end_line" (.text "?")
  let score ← (s.score.getD (.float 0.0)).fixed 3
  let code ← s.text.textFor "strip"
  return String.intercalate "\n" [
    s!"\n### Code Snippet {number} | Relevance Score: {String.ofList score}",
    s!"[File] {file.str}",
    s!"[Symbol] {name.str} ({kind.str})",
    s!"[Lines] {first.str}-{last.str}",
    "\n**Code:**",
    "```",
    Text.trimmed code,
    "```",
    ruler]

def renderSnippets (query : String) (snippets : List Snippet) : Except Fault String := do
  if snippets.isEmpty then
    return s!"No relevant code snippets found for: '{query}'\n" ++
      "The knowledge base may not contain information about this topic."
  let parts ← (snippets.zipIdx 1).mapM fun (s, i) => s.render i
  return String.intercalate "\n"
    (s!"Found {snippets.length} relevant code snippet(s):\n" :: ruler :: parts)

def defaultTop : Int := 5

def toolName : String := "CodeRAGTool"

def toolDescription : String :=
  "Search the code knowledge base for semantically relevant code snippets. " ++
  "Returns raw code with metadata (file path, function name, lines, similarity score). " ++
  "Use this to find code related to specific functionality, APIs, database operations, " ++
  "authentication logic, routes, or any technical implementation details."

def openIndex (folder : String) (found : Bool) (top : Int) : Printing Unit := do
  if !found then
    throw (.named "FileNotFoundError" (s!"RAG index directory not found at {folder}\n" ++
      "Please run build_rag.py first to create the index:\n" ++
      "  python src/preprocessor/build_rag.py"))
  lines [
    s!"Loading code index from: {folder}",
    "[OK] CodeRAGTool created successfully!",
    "  - Using official LlamaIndexTool wrapper",
    "  - Retriever mode (no LLM synthesis)",
    s!"  - Retrieving top {top} results per query"]

def topSnippets (top : Int) (snippets : List Snippet) : List Snippet :=
  slice snippets 0 (some top)

/-! ## Trials of the search tool -/

structure Candidate where
  folder : String
  indexed : Bool
  make : Printing Unit
  answer : Except Fault String

def trialQuery : String := "What is the main responsibility of the database.py file?"

def trialTop : Int := 3

def candidate (folder : String) (indexed : Bool) (snippets : List Snippet) : Candidate :=
  ⟨folder, indexed, openIndex folder indexed trialTop,
    renderSnippets trialQuery (topSnippets trialTop snippets)⟩

def bar (width : Nat) : String := String.ofList (List.replicate width '=')

def hasPart (text part : String) : Bool := Text.occursIn part.toList text.toList

def firstJudgement (answer : String) : List String :=
  if hasPart answer "Error" then ["\n✗ Test Failed: Tool reported an error."]
  else if hasPart answer "No relevant code" then
    ["\n⚠️  Warning: No relevant code found (index might be empty)."]
  else if answer.length < 50 then ["\n⚠️  Warning: Response seems too short."]
  else
    ["\n✓ Test Passed: CodeRAGTool is working correctly!",
      "  - Tool returns raw code snippets (no LLM synthesis)",
      "  - Agent's LLM will interpret these results"]

def firstQuestion (c : Candidate) : Printing Unit := do
  lines ["\n" ++ bar 60, s!"Test Query: '{trialQuery}'", bar 60]
  try
    let answer ← c.answer
    lines ["\n📋 Retrieved Code Snippets:\n", answer, "\n" ++ bar 60]
    lines (firstJudgement answer)
  catch e => line s!"\n✗ Execution Error: {e.message}"

def makingFailed (e : Fault) : List String :=
  if e.kind = "ImportError" || e.kind = "ModuleNotFoundError" then
    [s!"✗ ImportError: {e.message}", "Ensure 'src' directory is in PYTHONPATH."]
  else if e.kind = "FileNotFoundError" then [s!"✗ {e.message}"]
  else [s!"✗ Initialization Error: {e.message}"]

def makeTool (c : Candidate) : Printing Bool := do
  lines ["Importing create_code_rag_tool...", "Creating CodeRAGTool (loading index)..."]
  match ← c.make.attempt with
  | .error e =>
    lines (makingFailed e)
    return false
  | .ok _ =>
    line "✓ CodeRAGTool created successfully!"
    return true

def firstTrial (c : Candidate) : Printing Unit := do
  lines ["\n" ++ bar 50, "Quick Test: CodeRAGTool Standalone Verification", bar 50,
    s!"Checking index directory: {c.folder}"]
  if !c.indexed then
    lines [s!"Error: Index directory does not exist at {c.folder}",
      "Please ensure you have prepared the 'storage/code_index' directory as stated."]
  else if ← makeTool c then firstQuestion c

def failTrial (lines : List String) : Printing α := do
  Printing.lines lines
  throw (.exit (.int 1))

def secondJudgement (answer : String) : Printing Unit := do
  if hasPart answer "Error" && Text.occursIn "retrieval".toList (Text.lower answer.toList) then
    failTrial ["\n[FAILED] Test FAILED - Error in retrieval"]
  else if hasPart answer "No relevant code" then
    line "\n[WARNING] No code found (index might be empty)"
  else if !hasPart answer "Code Snippet" then
    line "\n[WARNING] No code snippets in response"
  else
    lines ["\n[PASS] Test PASSED!", "\nKey Features Verified:",
      "  [OK] Uses official CrewAI LlamaIndexTool",
      "  [OK] Returns raw code snippets (no LLM synthesis)",
      "  [OK] Avoids double inference (saves API costs)",
      "  [OK] Agent's LLM will interpret the results"]

def secondTrial (c : Candidate) : Printing Unit := do
  lines [bar 70, "CodeRAGTool Test - Using Official LlamaIndexTool", bar 70,
    s!"\nIndex directory: {c.folder}"]
  if !c.indexed then
    failTrial ["Exists: False", "\nERROR: Index not found! Run build_rag.py first."]
  lines ["Exists: True", "\nImporting create_code_rag_tool...", "[OK] Import successful",
    "\nCreating CodeRAGTool..."]
  match ← c.make.attempt with
  | .error e => failTrial [s!"[ERROR] Failed to create tool: {e.message}"]
  | .ok _ =>
    lines ["[OK] Tool created successfully!\n", bar 70, s!"Test Query: {trialQuery}",
      bar 70]
    match c.answer with
    | .error e => failTrial [s!"\n[ERROR] Execution error: {e.message}"]
    | .ok answer =>
      lines ["\n===== RETRIEVED CODE SNIPPETS =====\n", answer, "\n" ++ bar 70]
      secondJudgement answer

end Unbundle.Index
