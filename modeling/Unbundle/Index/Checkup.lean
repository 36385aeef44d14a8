import Unbundle.Index.Trial

/-!
# Checkup of the index

Four checks of an index and of what is searched in it: the report it was built from, searching, which
documents know their place, and how an agent would use it.
-/

namespace Unbundle.Index

open Files Printing

structure Checked where
  files : List (String × Entry)
  /-- What a search finds, in order of rank. -/
  found : List Snippet
  /-- The text of an answer, or why there is none. -/
  answer : Except Fault String

def reportPath : String := "static_result/coffee_test.json"

def indexPath : String := "storage/code_index"

def documentsPath : String := "storage/code_index/docstore.json"

namespace Checked

def at? (c : Checked) (path : String) : Option Entry :=
  (Entry.folder c.files).find? (Path.ofText path).parts

def read (c : Checked) (path : String) : Except Fault (List Char) :=
  match c.at? path with
  | some (.file content) => strictText content
  | some (.folder _) => .error (.file .isDirectory path)
  | none =>
    match c.at? indexPath with
    | some (.file _) => .error (.file .notDirectory path)
    | _ => .error (.file .notFound path)

def top (c : Checked) (n : Int) : Except Fault (String × List Snippet) := do
  return (← c.answer, topSnippets n c.found)

end Checked

def heading (text : String) : Printing Unit := lines ["\n" ++ bar 70, text, bar 70]

def kindCounts (counts : List (Value × Nat)) : List Value → Except Fault (List (Value × Nat))
  | [] => .ok counts
  | symbol :: symbols => do
    let kind ← symbol.getD "kind" (.text "unknown")
    kind.hashable
    let counts := if counts.any fun (k, _) => k.same kind then
      counts.map fun (k, n) => if k.same kind then (k, n + 1) else (k, n)
      else counts ++ [(kind, 1)]
    kindCounts counts symbols

def fieldSize (report : Value) (name : String) (default : Value) : Except Fault Nat := do
  (← report.getD name default).length

def showReport (report : Value) : Printing Unit := do
  line "\n分析报告统计:"
  let tags ← fieldSize report "file_tags" (.map [])
  line s!"  - 文件标签: {tags} 个"
  let symbols ← fieldSize report "symbol_table" (.list [])
  line s!"  - 符号表: {symbols} 个"
  let entries ← fieldSize report "entry_points" (.list [])
  line s!"  - 入口点: {entries} 个"
  let symbols ← (← report.getD "symbol_table" (.list [])).items
  let counts ← kindCounts [] symbols
  line "\n符号类型分布:"
  let sorted ← Value.sortWith (fun (a, _) (b, _) => a.related .lt b) counts
  lines (sorted.map fun (k, n) => s!"  - {k.str}: {n}")

def checkReport (c : Checked) : Printing Bool := do
  heading "测试1：构建 RAG 索引"
  match c.at? reportPath with
  | none =>
    lines [s!"[WARN] 测试文件不存在: {reportPath}", "请先运行 static_analyzer.py 生成测试数据"]
    return false
  | some entry =>
    let report ← match entry with
      | .file content => loadReport reportPath (some content)
      | .folder _ => do
        let e := Fault.file .isDirectory reportPath
        line s!"Error loading analysis report: {e.message}"
        pure (.map [])
    showReport report
    line "\n[PASS] 索引构建测试准备完成"
    return report.truthy

structure Place where
  file : String
  name : String
  kind : String
  first : String
  last : String

def Place.ofMetadata (metadata : Value) : Except Fault Place := do
  let shown (name : String) : Except Fault String := do
    return (← metadata.getD name (.text "N/A")).str
  return ⟨← shown "file_path", ← shown "function_name", ← shown "type", ← shown "start_line",
    ← shown "end_line"⟩

def showResult (number : Nat) (s : Snippet) : Printing Unit := do
  let score := String.ofList (← (s.score.getD (.float 0.0)).fixed 4)
  line s!"    [{number}] 相似度: {score}"
  if s.metadata.truthy then
    let place ← Place.ofMetadata s.metadata
    lines [s!"        文件: {place.file}", s!"        函数: {place.name}",
      s!"        类型: {place.kind}", s!"        行号: {place.first}-{place.last}"]
  else line "        (前端文件，无 metadata)"
  let start ← s.text.lead 100
  let code := Text.replaceChar '\n' ' ' (← start.textFor "replace").toList
  line s!"        代码: {String.ofList code}..."

def questions : List (String × String) :=
  [("后端数据库查询", "How to connect to DynamoDB database?"),
    ("后端认证查询", "Where is user authentication handled?"),
    ("后端路由查询", "Which functions handle API routes?")]

def askQuestion (c : Checked) (number : Nat) (about query : String) : Printing Unit := do
  lines [s!"查询 {number}: {about}", s!"  问题: {query}"]
  let (answer, found) ← c.top 5
  let start := String.ofList (answer.toList.take 200)
  line s!"  结果: {start}..."
  if found.isEmpty then line "  [WARN] 未找到相关结果"
  else
    line s!"  找到 {found.length} 个相关代码片段:"
    ((found.take 3).zipIdx 1).forM fun (s, i) => showResult i s
  line ""

def checkSearch (c : Checked) : Printing Bool := do
  heading "测试2：语义搜索功能"
  if (c.at? documentsPath).isNone then
    lines [s!"[WARN] 索引目录不存在: {indexPath}", "请先运行以下命令构建索引:",
      "  python src/preprocessor/static_analyzer.py --monolith-root <your_project>",
      "  python src/preprocessor/build_rag.py --monolith-root <your_project>"]
    return false
  line s!"加载索引: {indexPath}"
  try
    line s!"\n执行 {questions.length} 个语义搜索测试...\n"
    (questions.zipIdx 1).forM fun ((about, query), i) => askQuestion c i about query
    line "[PASS] 语义搜索测试完成"
    return true
  catch e =>
    line s!"[FAIL] 语义搜索测试失败: {e.message}"
    return false

def interfaceParts : List String := ["frontend", "client", "ui", "web", "public"]

def hasAnyPart (path : Value) : List String → Except Fault Bool
  | [] => .ok false
  | part :: parts => do if ← path.holdsName part then return true else hasAnyPart path parts

/-- Whether a document knows a file behind the interface, and whether it knows nothing at all. -/
def documentPlace (document : Value) : Except Fault (Bool × Bool) := do
  let metadata ← document.getD "metadata" (.map [])
  let mut behind := false
  if metadata.truthy then
    if ← metadata.holdsName "file_path" then
      let path ← metadata.getD "file_path" (.text "")
      if !(← hasAnyPart path interfaceParts) then behind := true
  return (behind, !metadata.truthy)

def showPlaces (c : Checked) : Printing Unit := do
  let store ← match Json.read (← c.read documentsPath) with
    | .ok v => pure v
    | .error e => throw (.ofJson e)
  let documents ← store.getD "docstore/data" (.map [])
  let total ← documents.length
  line s!"\n文档总数: {total}"
  line "\n检查 metadata 策略..."
  let places ← ((← documents.fields).mapM fun (_, d) => documentPlace d : Except Fault _)
  let behind := (places.filter fun p => p.1).length
  let unknown := (places.filter fun p => p.2).length
  lines [s!"  - 后端文档（有 metadata）: {behind}", s!"  - 前端文档（无 metadata）: {unknown}"]
  if behind > 0 then line "\n[PASS] 检测到后端文档带有 metadata"
  if unknown > 0 then line "[PASS] 检测到前端文档没有 metadata"
  if behind = 0 ∧ unknown = 0 then line "[WARN] 未检测到明确的前端/后端分离"

def checkPlaces (c : Checked) : Printing Bool := do
  heading "测试3：验证前端/后端分离策略"
  if (c.at? indexPath).isNone then
    line s!"[WARN] 索引目录不存在: {indexPath}"
    return false
  try
    showPlaces c
    return true
  catch e =>
    line s!"[FAIL] 验证失败: {e.message}"
    return false

def scenarios : List (String × String × String) :=
  [("Agent 需要找到处理订单的函数", "Find functions that process orders and handle order creation",
      "应该返回带有 metadata 的后端函数（函数名、文件路径、行号）"),
    ("Agent 需要找到 API 配置文件", "Where is the API configuration defined?",
      "可能返回前端配置文件（整文件内容）或后端配置"),
    ("Agent 需要找到数据库相关的代码", "Show me database connection and query functions",
      "应该返回后端数据库函数（带 metadata）")]

def showBest (metadata : Value) : Printing Unit := do
  if metadata.truthy then
    line "    类型: 后端代码片段"
    let place ← Place.ofMetadata metadata
    lines [s!"    文件: {place.file}", s!"    函数: {place.name}",
      s!"    行号: {place.first}-{place.last}", "    [PASS] Agent 可以精确定位到代码位置"]
  else lines ["    类型: 前端整文件", "    [PASS] Agent 获取到完整文件内容"]

def playScenario (c : Checked) (number : Nat) (situation query expectation : String) :
    Printing Unit := do
  lines [s!"场景 {number}: {situation}", s!"  查询: {query}", s!"  期望: {expectation}"]
  let (_, found) ← c.top 3
  match found with
  | [] => line "  ✗ 未找到相关结果"
  | best :: _ =>
    line s!"  ✓ 找到 {found.length} 个相关结果"
    showBest best.metadata
  line ""

def checkUse (c : Checked) : Printing Bool := do
  heading "测试4：模拟 Agent 使用场景"
  if (c.at? indexPath).isNone then
    line s!"[WARN] 索引目录不存在: {indexPath}"
    return false
  try
    line s!"\n模拟 {scenarios.length} 个 Agent 使用场景...\n"
    (scenarios.zipIdx 1).forM fun ((situation, query, expectation), i) =>
      playScenario c i situation query expectation
    line "[PASS] Agent 使用场景测试完成"
    return true
  catch e =>
    line s!"[FAIL] Agent 测试失败: {e.message}"
    return false

def checkup (c : Checked) : Printing Int := do
  heading "RAG 完整功能测试"
  let report ← checkReport c
  let searching ← checkSearch c
  let places ← checkPlaces c
  let use ← checkUse c
  heading "测试总结"
  let results := [("build_index", report), ("semantic_search", searching),
    ("frontend_backend", places), ("agent_use_case", use)]
  lines (results.map fun (name, passed) =>
    (if passed then "[PASS] " else "[SKIP] ") ++ name)
  let passed := (results.filter fun r => r.2).length
  line s!"\n通过: {passed}/{results.length}"
  if passed = results.length then
    lines ["\n🎉 所有测试通过！RAG 索引和语义搜索功能正常", "\nAgent 可以:",
      "  ✓ 通过语义搜索找到相关代码", "  ✓ 获取后端函数的精确位置（文件、函数名、行号）",
      "  ✓ 获取前端文件的完整内容"]
    return 0
  else if searching then
    line "\n✓ 核心功能正常：语义搜索可用"
    return 0
  else
    line "\n⚠ 部分测试未通过或跳过"
    return 1

end Unbundle.Index
