import Unbundle.Index.Trial

/-!
# Search with previews

A search from the command line. What is found is shown with the first lines of each piece of code; a
piece that knows where it starts has its lines numbered from there.
-/

namespace Unbundle.Index

open Printing

def previewLines : Nat := 8

def otherLines : Nat := 10

/-- The number of a line of a piece, counted from the line on which the piece starts, if that is
known, and from one otherwise. -/
def lineNumber (start : Option Value) (place : Nat) : Except Fault Value :=
  match start with
  | some v => do (← v.add (.int place)).sub (.int 1)
  | none => .ok (.int place)

def numberColumn (v : Value) : Except Fault (List Char) :=
  match v with
  | .int n =>
    let digits := Number.ofInt n
    .ok (List.replicate (4 - digits.length) ' ' ++ digits)
  | .bool b => .ok ("   ".toList ++ if b then ['1'] else ['0'])
  | .float _ => .error (.badFormat "d" "float")
  | .text _ => .error (.badFormat "d" "str")
  | v => .error (.noFormat v.fullKind)

def codeLines (text : List Char) : List (List Char) := Text.splitOn '\n' (Text.trim text)

def showNumbered (start : Option Value) : List (List Char × Nat) → Printing Unit
  | [] => pure ()
  | (line, place) :: rest => do
    let number ← numberColumn (← lineNumber start place)
    let shown := String.ofList (number ++ " | ".toList ++ line)
    Printing.line s!"      {shown}"
    showNumbered start rest

def showOmitted (limit : Nat) (count : Nat) : Printing Unit :=
  if limit < count then line s!"      ... (省略 {count - limit} 行)" else pure ()

def fieldIfHeld (metadata : Value) (name : String) : Except Fault (Option Value) := do
  if ← metadata.holdsName name then return some (← metadata.get name) else return none

def showPlaced (metadata text : Value) : Printing Unit := do
  let file ← metadata.getD "file_path" (.text "N/A")
  line s!"  📁 文件: {file.str}"
  match ← fieldIfHeld metadata "function_name" with
  | some name => if name.truthy then line s!"  🔧 函数: {name.str}"
  | none => pure ()
  match ← fieldIfHeld metadata "type" with
  | some kind => line s!"  📌 类型: {kind.str}"
  | none => pure ()
  let start ← fieldIfHeld metadata "start_line"
  match start, ← fieldIfHeld metadata "end_line" with
  | some first, some last => line s!"  📍 行号: {first.str}-{last.str}"
  | _, _ => pure ()
  let lines := codeLines (← text.textFor "strip").toList
  line s!"  📝 代码预览 ({lines.length} 行):"
  showNumbered start ((lines.take previewLines).zipIdx 1)
  showOmitted previewLines lines.length

def fileHint (lines : List String) : Option String :=
  (lines.take 5).find? fun l => l.startsWith "File:" || l.startsWith "Path:"

def showUnplaced (text : Value) : Printing Unit := do
  line "  📄 类型: 前端文件或未标记文件"
  let lines := (Text.splitOn '\n' (← text.textFor "split").toList).map String.ofList
  match fileHint lines with
  | some hint => line s!"  📁 {hint}"
  | none => line "  📁 文件: 未在元数据中指定"
  line "  📝 内容预览:"
  Printing.lines ((lines.take otherLines).map fun l => s!"      {l}")
  showOmitted otherLines lines.length

def isPlaced (metadata : Value) : Except Fault Bool := do
  if metadata.truthy then metadata.holdsName "file_path" else return false

def showFound (number : Nat) (s : Snippet) : Printing Bool := do
  let score := String.ofList (← (s.score.getD .null).fixed 4)
  line s!"\n[{number}] 相似度: {score}"
  let placed ← isPlaced s.metadata
  if placed then showPlaced s.metadata s.text else showUnplaced s.text
  line (String.ofList (List.replicate 60 '-'))
  return placed

def searchAdvice : List String :=
  ["\n💡 使用建议:", "  1. 对于后端代码，可以根据文件路径和行号直接定位",
    "  2. 对于前端代码，建议查看完整文件以理解上下文", "  3. 相似度 > 0.7 的结果通常更相关",
    "  4. 在MAG系统中，Coding Agent将结合文件映射表和RAG搜索结果",
    "\n🔍 其他可能的查询示例:", "  - 'authentication logic'", "  - 'database query function'",
    "  - 'API endpoint definition'", "  - 'config or environment variable usage'",
    "  - 'error handling code'", "\n🎉 RAG 检索功能正常！"]

def showResults (found : List Snippet) : Printing Unit := do
  lines [bar 70, "📊 搜索结果（纯检索模式）", bar 70,
    s!"\n✅ 找到 {found.length} 个相关代码片段", bar 70,
    s!"📂 相关代码片段 (共 {found.length} 个)", bar 70]
  let placed ← (found.zipIdx 1).mapM fun (s, i) => showFound i s
  let known := placed.count true
  let unknown := placed.count false
  lines ["\n" ++ bar 70, "✅ 搜索完成", bar 70, "\n📋 验证摘要:",
    s!"  ✓ 后端代码片段: {known} 个（有详细元数据）",
    s!"  ✓ 前端/无标记代码: {unknown} 个（完整文件上下文）"]
  if known > 0 then line "  ✓ 后端代码能精确定位（文件、函数、行号）"
  if unknown > 0 then line "  ✓ 前端代码提供完整上下文"
  lines searchAdvice

def search (query : String) (snippets : List Snippet) : Printing Bool := do
  lines [bar 70, "🔍 RAG 语义搜索测试（纯本地模式）", bar 70, s!"\n📝 查询: {query}\n"]
  try
    lines ["⏳ 加载索引和CodeBERT模型...", "🔎 执行语义搜索...\n"]
    let found := topSnippets defaultTop snippets
    if found.isEmpty then
      lines ["⚠️ 未找到相关结果", "   建议：", "   - 尝试更具体的查询",
        "   - 检查索引是否正确构建"]
      return false
    showResults found
    return true
  catch e =>
    line s!"\n❌ 错误: {e.message}"
    return false

def searchUsage : List String :=
  [bar 70, "🔍 RAG 语义搜索测试工具（纯本地模式）", bar 70, "\n💡 用法:",
    "   1. 指定查询内容: python quick_test_rag.py \"your query here\"",
    "   2. 使用默认查询: python quick_test_rag.py", "\n📝 示例查询:",
    "   - 'Find database connection code'", "   - 'User authentication logic'",
    "   - 'API endpoint definitions'", "   - 'Configuration settings'", ""]

def noIndex : List String :=
  ["❌ 错误：索引不存在", "\n请先运行以下命令构建索引:",
    "  1. python src/preprocessor/static_analyzer.py --monolith-root <your_project>",
    "  2. python src/preprocessor/build_rag.py --monolith-root <your_project>"]

def searchCommand (indexed : Bool) (words : List String) (snippets : List Snippet) :
    Printing Int := do
  if words.isEmpty then lines searchUsage
  let asked := String.intercalate " " words
  let query := if asked = "" then "How to connect to DynamoDB database?" else asked
  let found ← if indexed then search query snippets else lines noIndex *> pure false
  if found then return 0
  else
    lines ["\n" ++ bar 70, "📚 更多测试选项:", bar 70,
      "  1. 完整测试: python test_rag_complete.py", "  2. 单元测试: python test_build_rag.py",
      "  3. 查看指南: cat TEST_RAG_GUIDE.md"]
    return 1

end Unbundle.Index
