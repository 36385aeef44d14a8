import Unbundle.Files.Store
import Unbundle.Value.Access

/-!
# Review of the latest run

The report with the greatest name among those kept in a folder is read, and all sections on it are
printed.
-/

open Unbundle.Value

namespace Unbundle.Performance

open Printing

/-! ## Figures of a performance report -/

def fixed (places : Nat) (v : Value) : Printing String := do
  return String.ofList (← silent (v.fixed places))

def minutes (v : Value) : Printing String := do
  fixed 2 (← silent (v.div (.int 60)))

def exceeds (v : Value) (n : Int) : Printing Bool := silent (v.related .gt (.int n))

def figure (v : Value) (key : String) (default : Value) : Printing Value :=
  silent (v.getD key default)

def number (v : Value) (key : String) : Printing Value := figure v key (.int 0)

def summaryOf (report : Value) (calls : String) : Printing Value := do
  figure (← figure report "summary" (.map [])) calls (.map [])

def doubleRule : String := String.ofList (List.replicate 80 '=')

def heading (title : String) : Printing Unit := lines [doubleRule, title, doubleRule]

/-! ## Tasks -/

def shortName (task : Value) : Printing String := do
  let name ← figure task "task_name" (.text "Unknown")
  return (← silent (name.lead 60)).str

def printTask (task : Value) (index : Nat) : Printing Unit := do
  let name ← figure task "task_name" (.text "Unknown")
  let agent ← figure task "agent_name" (.text "Unknown")
  let duration ← number task "duration_seconds"
  let success ← figure task "success" (.bool true)
  let status := if success.truthy then "✅" else "❌"
  let short := (← silent (name.lead 60)).str
  line s!"  {status} Task {index}: {short}"
  line s!"     Agent: {agent.str}"
  line s!"     耗时: {← fixed 2 duration}秒 ({← minutes duration}分钟)"
  line ""

def taskTimes (report : Value) : Printing Unit := do
  heading "📋 Task 执行分析"
  let tasks ← figure report "task_times" (.list [])
  if !tasks.truthy then
    line "⚠️  未记录到 Task 执行信息\n"
  else
    line s!"\n共 {← silent tasks.length} 个任务:\n"
    let items ← silent tasks.items
    (items.zipIdx 1).forM fun (task, i) => printTask task i
    match items with
    | [] => return
    | t :: ts =>
      let slowest ← silent
        (extreme .gt (fun x => x.getD "duration_seconds" (.int 0)) t ts)
      line s!"🐌 最慢的任务: {← shortName slowest}"
      let longest ← number slowest "duration_seconds"
      line s!"   耗时: {← fixed 2 longest}秒"
      line ""

/-! ## Tool calls -/

structure ToolTotal where
  name : Value
  count : Nat
  total : Value

def ToolTotal.add (name duration : Value) : List ToolTotal → Except Fault (List ToolTotal)
  | [] => do return [⟨name, 1, ← addAs "+=" (.int 0) duration⟩]
  | t :: ts => do
    if t.name.same name then
      return { t with count := t.count + 1, total := ← addAs "+=" t.total duration } :: ts
    else return t :: (← ToolTotal.add name duration ts)

def ToolTotal.addCall (totals : List ToolTotal) (call : Value) : Except Fault (List ToolTotal) := do
  let name ← call.getD "tool_name" (.text "Unknown")
  let duration ← call.getD "duration_seconds" (.int 0)
  name.hashable
  ToolTotal.add name duration totals

def toolTotals (calls : List Value) : Except Fault (List ToolTotal) :=
  calls.foldlM ToolTotal.addCall []

def printTool (t : ToolTotal) : Printing Unit := do
  let average ← silent (t.total.div (.int t.count))
  line s!"\n  {t.name.str}:"
  line s!"    调用次数: {t.count}"
  line s!"    总耗时: {← fixed 3 t.total}秒"
  line s!"    平均耗时: {← fixed 3 average}秒/次"

def printToolVerdict (share : Value) : Printing Unit := do
  line "\n💡 性能评估:"
  if ← exceeds share 20 then
    line s!"  ⚠️  工具调用占比较高 ({← fixed 1 share}%)，可能存在效率问题"
    line "  建议检查最耗时的工具调用"
  else if ← exceeds share 10 then
    line s!"  ✅ 工具调用占比正常 ({← fixed 1 share}%)"
  else
    line s!"  ✅ 工具调用很高效 ({← fixed 1 share}%)"

def toolCalls (report : Value) : Printing Unit := do
  heading "🔧 工具调用分析"
  let calls ← figure report "tool_calls" (.list [])
  let summary ← summaryOf report "tool_calls"
  if !calls.truthy then
    line "⚠️  未记录到工具调用\n"
  else
    let count ← number summary "count"
    let total ← number summary "total_time_seconds"
    let share ← number summary "percentage_of_total"
    line "\n📈 基本统计:"
    line s!"  调用次数: {count.str}"
    line s!"  总耗时: {← fixed 2 total}秒"
    line s!"  占总时间: {← fixed 1 share}%"
    let totals ← silent (do toolTotals (← calls.items))
    line "\n🔨 各工具调用统计:"
    (← silent (sortFalling ToolTotal.total totals)).forM printTool
    printToolVerdict share
    line ""

/-! ## Calls of the language model -/

/-- The values of a field over some calls, those left out that do not count as true. -/
def truthyFigures (calls : List Value) (key : String) : Except Fault (List Value) := do
  let found ← calls.mapM fun c => c.get key
  return found.filter truthy

def printDurations (calls : List Value) : Printing Unit := do
  match ← silent (do sort (← truthyFigures calls "duration_seconds")) with
  | [] => return
  | d :: ds =>
    let least ← silent (extreme .lt pure d ds)
    let greatest ← silent (extreme .gt pure d ds)
    let middle := ((d :: ds)[(ds.length + 1) / 2]?).getD d
    line "\n⏱️  调用时间分布:"
    line s!"  最快: {← fixed 2 least}秒"
    line s!"  最慢: {← fixed 2 greatest}秒"
    line s!"  中位数: {← fixed 2 middle}秒"

def printTokens (calls : List Value) : Printing Unit := do
  match ← silent (truthyFigures calls "total_tokens") with
  | [] => return
  | counts =>
    let total ← silent (sum counts)
    let average ← silent (total.div (.int counts.length))
    line "\n💬 Token 使用:"
    let shown ← silent total.groupedText
    line s!"  总 Tokens: {String.ofList shown}"
    line s!"  平均 Tokens/次: {← fixed 0 average}"

def printModelVerdict (share average : Value) : Printing Unit := do
  line "\n💡 性能评估:"
  if ← exceeds share 70 then
    line s!"  ⚠️  LLM 调用占比过高 ({← fixed 1 share}%)，这是主要瓶颈！"
    line "\n  建议:"
    line "  1. 考虑更换响应更快的模型"
    if ← exceeds average 10 then
      line s!"  2. 平均响应时间 {← fixed 1 average}秒偏高，建议："
      line "     - 尝试 gpt-4o-mini (通常 2-5 秒)"
      line "     - 尝试 gpt-3.5-turbo (通常 1-3 秒)"
      line "     - 使用本地 Ollama 模型 (通常 5-15 秒，但无网络延迟)"
    line "  3. 优化 prompt 以减少 token 使用"
    line "  4. 检查是否有不必要的重复调用"
  else if ← exceeds share 50 then
    line s!"  ✅ LLM 调用占比合理 ({← fixed 1 share}%)"
    line "  可以进一步优化，但不是最主要的瓶颈"
  else
    line s!"  ✅ LLM 调用占比很低 ({← fixed 1 share}%)，表现优秀！"

def modelCalls (report : Value) : Printing Unit := do
  heading "🤖 LLM API 调用分析"
  let calls ← figure report "llm_calls" (.list [])
  let summary ← summaryOf report "llm_calls"
  if !calls.truthy then
    line "⚠️  未记录到 LLM 调用\n"
  else
    let count ← number summary "count"
    let total ← number summary "total_time_seconds"
    let average ← number summary "average_time_seconds"
    let share ← number summary "percentage_of_total"
    line "\n📈 基本统计:"
    line s!"  调用次数: {count.str}"
    line s!"  总耗时: {← fixed 2 total}秒 ({← minutes total}分钟)"
    line s!"  平均耗时: {← fixed 2 average}秒/次"
    line s!"  占总时间: {← fixed 1 share}%"
    let items ← silent calls.items
    printDurations items
    printTokens items
    printModelVerdict share average
    line ""

/-! ## Distribution of time -/

-- Powers are those of the core library, also where there are others.
attribute [local instance (high)] instPowNat

structure Part where
  name : String
  share : Value
  time : Value

def barLength : Nat := 60

/-- As many cells as a number says, none for a negative one. There cannot be more than an index can
count. -/
def cells (c : Char) (n : Int) : Except Fault String :=
  if n < -2 ^ (63 : Nat) ∨ 2 ^ (63 : Nat) ≤ n then
    .error (.overflow "cannot fit 'int' into an index-sized integer")
  else .ok (String.ofList (List.replicate n.toNat c))

def bar (share : Value) : Except Fault String := do
  let full ← (← ((int barLength).mul share).bind fun v => v.div (.int 100)).truncated
  return (← cells '█' full) ++ (← cells ' ' (barLength - full))

def printBar (label : String) (part : Part) : Printing Unit := do
  let drawn ← silent (bar part.share)
  line s!"  {label}: {drawn} {← fixed 1 part.share}% ({← fixed 1 part.time}s)"

def firstAdvice : String → String
  | "LLM API 调用" => "  ➡️  优先优化 LLM 调用速度（切换更快的模型）"
  | "工具调用" => "  ➡️  优先优化工具效率（添加缓存、减少 I/O）"
  | _ => "  ➡️  优先优化 Agent 逻辑（减少不必要的思考步骤）"

def distribution (report : Value) : Printing Unit := do
  heading "📊 整体时间分布分析"
  let summary ← figure report "summary" (.map [])
  let total ← number summary "total_duration_seconds"
  let callsFigure (calls key : String) : Printing Value := do
    number (← figure summary calls (.map [])) key
  let modelShare ← callsFigure "llm_calls" "percentage_of_total"
  let modelTime ← callsFigure "llm_calls" "total_time_seconds"
  let toolShare ← callsFigure "tool_calls" "percentage_of_total"
  let toolTime ← callsFigure "tool_calls" "total_time_seconds"
  let otherShare ← number summary "other_percentage"
  let otherTime ← number summary "other_time_seconds"
  let model : Part := ⟨"LLM API 调用", modelShare, modelTime⟩
  let tools : Part := ⟨"工具调用", toolShare, toolTime⟩
  let other : Part := ⟨"其他处理", otherShare, otherTime⟩
  line s!"\n总执行时间: {← fixed 2 total}秒 ({← minutes total}分钟)\n"
  line "时间分布:"
  line ""
  printBar "🤖 LLM API" model
  printBar "🔧 工具调用" tools
  printBar "⚙️  其他处理" other
  line "\n💡 优化建议:"
  match ← silent (sortFalling Part.share [model, tools, other]) with
  | [] => return
  | top :: _ =>
    line s!"\n  主要瓶颈: {top.name} (占 {← fixed 1 top.share}%)"
    line (firstAdvice top.name)
    line ""

/-! ## Advice -/

structure Advice where
  priority : String
  category : String
  points : List String

def highPriority : String := "🔴 高优先级"

def middlePriority : String := "🟡 中优先级"

def modelAdvice (share : Value) : Printing (List Advice) := do
  if ← exceeds share 70 then
    return [⟨highPriority, "LLM 优化", [
      s!"LLM 调用占 {← fixed 1 share}%，建议立即优化",
      "方案 1: 切换到更快的模型（推荐 gpt-4o-mini 或 gpt-3.5-turbo）",
      "方案 2: 使用本地 Ollama 模型减少网络延迟",
      "方案 3: 优化 Agent prompt 减少 token 使用"]⟩]
  else if ← exceeds share 50 then
    return [⟨middlePriority, "LLM 优化", [
      s!"LLM 调用占 {← fixed 1 share}%，有优化空间",
      "考虑切换到更高性价比的模型"]⟩]
  else return []

def toolAdvice (share : Value) : Printing (List Advice) := do
  if ← exceeds share 20 then
    return [⟨highPriority, "工具优化", [
      s!"工具调用占 {← fixed 1 share}%，效率偏低",
      "检查是否有频繁的文件读写",
      "为 RAG 检索添加缓存机制",
      "考虑批量处理文件操作"]⟩]
  else if ← exceeds share 10 then
    return [⟨middlePriority, "工具优化", [
      s!"工具调用占 {← fixed 1 share}%，可以进一步优化"]⟩]
  else return []

def otherAdvice (share : Value) : Printing (List Advice) := do
  if ← exceeds share 30 then
    return [⟨highPriority, "Agent 逻辑优化", [
      s!"Agent 处理和框架开销占 {← fixed 1 share}%",
      "优化 Agent 的 goal 和 backstory，使其更聚焦",
      "检查是否有不必要的重复操作",
      "考虑简化任务描述"]⟩]
  else return []

def Advice.lines (a : Advice) : List String :=
  [s!"{a.priority} - {a.category}", String.ofList (List.replicate 60 '─')] ++
    a.points.map (fun p => s!"  • {p}") ++ [""]

def advice (report : Value) : Printing Unit := do
  heading "💡 综合优化建议"
  let summary ← figure report "summary" (.map [])
  let model ← figure summary "llm_calls" (.map [])
  let tools ← figure summary "tool_calls" (.map [])
  let modelShare ← number model "percentage_of_total"
  let _ ← number model "average_time_seconds"
  let toolShare ← number tools "percentage_of_total"
  let first ← modelAdvice modelShare
  let second ← toolAdvice toolShare
  let third ← otherAdvice (← number summary "other_percentage")
  match first ++ second ++ third with
  | [] => line "\n✅ 系统性能良好，暂无重要优化建议\n"
  | found =>
    line ""
    lines (found.flatMap Advice.lines)

/-! ## Review of the latest run -/

open Files

def isReportName (name : String) : Bool :=
  match Text.dropLead? "performance_report_".toList name.toList with
  | some rest => ".json".toList.isSuffixOf rest
  | none => false

def latest? (es : List (String × Entry)) : Option (String × Entry) :=
  ((es.filter fun (name, _) => isReportName name).mergeSort fun a b =>
    decide (b.1 ≤ a.1)).head?

def loadLatest (folder : Path) (es : List (String × Entry)) : Printing Value := do
  match latest? es with
  | none =>
    line s!"❌ 在 {folder.toText} 中未找到性能报告"
    line "请先运行一次 MAG 系统以生成报告"
    throw (.exit (.int 1))
  | some (name, entry) =>
    line s!"📊 加载报告: {name}\n"
    match entry with
    | .folder _ => throw (.file .isDirectory (folder.child name).toText)
    | .file content =>
      match Json.read (← silent (strictText content)) with
      | .ok v => return v
      | .error e => throw (.ofJson e)

def sections (report : Value) : Printing Unit := do
  distribution report
  modelCalls report
  taskTimes report
  toolCalls report
  advice report

def review (folder : Location) : Printing Unit := do
  match folder.entry with
  | none =>
    line s!"❌ 日志目录不存在: {folder.path.toText}"
    line "请先运行一次 MAG 系统以生成性能报告"
    throw (.exit (.int 1))
  | some _ =>
    sections (← loadLatest folder.path (← silent folder.entries))
    heading "✅ 分析完成"
    line s!"\n详细报告位置: {folder.path.toText}"
    line "\n提示: 可以对比多次运行的报告来评估优化效果\n"

end Unbundle.Performance
