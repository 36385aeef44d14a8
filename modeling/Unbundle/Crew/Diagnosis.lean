import Unbundle.Fault

/-!
# Diagnosis

Shows how the crew's language model is called: which packages are installed, what they offer, and
whether calls can be intercepted.
-/

namespace Unbundle.Crew

open Printing

/-! ## The model's environment -/

abbrev Environment := List (String × String)

def modelVariables : List String :=
  ["OPENAI_MODEL_NAME", "OPENAI_MODEL", "OPENAI_API_KEY", "OPENAI_API_BASE", "GOOGLE_API_KEY"]

namespace Environment

def setting (env : Environment) (name : String) : String :=
  Text.trimmed ((env.lookup name).getD "")

def mentions (word model : String) : Bool := Text.occursIn word.toList (Text.lower model.toList)

def missingGoogleKey : String :=
  "检测到你配置的模型是 Gemini，但未设置 GOOGLE_API_KEY。\n" ++
  "请在 .env 中设置有效的 Google AI Studio (Gemini API) Key，例如：\n" ++
  "  GOOGLE_API_KEY=AIza...（不要带引号）\n" ++
  "然后重新运行：python src/main.py"

def foreignGoogleKey : String :=
  "检测到你配置的模型是 Gemini，但 GOOGLE_API_KEY 看起来像 OpenAI/DeepSeek 的 key（以 sk- 开头）。\n" ++
  "Gemini 的 Google API Key 通常以 'AIza' 开头，需要从 Google AI Studio 获取。\n" ++
  "请把 .env 的 GOOGLE_API_KEY 换成真实可用的 Gemini API Key 后重试。"

def missingServiceKey : String :=
  "检测到你配置的模型可能是 DeepSeek/OpenAI 兼容接口，但 OPENAI_API_KEY 为空。\n" ++
  "请在 .env 中设置 OPENAI_API_KEY（并确保 OPENAI_API_BASE 指向对应服务）。"

def complaint? (env : Environment) : Option String :=
  let model := env.setting "OPENAI_MODEL_NAME"
  let google := env.setting "GOOGLE_API_KEY"
  if mentions "gemini" model && google = "" then some missingGoogleKey
  else if mentions "gemini" model && "sk-".toList.isPrefixOf (Text.lower google.toList) then
    some foreignGoogleKey
  else if mentions "deepseek" model && env.setting "OPENAI_API_KEY" = "" then
    some missingServiceKey
  else none

def validate (env : Environment) : Except Fault Unit :=
  match env.complaint? with
  | some text => .error (.refused text)
  | none => .ok ()

def settings (env : Environment) : List (String × String) :=
  modelVariables.map fun name => (name, env.setting name)

def put (name value : String) : Environment → Environment
  | [] => [(name, value)]
  | (n, v) :: env => if n = name then (n, value) :: env else (n, v) :: put name value env

/-- The environment in which a model of a service with an address of its own is named together with the
kind of the service, unless it names one already. -/
def withProvider (env : Environment) : Environment :=
  let model := env.setting "OPENAI_MODEL_NAME"
  if env.setting "OPENAI_API_BASE" ≠ "" && model ≠ "" && !model.toList.contains '/' then
    let full := s!"openai/{model}"
    let env := env.put "OPENAI_MODEL_NAME" full
    if (env.lookup "OPENAI_MODEL").isSome then env else env.put "OPENAI_MODEL" full
  else env

end Environment

/-! ## Diagnosis -/

structure ModelPackage where
  version : Option Value
  functions : List String
  values : List (String × Value)

structure CrewPackage where
  version : Option Value
  agentMethods : List String
  taskMethods : List String
  attributes : List (String × Value)
  /-- Why an agent cannot be made. -/
  refusal : Option String

structure Installation where
  env : Environment
  models : Option ModelPackage
  crews : Option CrewPackage

def wideDivider : String := String.ofList (List.replicate 80 '=')

def inOrder (names : List String) : List String :=
  names.eraseDups.mergeSort fun a b => !decide (b < a)

def isPublic (name : String) : Bool := !name.startsWith "_"

def hasWord (words : List String) (name : String) : Bool :=
  words.any fun w => Environment.mentions w name

def namesWith (words names : List String) : List String :=
  (inOrder names).filter fun n => isPublic n && hasWord words n

def listNames (names : List String) : Printing Unit :=
  lines (names.map fun n => s!"   - {n}")

def callWords : List String := ["complet", "chat"]

def needed (name : String) (package : Option α) : Except Fault α :=
  package.elim (.error (.named "ModuleNotFoundError" s!"No module named '{name}'")) .ok

namespace Installation

def needModels (i : Installation) : Except Fault ModelPackage := needed "litellm" i.models

def needCrews (i : Installation) : Except Fault CrewPackage := needed "crewai" i.crews

def needCompletion (i : Installation) : Except Fault Unit := do
  let m ← i.needModels
  if m.functions.contains "completion" || (m.values.lookup "completion").isSome then return ()
  else .error (.named "AttributeError" "module 'litellm' has no attribute 'completion'")

end Installation

def versionText (v : Option Value) : String := (v.map Value.str).getD "unknown"

def CrewPackage.makeAgent (c : CrewPackage) : Except Fault (List (String × Value)) :=
  match c.refusal with
  | some text => .error (.named "RuntimeError" text)
  | none => .ok (c.attributes ++ c.agentMethods.map ((·, .null)))

def homeOf (v : Value) : String :=
  match Text.splitOn '.' v.fullKind.toList with
  | home :: _ :: _ => String.ofList home
  | _ => "builtins"

def briefDiagnosis (i : Installation) : Printing Unit := do
  lines [wideDivider, "CrewAI LLM Call Diagnostic", wideDivider]
  line "\n1. Checking LiteLLM..."
  match i.needModels with
  | .error e => line s!"[ERROR] LiteLLM not installed: {e.message}"
  | .ok m =>
    lines ["[OK] LiteLLM installed", "\n   Available LLM methods:"]
    listNames (namesWith callWords (m.functions ++ m.values.map (·.1)))
  line "\n2. Testing patch..."
  match i.needCompletion with
  | .error e => line s!"[ERROR] Patch test failed: {e.message}"
  | .ok _ => lines ["   Patch applied to litellm.completion", "   Total calls captured: 0"]
  line "\n3. Check actual usage..."
  match i.needCompletion with
  | .error e => line s!"[ERROR] {e.message}"
  | .ok _ =>
    lines ["   Patch active. Try running your CrewAI system...",
      "   Any LLM calls will be logged above.", "   Current count: 0",
      "\n   NOTE: Patch is still active for testing"]
  lines ["\n" ++ wideDivider, "Diagnostic Complete", wideDivider]

def showModel (attributes : List (String × Value)) : Printing Unit := do
  match attributes.lookup "llm" with
  | none => pure ()
  | some llm =>
    line s!"\n   Agent.llm 类型: <class '{llm.fullKind}'>"
    line s!"   Agent.llm 模块: {homeOf llm}"
    match llm with
    | .object parts =>
      line "\n   Agent.llm 的属性:"
      lines ((parts.filter fun (n, _) => isPublic n).map fun (n, v) =>
        s!"   - {n}: {v.kind}")
    | _ => pure ()

def showAgent (i : Installation) : Printing Unit := do
  let crews ← i.needCrews
  let attributes ← crews.makeAgent
  line "\n   Agent 的 LLM 相关属性:"
  lines ((namesWith ["llm"] (attributes.map (·.1))).map fun n =>
    let kind := ((attributes.lookup n).getD .null).kind
    s!"   - {n}: {kind}")
  showModel attributes

def tryAgent (i : Installation) : Printing Unit := do
  try
    let crews ← i.needCrews
    if (i.env.lookup "OPENAI_API_KEY").getD "" = "" then
      line "   ⚠️  未设置 OPENAI_API_KEY，跳过测试调用"
    else
      let _ ← crews.makeAgent
      lines ["   Agent 创建成功，patch 测试完成", "   捕获到的调用次数: 0"]
  catch e => line s!"   ⚠️  测试调用失败: {e.message}"

def advice : List String :=
  ["\n📝 建议:", "1. 如果看到 'litellm.completion' 被调用，说明 patch 位置正确",
    "2. 如果未捕获到调用，可能 CrewAI 使用了其他方式（如直接调用 OpenAI API）",
    "3. 查看上面的 Agent.llm 信息，了解实际使用的 LLM 客户端类型",
    "4. 可能需要 patch 更底层的 API (如 openai.ChatCompletion.create)"]

def fullDiagnosis (i : Installation) : Printing Unit := do
  lines [wideDivider, "CrewAI LLM 调用诊断", wideDivider]
  line "\n1. Check LiteLLM..."
  match i.needModels with
  | .error e => line s!"❌ LiteLLM 未安装: {e.message}"
  | .ok m =>
    lines [s!"[OK] LiteLLM installed: {versionText m.version}", "\n   可用的 LLM 调用方法:"]
    listNames (namesWith callWords m.functions)
  line "\n2. 检查 CrewAI..."
  match i.needCrews with
  | .error e => line s!"❌ CrewAI 未安装: {e.message}"
  | .ok c =>
    lines [s!"✅ CrewAI 已安装: {versionText c.version}", "\n   Agent 方法:"]
    listNames (namesWith ["task"] c.agentMethods)
    line "\n   Task 方法:"
    listNames (namesWith ["execut"] c.taskMethods)
  line "\n3. 检查 Agent 的 LLM 配置..."
  try showAgent i catch e => line s!"❌ 无法创建测试 Agent: {e.message}"
  line "\n4. 尝试 Patch 并测试..."
  match i.needCompletion with
  | .error e => line s!"❌ Patch 测试失败: {e.message}"
  | .ok _ =>
    line "\n   已 patch litellm.completion，尝试调用..."
    tryAgent i
  lines ["\n" ++ wideDivider, "诊断完成", wideDivider]
  lines advice

/-- The time of a single call of the model cannot be taken: there is no recorder for it. -/
def noRecorder : Fault := .named "ModuleNotFoundError" "No module named 'src.utils'"

def timeModel (env : Environment) : Printing Int := do
  env.validate
  throw noRecorder

def timeCrew (env : Environment) : Printing Int := do
  let env := env.withProvider
  if (env.lookup "OPENAI_API_KEY").getD "" = "" then
    line "ERROR: OPENAI_API_KEY is not set in environment/.env"
    return 2
  else timeModel env

end Unbundle.Crew
