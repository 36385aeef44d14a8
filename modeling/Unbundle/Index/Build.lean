import Unbundle.Analysis.Report

/-!
# Documents of a project

A file whose symbols are known gives one document for each of them; any other file is cut into windows.
The report that lists the symbols is read from a file and may have any shape.
-/

namespace Unbundle.Index

/-! ## Chunks of a source -/

/-- A bound of a slice of `n` items: negative ones count from the end, and none lies outside. -/
def clampBound (n : Nat) (i : Int) : Nat :=
  if i < 0 then (i + n).toNat else min i.toNat n

def slice (xs : List α) (lo : Int) (hi : Option Int) : List α :=
  let from_ := clampBound xs.length lo
  let to_ := (hi.map (clampBound xs.length)).getD xs.length
  (xs.drop from_).take (to_ - from_)

def unlines (ls : List (List Char)) : List Char := Text.join ['\n'] ls

def chunk (source : List Char) (first : Int) (last : Option Int) : List Char :=
  unlines (slice (Text.lines source) (first - 1) last)

def bound? : Value → Except Fault (Option Int)
  | .null => .ok none
  | .int n => .ok (some n)
  | .bool b => .ok (some b.toNat)
  | _ => .error .badSlice

def chunkBetween (lines : List (List Char)) (first last : Value) : Except Fault (List Char) := do
  let lo ← bound? (← first.sub (.int 1))
  let hi ← bound? last
  return unlines (slice lines (lo.getD 0) hi)

/-- A document for the index: a text and where it comes from. -/
structure Document where
  text : String
  file : String
  name : String
  symbol : Option String
  kind : Value
  first : Value
  last : Value
  deriving Repr

def Document.metadata (d : Document) : Value :=
  .map ([("file_path", .text d.file), ("function_name", .text d.name)] ++
    (d.symbol.toList.map fun s => ("symbol_id", .text s)) ++
    [("type", d.kind), ("start_line", d.first), ("end_line", d.last)])

def Document.toValue (d : Document) : Value :=
  .map [("text", .text d.text), ("metadata", d.metadata)]

def windowDocument (file : String) (text : List Char) (first last : Int) : Document :=
  ⟨String.ofList text, file, "window_chunk", none, .text "window", .int first, .int last⟩

/-- The windows on some lines from a start on, each `more + 1` lines after the one before, until one
reaches the end. Blank ones are left out. -/
def windowsFrom (file : String) (lines : List (List Char)) (window : Int) (more start : Nat) :
    List Document :=
  if start < lines.length then
    let stop := min (start + window) lines.length
    let text := unlines (slice lines start (some stop))
    let here := if (Text.trim text).isEmpty then [] else [windowDocument file text (start + 1) stop]
    if lines.length ≤ stop then here
    else here ++ windowsFrom file lines window more (start + more + 1)
  else []
termination_by lines.length - start

def defaultWindow : Int := 50

def defaultOverlap : Int := 10

/-- The windows on a source. The next window begins where the overlap with the one before starts, but at
least one line later. -/
def windows (source : List Char) (file : String) (window overlap : Int) : List Document :=
  windowsFrom file (Text.lines source) window (window - overlap - 1).toNat 0

/-! ## Documents of a project -/

open Files Analysis Printing

-- Sums start from the zero of the core library, also where there are others.
attribute [local instance (high)] Zero.ofOfNat0

abbrev SymbolTable := List (Value × List Value)

def SymbolTable.add (file symbol : Value) : SymbolTable → SymbolTable
  | [] => [(file, [symbol])]
  | (f, ss) :: rest =>
    if f.same file then (f, ss ++ [symbol]) :: rest else (f, ss) :: SymbolTable.add file symbol rest

def SymbolTable.of (file : String) : SymbolTable → List Value
  | [] => []
  | (f, ss) :: rest => if f.same (.text file) then ss else SymbolTable.of file rest

def symbolTable (symbols : List Value) : Except Fault SymbolTable :=
  symbols.foldlM (fun table symbol => do
    let file ← symbol.field "file_path"
    file.hashable
    return table.add file symbol) []

def symbolDocument (lines : List (List Char)) (file : String) (symbol : Value) :
    Except Fault Document := do
  let first ← symbol.field "start_line"
  let last ← symbol.field "end_line"
  let text ← chunkBetween lines first last
  let id ← (← symbol.field "id").textFor "split"
  let kind ← symbol.getD "kind" (.text "function")
  return ⟨String.ofList text, file, String.ofList (Text.afterLast '.' id.toList), some id, kind,
    first, last⟩

structure FileDocuments where
  fromSymbols : Bool
  documents : List Document

/-- The documents of a file: of its symbols under the name with the project in front, or else under
the bare name, or else of its windows. -/
def fileDocuments (app : String) (table : SymbolTable) (f : SourceFile) :
    Except Fault FileDocuments := do
  let file := String.intercalate "/" f.names
  let symbols := match table.of s!"{app}/{file}" with
    | [] => table.of file
    | found => found
  match symbols with
  | [] => return ⟨false, windows f.source file defaultWindow defaultOverlap⟩
  | found => return ⟨true, ← found.mapM (symbolDocument (Text.lines f.source) file)⟩

def count (fromSymbols : Bool) (fs : List FileDocuments) : Nat × Nat :=
  let chosen := fs.filter fun f => f.fromSymbols == fromSymbols
  (chosen.length, (chosen.map fun f => f.documents.length).sum)

def statistics (fs : List FileDocuments) : List String :=
  let (symbolFiles, symbolChunks) := count true fs
  let (windowFiles, windowChunks) := count false fs
  let all := (fs.map fun f => f.documents.length).sum
  ["",
    "=== Indexing Statistics (Strategy: Symbol + Sliding Window) ===",
    s!"Total files scanned: {fs.length}",
    s!"  - Symbol-level chunked : {symbolFiles} files → {symbolChunks} chunks",
    s!"  - Window chunked       : {windowFiles} files → {windowChunks} chunks  " ++
      s!"(window={defaultWindow}, overlap={defaultOverlap})",
    "",
    s!"Total documents indexed: {all}",
    "================================================================",
    ""]

def documents (project : Location) (report : Value) : Printing (List Document) := do
  let symbols ← silent (report.getD "symbol_table" (.list []))
  let table ← silent (do symbolTable (← symbols.items))
  let total ← silent symbols.length
  lines [
    s!"Scanning files in {project.path.toText}...",
    s!"Symbol table contains {total} symbols across {table.length} files",
    s!"Sliding window config: {defaultWindow} lines / {defaultOverlap} overlap"]
  let found ← silent ((sources project).mapM (fileDocuments project.path.name table))
  lines (statistics found)
  return found.flatMap fun f => f.documents

/-- Reads a report from the bytes of its file, if there is one. A report that cannot be read counts as
empty. -/
def loadReport (path : String) (content : Option (List UInt8)) : Printing Value := do
  match content with
  | none =>
    line s!"Warning: Analysis report not found at {path}. Using empty report."
    return .map []
  | some bytes =>
    match strictText bytes with
    | .error e =>
      line s!"Error loading analysis report: {e.message}"
      return .map []
    | .ok text =>
      match Json.read text with
      | .ok v => return v
      | .error e =>
        let fault := Fault.ofJson e
        line s!"Error loading analysis report: {fault.message}"
        return .map []

def buildIndex (project : Location) (indexFolder : String) (reportPath : String)
    (reportContent : Option (List UInt8)) : Printing (Option (List Document)) := do
  if project.entry.isNone then
    throw (.exit (.text s!"Monolith root not found: {project.path.toText}"))
  let report ← loadReport reportPath reportContent
  match ← documents project report with
  | [] =>
    line s!"No documents found in {project.path.toText}"
    return none
  | docs =>
    line s!"Building index for {docs.length} code chunks..."
    line s!"RAG index built successfully! Persisted to {indexFolder}"
    return some docs

end Unbundle.Index
