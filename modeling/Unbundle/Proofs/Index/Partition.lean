import Mathlib.Algebra.GroupWithZero.Nat
import Mathlib.Data.List.Induction
import Unbundle.Index.Build
import Unbundle.Proofs.Analysis.Tables
import Unbundle.Proofs.Json.RoundTrip
import Unbundle.Proofs.Text.Utf8

/-!
# Every source gives its documents once

The sources that are cut into documents are those that an analysis lists, and the printed statistics account
for each source and each document once.
-/

open List Unbundle.Printing Unbundle.Json Unbundle.Value Unbundle.Text

namespace Unbundle.Index

open Files Analysis

/-! ### Documents of listed symbols -/

/-! ### Symbols by file -/

namespace SymbolTable

/-- The files of a table are texts. -/
def KeyedByText (table : SymbolTable) : Prop := ∀ p ∈ table, ∃ file, p.1 = .text file

lemma keyedByText_add {table : SymbolTable} (texts : table.KeyedByText) (file : String) (v : Value) :
    (table.add (.text file) v).KeyedByText := by
  induction table with
  | nil => exact forall_mem_singleton.2 ⟨file, rfl⟩
  | cons p rest ih =>
    have first := texts _ mem_cons_self
    have others : KeyedByText rest := fun q hq => texts q (mem_cons_of_mem _ hq)
    rw [add]
    split_ifs
    · exact forall_mem_cons.2 ⟨first, others⟩
    · exact forall_mem_cons.2 ⟨first, ih others⟩

lemma of_add {table : SymbolTable} (texts : table.KeyedByText) (file path : String) (v : Value) :
    (table.add (.text file) v).of path = table.of path ++ if file = path then [v] else [] := by
  induction table with
  | nil => by_cases h : file = path <;> simp [add, of, same]
  | cons p rest ih =>
    obtain ⟨key, vs⟩ := p
    obtain ⟨name, rfl⟩ : ∃ name, key = .text name := texts _ mem_cons_self
    have ih := ih fun q hq => texts q (mem_cons_of_mem _ hq)
    by_cases hk : name = file
    · subst hk
      by_cases hl : name = path <;> simp [add, of, same, hl]
    · by_cases hl : name = path
      · subst hl
        simp [add, of, same, hk, Ne.symm hk]
      · simp [add, of, same, hk, hl, ih]

end SymbolTable

/-- A symbol as a report lists it: a value that has a file, a full name and a first and a last line. -/
structure ListedSymbol where
  value : Value
  file : String
  id : String
  first : Int
  last : Int
  has_file : value.field "file_path" = .ok (.text file)
  has_id : value.field "id" = .ok (.text id)
  has_first : value.field "start_line" = .ok (.int first)
  has_last : value.field "end_line" = .ok (.int last)

def innerPath (f : SourceFile) : String := String.intercalate "/" f.names

namespace ListedSymbol

def tableOf (symbols : List ListedSymbol) : SymbolTable :=
  symbols.foldl (fun table s => table.add (.text s.file) s.value) []

lemma symbolTable_values (symbols : List ListedSymbol) :
    symbolTable (symbols.map value) = .ok (tableOf symbols) := by
  rw [symbolTable, tableOf]
  generalize ([] : SymbolTable) = table
  induction symbols generalizing table with
  | nil => rfl
  | cons s symbols ih =>
    rw [map_cons, foldlM_cons, s.has_file]
    exact ih _

lemma tableOf_concat (symbols : List ListedSymbol) (s : ListedSymbol) :
    tableOf (symbols ++ [s]) = (tableOf symbols).add (.text s.file) s.value := by
  simp [tableOf]

lemma keyedByText_tableOf (symbols : List ListedSymbol) : (tableOf symbols).KeyedByText := by
  induction symbols using reverseRecOn with
  | nil => simp [tableOf, SymbolTable.KeyedByText]
  | append_singleton symbols s ih =>
    rw [tableOf_concat]
    exact SymbolTable.keyedByText_add ih _ _

def under (symbols : List ListedSymbol) (path : String) : List ListedSymbol :=
  symbols.filter fun s => s.file = path

lemma of_tableOf (symbols : List ListedSymbol) (path : String) :
    (tableOf symbols).of path = (under symbols path).map value := by
  induction symbols using reverseRecOn with
  | nil => rfl
  | append_singleton symbols s ih =>
    rw [tableOf_concat, SymbolTable.of_add (keyedByText_tableOf symbols), ih, under, under]
    by_cases h : s.file = path <;> simp [h]

/-! ### Documents of a file -/

/-- The kind of a symbol; one without a kind counts as a function. -/
def kind (s : ListedSymbol) : Value :=
  (s.value.getD "kind" (.text "function")).toOption.getD (.text "function")

lemma has_kind (s : ListedSymbol) : s.value.getD "kind" (.text "function") = .ok s.kind := by
  have id := s.has_id
  rw [kind]
  cases value : s.value with
  | map fs => rfl
  | _ =>
    rw [value] at id
    cases id

def document (f : SourceFile) (s : ListedSymbol) : Document where
  text := String.ofList (chunk f.source s.first (some s.last))
  file := innerPath f
  name := String.ofList (afterLast '.' s.id.toList)
  symbol := some s.id
  kind := s.kind
  first := .int s.first
  last := .int s.last

lemma symbolDocument_value (f : SourceFile) (s : ListedSymbol) :
    symbolDocument (lines f.source) (innerPath f) s.value = .ok (s.document f) := by
  rw [symbolDocument, s.has_first, s.has_last, s.has_id, s.has_kind]
  rfl

/-- The symbols that are taken for those of a source: the ones under its path behind the name of the
project, or else the ones under its bare path. -/
def chosen (app : String) (symbols : List ListedSymbol) (f : SourceFile) : List ListedSymbol :=
  match under symbols (app ++ "/" ++ innerPath f) with
  | [] => under symbols (innerPath f)
  | found => found

/-- The documents of a source, given the symbols that are listed. -/
def documentsOf (app : String) (symbols : List ListedSymbol) (f : SourceFile) : FileDocuments :=
  match chosen app symbols f with
  | [] => ⟨false, windows f.source (innerPath f) defaultWindow defaultOverlap⟩
  | found => ⟨true, found.map (document f)⟩

lemma fileDocuments_tableOf (app : String) (symbols : List ListedSymbol) (f : SourceFile) :
    fileDocuments app (tableOf symbols) f = .ok (documentsOf app symbols f) := by
  have each : ∀ found : List ListedSymbol,
      (found.map value).mapM (symbolDocument (lines f.source) (innerPath f)) =
        .ok (found.map (document f)) := by
    intro found
    rw [mapM_eq_ok_iff, forall₂_map_left_iff, forall₂_map_right_iff, forall₂_same]
    exact fun s _ => symbolDocument_value f s
  rw [fileDocuments, documentsOf, chosen, of_tableOf, of_tableOf, ← innerPath]
  cases under symbols (app ++ "/" ++ innerPath f) with
  | cons s ss => exact bind_eq_ok_iff.2 ⟨_, each (s :: ss), rfl⟩
  | nil =>
    cases under symbols (innerPath f) with
    | nil => rfl
    | cons s ss => exact bind_eq_ok_iff.2 ⟨_, each (s :: ss), rfl⟩

lemma result_documents {report : Value} {symbols : List ListedSymbol}
    (listed : report.getD "symbol_table" (.list []) = .ok (.list (symbols.map value)))
    (project : Location) : ∃ opening,
    (documents project report).result =
      (.ok ((sources project).flatMap fun f => (documentsOf project.path.name symbols f).documents),
        (statistics ((sources project).map (documentsOf project.path.name symbols))).foldl
          (fun all s => all ++ (s ++ "\n")) opening) := by
  have each : (sources project).mapM (fileDocuments project.path.name (tableOf symbols)) =
      .ok ((sources project).map (documentsOf project.path.name symbols)) := by
    rw [mapM_eq_ok_iff, forall₂_map_right_iff, forall₂_same]
    exact fun f _ => fileDocuments_tableOf project.path.name symbols f
  -- what is printed first is left open until the last step
  refine ⟨?opening, ?main⟩
  case main =>
    refine after_bind_eq_ok_iff.2 ⟨.list (symbols.map value), "", congrArg (·, "") listed, ?_⟩
    refine after_bind_eq_ok_iff.2 ⟨tableOf symbols, "", ?_, ?_⟩
    · exact congrArg (·, "") (symbolTable_values symbols)
    refine after_bind_eq_ok_iff.2 ⟨_, _, rfl, ?_⟩
    refine after_bind_eq_ok_iff.2 ⟨_, _, after_lines _ _, ?_⟩
    refine after_bind_eq_ok_iff.2 ⟨_, _, congrArg (·, _) each, ?_⟩
    rw [flatMap_map]
    rfl

end ListedSymbol

end Unbundle.Index

open List

namespace Unbundle.Index

open Files Analysis

/-! ### Every source gives its documents once -/

/-! ### Statistics -/

/-- The numbers of files and chunks that are printed. -/
structure Tally where
  symbolFiles : Nat
  symbolChunks : Nat
  windowFiles : Nat
  windowChunks : Nat

/-- The statistics with these numbers, in which the totals are their sums. -/
def Tally.lines (t : Tally) : List String := [
  "",
  "=== Indexing Statistics (Strategy: Symbol + Sliding Window) ===",
  s!"Total files scanned: {t.symbolFiles + t.windowFiles}",
  s!"  - Symbol-level chunked : {t.symbolFiles} files → {t.symbolChunks} chunks",
  s!"  - Window chunked       : {t.windowFiles} files → {t.windowChunks} chunks  " ++
    s!"(window={defaultWindow}, overlap={defaultOverlap})",
  "",
  s!"Total documents indexed: {t.symbolChunks + t.windowChunks}",
  "================================================================",
  ""]

lemma count_add_count (fs : List FileDocuments) :
    (count true fs).1 + (count false fs).1 = fs.length ∧
      (count true fs).2 + (count false fs).2 = (fs.map fun f => f.documents.length).sum := by
  induction fs with
  | nil => exact ⟨rfl, rfl⟩
  | cons f fs ih =>
    obtain ⟨fromSymbols, docs⟩ := f
    cases fromSymbols with
    | false => simp [count] at ih ⊢; omega
    | true => simp [count] at ih ⊢; omega

lemma statistics_eq (fs : List FileDocuments) :
    statistics fs =
      Tally.lines ⟨(count true fs).1, (count true fs).2, (count false fs).1, (count false fs).2⟩ := by
  obtain ⟨files, chunks⟩ := count_add_count fs
  rw [Tally.lines, files, chunks]
  rfl

def tally (app : String) (symbols : List ListedSymbol) (fs : List SourceFile) : Tally where
  symbolFiles := fs.countP fun f => !(ListedSymbol.chosen app symbols f).isEmpty
  symbolChunks := (fs.map fun f => (ListedSymbol.chosen app symbols f).length).sum
  windowFiles := fs.countP fun f => (ListedSymbol.chosen app symbols f).isEmpty
  windowChunks := ((fs.filter fun f => (ListedSymbol.chosen app symbols f).isEmpty).map fun f =>
    (windows f.source (innerPath f) defaultWindow defaultOverlap).length).sum

lemma count_documentsOf (app : String) (symbols : List ListedSymbol) (fs : List SourceFile) :
    count true (fs.map (ListedSymbol.documentsOf app symbols)) =
        ((tally app symbols fs).symbolFiles, (tally app symbols fs).symbolChunks) ∧
      count false (fs.map (ListedSymbol.documentsOf app symbols)) =
        ((tally app symbols fs).windowFiles, (tally app symbols fs).windowChunks) := by
  induction fs with
  | nil => exact ⟨rfl, rfl⟩
  | cons f fs ih =>
    simp only [count, tally, map_cons, ListedSymbol.documentsOf] at ih ⊢
    cases found : ListedSymbol.chosen app symbols f with
    | nil => simp [found] at ih ⊢; omega
    | cons s ss => simp [found] at ih ⊢; omega

/-! ### The sources that are listed -/

def withoutName (app path : String) : String :=
  if app = "" then path
  else ((dropLead? (app ++ "/").toList path.toList).map String.ofList).getD path

lemma withoutName_recordedPath (app : String) (f : SourceFile) :
    withoutName app (recordedPath app f.names) = innerPath f := by
  rw [withoutName, recordedPath]
  split_ifs with unnamed
  · rfl
  · have lead := dropLead?_append (app ++ "/").toList (innerPath f).toList
    rw [← String.toList_append] at lead
    rw [← innerPath, lead, Option.map_some, String.ofList_toList, Option.getD_some]

lemma withoutName_dependencies {project : Location} {printed : String} {r : Report}
    (report : r.IsOn project printed) :
    r.dependencies.map (fun d => withoutName project.path.name d.1) = (sources project).map innerPath := by
  have paths := congrArg (map (withoutName project.path.name)) report.paths_eq
  rw [map_map, map_map] at paths
  rw [Report.dependencies, map_map]
  refine paths.trans (map_congr_left fun f _ => ?_)
  exact withoutName_recordedPath project.path.name f

lemma nodup_innerPath {project : Location} (valid : project.WellFormed) :
    ((sources project).map innerPath).Nodup := by
  refine .of_map
    (fun path => if project.path.name = "" then path else project.path.name ++ "/" ++ path) ?_
  rw [map_map]
  exact nodup_recordedPath valid

/-! ### All documents -/

def functionBeside : Location :=
  .ofFiles [("a.js", encode "let a = 1\n".toList),
    ("x.js", encode "function f() \x7b\n\x7d\n".toList)]

def besideSymbol : ListedSymbol where
  value := .map [("file_path", .text "app/x.js"), ("id", .text "app.x.f"), ("start_line", .int 1),
    ("end_line", .int 2)]
  file := "app/x.js"
  id := "app.x.f"
  first := 1
  last := 2
  has_file := rfl
  has_id := rfl
  has_first := rfl
  has_last := rfl

end Unbundle.Index

open Unbundle.Printing

namespace Unbundle

open Files Analysis

/-! ## The report between two programs -/

/-! ### Writing -/

namespace Analysis.Report

variable {project : Location} {text printed : String}

lemma result_write_eq_ok_iff :
    (write project).result = (.ok text, printed) ↔ project.entry.isNone = false ∧
      ∃ r, (ofProject project).result = (.ok r, printed) ∧
        Json.write .pretty r.toValue = .ok text := by
  rw [result_eq_after, write]
  cases missing : project.entry.isNone with
  | true =>
    simp only [Bool.true_eq_false, false_and, iff_false]
    intro h
    obtain ⟨_, _, thrown, -⟩ := after_bind_eq_ok_iff.1 h
    cases thrown
  | false =>
    simp only [Bool.false_eq_true, if_false, true_and]
    rw [after_bind_eq_ok_iff]
    constructor
    · rintro ⟨r, _, returned, silent⟩
      obtain ⟨made, rfl⟩ := Prod.mk.inj silent
      exact ⟨r, returned, made⟩
    · rintro ⟨r, returned, made⟩
      exact ⟨r, printed, returned, congrArg (·, printed) made⟩

end Analysis.Report

/-! ### Reading -/

namespace Index

variable {P : Value → Prop} {n : Nat}

lemma strictText_encode {cs : List Char} (noReturn : '\r' ∉ cs) :
    strictText (encode cs) = .ok cs := by
  rw [strictText, decode_encode]
  exact congrArg Except.ok (unifyBreaks_of_not_mem noReturn)

def notice (fault : Fault) : String := "Error loading analysis report: " ++ fault.message ++ "\n"

lemma result_loadReport_encode {cs : List Char} (noReturn : '\r' ∉ cs) (path : String) :
    (loadReport path (some (encode cs))).result = match read cs with
      | .ok v => (.ok v, "")
      | .error e => (.ok (.map []), notice (.ofJson e)) := by
  rw [loadReport]
  simp only [strictText_encode noReturn]
  cases read : read cs with
  | ok v => rfl
  | error e => rfl

/-- What is written for a value is loaded as that value, unless it nests too deep. -/
lemma loadReport_of_write {v : Value} (noFloat : v.FloatFree) (distinct : v.DistinctFields)
    {text : String} (written : write .pretty v = .ok text) (path : String) :
    (v.depth ≤ maxNesting →
      (loadReport path (some (encode text.toList))).result = (.ok v, "")) ∧
    (maxNesting < v.depth → ∃ list,
      (loadReport path (some (encode text.toList))).result =
        (.ok (.map []), notice (.ofJson (.tooDeep list)))) := by
  obtain ⟨cs, chars, rfl⟩ := map_eq_ok_iff.1 written
  rw [String.toList_ofList, result_loadReport_encode (return_not_mem_writeAt rfl noFloat chars)]
  obtain ⟨shallow, deep⟩ := read_writeAt rfl noFloat distinct chars
  refine ⟨fun h => by rw [shallow h], fun h => ?_⟩
  obtain ⟨list, refused⟩ := deep h
  exact ⟨list, by rw [refused]⟩

def nested : Nat → Value
  | 0 => .list []
  | n + 1 => .list [nested n]

lemma depth_nested (n : Nat) : (nested n).depth = n + 1 := by
  induction n with
  | zero => rfl
  | succ n ih => simp [nested, depth, depthItems, ih]

lemma every_nested (ordinary : Ordinary P) (n : Nat) : (nested n).Every P := by
  induction n with
  | zero => simp [nested, ordinary.list]
  | succ n ih => simp [nested, ordinary.list, ih]

lemma exists_writeAt_nested (n level : Nat) : ∃ cs, writeAt .pretty level (nested n) = .ok cs := by
  induction n generalizing level with
  | zero => exact ⟨_, by rw [nested, writeAt]⟩
  | succ n ih =>
    obtain ⟨cs, written⟩ := ih (level + 1)
    exact ⟨_, by rw [nested, writeAt, writeItems, written]; rfl⟩

def package (n : Nat) : Value := .map [("dependencies", .map [("a", nested n)])]

def packageText (n : Nat) : List Char := (writeAt .pretty 0 (package n)).toOption.getD []

def deepPackage (n : Nat) : Location where
  path := ⟨"/", ["app"]⟩
  entry := some (.folder [("package.json", .file (encode (packageText n)))])

def declaredPackage (n : Nat) : List (String × Value) :=
  [("nodejs_dependencies", .map [("dependencies",
    .list [.map [("name", .text "a"), ("version", nested n)]])])]

def deepReport (n : Nat) : Report where
  drawing := "app/\n└── package.json"
  files := []
  calls := []
  entryCalls := []
  declared := declaredPackage n
  tables := ⟨false, [], []⟩

lemma deepPackage_wellFormed (n : Nat) : (deepPackage n).WellFormed where
  name := .inr (by decide : IsName "app")
  no_null := (by decide : '\x00' ∉ "/".toList ∧ ∀ n ∈ ["app"], '\x00' ∉ n.toList)
  tree := by
    rintro _ ⟨⟩
    exact .folder (List.nodup_singleton _) (List.forall_mem_singleton.2 (by decide : IsName "package.json"))
      (List.forall_mem_singleton.2 (.file _))

lemma every_package (ordinary : Ordinary P) (n : Nat) : (package n).Every P := by
  simp [package, ordinary.map, every_nested ordinary]

lemma writeAt_package (n : Nat) : writeAt .pretty 0 (package n) = .ok (packageText n) := by
  obtain ⟨cs, written⟩ := exists_writeAt_nested n 2
  have whole : ∃ cs, writeAt .pretty 0 (package n) = .ok cs :=
    ⟨_, by rw [package, writeAt, writeFields, writeAt, writeFields, written]; rfl⟩
  obtain ⟨cs, whole⟩ := whole
  rw [packageText, whole]
  rfl

lemma declared_deepPackage (h : n + 3 ≤ maxNesting) :
    declared (deepPackage n) = .ok (declaredPackage n) := by
  have noFloat : (package n).FloatFree := every_package ordinary_floatFree n
  have distinct : (package n).DistinctFields := every_package ordinary_distinctFields n
  have depth : (package n).depth = n + 3 := by
    simp [package, depth, depthFields, depth_nested]
  have source := strictText_encode (return_not_mem_writeAt rfl noFloat (writeAt_package n))
  have read := (read_writeAt rfl noFloat distinct (writeAt_package n)).1 (depth ▸ h)
  have found : packages (packageText n) = .ok [("dependencies",
      .list [.map [("name", .text "a"), ("version", nested n)]])] := by
    rw [packages, read]
    rfl
  have scripts : declaredPackages (deepPackage n) = .ok (declaredPackage n) := by
    change (strictText (encode (packageText n)) >>= fun text => packages text >>= _) = _
    rw [source]
    change (packages (packageText n) >>= _) = _
    rw [found]
    rfl
  change (declaredPackages (deepPackage n) >>= _) = _
  rw [scripts]
  rfl

lemma ofProject_deepPackage (h : n + 3 ≤ maxNesting) :
    (Report.ofProject (deepPackage n)).result = (.ok (deepReport n), "") := by
  refine Report.result_ofProject_eq_ok_iff.2 ⟨rfl, declared_deepPackage h, ?_, ⟨[], ?_, rfl⟩, rfl, rfl⟩
  · exact .nil
  · exact .nil

lemma toValue_deepReport (n : Nat) : (deepReport n).toValue = .map [
    ("project_structure", .text "app/\n└── package.json"), ("entry_points", .list []),
    ("dependency_graph", .map []), ("file_tags", .map []), ("symbol_table", .list []),
    ("config_info", .map (declaredPackage n))] := rfl

lemma depth_deepReport (n : Nat) : (deepReport n).toValue.depth = n + 6 := by
  simp [toValue_deepReport, declaredPackage, depth, depthFields, depthItems,
    depth_nested]

lemma every_deepReport (ordinary : Ordinary P) (n : Nat) : (deepReport n).toValue.Every P := by
  simp [toValue_deepReport, declaredPackage, ordinary.map, ordinary.list, ordinary.text,
    every_nested ordinary]

lemma exists_write_deepPackage (h : n + 3 ≤ maxNesting) :
    ∃ text, write .pretty (deepReport n).toValue = .ok text ∧
      (Report.write (deepPackage n)).result = (.ok text, "") := by
  obtain ⟨cs, version⟩ := exists_writeAt_nested n 5
  have whole : ∃ cs, writeAt .pretty 0 (deepReport n).toValue = .ok cs := by
    rw [toValue_deepReport, declaredPackage]
    simp only [writeAt, writeFields, writeItems, version]
    exact ⟨_, rfl⟩
  obtain ⟨cs, whole⟩ := whole
  have written : write .pretty (deepReport n).toValue = .ok (.ofList cs) :=
    map_eq_ok_iff.2 ⟨cs, whole, rfl⟩
  exact ⟨_, written, Report.result_write_eq_ok_iff.2
    ⟨rfl, deepReport n, ofProject_deepPackage h, written⟩⟩

/-- The value that a report file spells, if there is a file and it is the text of a value. -/
def spelled? (content : Option (List UInt8)) : Option Value :=
  content.bind fun bytes => (strictText bytes).toOption.bind fun text => (read text).toOption

lemma exists_result_loadReport (path : String) (content : Option (List UInt8)) :
    ∃ printed, (loadReport path content).result = (.ok ((spelled? content).getD (.map [])), printed) := by
  cases content with
  | none => exact ⟨_, rfl⟩
  | some bytes =>
    rw [loadReport, spelled?, Option.bind_some]
    cases strictText bytes with
    | error e => exact ⟨_, rfl⟩
    | ok text =>
      dsimp only [Except.toOption, Option.bind_some]
      cases read text <;> exact ⟨_, rfl⟩

lemma fst_after_documents (project : Location) (report : Value) (printed : String) :
    ((documents project report).after printed).1 = (documents project report).result.1 := by
  rw [result_eq_after, documents]
  simp only [after_bind, after_silent, after_pure]
  cases report.getD "symbol_table" (.list []) with
  | error e => rfl
  | ok symbols =>
    dsimp only
    cases (do symbolTable (← symbols.items)) with
    | error e => rfl
    | ok table =>
      dsimp only
      cases symbols.length with
      | error e => rfl
      | ok total => cases (sources project).mapM (fileDocuments project.path.name table) <;> rfl

/-- The documents that are indexed; without any there is no index. -/
def indexed (docs : List Document) : Option (List Document) := if docs = [] then none else some docs

/-- A file that is not the text of a value counts as an empty report, and then the windows on all sources are indexed.
A value that is no map is loaded all the same and stops the program. A map leads to its documents if it has any. -/
theorem report_file_degrades {project : Location} (present : project.entry.isNone = false) (folder path : String)
    (content : Option (List UInt8)) :
    (loadReport path content).result.1 = .ok ((spelled? content).getD (.map [])) ∧
    (spelled? content = none → (buildIndex project folder path content).result.1 = .ok (indexed
      ((sources project).flatMap fun f => windows f.source (innerPath f) defaultWindow defaultOverlap))) ∧
    ∀ v, spelled? content = some v →
      (buildIndex project folder path content).result.1 = (documents project v).result.1.map indexed ∧
      ((∀ fs, v ≠ .map fs) →
        (buildIndex project folder path content).result.1 = .error (.noAttribute v.fullKind "get")) ∧
      ∀ symbols : List ListedSymbol,
        v.getD "symbol_table" (.list []) = .ok (.list (symbols.map ListedSymbol.value)) →
        (buildIndex project folder path content).result.1 = .ok (indexed
          ((sources project).flatMap fun f => (ListedSymbol.documentsOf project.path.name symbols f).documents)) := by
  obtain ⟨printed, loaded⟩ := exists_result_loadReport path content
  have built : (buildIndex project folder path content).result.1 =
      (documents project ((spelled? content).getD (.map []))).result.1.map indexed := by
    have same := fst_after_documents project ((spelled? content).getD (.map [])) printed
    rw [← same, Printing.result_eq_after, buildIndex, present, if_neg Bool.false_ne_true]
    rw [Printing.result_eq_after] at loaded
    simp only [Printing.after_bind, loaded]
    rcases (documents project ((spelled? content).getD (.map []))).after printed with ⟨e | docs, later⟩
    · rfl
    · cases docs <;> rfl
  refine ⟨by rw [loaded], ?_, ?_⟩
  · intro unread
    obtain ⟨opening, found⟩ := @ListedSymbol.result_documents (.map []) [] rfl project
    rw [built, unread, Option.getD_none, found]
    rfl
  · intro v read
    rw [read, Option.getD_some] at built
    refine ⟨built, fun other => ?_, fun symbols listed => ?_⟩
    · rw [built]
      cases v with
      | map fs => exact absurd rfl (other fs)
      | _ => rfl
    · obtain ⟨opening, found⟩ := ListedSymbol.result_documents listed project
      rw [built, found]
      rfl

theorem report_file_degrades_broken :
    ((buildIndex (.ofFiles [("a.py", [0x61])]) "index" "report.json" (some [0xff])).result.1.map
      (·.map (·.map Document.text))).toOption = some (some ["a"]) := by
  obtain ⟨-, unread, -⟩ :=
    @report_file_degrades (.ofFiles [("a.py", [0x61])]) rfl "index" "report.json" (some [0xff])
  rw [unread (Option.isNone_iff_eq_none.1 (by decide +kernel))]
  decide +kernel

/-- A report file that is a list is not passed over. -/
theorem list_report_not_passed_over : (buildIndex (.ofFiles [("a.py", [0x61])]) "index" "report.json"
    (some (encode "[1]".toList))).result.1.toOption.isNone = true := by
  decide +kernel

end Index

end Unbundle
