import Unbundle.Proofs.Analysis.Callers
import Unbundle.Proofs.Analysis.Tables

/-!
# When an analysis returns

An analysis passes over a source that is not well formed. It is stopped by one that nests too deep or leads
to a path too long to be looked for, and by nothing else in a source.
-/

open List Unbundle.Grammar

namespace Unbundle.Analysis

open Files

/-! ## What is found in which file -/

section

variable {ε α β κ : Type} {xs : List α}

lemma flatMap_of_forall₂ {γ : Type} {f : α → Except ε β} {ys : List β}
    (h : Forall₂ (fun x y => f x = .ok y) xs ys) (items : β → List γ) :
    ys.flatMap items = xs.flatMap fun x => (f x).toOption.toList.flatMap items := by
  induction h with
  | nil => rfl
  | cons first _ ih =>
    rw [flatMap_cons, flatMap_cons, first, ih]
    simp [Except.toOption]

lemma filter_flatMap_of_key {items : α → List β} {key : α → κ} {itemKey : β → κ}
    (h : ∀ x ∈ xs, ∀ y ∈ items x, itemKey y = key x) (p : κ → Bool) :
    (xs.flatMap items).filter (fun y => p (itemKey y)) =
      (xs.filter fun x => p (key x)).flatMap items := by
  induction xs with
  | nil => rfl
  | cons x xs ih =>
    have first := h x mem_cons_self
    rw [flatMap_cons, filter_append, ih fun y hy => h y (mem_cons_of_mem x hy)]
    cases kept : p (key x) with
    | false =>
      have none : (items x).filter (fun y => p (itemKey y)) = [] :=
        filter_eq_nil_iff.2 fun y hy => by simp [first y hy, kept]
      rw [none, filter_cons_of_neg (by simp [kept]), nil_append]
    | true =>
      have all : (items x).filter (fun y => p (itemKey y)) = items x :=
        filter_eq_self.2 fun y hy => by simp [first y hy, kept]
      rw [all, filter_cons_of_pos (by simp [kept]), flatMap_cons]

end

/-! ### Sources -/

namespace SourceFile

def found (app : String) (f : SourceFile) : List FileFindings := (f.findings app).toOption.toList

def called (project : Location) (f : SourceFile) : List CallEdge :=
  (f.calls project project.path.name).toOption.toList.flatten

lemma path_of_mem_found {app : String} {f : SourceFile} {g : FileFindings} (h : g ∈ f.found app) :
    g.path = recordedPath app f.names := by
  simp only [found, Option.mem_toList] at h
  cases findings : f.findings app with
  | error e => simp [findings, Except.toOption] at h
  | ok g' =>
    obtain rfl : g' = g := by simpa [findings, Except.toOption] using h
    exact (f.findings_file findings).1.trans (origin_file app f)

end SourceFile

namespace Report

def recordFile? (record : Value) : Option String :=
  match record.field "entry_point" >>= fun entry => entry.field "file" with
  | .ok (.text file) => some file
  | _ => none

lemma recordFile?_of_record {calls : List CallEdge} {e : EntryPoint} {v : Value}
    (h : e.record? calls = some v) : recordFile? v = some e.file := by
  rw [EntryPoint.record?] at h
  split_ifs at h
  rw [← Option.some.inj h]
  rfl

lemma filter_dependencies (r : Report) (p : String → Bool) :
    r.dependencies.filter (fun d => p d.1) =
      (r.files.filter fun g => p g.path).map fun g => (g.path, g.dependencies) := by
  rw [dependencies, filter_map]
  rfl

lemma filter_tags (r : Report) (p : String → Bool) :
    r.tags.filter (fun t => p t.1) =
      ((r.files.filter fun g => p g.path).filter fun g => !g.tags.isEmpty).map
        fun g => (g.path, g.tags) := by
  rw [tags, filter_map, filter_filter, filter_filter]
  refine congrArg (map _) (filter_congr fun g _ => ?_)
  exact Bool.and_comm _ _

namespace IsOn

variable {project : Location} {printed : String} {r : Report} (report : r.IsOn project printed)
include report

lemma files_eq : r.files = (sources project).flatMap (SourceFile.found project.path.name) := by
  have taken := flatMap_of_forall₂ report.found fun g => [g]
  simp only [flatMap_singleton'] at taken
  exact taken

lemma calls_eq : r.calls = (sources project).flatMap (SourceFile.called project) := by
  obtain ⟨calls, each, flat⟩ := report.called
  rw [flat, ← flatMap_id, flatMap_of_forall₂ each id]
  simp only [flatMap_id]
  rfl

lemma entryCalls_eq : r.entryCalls = r.entryPoints.filterMap (EntryPoint.record? r.calls) :=
  Except.ok.inj (report.mapped.symm.trans (callMap_toValue r.entryPoints r.calls))

lemma calls_eq_called {f : SourceFile} (hf : f ∈ sources project) :
    f.calls project project.path.name = .ok (f.called project) := by
  obtain ⟨all, each, -⟩ := report.called
  obtain ⟨calls, -, called⟩ := exists_right_of_forall₂ each hf
  simp only [SourceFile.called, called, Except.toOption, Option.toList_some, flatten_singleton]

lemma file_of_mem_called {f : SourceFile} (hf : f ∈ sources project) {e : CallEdge}
    (he : e ∈ f.called project) : e.file = recordedPath project.path.name f.names := by
  obtain ⟨g, -, found⟩ := exists_right_of_forall₂ report.found hf
  exact (f.calls_caller found (report.calls_eq_called hf) he).1.trans (origin_file _ f)

/-! ### What is said of some files -/

variable (p : String → Bool)

lemma filter_files : r.files.filter (fun g => p g.path) =
    ((sources project).filter fun f => p (recordedPath project.path.name f.names)).flatMap
      (SourceFile.found project.path.name) := by
  rw [report.files_eq]
  exact filter_flatMap_of_key (fun f _ g hg => SourceFile.path_of_mem_found hg) p

lemma filter_symbols : r.symbols.filter (fun s => p s.file) =
    (r.files.filter fun g => p g.path).flatMap fun g => g.symbols := by
  refine filter_flatMap_of_key (fun g hg s hs => ?_) p
  obtain ⟨f, -, found⟩ := exists_left_of_forall₂ report.found hg
  exact (f.findings_file found).2.1 s hs

lemma filter_entryPoints : r.entryPoints.filter (fun e => p e.file) =
    (r.files.filter fun g => p g.path).flatMap fun g => g.entryPoints := by
  refine filter_flatMap_of_key (fun g hg e he => ?_) p
  obtain ⟨f, -, found⟩ := exists_left_of_forall₂ report.found hg
  exact (f.findings_file found).2.2 e he

lemma filter_calls : r.calls.filter (fun e => p e.file) =
    ((sources project).filter fun f => p (recordedPath project.path.name f.names)).flatMap
      (SourceFile.called project) := by
  rw [report.calls_eq]
  exact filter_flatMap_of_key (fun f hf e he => report.file_of_mem_called hf he) p

omit report in
lemma edges_filter_calls {calls : List CallEdge} {e : EntryPoint} (h : p e.file = true) :
    e.edges (calls.filter fun d => p d.file) = e.edges calls := by
  rw [EntryPoint.edges, filter_filter]
  refine filter_congr fun d _ => ?_
  by_cases same : (d.file, d.caller) = (e.file, e.handler)
  · obtain ⟨file, -⟩ := Prod.mk.inj same
    simp [file, h]
  · simp [same]

lemma filter_entryCalls : r.entryCalls.filter (fun v => (recordFile? v).all p) =
    (r.entryPoints.filter fun e => p e.file).filterMap
      (EntryPoint.record? (r.calls.filter fun d => p d.file)) := by
  rw [report.entryCalls_eq]
  induction r.entryPoints with
  | nil => rfl
  | cons e es ih =>
    cases kept : p e.file with
    | false =>
      rw [filter_cons_of_neg (by simp [kept]), ← ih]
      cases record : e.record? r.calls with
      | none => rw [filterMap_cons_none record]
      | some v =>
        rw [filterMap_cons_some record]
        simp [recordFile?_of_record record, kept]
    | true =>
      rw [filter_cons_of_pos (by simp [kept])]
      have same : e.record? (r.calls.filter fun d => p d.file) = e.record? r.calls :=
        EntryPoint.record?_congr (edges_filter_calls p kept)
      cases record : e.record? r.calls with
      | none =>
        rw [filterMap_cons_none record, filterMap_cons_none (same.trans record), ih]
      | some v =>
        rw [filterMap_cons_some record, filterMap_cons_some (same.trans record),
          filter_cons_of_pos, ih]
        simp [recordFile?_of_record record, kept]

end IsOn

end Report

open Grammar (Node)

/-! ## When an analysis returns -/

/-! ### Sources that stop an analysis -/

/-- What in a source stops the analysis of a project: it nests deeper than it is read, or deeper than it is
visited, or it imports a name that cannot be looked for, or it uses tables and its own recorded path cannot
be looked for. -/
inductive SourceFile.Stops (project : Location) (f : SourceFile) : Prop
  | reading {refusal : Refusal} (python : f.language = .python)
      (refused : parse f.source = .error refusal) (deep : refusal ≠ .malformed)
  | visiting {nodes : List Node} (python : f.language = .python)
      (read : parse f.source = .ok nodes) (deep : maxSteps < visitStepsAll nodes)
  | importing {nodes : List Node} {name source : String} {fault : Fault} (python : f.language = .python)
      (read : parse f.source = .ok nodes) (bound : (name, source) ∈ importsOf nodes)
      (looked : isLocal project source = .error fault)
  | tables {fault : Fault} (used : f.UsesTables)
      (looked : project.look (Path.ofText (recordedPath project.path.name f.names)) = .error fault)

lemma exists_localImports_iff {project : Location} {nodes : List Node} :
    (∃ imports, localImports project nodes = .ok imports) ↔
      ∀ p ∈ importsOf nodes, ∃ found, isLocal project p.2 = .ok found := by
  rw [localImports, exists_filterM_iff]

namespace SourceFile

variable {project : Location} {app : String} {f : SourceFile}

lemma exists_nodes_of_not_stops (h : ¬f.Stops project) (python : f.language = .python) :
    ∃ nodes, sourceNodes f.source = .ok nodes ∧ visitStepsAll nodes ≤ maxSteps ∧
      ∀ p ∈ importsOf nodes, ∃ found, isLocal project p.2 = .ok found := by
  cases read : parse f.source with
  | error refusal =>
    obtain rfl : refusal = .malformed := by
      by_contra deep
      exact h (.reading python read deep)
    have none : importsOf [] = [] := by rfl
    exact ⟨[], by rw [sourceNodes, read], by decide, by simp [none]⟩
  | ok nodes =>
    refine ⟨nodes, by rw [sourceNodes, read], ?_, fun p hp => ?_⟩
    · by_contra deep
      exact h (.visiting python read (Nat.lt_of_not_le deep))
    · refine exists_ok_of_ne_error fun fault looked => ?_
      exact h (.importing python read hp looked)

lemma exists_findings_of_not_stops (h : ¬f.Stops project) : ∃ g, f.findings app = .ok g := by
  rw [findings]
  cases python : f.language with
  | script => exact ⟨_, rfl⟩
  | python =>
    obtain ⟨nodes, read, shallow, -⟩ := exists_nodes_of_not_stops h python
    have visited : visitableNodes f.source = .ok nodes := by
      rw [visitableNodes, read, ok_bind, if_neg (Nat.not_lt.2 shallow)]
      rfl
    exact ⟨_, bind_eq_ok_iff.2 ⟨nodes, visited, rfl⟩⟩

lemma exists_calls_of_not_stops (h : ¬f.Stops project) : ∃ calls, f.calls project app = .ok calls := by
  rw [calls]
  cases python : f.language with
  | script => exact exists_scriptCalls_iff.2 fun _ _ => ⟨_, enclosing_toValue _ _⟩
  | python =>
    obtain ⟨nodes, read, -, found⟩ := exists_nodes_of_not_stops h python
    obtain ⟨imports, chosen⟩ := exists_localImports_iff.2 found
    exact ⟨_, bind_eq_ok_iff.2 ⟨nodes, read, bind_eq_ok_iff.2 ⟨imports, chosen, rfl⟩⟩⟩

lemma not_stops {g : FileFindings} {cs : List CallEdge} (found : f.findings app = .ok g)
    (called : f.calls project app = .ok cs)
    (looked : f.UsesTables →
      ∃ e, project.look (.ofText (recordedPath project.path.name f.names)) = .ok e) :
    ¬f.Stops project := by
  intro stops
  rw [findings] at found
  rw [calls] at called
  cases stops with
  | @reading refusal python refused deep =>
    rw [python] at found
    obtain ⟨nodes, read, -⟩ := sourceFindings_eq_ok found
    rw [sourceNodes, refused] at read
    cases refusal with
    | malformed => exact deep rfl
    | deepRules => cases read
    | deepTree => cases read
  | @visiting nodes python read deep =>
    rw [python] at found
    obtain ⟨nodes', visited, -⟩ := bind_eq_ok_iff.1 found
    rw [visitableNodes, sourceNodes, read, ok_bind, if_pos deep] at visited
    cases visited
  | @importing nodes name source fault python read bound unknown =>
    rw [python] at called
    obtain ⟨nodes', read', called⟩ := bind_eq_ok_iff.1 called
    rw [sourceNodes, read] at read'
    obtain rfl : nodes = nodes' := Except.ok.inj read'
    obtain ⟨imports, chosen, -⟩ := bind_eq_ok_iff.1 called
    obtain ⟨b, known⟩ := exists_localImports_iff.1 ⟨imports, chosen⟩ _ bound
    rw [unknown] at known
    cases known
  | tables used unknown =>
    obtain ⟨e, known⟩ := looked used
    rw [unknown] at known
    cases known

end SourceFile

/-! ### Sources without statements -/

lemma findings_nil (o : Origin) (tags : List String) : findings o tags [] = ⟨o.file, tags, [], [], []⟩ := by
  simp [findings, sorted]

lemma sourceCalls_of_empty {root : Location} {file : String} {source : List Char}
    (h : sourceNodes source = .ok []) : sourceCalls root file source = .ok [] := by
  rw [sourceCalls, h]
  rfl

/-! ### The analysis of a project -/

namespace Report

/-- A file is listed without dependencies, and nothing else is recorded under its path. -/
structure ListsEmpty (path : String) (r : Report) : Prop where
  dependencies : (path, []) ∈ r.dependencies
  symbols : ∀ s ∈ r.symbols, s.file ≠ path
  entryPoints : ∀ e ∈ r.entryPoints, e.file ≠ path
  calls : ∀ c ∈ r.calls, c.file ≠ path

variable {project : Location} {es : List (String × Entry)}

lemma exists_drawing (folder : project.entry = some (.folder es)) :
    ∃ drawn, Analysis.drawing project = .ok drawn := by
  have entries : project.entries = .ok es := by rw [Location.entries, folder]
  rw [Analysis.drawing, folder, entries]
  exact ⟨_, rfl⟩

lemma declared_eq_nil (requirements : project.find? ["requirements.txt"] = none)
    (package : project.find? ["package.json"] = none) : Analysis.declared project = .ok [] := by
  have noRequirements : declaredRequirements project = .ok [] := by
    rw [declaredRequirements, fileContent?, requirements]
    rfl
  have noPackages : declaredPackages project = .ok [] := by
    rw [declaredPackages, fileContent?, package]
    rfl
  rw [Analysis.declared, noRequirements, noPackages]
  rfl

lemma exists_source_of_mem_taggedFiles {r : Report} {app : String} {fs : List SourceFile}
    (found : Forall₂ (fun f g => f.findings app = .ok g) fs r.files) {file : String}
    (h : file ∈ taggedFiles r.tags) : ∃ f ∈ fs, f.UsesTables ∧ file = recordedPath app f.names := by
  obtain ⟨tags, tagged, used⟩ := mem_taggedFiles.1 h
  obtain ⟨g, hg, same⟩ := mem_map.1 tagged
  obtain ⟨rfl, rfl⟩ := Prod.mk.inj same
  obtain ⟨f, hf, findings⟩ := exists_left_of_forall₂ found (mem_filter.1 hg).1
  rw [f.findings_tags findings] at used
  exact ⟨f, hf, used, (f.findings_file findings).1.trans (origin_file app f)⟩

lemma exists_isOn (folder : project.entry = some (.folder es))
    (requirements : project.find? ["requirements.txt"] = none)
    (package : project.find? ["package.json"] = none)
    (h : ∀ f ∈ sources project, ¬f.Stops project) :
    ∃ (r : Report) (printed : String), r.IsOn project printed := by
  obtain ⟨drawn, draws⟩ := exists_drawing folder
  have declares := declared_eq_nil requirements package
  obtain ⟨files, found⟩ := exists_mapM_iff.2 fun f hf =>
    (SourceFile.exists_findings_of_not_stops (h f hf) : ∃ g, f.findings project.path.name = .ok g)
  obtain ⟨calls, called⟩ := exists_mapM_iff.2 fun f hf =>
    (SourceFile.exists_calls_of_not_stops (h f hf) : ∃ cs, f.calls project project.path.name = .ok cs)
  have found := mapM_eq_ok_iff.1 found
  let r : Report :=
    { drawing := drawn, files := files, calls := calls.flatten,
      entryCalls := (files.flatMap fun g => g.entryPoints).filterMap (EntryPoint.record? calls.flatten),
      declared := [], tables := ⟨false, [], []⟩ }
  obtain ⟨info, printed, tabled⟩ : ∃ info printed,
      (tableInfo project (textsByName r.tags)).after "" = (.ok info, printed) := by
    refine exists_tableInfo (fun file tagged => ?_) ""
    obtain ⟨f, hf, used, rfl⟩ := exists_source_of_mem_taggedFiles found tagged
    exact exists_ok_of_ne_error fun fault looked => h f hf (.tables used looked)
  exact ⟨{ r with tables := info }, printed,
    { drawn := draws, declares := declares, found := found,
      called := ⟨calls, mapM_eq_ok_iff.1 called, rfl⟩,
      mapped := callMap_toValue _ _,
      tabled := tabled }⟩

lemma IsOn.not_stops {r : Report} {printed : String} (report : r.IsOn project printed) {f : SourceFile}
    (hf : f ∈ sources project) : ¬f.Stops project := by
  obtain ⟨g, -, found⟩ := exists_right_of_forall₂ report.found hf
  obtain ⟨all, each, -⟩ := report.called
  obtain ⟨calls, -, called⟩ := exists_right_of_forall₂ each hf
  obtain ⟨-, looked, -⟩ := tableInfo_after report.tabled
  refine SourceFile.not_stops found called fun used => ?_
  exact looked _ (report.mem_taggedFiles_iff.2 ⟨f, hf, used, rfl⟩)

section

variable {r : Report} {printed : String} (report : r.IsOn project printed) (valid : project.WellFormed)
  {f : SourceFile} (hf : f ∈ sources project) (python : f.language = .python)
  {refusal : Refusal} (refused : parse f.source = .error refusal)

include report hf python refused in
lemma IsOn.sourceNodes_of_refused : sourceNodes f.source = .ok [] := by
  cases refusal with
  | malformed => rw [sourceNodes, refused]
  | deepRules => exact absurd (.reading python refused (by decide)) (report.not_stops hf)
  | deepTree => exact absurd (.reading python refused (by decide)) (report.not_stops hf)

include valid hf in
lemma eq_of_path {f' : SourceFile} (hf' : f' ∈ sources project)
    (same : recordedPath project.path.name f'.names = recordedPath project.path.name f.names) : f' = f :=
  inj_on_of_nodup_map (nodup_recordedPath valid) hf' hf same

include report valid hf python refused in
lemma IsOn.listsEmpty : r.ListsEmpty (recordedPath project.path.name f.names) := by
  have nodes := report.sourceNodes_of_refused hf python refused
  have empty : ∀ g ∈ r.files, g.path = recordedPath project.path.name f.names →
      g.dependencies = [] ∧ g.entryPoints = [] ∧ g.symbols = [] := by
    intro g hg path
    obtain ⟨f', hf', found⟩ := exists_left_of_forall₂ report.found hg
    have path' := (f'.findings_file found).1.trans (origin_file _ f')
    obtain rfl := eq_of_path valid hf hf' (path'.symm.trans path)
    rw [SourceFile.findings, python] at found
    obtain ⟨nodes', read, rfl⟩ := sourceFindings_eq_ok found
    rw [← Except.ok.inj (nodes.symm.trans read), findings_nil]
    exact ⟨rfl, rfl, rfl⟩
  refine ⟨?_, fun s hs file => ?_, fun e he file => ?_, fun c hc file => ?_⟩
  · obtain ⟨g, hg, found⟩ := exists_right_of_forall₂ report.found hf
    have path := (f.findings_file found).1.trans (origin_file _ f)
    exact mem_map.2 ⟨g, hg, Prod.ext path (empty g hg path).1⟩
  · obtain ⟨g, hg, hs⟩ := mem_flatMap.1 hs
    obtain ⟨f', -, found⟩ := exists_left_of_forall₂ report.found hg
    have path := ((f'.findings_file found).2.1 s hs).symm.trans file
    simp [(empty g hg path).2.2] at hs
  · obtain ⟨g, hg, he⟩ := mem_flatMap.1 he
    obtain ⟨f', -, found⟩ := exists_left_of_forall₂ report.found hg
    have path := ((f'.findings_file found).2.2 e he).symm.trans file
    simp [(empty g hg path).2.1] at he
  · rw [report.calls_eq] at hc
    obtain ⟨f', hf', hc⟩ := mem_flatMap.1 hc
    obtain rfl := eq_of_path valid hf hf' ((report.file_of_mem_called hf' hc).symm.trans file)
    have none : f'.calls project project.path.name = .ok [] := by
      rw [SourceFile.calls, python]
      exact sourceCalls_of_empty nodes
    simp [SourceFile.called, none, Except.toOption] at hc

end

def brokenOff : Location :=
  .ofFiles [("m.py", Text.encode "def g(".toList),
    ("x.py", Text.encode "import m\ndef f():m.g()\n".toList)]

/-- A source that is well formed and nests too deep to be visited: a number with many signs. -/
def manySigns : Location := .ofFiles [("x.py", List.replicate 600 0x2d ++ [0x31])]

end Report

end Unbundle.Analysis
