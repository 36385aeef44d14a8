import Unbundle.Proofs.Analysis.CallRecords
import Unbundle.Proofs.Analysis.SourceFiles
import Unbundle.Proofs.Json.Writable

/-!
# Findings of one file

All that is found in a source file is recorded under the path of that file.
-/

open Unbundle.Printing

namespace Unbundle.Analysis.Report

open Files

/-! ### The parts of a report -/

/-- A report on a project, by the computation that each part of it comes from. What was printed on the way
comes from looking for tables. -/
structure IsOn (project : Location) (printed : String) (r : Report) : Prop where
  drawn : Analysis.drawing project = .ok r.drawing
  declares : Analysis.declared project = .ok r.declared
  found : List.Forall₂ (fun f g => f.findings project.path.name = .ok g) (sources project) r.files
  called : ∃ calls, List.Forall₂ (fun f cs => f.calls project project.path.name = .ok cs)
    (sources project) calls ∧ r.calls = calls.flatten
  mapped : callMap (.list (r.entryPoints.map EntryPoint.toValue))
    (.list (r.calls.map CallEdge.toValue)) = .ok r.entryCalls
  tabled : (tableInfo project (textsByName r.tags)).after "" = (.ok r.tables, printed)

/-- The analysis of a project returns the report that its parts make up. -/
lemma result_ofProject_eq_ok_iff {project : Location} {printed : String} {r : Report} :
    (ofProject project).result = (.ok r, printed) ↔ r.IsOn project printed := by
  rw [result_eq_after, ofProject, after_bind_eq_ok_iff]
  simp only [after_silent, Prod.mk.injEq]
  constructor
  · rintro ⟨base, _, ⟨made, rfl⟩, h⟩
    obtain ⟨tables, _, tabled, h⟩ := after_bind_eq_ok_iff.1 h
    obtain ⟨rfl, rfl⟩ := by simpa using h
    obtain ⟨drawing, drawn, made⟩ := bind_eq_ok_iff.1 made
    obtain ⟨declared, declares, made⟩ := bind_eq_ok_iff.1 made
    obtain ⟨files, found, made⟩ := bind_eq_ok_iff.1 made
    obtain ⟨calls, called, made⟩ := bind_eq_ok_iff.1 made
    obtain ⟨entryCalls, mapped, made⟩ := bind_eq_ok_iff.1 made
    obtain rfl := pure_eq_ok_iff.1 made
    exact ⟨drawn, declares, mapM_eq_ok_iff.1 found, ⟨calls, mapM_eq_ok_iff.1 called, rfl⟩, mapped,
      tabled⟩
  · rintro ⟨drawn, declares, found, ⟨calls, called, flat⟩, mapped, tabled⟩
    refine ⟨{ r with tables := ⟨false, [], []⟩ }, "", ⟨?_, rfl⟩, ?_⟩
    · refine bind_eq_ok_iff.2 ⟨_, drawn, bind_eq_ok_iff.2 ⟨_, declares, ?_⟩⟩
      refine bind_eq_ok_iff.2 ⟨_, mapM_eq_ok_iff.2 found, ?_⟩
      refine bind_eq_ok_iff.2 ⟨_, mapM_eq_ok_iff.2 called, ?_⟩
      rw [← flat]
      exact bind_eq_ok_iff.2 ⟨_, mapped, rfl⟩
    · exact after_bind_eq_ok_iff.2 ⟨_, _, tabled, rfl⟩

end Unbundle.Analysis.Report

open List

namespace Unbundle.Analysis

open Grammar (Node)

/-! ### Findings of one file -/

variable {o : Origin} {node : Node} {source : List Char} {s : Symbol} {g : FileFindings} {e : EntryPoint}
variable {line : Nat} {ls : List (List Char)} {app : String} {f : SourceFile}

/-! ### Definitions and routes of a Python source -/

lemma mem_functionSymbol {parent : Option String} (h : s ∈ functionSymbol o parent node) : s.file = o.file := by
  cases node <;> simp_all [functionSymbol]

lemma mem_nodeSymbols (h : s ∈ nodeSymbols o node) : s.file = o.file := by
  unfold nodeSymbols at h
  split at h
  · rcases mem_cons.1 h with rfl | h
    · rfl
    · obtain ⟨method, -, h⟩ := mem_flatMap.1 h
      exact mem_functionSymbol h
  · exact mem_functionSymbol h

lemma mem_functionEntries (h : e ∈ functionEntries o node) : e.file = o.file := by
  cases node <;> simp only [functionEntries, mem_map, not_mem_nil] at h
  obtain ⟨⟨method, path⟩, -, rfl⟩ := h
  rfl

lemma mem_nodeEntries (h : e ∈ nodeEntries o node) : e.file = o.file := by
  unfold nodeEntries at h
  split at h
  · obtain ⟨method, -, h⟩ := mem_flatMap.1 h
    exact mem_functionEntries h
  · exact mem_functionEntries h

lemma visitableNodes_eq_ok {nodes : List Node} (h : visitableNodes source = .ok nodes) :
    sourceNodes source = .ok nodes := by
  obtain ⟨found, read, h⟩ := bind_eq_ok_iff.1 h
  split_ifs at h
  rw [read, pure_eq_ok_iff.1 h]

lemma sourceFindings_eq_ok (h : sourceFindings o source = .ok g) :
    ∃ nodes, sourceNodes source = .ok nodes ∧ g = findings o (tagNames source) nodes := by
  obtain ⟨nodes, visited, h⟩ := bind_eq_ok_iff.1 h
  exact ⟨nodes, visitableNodes_eq_ok visited, (pure_eq_ok_iff.1 h).symm⟩

/-! ### Definitions and routes of a script -/

lemma mem_lineSymbols_iff :
    s ∈ lineSymbols o line ls ↔ ∃ i l d, ls[i]? = some l ∧ definition? l = some d ∧
      s = ⟨o.moduleName ++ "." ++ d.1, o.file, line + i, line + i - 1 + functionLength (ls.drop i), some d.2⟩ := by
  induction ls generalizing line with
  | nil => simp [lineSymbols]
  | cons l ls ih =>
    have later : s ∈ lineSymbols o (line + 1) ls ↔ _ := ih
    simp only [Nat.succ_add_eq_add_succ] at later
    rw [← Nat.or_exists_add_one, lineSymbols]
    simp only [getElem?_cons_succ, drop_succ_cons, ← later]
    cases defined : definition? l with
    | none => simp [defined]
    | some d =>
      obtain ⟨name, kind⟩ := d
      simp [defined, toString]

lemma mem_lineSymbols (h : s ∈ lineSymbols o line ls) :
    s.file = o.file ∧ ∃ name, s.id = o.moduleName ++ "." ++ name := by
  obtain ⟨_, _, _, -, -, rfl⟩ := mem_lineSymbols_iff.1 h
  exact ⟨rfl, _, rfl⟩

lemma mem_scriptEntries {file : String} (h : e ∈ scriptEntries file source) : e.file = file := by
  obtain ⟨m, -, h⟩ := mem_filterMap.1 h
  split at h
  · obtain rfl := Option.some.inj h
    rfl
  · cases h

/-! ### A source file as a whole -/

lemma SourceFile.findings_file (h : f.findings app = .ok g) :
    g.path = (f.origin app).file ∧ (∀ s ∈ g.symbols, s.file = g.path) ∧
      ∀ e ∈ g.entryPoints, e.file = g.path := by
  unfold findings at h
  split at h
  · obtain ⟨nodes, -, rfl⟩ := sourceFindings_eq_ok h
    refine ⟨rfl, fun s hs => ?_, fun e he => ?_⟩
    · obtain ⟨node, -, hs⟩ := mem_flatMap.1 hs
      exact mem_nodeSymbols hs
    · obtain ⟨node, -, he⟩ := mem_flatMap.1 he
      exact mem_nodeEntries he
  · obtain rfl := Except.ok.inj h
    exact ⟨rfl, fun s hs => (mem_lineSymbols hs).1, fun e he => mem_scriptEntries he⟩

lemma SourceFile.findings_tags (h : f.findings app = .ok g) :
    g.tags = tagNames f.source := by
  unfold findings at h
  split at h
  · obtain ⟨nodes, -, rfl⟩ := sourceFindings_eq_ok h
    rfl
  · obtain rfl := Except.ok.inj h
    rfl

end Unbundle.Analysis

open List

namespace Unbundle

/-! ## What is inside a report -/

namespace Analysis

open Files Value

variable {P : Value → Prop} (ordinary : Ordinary P)
variable {fs : List (String × Value)} {name : String}
include ordinary

variable {edges : List CallEdge} {project : Location}

/-! ### Records -/

lemma every_ofTexts (ss : List String) : (ofTexts ss).Every P := by
  simp [ofTexts, ordinary.list, ordinary.text]

lemma EntryPoint.every_toValue (e : EntryPoint) : e.toValue.Every P := by
  simp [toValue, ordinary.map, ordinary.text]

lemma Symbol.every_toValue (s : Symbol) : s.toValue.Every P := by
  cases kind : s.kind <;> simp [toValue, kind, ordinary.map, ordinary.text, ordinary.int]

lemma CallEdge.every_toValue (e : CallEdge) : e.toValue.Every P := by
  simp [toValue, ordinary.map, ordinary.text, ordinary.int, ordinary.bool]

lemma TableInfo.every_toValue (i : TableInfo) : i.toValue.Every P := by
  simp [toValue, ordinary.map, ordinary.bool, every_ofTexts ordinary]

lemma Requirement.every_toValue (r : Requirement) : r.toValue.Every P := by
  cases version : r.version <;>
    simp [toValue, version, ofText?, ordinary.map, ordinary.text, ordinary.null]

lemma Callee.IsOf.every_toValue {c : Callee} (h : c.IsOf edges) :
    c.toValue.Every P := by
  obtain ⟨⟨e, -, target, symbol⟩, ⟨used, isUsed⟩, ⟨awaited, isAwaited⟩⟩ := h
  simp [toValue, target, symbol, isUsed, isAwaited, ordinary.map, ordinary.text, ordinary.bool]

lemma EntryPoint.every_callRecord (e : EntryPoint) {cs : List Callee}
    (h : ∀ c ∈ cs, c.IsOf edges) : (e.callRecord cs).Every P := by
  have callees : ∀ c ∈ cs, c.toValue.Every P := fun c hc => (h c hc).every_toValue ordinary
  simpa [callRecord, ordinary.map, ordinary.text, ordinary.list] using callees

omit ordinary

/-! ### Declared dependencies -/

lemma packageField_eq_ok (ordinary : Ordinary P) {package : Value} (every : package.Every P)
    (h : packageField package name = .ok fs) : fs = [] ∨ ∃ v, fs = [(name, v)] ∧ v.Every P := by
  obtain ⟨held, -, h⟩ := bind_eq_ok_iff.1 h
  split at h
  · obtain ⟨found, field, h⟩ := bind_eq_ok_iff.1 h
    split at h
    · obtain ⟨versions, fields, h⟩ := bind_eq_ok_iff.1 h
      obtain rfl := pure_eq_ok_iff.1 h
      refine .inr ⟨_, rfl, ?_⟩
      obtain ⟨gs, rfl, found⟩ := field_eq_ok field
      obtain rfl := fields_eq_ok fields
      have inside := every_map.1 ((every_map.1 every).2 _ (mem_of_lookup found))
      rw [every_list, forall_mem_map]
      refine ⟨ordinary.list _, fun f hf => ?_⟩
      simpa [ordinary.map, ordinary.text] using inside.2 f hf
    · exact .inl (pure_eq_ok_iff.1 h).symm
  · exact .inl (pure_eq_ok_iff.1 h).symm

lemma every_packages (ordinary : Ordinary P) (read : ∀ {source v}, Json.read source = .ok v → v.Every P)
    {source : List Char} (h : packages source = .ok fs) : (map fs).Every P := by
  rw [packages] at h
  split at h
  · obtain rfl := Except.ok.inj h
    simp [ordinary.map]
  · cases h
  · rename_i package found
    obtain ⟨used, first, h⟩ := bind_eq_ok_iff.1 h
    obtain ⟨development, second, h⟩ := bind_eq_ok_iff.1 h
    obtain rfl := pure_eq_ok_iff.1 h
    rcases packageField_eq_ok ordinary (read found) first with rfl | ⟨v, rfl, hv⟩
    all_goals
      rcases packageField_eq_ok ordinary (read found) second with rfl | ⟨w, rfl, hw⟩
      all_goals simp [ordinary.map, *]

lemma declaredRequirements_eq_ok (ordinary : Ordinary P)
    (h : declaredRequirements project = .ok fs) :
    fs = [] ∨ ∃ v, fs = [("python_dependencies", v)] ∧ v.Every P := by
  obtain ⟨content, -, h⟩ := bind_eq_ok_iff.1 h
  split at h
  · exact .inl (pure_eq_ok_iff.1 h).symm
  · obtain ⟨text, -, h⟩ := bind_eq_ok_iff.1 h
    split at h
    · exact .inl (pure_eq_ok_iff.1 h).symm
    · refine .inr ⟨_, (pure_eq_ok_iff.1 h).symm, ?_⟩
      simp [ordinary.list, Requirement.every_toValue ordinary]

lemma fileContent?_eq_some {content : List UInt8}
    (h : fileContent? project name = .ok (some content)) : project.find? [name] = some (.file content) := by
  rw [fileContent?] at h
  split at h
  · cases h
  · rename_i found file
    rw [file, Option.some.inj (Except.ok.inj h)]
  · cases h

lemma declaredPackages_eq_ok (h : declaredPackages project = .ok fs) :
    fs = [] ∨ ∃ content source found, project.find? ["package.json"] = some (.file content) ∧
      packages source = .ok found ∧ fs = [("nodejs_dependencies", .map found)] := by
  obtain ⟨content, file, h⟩ := bind_eq_ok_iff.1 h
  split at h
  · exact .inl (pure_eq_ok_iff.1 h).symm
  · obtain ⟨text, -, h⟩ := bind_eq_ok_iff.1 h
    obtain ⟨found, read, h⟩ := bind_eq_ok_iff.1 h
    split at h
    · exact .inl (pure_eq_ok_iff.1 h).symm
    · refine .inr ⟨_, text, _, fileContent?_eq_some file, read, (pure_eq_ok_iff.1 h).symm⟩

lemma every_declared (ordinary : Ordinary P)
    (read : (∃ content, project.find? ["package.json"] = some (.file content)) →
      ∀ {source v}, Json.read source = .ok v → v.Every P) (h : declared project = .ok fs) :
    (map fs).Every P := by
  obtain ⟨python, first, h⟩ := bind_eq_ok_iff.1 h
  obtain ⟨scripts, second, h⟩ := bind_eq_ok_iff.1 h
  obtain rfl := pure_eq_ok_iff.1 h
  rcases declaredRequirements_eq_ok ordinary first with rfl | ⟨v, rfl, hv⟩
  all_goals
    rcases declaredPackages_eq_ok second with rfl | ⟨content, source, found, file, packaged, rfl⟩
    · simp [ordinary.map, *]
    · have packaged := every_packages ordinary (read ⟨content, file⟩) packaged
      simp [ordinary.map, *]

/-! ### The report -/

namespace Report

variable {project : Location} {printed : String} {r : Report}

lemma IsOn.paths_eq (report : r.IsOn project printed) :
    r.files.map FileFindings.path =
      (sources project).map fun f => recordedPath project.path.name f.names := by
  rw [← forall₂_eq_eq_eq, forall₂_map_left_iff, forall₂_map_right_iff]
  refine report.found.flip.imp fun g f found => ?_
  rw [(f.findings_file found).1, origin_file]

lemma IsOn.nodup_paths (report : r.IsOn project printed) (valid : project.WellFormed) :
    (r.files.map FileFindings.path).Nodup :=
  report.paths_eq ▸ nodup_recordedPath valid

lemma mem_fieldUnlessEmpty {xs : List Value} {f : String × Value} (h : f ∈ fieldUnlessEmpty name xs) :
    f = (name, .list xs) := by
  rw [fieldUnlessEmpty] at h
  split_ifs at h
  · cases h
  · exact mem_singleton.1 h

section

variable (ordinary : Ordinary P)
include ordinary

lemma every_textsByName {xs : List (String × List String)} (distinct : (xs.map Prod.fst).Nodup) :
    (textsByName xs).Every P := by
  have names : (xs.map fun x => (x.1, ofTexts x.2)).map Prod.fst = xs.map Prod.fst := by
    rw [map_map]
    rfl
  rw [textsByName, every_map]
  refine ⟨ordinary.map (names ▸ distinct), fun f hf => ?_⟩
  obtain ⟨x, -, rfl⟩ := mem_map.1 hf
  exact every_ofTexts ordinary x.2

lemma every_dependencies (distinct : (r.files.map FileFindings.path).Nodup) :
    (textsByName r.dependencies).Every P := by
  refine every_textsByName ordinary ?_
  rwa [dependencies, map_map]

lemma every_tags (distinct : (r.files.map FileFindings.path).Nodup) :
    (textsByName r.tags).Every P := by
  refine every_textsByName ordinary ?_
  rw [tags, map_map]
  exact distinct.sublist (filter_sublist.map _)

lemma IsOn.every_entryCalls (report : r.IsOn project printed) :
    (list r.entryCalls).Every P := by
  rw [every_list]
  refine ⟨ordinary.list _, fun v hv => ?_⟩
  obtain ⟨e, -, cs, rfl, callees⟩ := mem_callMap report.mapped hv
  exact e.every_callRecord ordinary callees

lemma IsOn.every_toValue (report : r.IsOn project printed) (valid : project.WellFormed)
    (declared : (map r.declared).Every P) : r.toValue.Every P := by
  have paths := report.nodup_paths valid
  have dependencies := every_dependencies ordinary paths
  have tags := every_tags ordinary paths
  have entryCalls := report.every_entryCalls ordinary
  rw [toValue]
  constructor
  · refine ordinary.map ?_
    simp only [fieldUnlessEmpty]
    split_ifs <;> simp
  · simp only [forall_mem_append]
    refine ⟨⟨⟨⟨?_, ?_⟩, ?_⟩, ?_⟩, ?_⟩
    · simp [dependencies, tags, ordinary.text, ordinary.list, EntryPoint.every_toValue ordinary,
        Symbol.every_toValue ordinary]
    · intro f hf
      rw [mem_fieldUnlessEmpty hf]
      simp [ordinary.list, CallEdge.every_toValue ordinary]
    · intro f hf
      rw [mem_fieldUnlessEmpty hf]
      exact entryCalls
    · intro f hf
      split_ifs at hf
      · cases hf
      · rw [mem_singleton.1 hf]
        exact declared
    · intro f hf
      split_ifs at hf
      · rw [mem_singleton.1 hf]
        exact r.tables.every_toValue ordinary
      · cases hf

end

lemma IsOn.distinctFields_toValue (report : r.IsOn project printed) (valid : project.WellFormed) :
    r.toValue.DistinctFields :=
  report.every_toValue ordinary_distinctFields valid
    (every_declared ordinary_distinctFields (fun _ => Json.distinctFields_of_read) report.declares)

lemma IsOn.floatFree_toValue (report : r.IsOn project printed) (valid : project.WellFormed)
    (noPackage : ∀ content, project.find? ["package.json"] ≠ some (.file content)) :
    r.toValue.FloatFree :=
  report.every_toValue ordinary_floatFree valid
    (every_declared ordinary_floatFree (fun ⟨content, file⟩ => absurd file (noPackage content))
      report.declares)

end Report

end Analysis

end Unbundle
