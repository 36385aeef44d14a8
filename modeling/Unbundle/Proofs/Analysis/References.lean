import Unbundle.Proofs.Analysis.Callers
import Unbundle.Proofs.Analysis.Tables

/-!
# References inside a report

The parts of a report come from different passes over the project, and still each name that one part uses is
one that another part defines.
-/

open List

namespace Unbundle.Analysis

open Files

namespace Report

/-- All that a report refers to is there: files are source files of the project, callers are symbols of
their file, entry points are listed, what they call has an edge, and schema files are tagged. -/
structure IsConsistent (project : Location) (r : Report) : Prop where
  dependencies : ∀ key, key ∈ r.dependencies.map Prod.fst ↔
    ∃ names, IsSource project names ∧ key = recordedPath project.path.name names
  tags : ∀ key ∈ r.tags.map Prod.fst, key ∈ r.dependencies.map Prod.fst
  symbols : ∀ s ∈ r.symbols, s.file ∈ r.dependencies.map Prod.fst
  entryPoints : ∀ e ∈ r.entryPoints, e.file ∈ r.dependencies.map Prod.fst
  calls : ∀ e ∈ r.calls, e.file ∈ r.dependencies.map Prod.fst
  callers : ∀ e ∈ r.calls, e.caller = "(module-level)" ∨
    ∃ s ∈ r.symbols, s.file = e.file ∧ IsLastName e.caller s.id
  entryCalls : ∀ v ∈ r.entryCalls, ∃ e ∈ r.entryPoints, ∃ cs, v = e.callRecord cs ∧
    ∀ c ∈ cs, ∃ d ∈ r.calls, d.file = e.file ∧ d.caller = e.handler ∧
      c.target = .text d.target ∧ c.symbol = .text d.symbol
  schemaFiles : ∀ file ∈ r.tables.schemaFiles, ∃ tags, (file, tags) ∈ r.tags ∧ "DynamoDB" ∈ tags

variable {project : Location} {printed : String} {r : Report}

lemma path_mem_dependencies {g : FileFindings} (hg : g ∈ r.files) :
    g.path ∈ r.dependencies.map Prod.fst := by
  simpa [dependencies] using ⟨g, hg, rfl⟩

lemma tagged_mem_dependencies {key : String} (h : key ∈ r.tags.map Prod.fst) :
    key ∈ r.dependencies.map Prod.fst := by
  simp only [tags, map_map, mem_map] at h
  obtain ⟨g, hg, rfl⟩ := h
  exact path_mem_dependencies (mem_filter.1 hg).1

namespace IsOn

variable (report : r.IsOn project printed)
include report

variable {e : CallEdge}

lemma exists_findings {f : SourceFile} (hf : f ∈ sources project) :
    ∃ g ∈ r.files, f.findings project.path.name = .ok g :=
  exists_right_of_forall₂ report.found hf

lemma mem_dependencies_iff {key : String} :
    key ∈ r.dependencies.map Prod.fst ↔
      ∃ names, IsSource project names ∧ key = recordedPath project.path.name names := by
  simp only [dependencies, map_map, mem_map, ← exists_mem_sources_iff]
  constructor
  · rintro ⟨g, hg, rfl⟩
    obtain ⟨f, hf, found⟩ := exists_left_of_forall₂ report.found hg
    exact ⟨f.names, ⟨f, hf, rfl⟩, (f.findings_file found).1.trans (origin_file _ f)⟩
  · rintro ⟨_, ⟨f, hf, rfl⟩, rfl⟩
    obtain ⟨g, hg, found⟩ := report.exists_findings hf
    exact ⟨g, hg, (f.findings_file found).1.trans (origin_file _ f)⟩

lemma symbol_mem_dependencies {s : Symbol} (hs : s ∈ r.symbols) :
    s.file ∈ r.dependencies.map Prod.fst := by
  obtain ⟨g, hg, hs⟩ := mem_flatMap.1 hs
  obtain ⟨f, -, found⟩ := exists_left_of_forall₂ report.found hg
  rw [(f.findings_file found).2.1 s hs]
  exact path_mem_dependencies hg

lemma entryPoint_mem_dependencies {e : EntryPoint} (he : e ∈ r.entryPoints) :
    e.file ∈ r.dependencies.map Prod.fst := by
  obtain ⟨g, hg, he⟩ := mem_flatMap.1 he
  obtain ⟨f, -, found⟩ := exists_left_of_forall₂ report.found hg
  rw [(f.findings_file found).2.2 e he]
  exact path_mem_dependencies hg

lemma exists_source_of_mem_calls (he : e ∈ r.calls) :
    ∃ f ∈ sources project, ∃ g ∈ r.files, ∃ calls, f.findings project.path.name = .ok g ∧
      f.calls project project.path.name = .ok calls ∧ e ∈ calls := by
  obtain ⟨all, each, flat⟩ := report.called
  rw [flat] at he
  obtain ⟨calls, member, he⟩ := mem_flatten.1 he
  obtain ⟨f, hf, called⟩ := exists_left_of_forall₂ each member
  obtain ⟨g, hg, found⟩ := report.exists_findings hf
  exact ⟨f, hf, g, hg, calls, found, called, he⟩

lemma call_mem_dependencies (he : e ∈ r.calls) :
    e.file ∈ r.dependencies.map Prod.fst := by
  obtain ⟨f, -, g, hg, calls, found, called, he⟩ := report.exists_source_of_mem_calls he
  rw [(f.calls_caller found called he).1, ← (f.findings_file found).1]
  exact path_mem_dependencies hg

lemma caller_isLastName (he : e ∈ r.calls) :
    e.caller = moduleLevel ∨ ∃ s ∈ r.symbols, s.file = e.file ∧ IsLastName e.caller s.id := by
  obtain ⟨f, -, g, hg, calls, found, called, he⟩ := report.exists_source_of_mem_calls he
  obtain ⟨file, caller⟩ := f.calls_caller found called he
  refine caller.imp_right fun ⟨s, hs, last⟩ => ⟨s, mem_flatMap.2 ⟨g, hg, hs⟩, ?_, last⟩
  obtain ⟨path, inFile, -⟩ := f.findings_file found
  rw [inFile s hs, path, file]

lemma exists_entryPoint_of_mem_entryCalls {v : Value} (hv : v ∈ r.entryCalls) :
    ∃ e ∈ r.entryPoints, ∃ cs, v = e.callRecord cs ∧ ∀ c ∈ cs, ∃ d ∈ r.calls,
      d.file = e.file ∧ d.caller = e.handler ∧ c.target = .text d.target ∧
      c.symbol = .text d.symbol := by
  obtain ⟨e, he, cs, record, callees⟩ := mem_callMap report.mapped hv
  refine ⟨e, he, cs, record, fun c hc => ?_⟩
  obtain ⟨d, hd, target, symbol⟩ := (callees c hc).reached
  obtain ⟨hd, same⟩ := mem_filter.1 hd
  obtain ⟨file, caller⟩ := by simpa using same
  exact ⟨d, hd, file, caller, target, symbol⟩

lemma schemaFile_tagged {file : String} (hf : file ∈ r.tables.schemaFiles) :
    ∃ tags, (file, tags) ∈ r.tags ∧ "DynamoDB" ∈ tags := by
  rw [(tableInfo_after report.tabled).1] at hf
  exact mem_taggedFiles.1 (mem_of_mem_schemaFiles hf)

end IsOn

/-- Whenever an analysis returns, all references inside its report resolve. -/
theorem references_resolve (returned : (ofProject project).result = (.ok r, printed)) :
    r.IsConsistent project := by
  have report := result_ofProject_eq_ok_iff.1 returned
  exact {
    dependencies := fun key => report.mem_dependencies_iff
    tags := fun key hk => tagged_mem_dependencies hk
    symbols := fun s hs => report.symbol_mem_dependencies hs
    entryPoints := fun e he => report.entryPoint_mem_dependencies he
    calls := fun e he => report.call_mem_dependencies he
    callers := fun e he => report.caller_isLastName he
    entryCalls := fun v hv => report.exists_entryPoint_of_mem_entryCalls hv
    schemaFiles := fun file hf => report.schemaFile_tagged hf }

def twoSources : Location where
  path := ⟨"/", ["app"]⟩
  entry := some (.folder [("m.py", .file []),
    ("x.py", .file (Text.encode "import m\n@a.get('/')\ndef f():m.g()#dynamodb\n".toList))])

theorem references_resolve_twoSources : ∃ r printed,
    (ofProject twoSources).result = (.ok r, printed) ∧
    r.calls = [⟨"app/x.py", "f", 3, "m", "m.g", false, false⟩] ∧ r.entryCalls.length = 1 ∧
    r.tables.schemaFiles = ["app/x.py"] ∧ r.IsConsistent twoSources := by
  obtain ⟨r, printed, returned, parts⟩ : ∃ r printed,
      (ofProject twoSources).result = (.ok r, printed) ∧
      (r.calls, r.entryCalls.length, r.tables.schemaFiles) =
        ([⟨"app/x.py", "f", 3, "m", "m.g", false, false⟩], 1, ["app/x.py"]) :=
    Printing.exists_result_of_map (by decide +kernel)
  obtain ⟨calls, records, schemas⟩ := by simpa only [Prod.mk.injEq] using parts
  exact ⟨r, printed, returned, calls, records, schemas, references_resolve returned⟩

end Report

end Unbundle.Analysis
