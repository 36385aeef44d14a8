import Unbundle.Proofs.Analysis.AlikeProjects
import Unbundle.Proofs.Analysis.RootName

/-!
# The order of entries

A file system lists the entries of a folder in any order. The report says the same in each; for tables,
since they are told from the content of the tagged files alone.
-/

open List

namespace Unbundle.Analysis

open Files

variable {project project' : Location}

/-! ### Lists in another order -/

section

variable {α β : Type}

lemma lookup_eq_of_perm {xs ys : List (String × β)} (h : xs.Perm ys) (distinct : (xs.map Prod.fst).Nodup)
    (key : String) : xs.lookup key = ys.lookup key := by
  induction h with
  | nil => rfl
  | cons p _ ih =>
    rw [map_cons, nodup_cons] at distinct
    rw [lookup_cons, lookup_cons, ih distinct.2]
  | swap p q xs =>
    obtain ⟨k, v⟩ := p
    obtain ⟨l, w⟩ := q
    have different : l ≠ k := by
      rintro rfl
      simp at distinct
    rw [lookup_cons, lookup_cons, lookup_cons, lookup_cons]
    by_cases first : key = l
    · subst first
      rw [beq_eq_false_iff_ne.2 different]
    · rw [beq_eq_false_iff_ne.2 first]
  | trans first _ ih ih' =>
    exact (ih distinct).trans (ih' ((first.map Prod.fst).nodup_iff.1 distinct))

lemma filter_eq_of_perm {xs ys : List α} {key : α → String} (h : xs.Perm ys)
    (distinct : (xs.map key).Nodup) (k : String) :
    xs.filter (fun x => key x == k) = ys.filter fun x => key x == k := by
  have single : ∀ zs : List α, (zs.map key).Nodup → (zs.filter fun x => key x == k).Pairwise Eq := by
    intro zs distinct
    refine .imp_of_mem ?_ ((pairwise_map.1 distinct).filter fun x => key x == k)
    intro x y hx hy different
    have hx := (mem_filter.1 hx).2
    have hy := (mem_filter.1 hy).2
    simp only [beq_iff_eq] at hx hy
    exact absurd (hx.trans hy.symm) different
  refine (h.filter _).eq_of_pairwise (fun x y _ _ same _ => same) (single xs distinct) (single ys ?_)
  exact (h.map key).nodup_iff.1 distinct

lemma mergeSort_eq_of_perm {before : α → α → Bool}
    (trans : ∀ a b c, before a b = true → before b c = true → before a c = true)
    (total : ∀ a b, (before a b || before b a) = true)
    (antisymm : ∀ a b, before a b = true → before b a = true → a = b) {xs ys : List α}
    (h : xs.Perm ys) : xs.mergeSort before = ys.mergeSort before := by
  refine Perm.eq_of_pairwise (fun a b _ _ => antisymm a b) (pairwise_mergeSort trans total xs)
    (pairwise_mergeSort trans total ys) ?_
  exact (mergeSort_perm xs before).trans (h.trans (mergeSort_perm ys before).symm)

end

/-! ### Sorted names -/

lemma sorted_eq {xs ys : List String} (h : ∀ x, x ∈ xs ↔ x ∈ ys) : sorted xs = sorted ys := by
  have perm : xs.eraseDups.Perm ys.eraseDups := by
    rw [perm_ext_iff_of_nodup (nodup_eraseDups xs) (nodup_eraseDups ys)]
    simpa using h
  refine mergeSort_eq_of_perm ?_ ?_ ?_ perm
  · intro a b c hab hbc
    simp only [decide_eq_true_eq] at hab hbc ⊢
    exact String.le_trans hab hbc
  · intro a b
    simpa using String.le_total a b
  · intro a b hab hba
    simp only [decide_eq_true_eq] at hab hba
    exact String.le_antisymm hab hba

lemma pairwise_sorted (xs : List String) : (sorted xs).Pairwise (· < ·) :=
  Text.pairwise_mergeSort (nodup_eraseDups xs)

/-! ### What is known of tables -/

lemma look_file_iff (h : project.Alike Perm (fun _ => Eq) project')
    {p : Path} {content : List UInt8} :
    project.look p = .ok (some (.file content)) ↔ project'.look p = .ok (some (.file content)) := by
  have looked := h.look p
  generalize project.look p = found at looked ⊢
  generalize project'.look p = found' at looked ⊢
  cases looked with
  | error e => simp
  | ok related =>
    cases related with
    | none => simp
    | some inside =>
      cases inside with
      | file same => rw [same]
      | folder => simp

/-- What is known of tables depends on the tagged files and on what can be read in them, in any order. -/
lemma tableInfo_eq
    (h : ∀ p content, project.look p = .ok (some (.file content)) ↔ project'.look p = .ok (some (.file content)))
    {tags tags' : List (String × List String)} (listed : tags.Perm tags') {info info' : TableInfo}
    {printed printed' before before' : String}
    (returned : (tableInfo project (Report.textsByName tags)).after before = (.ok info, printed))
    (returned' : (tableInfo project' (Report.textsByName tags')).after before' = (.ok info', printed')) :
    info = info' := by
  have tagged : (taggedFiles tags).Perm (taggedFiles tags') := (listed.filter _).map Prod.fst
  obtain ⟨schemas, -, named, used, names, tables⟩ := tableInfo_after returned
  obtain ⟨schemas', -, named', used', names', tables'⟩ := tableInfo_after returned'
  have sameTables : info.tables = info'.tables := by
    rw [tables, tables']
    refine sorted_eq fun name => ?_
    have here := named name
    have there := named' name
    rw [tables, mem_sorted] at here
    rw [tables', mem_sorted] at there
    rw [here, there]
    simp only [tagged.mem_iff, h]
  have sameFiles : info.schemaFiles = info'.schemaFiles := by
    rw [schemas, schemas', schemaFiles_eq_of_perm tagged]
  have sameUse : info.used = info'.used := by
    rw [used, used', tagged.isEmpty_eq]
  cases info
  cases info'
  simp_all

def oneTableFile : Location := .ofFiles [("x.py", Text.encode "TableName='orders'".toList)]

def longName : String := String.ofList (replicate (maxName + 1) 'a')

lemma look_tooLong (valid : project.WellFormed) {es : List (String × Entry)}
    (folder : project.entry = some (.folder es)) {name : String} (named : IsName name) (long : isTooLong name = true)
    (found : Option Entry) : project.look (.ofText name) ≠ .ok found := by
  have path := @ofText_intercalate [name] (by simpa using named)
  rw [String.intercalate_singleton] at path
  rw [path, Location.look, if_neg (by simpa using valid.no_null_below (by simpa using named))]
  split_ifs
  · simp
  · simp [folder, Entry.follow, named.ne_above, long, Except.mapError]

lemma look_longName (found : Option Entry) : oneTableFile.look (.ofText longName) ≠ .ok found := by
  have named : IsName longName := by constructor <;> simp [longName, ← String.toList_inj, replicate_succ]
  have letter : Text.byteLength ['a'] = 1 := by decide
  have long : isTooLong longName = true := by simp [isTooLong, longName, byteLength_replicate, letter]
  have valid : oneTableFile.WellFormed := Location.wellFormed_ofFiles (by decide) (by decide)
  exact look_tooLong valid rfl named long found

namespace Report

/-- Two reports say the same of a project as a whole and of each file, and list the same of all files, in
orders that may differ. -/
structure SameUpToOrder (r r' : Report) : Prop where
  drawing : r.drawing = r'.drawing
  dependencies : ∀ file, r.dependencies.lookup file = r'.dependencies.lookup file
  tags : ∀ file, r.tags.lookup file = r'.tags.lookup file
  declared : r.declared = r'.declared
  tables : r.tables = r'.tables
  entryPoints : r.entryPoints.Perm r'.entryPoints
  symbols : r.symbols.Perm r'.symbols
  calls : r.calls.Perm r'.calls
  entryCalls : r.entryCalls.Perm r'.entryCalls

section

variable {project project' : Location} (alike : project.Alike Perm (fun _ => Eq) project')
  {printed printed' : String} {r r' : Report} (report : r.IsOn project printed)
  (report' : r'.IsOn project' printed')
include alike report report'

lemma perm_files : r.files.Perm r'.files := by
  rw [report.files_eq, report'.files_eq, alike.path]
  exact (perm_sources alike).flatMap_right _

lemma perm_calls : r.calls.Perm r'.calls := by
  rw [report.calls_eq, report'.calls_eq, called_eq alike]
  exact (perm_sources alike).flatMap_right _

/-- All edges from a handler are found in one file, so their order is that in this file. -/
lemma edges_eq (valid : project.WellFormed) (e : EntryPoint) : e.edges r.calls = e.edges r'.calls := by
  have inFile : r.calls.filter (fun d => d.file == e.file) =
      r'.calls.filter fun d => d.file == e.file := by
    have here := report.filter_calls (· == e.file)
    have there := report'.filter_calls (· == e.file)
    rw [here, there, ← alike.path, called_eq alike,
      filter_eq_of_perm (perm_sources alike) (nodup_recordedPath valid)]
  rw [← IsOn.edges_filter_calls (· == e.file) (beq_self_eq_true e.file), inFile,
    IsOn.edges_filter_calls (· == e.file) (beq_self_eq_true e.file)]

end

/-- The reports on a project that is listed in two orders say the same. -/
theorem sameUpToOrder_listings {project project' : Location} {r r' : Report} {printed printed' : String}
    (valid : project.WellFormed) (alike : project.Alike Perm (fun _ => Eq) project')
    (returned : (ofProject project).result = (.ok r, printed))
    (returned' : (ofProject project').result = (.ok r', printed')) : r.SameUpToOrder r' := by
  have report := result_ofProject_eq_ok_iff.1 returned
  have report' := result_ofProject_eq_ok_iff.1 returned'
  have files := perm_files alike report report'
  have tags : r.tags.Perm r'.tags := (files.filter _).map _
  have entryPoints : r.entryPoints.Perm r'.entryPoints := files.flatMap_right _
  have paths := report.nodup_paths valid
  exact {
    drawing := report.drawing_eq report' alike valid
    dependencies := lookup_eq_of_perm (files.map _) (by rwa [Report.dependencies, map_map])
    tags := lookup_eq_of_perm tags (by
      rw [Report.tags, map_map]
      exact paths.sublist (filter_sublist.map _))
    declared := report.declared_eq report' alike (fun _ _ same => same) fun _ _ same => same
    tables := tableInfo_eq (fun _ _ => look_file_iff alike) tags report.tabled report'.tabled
    entryPoints := entryPoints
    symbols := files.flatMap_right _
    calls := perm_calls alike report report'
    entryCalls := by
      rw [report.entryCalls_eq, report'.entryCalls_eq]
      have records : EntryPoint.record? r.calls = EntryPoint.record? r'.calls := by
        funext e
        exact EntryPoint.record?_congr (edges_eq alike report report' valid e)
      rw [records]
      exact entryPoints.filterMap _ }

def tablesInModule : List (String × List UInt8) :=
  [("m.py", Text.encode "TableName='orders' # dynamodb\n".toList),
    ("x.py", Text.encode "import m\n@a.get('/')\ndef f():m.g()\n".toList)]

theorem sameUpToOrder_tablesInModule : ∃ r r' printed printed',
    (ofProject (.ofFiles tablesInModule)).result = (.ok r, printed) ∧
    (ofProject (.ofFiles tablesInModule.reverse)).result = (.ok r', printed') ∧
    r.dependencies = [("app/m.py", []), ("app/x.py", ["m"])] ∧
    r'.dependencies = [("app/x.py", ["m"]), ("app/m.py", [])] ∧
    r.tables.schemaFiles = ["app/m.py"] ∧ r.entryCalls.length = 1 ∧ r.SameUpToOrder r' := by
  obtain ⟨r, printed, returned, parts⟩ : ∃ r printed,
      (ofProject (.ofFiles tablesInModule)).result = (.ok r, printed) ∧
      (r.dependencies, r.tables.schemaFiles, r.entryCalls.length) =
        ([("app/m.py", []), ("app/x.py", ["m"])], ["app/m.py"], 1) :=
    Printing.exists_result_of_map (by decide +kernel)
  obtain ⟨r', printed', returned', dependencies'⟩ : ∃ r printed,
      (ofProject (.ofFiles tablesInModule.reverse)).result = (.ok r, printed) ∧
      r.dependencies = [("app/x.py", ["m"]), ("app/m.py", [])] :=
    Report.exists_result_of_withoutTables (by decide +kernel) fun _ _ => rfl
  obtain ⟨dependencies, schemas, records⟩ := by simpa only [Prod.mk.injEq] using parts
  have alike : Location.Alike Perm (fun _ => Eq) (.ofFiles tablesInModule)
      (.ofFiles tablesInModule.reverse) := by
    refine Location.alike_ofFiles ?_ ?_
    · rw [map_reverse]
      exact (reverse_perm _).symm
    · simp [tablesInModule]
  exact ⟨r, r', printed, printed', returned, returned', dependencies, dependencies', schemas, records,
    sameUpToOrder_listings (Location.wellFormed_ofFiles (by decide) (by decide)) alike returned returned'⟩

end Report

end Unbundle.Analysis
