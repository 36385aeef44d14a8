import Mathlib.Data.List.Basic
import Unbundle.Proofs.Analysis.Findings

/-!
# What is known of tables

The schema files are some of the files that are tagged as users of tables, and the names of tables are those
found where the tags say the files are.
-/

open List Unbundle.Printing Unbundle.Text

namespace Unbundle.Analysis

open Files

variable {file printed printed' : String} {tags : List (String × List String)} {root : Location}

@[simp] lemma mem_sorted {x : String} {xs : List String} : x ∈ sorted xs ↔ x ∈ xs := by
  simp [sorted]

lemma mem_of_mem_schemaFiles {files : List String} (h : file ∈ schemaFiles files) :
    file ∈ files := by
  obtain ⟨ranked, member, rfl⟩ := mem_map.1 h
  have member := mem_mergeSort.1 (mem_of_mem_take member)
  obtain ⟨f, hf, rfl⟩ := mem_map.1 (mem_filter.1 member).1
  exact hf

def taggedFiles (tags : List (String × List String)) : List String :=
  (tags.filter fun p => p.2.contains "DynamoDB").map Prod.fst

lemma mem_taggedFiles :
    file ∈ taggedFiles tags ↔ ∃ names, (file, names) ∈ tags ∧ "DynamoDB" ∈ names := by
  simp [taggedFiles]

lemma holdsName_ofTexts (texts : List String) (name : String) :
    (Value.ofTexts texts).holdsName name = .ok (texts.contains name) := by
  have same : Value.memberOf (.text name) (texts.map .text) = texts.contains name := by
    rw [Bool.eq_iff_iff]
    simp [Value.memberOf, Value.same]
  rw [← same]
  rfl

lemma tableFiles_textsByName (tags : List (String × List String)) :
    tableFiles (Report.textsByName tags) = .ok (taggedFiles tags) := by
  have each : Forall₂ (fun (p : String × Value) found => (do
        return if ← p.2.holdsName "DynamoDB" then [p.1] else [] : Except Fault _) = .ok found)
      (tags.map fun p => (p.1, .ofTexts p.2))
      (tags.map fun p => if p.2.contains "DynamoDB" then [p.1] else []) := by
    rw [forall₂_map_left_iff, forall₂_map_right_iff, forall₂_same]
    intro p _
    rw [holdsName_ofTexts]
    rfl
  refine bind_eq_ok_iff.2 ⟨_, rfl, bind_eq_ok_iff.2 ⟨_, mapM_eq_ok_iff.2 each, ?_⟩⟩
  clear each
  rw [taggedFiles]
  induction tags with
  | nil => rfl
  | cons p tags ih =>
    by_cases h : p.2.contains "DynamoDB" <;> simp_all

lemma tablesInFile_after {names : List String}
    (h : (tablesInFile root file).after printed = (.ok names, printed')) :
    ∃ found, root.look (.ofText file) = .ok found ∧ ∀ name, name ∈ names ↔
      ∃ content, found = some (.file content) ∧ name ∈ tableNames (lenientText content) := by
  obtain ⟨found, middle, looked, h⟩ := after_bind_eq_ok_iff.1 h
  obtain ⟨looked, -⟩ := by simpa using looked
  refine ⟨found, looked, fun name => ?_⟩
  split at h
  · obtain ⟨rfl, -⟩ := by simpa using h
    simp
  · obtain ⟨rfl, -⟩ := by simpa using h
    simp
  · obtain ⟨rfl, -⟩ := by simpa using h
    simp

/-- All tagged files were looked for, and the tables are those named in the files that were found, sorted. -/
lemma tableInfo_after {info : TableInfo}

    (h : (tableInfo root (Report.textsByName tags)).after printed = (.ok info, printed')) :
    info.schemaFiles = schemaFiles (taggedFiles tags) ∧
      (∀ file ∈ taggedFiles tags, ∃ found, root.look (.ofText file) = .ok found) ∧
      (∀ name, name ∈ info.tables ↔ ∃ file ∈ taggedFiles tags, ∃ content,
        root.look (.ofText file) = .ok (some (.file content)) ∧
        name ∈ tableNames (lenientText content)) ∧
      info.used = !(taggedFiles tags).isEmpty ∧ ∃ names, info.tables = sorted names := by
  obtain ⟨files, middle, tagged, h⟩ := after_bind_eq_ok_iff.1 h
  obtain ⟨rfl, rfl⟩ : taggedFiles tags = files ∧ printed = middle := by
    simpa [tableFiles_textsByName] using tagged
  split at h
  · obtain ⟨rfl, -⟩ := by simpa using h
    simp_all only [schemaFiles]
    exact ⟨by simp, by simp, by simp, rfl, [], by simp [sorted]⟩
  · obtain ⟨found, later, each, h⟩ := after_bind_eq_ok_iff.1 h
    obtain ⟨rfl, -⟩ := by simpa using h
    have each := forall₂_of_after_mapM each
    refine ⟨rfl, fun file hf => ?_, fun name => ?_, by simp_all, found.flatten, rfl⟩
    · obtain ⟨names, -, _, _, ran⟩ := exists_right_of_forall₂ each hf
      obtain ⟨found, looked, -⟩ := tablesInFile_after ran
      exact ⟨found, looked⟩
    · rw [mem_sorted, mem_flatten]
      constructor
      · rintro ⟨names, member, hn⟩
        obtain ⟨file, hf, _, _, ran⟩ := exists_left_of_forall₂ each member
        obtain ⟨found, looked, names_iff⟩ := tablesInFile_after ran
        obtain ⟨content, rfl, hn⟩ := (names_iff name).1 hn
        exact ⟨file, hf, content, looked, hn⟩
      · rintro ⟨file, hf, content, looked, hn⟩
        obtain ⟨names, member, _, _, ran⟩ := exists_right_of_forall₂ each hf
        obtain ⟨found, looked', names_iff⟩ := tablesInFile_after ran
        obtain rfl : found = some (.file content) := Except.ok.inj (looked'.symm.trans looked)
        exact ⟨names, member, (names_iff name).2 ⟨content, rfl, hn⟩⟩

lemma exists_tablesInFile {found : Option Entry}
    (looked : root.look (.ofText file) = .ok found) (printed : String) :
    ∃ names later, (tablesInFile root file).after printed = (.ok names, later) := by
  unfold tablesInFile
  dsimp only
  rw [looked, silent_ok_bind]
  split
  · exact ⟨_, _, rfl⟩
  · exact ⟨_, _, rfl⟩
  · exact ⟨_, _, rfl⟩

lemma exists_tableInfo
    (looked : ∀ file ∈ taggedFiles tags, ∃ found, root.look (.ofText file) = .ok found)
    (printed : String) :
    ∃ info later, (tableInfo root (Report.textsByName tags)).after printed = (.ok info, later) := by
  rw [tableInfo, tableFiles_textsByName, silent_ok_bind]
  split
  · exact ⟨_, _, rfl⟩
  · obtain ⟨names, later, each⟩ := exists_after_mapM (f := tablesInFile root)
      (fun file hf printed => by
        obtain ⟨found, here⟩ := looked file hf
        exact exists_tablesInFile here printed) printed
    exact ⟨_, _, after_bind_eq_ok_iff.2 ⟨names, later, each, rfl⟩⟩

namespace Report

lemma exists_result_of_withoutTables {project : Location} {α : Type} {f : Report → α} {a : α}
    (made : ((withoutTables project).toOption.filter fun r => r.files.all fun g =>
      (project.look (.ofText g.path)).toOption.isSome).map f = some a)
    (kept : ∀ r tables, f { r with tables } = f r) :
    ∃ r printed, (ofProject project).result = (.ok r, printed) ∧ f r = a := by
  obtain ⟨r, found, rfl⟩ := Option.map_eq_some_iff.1 made
  obtain ⟨returned, looked⟩ := Option.filter_eq_some_iff.1 found
  obtain ⟨tables, printed, tabled⟩ : ∃ tables printed,
      (tableInfo project (textsByName r.tags)).after "" = (.ok tables, printed) := by
    refine exists_tableInfo (fun file tagged => ?_) ""
    obtain ⟨names, member, -⟩ := mem_taggedFiles.1 tagged
    obtain ⟨g, hg, same⟩ := mem_map.1 member
    obtain ⟨entry, looked⟩ := Option.isSome_iff_exists.1 (all_eq_true.1 looked g (mem_filter.1 hg).1)
    exact ⟨entry, (Prod.mk.inj same).1 ▸ toOption_eq_some_iff.1 looked⟩
  refine ⟨{ r with tables }, printed, ?_, kept r tables⟩
  rw [ofProject, toOption_eq_some_iff.1 returned, silent_ok_bind]
  exact after_bind_eq_ok_iff.2 ⟨tables, printed, tabled, rfl⟩

end Report

/-! ### Which table names reach a report -/

def SourceFile.UsesTables (f : SourceFile) : Prop := "DynamoDB" ∈ tagNames f.source

namespace Report

variable {project : Location} {r : Report}

lemma IsOn.mem_taggedFiles_iff (report : r.IsOn project printed) {file : String} :
    file ∈ taggedFiles r.tags ↔
      ∃ f ∈ sources project, f.UsesTables ∧ file = recordedPath project.path.name f.names := by
  have tagged : file ∈ taggedFiles r.tags ↔ ∃ g ∈ r.files, "DynamoDB" ∈ g.tags ∧ file = g.path := by
    simp only [mem_taggedFiles, tags, mem_map, mem_filter, Prod.mk.injEq]
    constructor
    · rintro ⟨_, ⟨g, ⟨hg, -⟩, rfl, rfl⟩, used⟩
      exact ⟨g, hg, used, rfl⟩
    · rintro ⟨g, hg, used, rfl⟩
      exact ⟨_, ⟨g, ⟨hg, by simpa using ne_nil_of_mem used⟩, rfl, rfl⟩, used⟩
  rw [tagged]
  constructor
  · rintro ⟨g, hg, used, rfl⟩
    obtain ⟨f, hf, found⟩ := exists_left_of_forall₂ report.found hg
    rw [f.findings_tags found] at used
    exact ⟨f, hf, used, (f.findings_file found).1.trans (origin_file _ f)⟩
  · rintro ⟨f, hf, used, rfl⟩
    obtain ⟨g, hg, found⟩ := exists_right_of_forall₂ report.found hf
    refine ⟨g, hg, ?_, ((f.findings_file found).1.trans (origin_file _ f)).symm⟩
    rwa [f.findings_tags found]

/-- The tables of a report are those named in the files that lie under the recorded paths of tagged
sources. -/
lemma IsOn.mem_tables_iff (report : r.IsOn project printed) (valid : project.WellFormed)
    {name : String} :
    name ∈ r.tables.tables ↔ ∃ f ∈ sources project, f.UsesTables ∧ ∃ content,
      project.find? (recordedNames project.path.name f.names) = some (.file content) ∧
      name ∈ tableNames (lenientText content) := by
  obtain ⟨-, looked, tables, -⟩ := tableInfo_after report.tabled
  -- looking up the recorded path of a source gives what lies under its recorded names
  have found : ∀ f ∈ sources project, f.UsesTables →
      project.look (.ofText (recordedPath project.path.name f.names)) =
        .ok (project.find? (recordedNames project.path.name f.names)) := by
    intro f hf used
    obtain ⟨nonempty, names, -⟩ := find?_of_mem_sources valid hf
    obtain ⟨entry, here⟩ := looked _ (report.mem_taggedFiles_iff.2 ⟨f, hf, used, rfl⟩)
    rw [ofText_recordedPath valid.name names nonempty] at here ⊢
    rw [here, valid.look_eq_ok (isName_recordedNames valid.name names) here]
  rw [tables]
  constructor
  · rintro ⟨file, tagged, content, here, named⟩
    obtain ⟨f, hf, used, rfl⟩ := report.mem_taggedFiles_iff.1 tagged
    rw [found f hf used] at here
    exact ⟨f, hf, used, content, Except.ok.inj here, named⟩
  · rintro ⟨f, hf, used, content, here, named⟩
    refine ⟨_, report.mem_taggedFiles_iff.2 ⟨f, hf, used, rfl⟩, content, ?_, named⟩
    rw [found f hf used, here]

/-- Table names reach a report exactly if they stand in files under the recorded names of tagged sources.
So none is lost in a project without a name, and none arrives in one that has no entry of its own name. -/
theorem tables_complete_iff (valid : project.WellFormed)
    (returned : (ofProject project).result = (.ok r, printed)) :
    ((∀ f ∈ sources project, f.UsesTables → ∀ name ∈ tableNames f.source, name ∈ r.tables.tables) ↔
      ∀ f ∈ sources project, f.UsesTables → ∀ name ∈ tableNames f.source,
        ∃ g ∈ sources project, g.UsesTables ∧ ∃ content,
          project.find? (recordedNames project.path.name g.names) = some (.file content) ∧
          name ∈ tableNames (lenientText content)) ∧
    (project.path.name = "" → ∀ f ∈ sources project, f.UsesTables →
      ∀ name ∈ tableNames f.source, name ∈ r.tables.tables) ∧
    (project.path.name ≠ "" → project.find? [project.path.name] = none → r.tables.tables = []) := by
  have report := result_ofProject_eq_ok_iff.1 returned
  refine ⟨?_, fun unnamed f hf used name named => ?_, fun named absent => ?_⟩
  · simp only [report.mem_tables_iff valid]
  · obtain ⟨-, -, content, here, source⟩ := find?_of_mem_sources valid hf
    refine (report.mem_tables_iff valid).2 ⟨f, hf, used, content, ?_, source ▸ named⟩
    rw [recordedNames, if_pos unnamed, here]
  · rw [eq_nil_iff_forall_not_mem]
    intro name member
    obtain ⟨f, -, -, content, here, -⟩ := (report.mem_tables_iff valid).1 member
    rw [recordedNames, if_neg named, Location.find?_cons_of_eq_none absent] at here
    cases here

def oneTable : Location where
  path := ⟨"/", ["app"]⟩
  entry := some (.folder [("x.js", .file (encode "dynamodb TableName: 'orders'".toList))])

lemma oneTable_wellFormed : oneTable.WellFormed where
  name := by decide
  no_null := by decide
  tree := by
    rintro _ ⟨⟩
    exact .folder (by decide) (by decide) (by simpa using .file _)

lemma oneTable_tables : ∃ r printed, (ofProject oneTable).result = (.ok r, printed) ∧
    r.tables.tables = [] :=
  Printing.exists_result_of_map (by decide +kernel)

theorem tables_complete_iff_oneTable : oneTable.WellFormed ∧ ∃ r printed,
    (ofProject oneTable).result = (.ok r, printed) ∧ r.tables.tables = [] := by
  obtain ⟨r, printed, returned, -⟩ := oneTable_tables
  exact ⟨oneTable_wellFormed, r, printed, returned,
    (tables_complete_iff oneTable_wellFormed returned).2.2 (by decide) (by decide)⟩

/-- The name of a table in a tagged source does not reach the report. -/
theorem table_lost_oneTable : ∃ r printed, (ofProject oneTable).result = (.ok r, printed) ∧
    ∃ f ∈ sources oneTable, f.UsesTables ∧ ∃ name ∈ tableNames f.source,
      name ∉ r.tables.tables := by
  obtain ⟨r, printed, returned, tables⟩ := oneTable_tables
  have named : ((sources oneTable).any fun f =>
      (tagNames f.source).contains "DynamoDB" && (tableNames f.source).contains "orders") = true := by
    decide +kernel
  obtain ⟨f, hf, used, name⟩ := by simpa using named
  exact ⟨r, printed, returned, f, hf, used, "orders", name, by simp [tables]⟩

end Report

end Unbundle.Analysis

open List

namespace Unbundle.Analysis

open Files

/-! ## Files likely to define tables -/

variable {f g path : String} {files : List String}

/-! ### The first three -/

/-- Whether no part of a path is the name of an ignored folder, in letters of any case. -/
def isKept (path : String) : Bool :=
  (Path.ofText path).parts.all fun part => !ignoredFolders.contains (lowercase part)

/-- Whether a file comes before another or is equal to it: by priority, then by path. -/
def Precedes (f g : String) : Prop := priority f < priority g ∨ priority f = priority g ∧ f ≤ g

lemma comesBefore_iff : comesBefore (priority f, f) (priority g, g) ↔ Precedes f g := by
  simp [comesBefore, Precedes]

lemma Precedes.trans {h : String} (first : Precedes f g) (next : Precedes g h) : Precedes f h := by
  unfold Precedes at *
  grind

lemma Precedes.total (f g : String) : Precedes f g ∨ Precedes g f := by
  unfold Precedes
  grind

lemma Precedes.antisymm (first : Precedes f g) (back : Precedes g f) : f = g := by
  unfold Precedes at *
  grind

/-- The parts of a path in small letters, its root included. -/
def smallParts (path : String) : List String :=
  ((if (Path.ofText path).root = "" then [] else [(Path.ofText path).root]) ++ (Path.ofText path).parts).map lowercase

/-- Whether a file is named like one that sets up tables. -/
def isSetupFile (path : String) : Bool :=
  setupMarks.any fun m => occursIn m.toList (lowercase (Path.ofText path).name).toList

def isDatabaseFile (path : String) : Bool := databaseFiles.contains (lowercase (Path.ofText path).name)

/-- Whether a path leads to where database files count: with no folder, into one of some, or through a database. -/
def isPlaced (path : String) : Bool :=
  databaseFolders.contains ((smallParts path).dropLast.getLastD "") || (smallParts path).length == 1 ||
    (smallParts path).contains "database"

lemma priority_eq (path : String) : priority path = if isKept path then
    if isSetupFile path then 1 else if isDatabaseFile path && isPlaced path then 2 else 50 else 99 := by
  -- the root of a path is not the name of an ignored folder
  have root : lowercase (Path.rootOf path.toList) ∉ ignoredFolders := by
    rw [Path.rootOf]
    split <;> decide +kernel
  have ignored : ignoredFolders.any (smallParts path).contains = !isKept path := by
    rw [Bool.eq_iff_iff]
    simp only [isKept, smallParts, any_eq_true, contains_iff_mem, mem_map, mem_append, Path.ofText]
    grind
  rw [smallParts] at ignored
  simp only [priority, isPlaced, isSetupFile, isDatabaseFile, ignored]
  cases isKept path <;> rfl

lemma priority_lt_iff : priority path < 99 ↔ isKept path := by
  rw [priority_eq]
  split_ifs with h <;> simp [h]

lemma one_le_priority (path : String) : 1 ≤ priority path := by
  rw [priority_eq]
  split_ifs <;> decide

lemma exists_ranked (files : List String) : ∃ ranked : List String, ranked.Perm (files.filter isKept) ∧
    ranked.Pairwise Precedes ∧ schemaFiles files = ranked.take 3 := by
  let before (f g : String) : Bool := comesBefore (priority f, f) (priority g, g)
  have kept : (files.map fun f => (priority f, f)).filter (fun p => p.1 < 99) =
      (files.filter isKept).map fun f => (priority f, f) := by
    rw [filter_map]
    exact congrArg _ (filter_congr fun f _ => by simp [priority_lt_iff])
  refine ⟨(files.filter isKept).mergeSort before, mergeSort_perm _ _, ?_, ?_⟩
  · refine (pairwise_mergeSort ?_ ?_ _).imp comesBefore_iff.1
    · exact fun f g h first next => comesBefore_iff.2 ((comesBefore_iff.1 first).trans (comesBefore_iff.1 next))
    · intro f g
      rw [Bool.or_eq_true, comesBefore_iff, comesBefore_iff]
      exact Precedes.total f g
  · have sorted := map_mergeSort (r := before) (s := comesBefore) (f := fun f => (priority f, f))
      (l := files.filter isKept) fun _ _ _ _ => rfl
    rw [schemaFiles, kept, ← sorted, ← map_take, map_map]
    exact map_id _

/-- There is only one such order. -/
lemma schemaFiles_eq_take {ranked : List String} (perm : ranked.Perm (files.filter isKept))
    (ordered : ranked.Pairwise Precedes) : schemaFiles files = ranked.take 3 := by
  obtain ⟨found, perm', ordered', selected⟩ := exists_ranked files
  rw [selected, (perm'.trans perm.symm).eq_of_pairwise (fun _ _ _ _ => Precedes.antisymm) ordered' ordered]

lemma schemaFiles_eq_of_perm {files' : List String} (h : files.Perm files') :
    schemaFiles files = schemaFiles files' := by
  obtain ⟨ranked, perm, ordered, selected⟩ := exists_ranked files'
  rw [selected]
  exact schemaFiles_eq_take (perm.trans (h.filter isKept).symm) ordered

lemma schemaFiles_pair (first : isKept f) (second : isKept g) (h : Precedes f g) :
    schemaFiles [f, g] = [f, g] := by
  have kept : [f, g].Perm ([f, g].filter isKept) := by simp [first, second]
  exact schemaFiles_eq_take kept (by simpa using h)

/-- The files that are given are the first three that are kept, by priority and path. So they do not depend on the order
of the files, those that are left out come after them, and those that set up tables come before all others. -/
theorem schemaFiles_are_first_three (files : List String) :
    (∃ ranked : List String, ranked.Perm (files.filter isKept) ∧ ranked.Pairwise Precedes ∧
      schemaFiles files = ranked.take 3) ∧
    (∀ files', files'.Perm files → schemaFiles files' = schemaFiles files) ∧
    (∀ f ∈ schemaFiles files, ∀ g, (schemaFiles files).count g < (files.filter isKept).count g → Precedes f g) ∧
    ∀ f ∈ files, priority f = 1 → ∀ before g after, schemaFiles files = before ++ g :: after → priority g ≠ 1 →
      f ∈ before := by
  obtain ⟨ranked, perm, ordered, selected⟩ := exists_ranked files
  refine ⟨⟨ranked, perm, ordered, selected⟩, fun _ => schemaFiles_eq_of_perm, fun f hf g left_out => ?_, ?_⟩
  · have counts := congrArg (count g) (ranked.take_append_drop 3)
    rw [selected, ← perm.count_eq, ← counts, count_append] at left_out
    have parts := pairwise_append.1 ((ranked.take_append_drop 3).symm ▸ ordered)
    exact parts.2.2 f (selected ▸ hf) g (count_pos_iff.1 (by omega))
  · intro f hf first before g after split other
    have whole : ranked = before ++ g :: (after ++ ranked.drop 3) := by
      rw [← cons_append, ← append_assoc, ← split, selected, take_append_drop]
    have member : f ∈ ranked := perm.mem_iff.2 (mem_filter.2 ⟨hf, priority_lt_iff.1 (by omega)⟩)
    rw [whole, mem_append, mem_cons] at member
    rw [whole, pairwise_append, pairwise_cons] at ordered
    obtain sooner | rfl | later := member
    · exact sooner
    · exact absurd first other
    · have := one_le_priority g
      obtain lower | ⟨same, -⟩ := ordered.2.1.1 f later <;> omega

/-! ### The name of the project in front -/

def below (name path : String) : String := name ++ "/" ++ path

lemma below_le_below (name : String) (h : f ≤ g) : below name f ≤ below name g := by
  by_cases same : f = g
  · exact same ▸ String.le_refl _
  · have lt := String.lt_iff.1 (Std.lt_of_le_of_ne h same)
    refine Std.le_of_lt (String.lt_iff.2 ?_)
    simpa [below] using @append_left_lt _ _ (name.toList ++ ['/']) _ _ lt

/-- A path from the root of a project to a file. -/
structure IsInside (path : String) : Prop where
  root : (Path.ofText path).root = ""
  parts : (Path.ofText path).parts ≠ []

/-- Whether the name of its project changes the priority of a file: a database file at the root of a project counts as
one in a folder of that name, and a project with the name of a database is a database folder for all of its files. -/
def IsMoved (name path : String) : Prop :=
  isDatabaseFile path ∧ if (Path.ofText path).parts.length = 1 then lowercase name ∉ databaseFolders
    else lowercase name = "database" ∧ priority path = 50

section

variable {a : String} (name : IsName a)

include name

lemma ofText_below (path : String) : Path.ofText (below a path) = ⟨"", a :: (Path.ofText path).parts⟩ := by
  have text : (below a path).toList = a.toList ++ '/' :: path.toList := by simp [below]
  have first : (below a path).toList.head? ≠ some '/' := by
    rw [text, head?_append_of_ne_nil _ (by simpa using name.ne_empty)]
    exact fun h => name.no_slash (mem_of_mem_head? h)
  rw [Path.ofText, rootOf_eq_empty first, text, Path.partsOf, splitOn_eq, splitOn_append_cons_self,
    splitOn_eq_singleton name.no_slash]
  simp [name.ne_empty, name.ne_here, Path.ofText, Path.partsOf, splitOn_eq]

variable (kept : lowercase a ∉ ignoredFolders)

include kept

lemma isKept_below (path : String) : isKept (below a path) = isKept path := by
  simp [isKept, ofText_below name, kept]

/-- A file that is moved counts as a database file without the name in front or with it, but not both. -/
lemma priority_below (inside : IsInside path) :
    (IsMoved a path → if (Path.ofText path).parts.length = 1 then priority path = 2 ∧ priority (below a path) = 50
      else priority path = 50 ∧ priority (below a path) = 2) ∧
    (¬IsMoved a path → priority (below a path) = priority path) := by
  have parts : smallParts path = (Path.ofText path).parts.map lowercase := by simp [smallParts, inside.root]
  have parts' : smallParts (below a path) = lowercase a :: smallParts path := by
    rw [parts]
    simp [smallParts, ofText_below name]
  have plain : ∀ f ∈ databaseFiles, (setupMarks.any fun m => occursIn m.toList f.toList) = false ∧
      f ∉ ignoredFolders ∧ f ≠ "database" := by
    decide +kernel
  cases eq : (Path.ofText path).parts with
  | nil => exact absurd eq inside.parts
  | cons first others =>
    have file : (Path.ofText (below a path)).name = (Path.ofText path).name := by
      simp [ofText_below name, Path.name, eq]
    have setup : isSetupFile (below a path) = isSetupFile path := by rw [isSetupFile, file, isSetupFile]
    have database : isDatabaseFile (below a path) = isDatabaseFile path := by rw [isDatabaseFile, file, isDatabaseFile]
    have known (h : isDatabaseFile path) : lowercase (Path.ofText path).name ∈ databaseFiles := by
      rwa [isDatabaseFile, contains_iff_mem] at h
    have quiet (h : isDatabaseFile path) : isSetupFile path = false := (plain _ (known h)).1
    rw [eq] at parts
    simp only [priority_eq, isKept_below name kept, setup, database, IsMoved, eq]
    cases others with
    | nil =>
      have only (h : isDatabaseFile path) : isKept path ∧ lowercase first ≠ "database" := by
        have := (plain _ (known h)).2
        simpa [Path.name, isKept, eq] using this
      have here : isPlaced path := by simp [isPlaced, parts]
      have there : isPlaced (below a path) ↔ lowercase a ∈ databaseFolders ∨ lowercase a = "database" ∨
          lowercase first = "database" := by
        simp [isPlaced, parts', parts, @eq_comm _ "database"]
      have among : "database" ∈ databaseFolders := by decide
      grind
    | cons second others =>
      have there : isPlaced (below a path) ↔ lowercase a = "database" ∨ isPlaced path := by
        simp [isPlaced, parts', parts]
        grind
      grind

lemma priority_below_eq_iff (inside : IsInside path) :
    priority (below a path) = priority path ↔ ¬IsMoved a path := by
  refine ⟨fun same moved => ?_, (priority_below name kept inside).2⟩
  have := (priority_below name kept inside).1 moved
  split_ifs at this <;> omega

lemma schemaFiles_below (inside : ∀ f ∈ files, IsInside f ∧ ¬IsMoved a f) :
    schemaFiles (files.map (below a)) = (schemaFiles files).map (below a) := by
  obtain ⟨ranked, perm, ordered, selected⟩ := exists_ranked files
  have same : ∀ f ∈ ranked, priority (below a f) = priority f := by
    intro f hf
    obtain ⟨inside, stays⟩ := inside f (mem_filter.1 (perm.mem_iff.1 hf)).1
    exact (priority_below name kept inside).2 stays
  have kept' : (files.map (below a)).filter isKept = (files.filter isKept).map (below a) := by
    rw [filter_map]
    exact congrArg _ (filter_congr fun f _ => isKept_below name kept f)
  have ordered' : (ranked.map (below a)).Pairwise Precedes := by
    refine pairwise_map.2 (ordered.imp_of_mem fun {f g} hf hg before => ?_)
    rw [Precedes, same f hf, same g hg]
    exact before.imp_right (.imp_right (below_le_below a))
  rw [selected, map_take, schemaFiles_eq_take (kept' ▸ perm.map _) ordered']

lemma schemaFiles_below_ne (first : isKept f) (second : isKept g) (different : f ≠ g) (h : Precedes f g)
    (back : Precedes (below a g) (below a f)) :
    schemaFiles ([f, g].map (below a)) ≠ (schemaFiles [f, g]).map (below a) := by
  have swapped := schemaFiles_pair ((isKept_below name kept g).trans second) ((isKept_below name kept f).trans first) back
  rw [schemaFiles_pair first second h, map_cons, map_singleton, schemaFiles_eq_of_perm (.swap _ _ _), swapped]
  simp [below, different.symm]

/-- The name of a project in front of all paths leaves the files that are given and their order as they are, whatever
files there are, only for a few names. For the others it does so if no file is moved; a database file at the root of the
project is, and comes after all files of its kind elsewhere. -/
theorem schemaFiles_below_iff :
    ((∀ files : List String, (∀ f ∈ files, IsInside f) →
        schemaFiles (files.map (below a)) = (schemaFiles files).map (below a)) ↔
      lowercase a ∈ databaseFolders ∧ lowercase a ≠ "database") ∧
    (∀ files : List String, (∀ f ∈ files, IsInside f ∧ ¬IsMoved a f) →
      schemaFiles (files.map (below a)) = (schemaFiles files).map (below a)) ∧
    ∀ f, IsInside f → (priority (below a f) = priority f ↔ ¬IsMoved a f) := by
  refine ⟨⟨fun all => ?_, ?_⟩, fun files => schemaFiles_below name kept, fun f => priority_below_eq_iff name kept⟩
  · have plain : IsInside "a.py" := ⟨by decide +kernel, by decide +kernel⟩
    have priority_plain : priority "a.py" = 50 := by decide +kernel
    have plain_below := (priority_below name kept plain).2 fun moved => absurd moved.1 (by decide +kernel)
    refine ⟨by_contra fun outside => ?_, fun database => ?_⟩
    · -- a database file at the root comes first without the name, and by its path with it
      have inside : IsInside "db.py" := ⟨by decide +kernel, by decide +kernel⟩
      obtain ⟨here, there⟩ := (priority_below name kept inside).1 ⟨by decide +kernel, outside⟩
      refine schemaFiles_below_ne name kept (by decide +kernel) (by decide +kernel) (by decide) ?_ ?_
        (all ["db.py", "a.py"] (by simp [inside, plain]))
      · exact .inl (by omega)
      · exact .inr ⟨by omega, below_le_below a (by decide)⟩
    · -- one in another folder comes first with the name, and by its path without it
      have inside : IsInside "x/db.py" := ⟨by decide +kernel, by decide +kernel⟩
      obtain ⟨here, there⟩ := (priority_below name kept inside).1 ⟨by decide +kernel, database, by decide +kernel⟩
      refine schemaFiles_below_ne name kept (by decide +kernel) (by decide +kernel) (by decide) ?_ ?_
        (all ["a.py", "x/db.py"] (by simp [inside, plain]))
      · exact .inr ⟨by omega, by decide⟩
      · exact .inl (by omega)
  · rintro ⟨allowed, other⟩ files inside
    refine schemaFiles_below name kept fun f hf => ⟨inside f hf, ?_⟩
    rintro ⟨-, moved⟩
    split_ifs at moved
    · exact moved allowed
    · exact other moved.1

end

theorem schemaFiles_below_iff_config : IsName "config" ∧ lowercase "config" ∉ ignoredFolders ∧
    (∀ f ∈ ["a.py", "db.py"], IsInside f) ∧
    schemaFiles (["a.py", "db.py"].map (below "config")) = (schemaFiles ["a.py", "db.py"]).map (below "config") := by
  have name : IsName "config" := by decide
  have kept : lowercase "config" ∉ ignoredFolders := by decide +kernel
  have inside : ∀ f ∈ ["a.py", "db.py"], IsInside f :=
    forall_mem_cons.2 ⟨⟨by decide +kernel, by decide +kernel⟩, by simpa using ⟨by decide +kernel, by decide +kernel⟩⟩
  exact ⟨name, kept, inside, (schemaFiles_below_iff name kept).1.2 (by decide +kernel) _ inside⟩

/-- A database file at the root of a project comes first, and last with the name of the project in front. -/
theorem database_file_at_root_moved : schemaFiles ["db.py", "a.py"] = ["db.py", "a.py"] ∧
    schemaFiles (["db.py", "a.py"].map (below "app")) = ["app/a.py", "app/db.py"] := by
  refine ⟨schemaFiles_pair (by decide +kernel) (by decide +kernel) (.inl (by decide +kernel)), ?_⟩
  rw [map_cons, map_singleton, schemaFiles_eq_of_perm (.swap _ _ _)]
  exact schemaFiles_pair (by decide +kernel) (by decide +kernel) (.inr (by decide +kernel))

end Unbundle.Analysis
