import Unbundle.Analysis.Report
import Unbundle.Proofs.Files.Location

/-!
# Source files

Which files of a project are analysed, said without the order in which they are met, and which of them share
the name of a module.
-/

open List

namespace Unbundle.Analysis

open Files

variable {above names : List String} {project : Location} {f : SourceFile} {app name : String} {e : Entry}
variable {es : List (String × Entry)} {names' : List String}

def sourceEndings : List String := ".py" :: scriptEndings

/-- Whether a project has a source file under these names that is open to the analysis. -/
def IsSource (project : Location) (names : List String) : Prop :=
  ∃ folders name root content, names = folders ++ [name] ∧
    project.entry = some root ∧ root.Holds names (.file content) ∧
    (∀ folder ∈ folders, isHidden folder = false ∧ folder ∉ ignoredNames) ∧
    isHidden name = false ∧ Text.lowercase (Path.suffixOf name) ∈ sourceEndings

lemma isSome_language? : (language? name).isSome ↔ Text.lowercase (Path.suffixOf name) ∈ sourceEndings := by
  simp only [language?, sourceEndings]
  split_ifs <;> simp_all

lemma isVisible_iff : isVisible name = true ↔ isHidden name = false ∧ name ∉ ignoredNames := by
  simp [isVisible]

/-! ### Below an entry -/

lemma mem_sourcesIn :
    f ∈ sourcesIn above es ↔ ∃ name content language, (name, .file content) ∈ es ∧
      isHidden name = false ∧ language? name = some language ∧
      f = ⟨above ++ [name], language, lenientText content⟩ := by
  simp only [sourcesIn, mem_filterMap]
  constructor
  · rintro ⟨⟨name, content | inner⟩, member, found⟩
    · simp only [Option.ite_none_left_eq_some, Option.map_eq_some_iff] at found
      obtain ⟨shown, language, known, rfl⟩ := found
      exact ⟨name, content, language, member, by simpa using shown, known, rfl⟩
    · simp at found
  · rintro ⟨name, content, language, member, shown, known, rfl⟩
    exact ⟨_, member, by simp [shown, known]⟩

lemma sourcesInFolders_eq (above : List String) (es : List (String × Entry)) :
    sourcesInFolders above es =
      es.flatMap fun p => if isVisible p.1 then sourcesBelow (above ++ [p.1]) p.2 else [] := by
  induction es with
  | nil => simp [sourcesInFolders]
  | cons p es ih => simp [sourcesInFolders, ih]

lemma mem_sourcesBelow :
    f ∈ sourcesBelow above e ↔ ∃ folders name content language,
      e.Holds (folders ++ [name]) (.file content) ∧ (∀ n ∈ folders, isVisible n = true) ∧
      isHidden name = false ∧ language? name = some language ∧
      f = ⟨above ++ (folders ++ [name]), language, lenientText content⟩ := by
  induction e using Entry.induction generalizing above with
  | file content =>
    simp only [sourcesBelow, not_mem_nil, false_iff]
    rintro ⟨_ | _, name, content, language, inside, -⟩ <;> simp at inside
  | folder es ih =>
    rw [sourcesBelow, mem_append, mem_sourcesIn, sourcesInFolders_eq]
    simp only [mem_flatMap]
    constructor
    · rintro (⟨name, content, language, member, rest⟩ | ⟨⟨folder, e⟩, member, inside⟩)
      · exact ⟨[], name, content, language, by simpa using member, by simp, rest⟩
      · split_ifs at inside with visible
        · obtain ⟨folders, name, content, language, holds, open_, shown, known, rfl⟩ :=
            (ih _ member).1 inside
          exact ⟨folder :: folders, name, content, language, by simpa using ⟨e, member, holds⟩,
            by simpa using ⟨visible, open_⟩, shown, known, by simp⟩
        · simp at inside
    · rintro ⟨folders, name, content, language, holds, visible, shown, known, rfl⟩
      cases folders with
      | nil => exact .inl ⟨name, content, language, by simpa using holds, shown, known, rfl⟩
      | cons folder folders =>
        simp only [cons_append, Entry.folder_holds_cons] at holds
        obtain ⟨e, member, inside⟩ := holds
        refine .inr ⟨(folder, e), member, ?_⟩
        rw [if_pos (visible folder mem_cons_self), ih _ member]
        exact ⟨folders, name, content, language, inside,
          fun n hn => visible n (mem_cons_of_mem _ hn), shown, known, by simp⟩

/-! ### In a project -/

lemma mem_sources : f ∈ sources project ↔ ∃ root, project.entry = some root ∧ f ∈ sourcesBelow [] root := by
  cases h : project.entry <;> simp [sources, h]

lemma exists_mem_sources_iff : (∃ f ∈ sources project, f.names = names) ↔ IsSource project names := by
  simp only [mem_sources, mem_sourcesBelow, IsSource]
  constructor
  · rintro ⟨f, ⟨root, entry, folders, name, content, language, holds, visible, shown, known, rfl⟩, rfl⟩
    refine ⟨folders, name, root, content, rfl, entry, holds, fun n hn => ?_, shown, ?_⟩
    · exact isVisible_iff.1 (visible n hn)
    · exact isSome_language?.1 (by simp [known])
  · rintro ⟨folders, name, root, content, rfl, entry, holds, visible, shown, ending⟩
    obtain ⟨language, known⟩ := Option.isSome_iff_exists.1 (isSome_language?.2 ending)
    exact ⟨_, ⟨root, entry, folders, name, content, language, holds,
      fun n hn => isVisible_iff.2 (visible n hn), shown, known, rfl⟩, rfl⟩

lemma find?_of_mem_sources (valid : project.WellFormed) (h : f ∈ sources project) :
    f.names ≠ [] ∧ (∀ n ∈ f.names, IsName n) ∧
      ∃ content, project.find? f.names = some (.file content) ∧ f.source = lenientText content := by
  obtain ⟨root, entry, h⟩ := mem_sources.1 h
  obtain ⟨folders, name, content, language, holds, -, -, -, rfl⟩ := mem_sourcesBelow.1 h
  have tree := valid.tree root entry
  refine ⟨by simp, tree.isName_of_holds holds, content, ?_, rfl⟩
  rw [Location.find?, entry]
  exact tree.find?_eq_some_iff.2 holds

/-! ### Different names -/

lemma names_of_mem_sourcesIn {p : String × Entry} (h : f ∈ sourcesIn above [p]) : f.names = above ++ [p.1] := by
  obtain ⟨name, content, language, member, -, -, rfl⟩ := mem_sourcesIn.1 h
  rw [← mem_singleton.1 member]

lemma pairwise_sourcesIn (distinct : (es.map Prod.fst).Nodup) :
    (sourcesIn above es).Pairwise fun f g => f.names ≠ g.names := by
  rw [sourcesIn, pairwise_filterMap]
  refine (pairwise_map.1 distinct).imp fun {p q} different f hf g hg same => different ?_
  have first : f ∈ sourcesIn above [p] := mem_filterMap.2 ⟨p, mem_singleton_self p, hf⟩
  have second : g ∈ sourcesIn above [q] := mem_filterMap.2 ⟨q, mem_singleton_self q, hg⟩
  rw [names_of_mem_sourcesIn first, names_of_mem_sourcesIn second, append_cancel_left_eq] at same
  exact singleton_inj.1 same

lemma names_of_mem_folder (h : f ∈ if isVisible name then sourcesBelow (above ++ [name]) e else []) :
    ∃ next rest, f.names = above ++ name :: next :: rest := by
  split_ifs at h
  · obtain ⟨folders, last, content, language, -, -, -, -, rfl⟩ := mem_sourcesBelow.1 h
    cases folders with
    | nil => exact ⟨last, [], by simp⟩
    | cons folder folders => exact ⟨folder, folders ++ [last], by simp⟩
  · cases h

lemma pairwise_sourcesBelow (tree : e.WellFormed) :
    (sourcesBelow above e).Pairwise fun f g => f.names ≠ g.names := by
  induction tree generalizing above with
  | file content => simp [sourcesBelow]
  | folder distinct names entries ih =>
    rw [sourcesBelow, sourcesInFolders_eq, pairwise_append, pairwise_flatMap]
    refine ⟨pairwise_sourcesIn distinct, ⟨fun p hp => ?_, ?_⟩, fun f hf g hg same => ?_⟩
    · split_ifs
      · exact ih p hp
      · exact .nil
    · refine (pairwise_map.1 distinct).imp fun different f hf g hg same => different ?_
      obtain ⟨_, _, first⟩ := names_of_mem_folder hf
      obtain ⟨_, _, second⟩ := names_of_mem_folder hg
      rw [first, second, append_cancel_left_eq] at same
      exact (cons.inj same).1
    · obtain ⟨name, content, language, -, -, -, rfl⟩ := mem_sourcesIn.1 hf
      obtain ⟨p, -, hg⟩ := mem_flatMap.1 hg
      obtain ⟨_, _, second⟩ := names_of_mem_folder hg
      rw [second] at same
      simp at same

lemma nodup_names_sources (valid : project.WellFormed) : ((sources project).map SourceFile.names).Nodup := by
  rw [sources]
  cases entry : project.entry with
  | none => simp
  | some root => exact pairwise_map.2 (pairwise_sourcesBelow (valid.tree root entry))

/-! ### Recorded paths -/

def recordedPath (app : String) (names : List String) : String :=
  if app = "" then String.intercalate "/" names else app ++ "/" ++ String.intercalate "/" names

lemma origin_file (app : String) (f : SourceFile) :
    (f.origin app).file = recordedPath app f.names := by
  change qualify (some app) _ = _
  rw [recordedPath]
  split_ifs with unnamed
  · subst unnamed
    rfl
  · rw [qualify]
    · rfl
    · exact unnamed

def recordedNames (app : String) (names : List String) : List String :=
  if app = "" then names else app :: names

lemma recordedNames_injective (h : recordedNames app names = recordedNames app names') :
    names = names' := by
  rw [recordedNames, recordedNames] at h
  split_ifs at h
  · exact h
  · exact (cons.inj h).2

lemma isName_recordedNames (named : app = "" ∨ IsName app) (valid : ∀ n ∈ names, IsName n) :
    ∀ n ∈ recordedNames app names, IsName n := by
  rw [recordedNames]
  split_ifs with unnamed
  · exact valid
  · exact forall_mem_cons.2 ⟨named.resolve_left unnamed, valid⟩

lemma ofText_recordedPath (named : app = "" ∨ IsName app) (valid : ∀ n ∈ names, IsName n)
    (nonempty : names ≠ []) : Path.ofText (recordedPath app names) = ⟨"", recordedNames app names⟩ := by
  rw [← ofText_intercalate (isName_recordedNames named valid), recordedPath, recordedNames]
  split_ifs
  · rfl
  · rw [String.intercalate_cons_of_ne_nil nonempty]

lemma nodup_recordedPath (valid : project.WellFormed) :
    ((sources project).map fun f => recordedPath project.path.name f.names).Nodup := by
  refine pairwise_map.2 ((pairwise_map.1 (nodup_names_sources valid)).imp_of_mem ?_)
  intro f g hf hg different same
  have read := congrArg Path.ofText same
  obtain ⟨nonempty, names, -⟩ := find?_of_mem_sources valid hf
  obtain ⟨nonempty', names', -⟩ := find?_of_mem_sources valid hg
  rw [ofText_recordedPath valid.name names nonempty,
    ofText_recordedPath valid.name names' nonempty'] at read
  exact different (recordedNames_injective (congrArg Path.parts read))

/-! ### Names of modules -/

/-- The parts of the name of a module: the names on the way to its file, the last without its ending. -/
def moduleParts (names : List String) : List String := names.dropLast ++ [Path.stemOf (names.getLastD "")]

@[simp] lemma moduleParts_ne_nil (names : List String) : moduleParts names ≠ [] := by simp [moduleParts]

/-- What stands between the slashes and dots on the way to a file, its ending apart. -/
def moduleWords (names : List String) : List (List Char) :=
  (moduleParts names).flatMap fun part => part.toList.splitOn '.'

lemma splitOn_intercalate_dot {parts : List String} (nonempty : parts ≠ []) :
    (String.intercalate "." parts).toList.splitOn '.' = parts.flatMap fun part => part.toList.splitOn '.' := by
  induction parts with
  | nil => exact absurd rfl nonempty
  | cons part parts ih =>
    cases parts with
    | nil => simp
    | cons next parts =>
      rw [flatMap_cons, ← ih (by simp), ← splitOn_append_cons_self]
      simp

lemma joinName_eq_iff {app : Option String} :
    joinName app (moduleParts names) = joinName app (moduleParts names') ↔ moduleWords names = moduleWords names' := by
  have split : Function.Injective (splitOn '.') := Function.LeftInverse.injective fun _ => intercalate_splitOn '.'
  rw [moduleWords, moduleWords, ← splitOn_intercalate_dot (by simp), ← splitOn_intercalate_dot (by simp), split.eq_iff,
    String.toList_inj]
  unfold joinName
  split
  · rfl
  · rfl
  · rw [String.intercalate_cons_of_ne_nil (by simp), String.intercalate_cons_of_ne_nil (by simp), String.append_right_inj]

lemma moduleName_join (root : Path) (app : Option String) (named : names.getLastD "" ≠ "") :
    moduleName root (root.join ⟨"", names⟩) app = .ok (joinName app (moduleParts names)) := by
  have below : (root.join ⟨"", names⟩).relativeTo root = .ok ⟨"", names⟩ := by
    simp [Path.join, Path.relativeTo]
  have cut : Path.withoutSuffix ⟨"", names⟩ = .ok ⟨"", moduleParts names⟩ := if_neg named
  rw [moduleName, below]
  change (do return joinName app (← Path.withoutSuffix ⟨"", names⟩).parts) = _
  rw [cut]
  rfl

lemma stemOf_append_suffixOf (name : String) : Path.stemOf name ++ Path.suffixOf name = name := by
  have whole : (Path.cutSuffix name.toList).1 ++ (Path.cutSuffix name.toList).2 = name.toList := by
    simp only [Path.cutSuffix]
    split_ifs
    · simp
    · exact take_append_drop _ _
  rw [Path.stemOf, Path.suffixOf, ← String.ofList_append, whole, String.ofList_toList]

lemma dropLast_moduleParts_append (named : names.getLastD "" ≠ "") : (moduleParts names).dropLast ++
    [(moduleParts names).getLastD "" ++ Path.suffixOf (names.getLastD "")] = names := by
  rcases eq_nil_or_concat names with rfl | ⟨folders, name, rfl⟩
  · exact absurd rfl named
  · simp [moduleParts, stemOf_append_suffixOf]

lemma moduleWords_of_free (free : ∀ part ∈ moduleParts names, '.' ∉ part.toList) :
    moduleWords names = (moduleParts names).map String.toList := by
  rw [map_eq_flatMap]
  exact flatMap_congr fun part hp => splitOn_eq_singleton (free part hp)

/-- Two files have modules of one name exactly if the same words stand on the way to them, whichever of them are divided
by a slash and which by a dot, and whatever the endings. So the names are different where there is no dot but that of
one ending. -/
theorem same_module_name_iff (root : Path) (app : Option String) {names names' : List String}
    (file : names.getLastD "" ≠ "") (file' : names'.getLastD "" ≠ "") :
    (∃ name, moduleName root (root.join ⟨"", names⟩) app = .ok name) ∧
    (moduleName root (root.join ⟨"", names⟩) app = moduleName root (root.join ⟨"", names'⟩) app ↔
      moduleWords names = moduleWords names') ∧
    ((∀ part ∈ moduleParts names ++ moduleParts names', '.' ∉ part.toList) →
      Path.suffixOf (names.getLastD "") = Path.suffixOf (names'.getLastD "") → names ≠ names' →
      moduleName root (root.join ⟨"", names⟩) app ≠ moduleName root (root.join ⟨"", names'⟩) app) := by
  have same_iff : moduleName root (root.join ⟨"", names⟩) app = moduleName root (root.join ⟨"", names'⟩) app ↔
      moduleWords names = moduleWords names' := by
    rw [moduleName_join root app file, moduleName_join root app file', Except.ok.injEq, joinName_eq_iff]
  refine ⟨⟨_, moduleName_join root app file⟩, same_iff, fun free ending different same => different ?_⟩
  rw [List.forall_mem_append] at free
  rw [same_iff, moduleWords_of_free free.1, moduleWords_of_free free.2,
    (List.map_injective_iff.2 fun _ _ => String.toList_inj.1).eq_iff] at same
  rw [← dropLast_moduleParts_append file, same, ending, dropLast_moduleParts_append file']

theorem same_module_name_iff_folders : (["a", "b.py"].getLastD "" ≠ "" ∧ ["a.b.js"].getLastD "" ≠ "") ∧
    moduleWords ["a", "b.py"] = moduleWords ["a.b.js"] ∧ moduleName ⟨"/", ["app"]⟩ ⟨"/", ["app", "a", "b.py"]⟩ (some "app") =
      moduleName ⟨"/", ["app"]⟩ ⟨"/", ["app", "a.b.js"]⟩ (some "app") :=
  ⟨by decide, by decide, (same_module_name_iff ⟨"/", ["app"]⟩ (some "app") (by decide) (by decide)).2.1.2 (by decide)⟩

/-- Files that differ in their endings have modules of one name. -/
theorem module_name_shared :
    moduleName ⟨"/", ["app"]⟩ ⟨"/", ["app", "a.py"]⟩ (some "app") = .ok "app.a" ∧
      moduleName ⟨"/", ["app"]⟩ ⟨"/", ["app", "a.js"]⟩ (some "app") = .ok "app.a" :=
  ⟨rfl, rfl⟩

end Unbundle.Analysis
