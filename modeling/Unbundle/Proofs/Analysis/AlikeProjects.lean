import Unbundle.Proofs.Analysis.Completion
import Unbundle.Proofs.Analysis.Drawing

/-!
# Alike projects

The sources of alike projects are met side by side if the entries are listed in the same order, and in
another order otherwise. Which modules are found depends on the paths alone.
-/

open List

namespace Unbundle.Analysis

open Files

variable {same : List String → List UInt8 → List UInt8 → Prop}
variable {above : List String} {e f : Entry} {name : String}
variable {project project' : Location}

/-! ### Sources side by side -/

/-- Two sources at the same place whose files have contents that are related. -/
structure SourceFile.Alike (same : List String → List UInt8 → List UInt8 → Prop)
    (f g : SourceFile) : Prop where
  names : f.names = g.names
  language : f.language = g.language
  contents : ∃ content content', same f.names content content' ∧
    f.source = lenientText content ∧ g.source = lenientText content'

lemma sourcesIn_eq (above : List String) (es : List (String × Entry)) :
    sourcesIn above es = es.flatMap fun p => sourcesIn above [p] := by
  induction es with
  | nil => rfl
  | cons p es ih =>
    rw [flatMap_cons, ← ih]
    exact filterMap_append (l := [p])

lemma sourcesIn_file (above : List String) (name : String) (content : List UInt8) :
    sourcesIn above [(name, .file content)] = if isHidden name then [] else
      (language? name).toList.map fun l => ⟨above ++ [name], l, lenientText content⟩ := by
  by_cases hidden : isHidden name = true
  · simp [sourcesIn, hidden]
  · cases known : language? name <;> simp [sourcesIn, hidden, known]

lemma forall₂_sourcesIn (h : Entry.Alike Eq (fun path => same (above ++ name :: path)) e f) :
    Forall₂ (SourceFile.Alike same) (sourcesIn above [(name, e)]) (sourcesIn above [(name, f)]) := by
  cases h with
  | @file _ content content' related =>
    rw [sourcesIn_file, sourcesIn_file]
    split_ifs
    · exact .nil
    · cases language? name with
      | none => exact .nil
      | some l => exact .cons ⟨rfl, rfl, content, content', related, rfl, rfl⟩ .nil
  | folder => exact .nil

lemma forall₂_sourcesBelow (h : Entry.Alike Eq (fun path => same (above ++ path)) e f) :
    Forall₂ (SourceFile.Alike same) (sourcesBelow above e) (sourcesBelow above f) := by
  induction e using Entry.induction generalizing above f with
  | file content =>
    cases h with
    | file related =>
      exact .nil
  | folder es ih =>
    cases h with
    | @folder _ _ fs names entries =>
      have pairs : Forall₂ (fun p q => p.1 = q.1 ∧ p ∈ es ∧
          Entry.Alike Eq (fun path => same (above ++ p.1 :: path)) p.2 q.2) es fs :=
        Entry.forall₂_of_names_eq names fun p hp q hq named =>
          ⟨named, hp, entries p.1 p.2 q.2 hp (named ▸ hq)⟩
      rw [sourcesBelow, sourcesBelow, sourcesIn_eq, sourcesIn_eq above fs, sourcesInFolders_eq,
        sourcesInFolders_eq]
      refine rel_append (rel_flatMap pairs ?_) (rel_flatMap pairs ?_)
      · rintro ⟨name, e⟩ ⟨_, f⟩ ⟨rfl, -, inside⟩
        exact forall₂_sourcesIn inside
      · rintro ⟨name, e⟩ ⟨_, f⟩ ⟨rfl, member, inside⟩
        dsimp only
        split_ifs
        · exact ih _ member (by simpa using inside)
        · exact .nil

lemma forall₂_sources (h : project.Alike Eq same project') :
    Forall₂ (SourceFile.Alike same) (sources project) (sources project') := by
  rw [sources, sources]
  have entries := h.entry
  generalize project.entry = here at entries ⊢
  generalize project'.entry = there at entries ⊢
  cases entries with
  | none => exact .nil
  | some inside => exact forall₂_sourcesBelow inside

/-! ### Sources in another order -/

lemma perm_flatMap_of_forall₂ {α β γ : Type} {f : α → List γ} {g : β → List γ} {xs : List α}
    {ys : List β} (h : Forall₂ (fun x y => (f x).Perm (g y)) xs ys) :
    (xs.flatMap f).Perm (ys.flatMap g) := by
  induction h with
  | nil => exact .refl _
  | cons first _ ih => exact first.append ih

lemma sourcesIn_of_alike (h : Entry.Alike Perm (fun _ => Eq) e f) :
    sourcesIn above [(name, e)] = sourcesIn above [(name, f)] := by
  cases h with
  | file related => rw [related]
  | folder => rfl

lemma perm_sourcesBelow (h : Entry.Alike Perm (fun _ => Eq) e f) :
    (sourcesBelow above e).Perm (sourcesBelow above f) := by
  induction e using Entry.induction generalizing above f with
  | file content =>
    cases h with
    | file related => rw [related]
  | folder es ih =>
    cases h with
    | @folder _ _ fs names entries =>
      obtain ⟨gs, pairs, perm⟩ : ∃ gs, Forall₂ (fun p q => p.1 = q.1 ∧ p ∈ es ∧
          Entry.Alike Perm (fun _ => Eq) p.2 q.2) es gs ∧ gs.Perm fs :=
        Entry.exists_forall₂_of_names_perm names fun p hp q hq named =>
          ⟨named, hp, entries p.1 p.2 q.2 hp (named ▸ hq)⟩
      rw [sourcesBelow, sourcesBelow, sourcesIn_eq, sourcesIn_eq above fs, sourcesInFolders_eq,
        sourcesInFolders_eq]
      refine .append (.trans ?_ (perm.flatMap_right _)) (.trans ?_ (perm.flatMap_right _))
      · refine perm_flatMap_of_forall₂ (pairs.imp ?_)
        rintro ⟨name, e⟩ ⟨_, f⟩ ⟨rfl, -, inside⟩
        rw [sourcesIn_of_alike inside]
      · refine perm_flatMap_of_forall₂ (pairs.imp ?_)
        rintro ⟨name, e⟩ ⟨_, f⟩ ⟨rfl, member, inside⟩
        split_ifs
        · exact ih _ member inside
        · exact .refl _

lemma perm_sources
    (h : project.Alike Perm (fun _ => Eq) project') :
    (sources project).Perm (sources project') := by
  rw [sources, sources]
  have entries := h.entry
  generalize project.entry = here at entries ⊢
  generalize project'.entry = there at entries ⊢
  cases entries with
  | none => exact .refl _
  | some inside => exact perm_sourcesBelow inside

/-! ### Declared packages -/

lemma agree_fileContent? (h : project.Alike Perm same project')
    (name : String) :
    Agree (Option.Rel (same [name])) (fileContent? project name) (fileContent? project' name) := by
  have found := h.find? [name]
  rw [fileContent?, fileContent?, h.path]
  generalize project.find? [name] = here at found ⊢
  generalize project'.find? [name] = there at found ⊢
  cases found with
  | none => exact .ok .none
  | some inside =>
    cases inside with
    | file related => exact .ok (.some related)
    | folder => exact .error _

lemma fileContent?_eq (h : project.Alike Perm same project')
    (unchanged : ∀ c c', same [name] c c' → c = c') :
    fileContent? project name = fileContent? project' name := by
  have agree := agree_fileContent? h name
  generalize fileContent? project name = here at agree ⊢
  generalize fileContent? project' name = there at agree ⊢
  cases agree with
  | error e => rfl
  | ok related =>
    cases related with
    | none => rfl
    | some related => rw [unchanged _ _ related]

lemma declared_eq (h : project.Alike Perm same project')
    (requirements : ∀ c c', same ["requirements.txt"] c c' → c = c')
    (package : ∀ c c', same ["package.json"] c c' → c = c') :
    declared project = declared project' := by
  rw [declared, declared, declaredRequirements, declaredRequirements, declaredPackages,
    declaredPackages, fileContent?_eq h requirements, fileContent?_eq h package]

/-! ### Modules of a project -/

section

variable (h : project.Alike List.Perm same project')
include h

lemma look_isSome_bind_eq {β : Type} (p : Path) (k : Bool → Except Fault β) :
    (project.look p >>= fun e => k e.isSome) = (project'.look p >>= fun e => k e.isSome) := by
  have looked := h.paths.look p
  generalize project.look p = here at looked ⊢
  generalize project'.look p = there at looked ⊢
  cases looked with
  | error e => rfl
  | ok related =>
    cases related with
    | none => rfl
    | some _ => rfl

lemma isLocal_eq (source : String) : isLocal project source = isLocal project' source := by
  refine (look_isSome_bind_eq h _ fun found =>
    if found then pure true else project.look _ >>= fun e => pure e.isSome).trans ?_
  simp only [look_isSome_bind_eq h _ fun found => (pure found : Except Fault Bool)]
  rfl

lemma SourceFile.calls_eq (app : String) (f : SourceFile) :
    f.calls project app = f.calls project' app := by
  have modules : isLocal project = isLocal project' := funext fun source => isLocal_eq h source
  rw [calls, calls]
  cases f.language with
  | python =>
    simp only [sourceCalls, nodeCalls, localImports, modules]
  | script => rfl

lemma called_eq : SourceFile.called project = SourceFile.called project' := by
  funext f
  rw [SourceFile.called, SourceFile.called, h.path, f.calls_eq h]

end

/-! ### Reports on alike projects -/

namespace Report.IsOn

variable {printed printed' : String} {r r' : Report} (report : r.IsOn project printed)
  (report' : r'.IsOn project' printed') (alike : project.Alike List.Perm same project')
include report report' alike

lemma drawing_eq (valid : project.WellFormed) : r.drawing = r'.drawing := by
  have drawn := Analysis.drawing_eq valid alike
  rw [report.drawn, report'.drawn] at drawn
  exact Except.ok.inj drawn

lemma declared_eq (requirements : ∀ c c', same ["requirements.txt"] c c' → c = c')
    (package : ∀ c c', same ["package.json"] c c' → c = c') : r.declared = r'.declared := by
  have declares := Analysis.declared_eq alike requirements package
  rw [report.declares, report'.declares] at declares
  exact Except.ok.inj declares

end Report.IsOn

/-! ## Files do not interfere -/

lemma filter_eq_of_forall₂ {α : Type} {p : α → Bool} {xs ys : List α}
    (h : Forall₂ (fun x y => p x = p y ∧ (p x = true → x = y)) xs ys) :
    xs.filter p = ys.filter p := by
  induction h with
  | nil => rfl
  | @cons x y _ _ first _ ih =>
    obtain ⟨both, same⟩ := first
    cases kept : p x with
    | false => rw [filter_cons_of_neg (by simp [kept]),
        filter_cons_of_neg (by simp [← both, kept]), ih]
    | true => rw [← same kept, filter_cons_of_pos kept, filter_cons_of_pos kept, ih]

namespace Report

def isOther (path file : String) : Bool := file != path

/-- Two reports agree on the project as a whole, and on all that is said of other files than that of a
path. -/
structure AgreeApartFrom (path : String) (r r' : Report) : Prop where
  drawing : r.drawing = r'.drawing
  declared : r.declared = r'.declared
  dependencies : r.dependencies.filter (fun d => isOther path d.1) =
    r'.dependencies.filter fun d => isOther path d.1
  tags : r.tags.filter (fun t => isOther path t.1) = r'.tags.filter fun t => isOther path t.1
  entryPoints : r.entryPoints.filter (fun e => isOther path e.file) =
    r'.entryPoints.filter fun e => isOther path e.file
  symbols : r.symbols.filter (fun s => isOther path s.file) =
    r'.symbols.filter fun s => isOther path s.file
  calls : r.calls.filter (fun c => isOther path c.file) = r'.calls.filter fun c => isOther path c.file
  entryCalls : r.entryCalls.filter (fun v => (recordFile? v).all (isOther path)) =
    r'.entryCalls.filter fun v => (recordFile? v).all (isOther path)

def SameBut (names : List String) (path : List String) (content content' : List UInt8) : Prop :=
  path ≠ names → content = content'

section

variable {names : List String} (alike : project.Alike Eq (SameBut names) project')
include alike

lemma filter_sources :
    (sources project).filter (fun f => isOther (recordedPath project.path.name names)
      (recordedPath project.path.name f.names)) =
    (sources project').filter fun f => isOther (recordedPath project.path.name names)
      (recordedPath project.path.name f.names) := by
  refine filter_eq_of_forall₂ ((forall₂_sources alike).imp ?_)
  rintro ⟨path, language, source⟩ ⟨_, _, source'⟩ ⟨rfl, rfl, content, content', same, rfl, rfl⟩
  refine ⟨rfl, fun other => ?_⟩
  have elsewhere : path ≠ names := by
    rintro rfl
    simp [isOther] at other
  rw [same elsewhere]

variable {printed printed' : String} {r r' : Report} (report : r.IsOn project printed)
  (report' : r'.IsOn project' printed')
include report report'

lemma filter_files_eq :
    r.files.filter (fun g => isOther (recordedPath project.path.name names) g.path) =
      r'.files.filter fun g => isOther (recordedPath project.path.name names) g.path := by
  rw [report.filter_files, report'.filter_files, ← alike.path, filter_sources alike]

lemma filter_calls_eq :
    r.calls.filter (fun c => isOther (recordedPath project.path.name names) c.file) =
      r'.calls.filter fun c => isOther (recordedPath project.path.name names) c.file := by
  rw [report.filter_calls, report'.filter_calls, ← alike.path, filter_sources alike,
    called_eq alike.listed]

end

lemma ne_of_source {folders : List String} {name other : String}
    (source : Text.lowercase (Path.suffixOf name) ∈ sourceEndings)
    (unlike : Text.lowercase (Path.suffixOf other) ∉ sourceEndings) : [other] ≠ folders ++ [name] := by
  intro same
  obtain ⟨-, rfl⟩ : folders = [] ∧ name = other := by simpa using append_eq_singleton_iff.1 same.symm
  exact unlike source

/-- If two projects differ in the content of one source file only and both analyses return, the reports
agree on all that is not recorded under the path of that file. -/
theorem agreeApartFrom_changed_source {project project' : Location} {folders : List String} {name : String}
    {r r' : Report} {printed printed' : String} (valid : project.WellFormed)
    (source : Text.lowercase (Path.suffixOf name) ∈ sourceEndings)
    (alike : project.Alike Eq (SameBut (folders ++ [name])) project')
    (returned : (ofProject project).result = (.ok r, printed))
    (returned' : (ofProject project').result = (.ok r', printed')) :
    r.AgreeApartFrom (recordedPath project.path.name (folders ++ [name])) r' := by
  have report := result_ofProject_eq_ok_iff.1 returned
  have report' := result_ofProject_eq_ok_iff.1 returned'
  have files := filter_files_eq alike report report'
  have calls := filter_calls_eq alike report report'
  have requirements : ["requirements.txt"] ≠ folders ++ [name] := ne_of_source source (by decide)
  have package : ["package.json"] ≠ folders ++ [name] := ne_of_source source (by decide)
  exact {
    drawing := report.drawing_eq report' alike.listed valid
    declared := report.declared_eq report' alike.listed (fun _ _ same => same requirements)
      fun _ _ same => same package
    dependencies := by rw [filter_dependencies, filter_dependencies, files]
    tags := by rw [filter_tags, filter_tags, files]
    entryPoints := by rw [report.filter_entryPoints, report'.filter_entryPoints, files]
    symbols := by rw [report.filter_symbols, report'.filter_symbols, files]
    calls := calls
    entryCalls := by
      rw [report.filter_entryCalls, report'.filter_entryCalls, report.filter_entryPoints,
        report'.filter_entryPoints, files, calls] }

def callsModule (text : String) : Location :=
  .ofFiles [("m.py", Text.encode text.toList),
    ("x.py", Text.encode "import m\n@a.get('/')\ndef f():m.g()\n".toList)]

lemma alike_callsModule (text text' : String) :
    (callsModule text).Alike Eq (SameBut ["m.py"]) (callsModule text') := by
  refine Location.alike_ofFiles rfl ?_
  simp [SameBut]

/-- The call of a route stays in the report, whatever is written into the module that it goes to. -/
theorem agreeApartFrom_callsModule : ∃ r r' printed printed',
    (ofProject (callsModule "")).result = (.ok r, printed) ∧
    (ofProject (callsModule "import x\ndef g():x.f()\n")).result = (.ok r', printed') ∧
    r.calls.length = 1 ∧ r'.calls.length = 2 ∧ r.entryCalls.length = 1 ∧ r.AgreeApartFrom "app/m.py" r' := by
  obtain ⟨r, printed, returned, parts⟩ : ∃ r printed,
      (ofProject (callsModule "")).result = (.ok r, printed) ∧
      (r.calls.length, r.entryCalls.length) = (1, 1) :=
    Report.exists_result_of_withoutTables (by decide +kernel) fun _ _ => rfl
  obtain ⟨r', printed', returned', calls'⟩ : ∃ r printed,
      (ofProject (callsModule "import x\ndef g():x.f()\n")).result = (.ok r, printed) ∧
      r.calls.length = 2 :=
    Report.exists_result_of_withoutTables (by decide +kernel) fun _ _ => rfl
  obtain ⟨calls, records⟩ := Prod.mk.inj parts
  have agree : r.AgreeApartFrom (recordedPath "app" ([] ++ ["m.py"])) r' :=
    agreeApartFrom_changed_source (Location.wellFormed_ofFiles (by decide) (by decide)) (by decide)
      (alike_callsModule _ _) returned returned'
  exact ⟨r, r', printed, printed', returned, returned', calls, calls', records, agree⟩

end Report

end Unbundle.Analysis
