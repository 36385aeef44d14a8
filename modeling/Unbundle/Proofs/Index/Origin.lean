import Unbundle.Proofs.Analysis.References
import Unbundle.Proofs.Index.Partition

/-!
# Where documents come from

The symbols of a source are looked up under its path behind the name of the project and, if there are none,
under its bare path. That can be the path of another source, if the first one lies in a folder with the name
of the project.
-/

open List

namespace Unbundle.Index

open Files Analysis

variable {f : SourceFile} {d : Document}
variable {file app : String} {symbols : List Symbol}

/-! ### Symbols of a report -/

def symbolsAt (symbols : List Symbol) (path : String) : List Symbol :=
  symbols.filter fun s => s.file = path

/-! ### Documents of a file -/

/-- The document of a symbol, cut from the lines of a file. -/
def symbolChunk (lines : List (List Char)) (file : String) (s : Symbol) : Document where
  text := String.ofList (unlines (slice lines ((s.firstLine : Int) - 1) (some s.lastLine)))
  file := file
  name := String.ofList (Text.afterLast '.' s.id.toList)
  symbol := some s.id
  kind := (s.kind.map fun k => Value.text k.text).getD (.text "function")
  first := .int s.firstLine
  last := .int s.lastLine

lemma symbolDocument_toValue (lines : List (List Char)) (file : String) (s : Symbol) :
    symbolDocument lines file s.toValue = .ok (symbolChunk lines file s) := by
  obtain ⟨id, path, first, last, kind⟩ := s
  cases kind with
  | none => rfl
  | some k => rfl

/-- The symbols that are taken for those of a source. -/
def chosenSymbols (app : String) (symbols : List Symbol) (f : SourceFile) : List Symbol :=
  match symbolsAt symbols (app ++ "/" ++ innerPath f) with
  | [] => symbolsAt symbols (innerPath f)
  | found => found

def documentsOf (app : String) (symbols : List Symbol) (f : SourceFile) : FileDocuments :=
  match chosenSymbols app symbols f with
  | [] => ⟨false, windows f.source (innerPath f) defaultWindow defaultOverlap⟩
  | found => ⟨true, found.map (symbolChunk (Text.lines f.source) (innerPath f))⟩

def listed (s : Symbol) : ListedSymbol where
  value := s.toValue
  file := s.file
  id := s.id
  first := s.firstLine
  last := s.lastLine
  has_file := rfl
  has_id := rfl
  has_first := rfl
  has_last := rfl

lemma document_listed (f : SourceFile) (s : Symbol) :
    (listed s).document f = symbolChunk (Text.lines f.source) (innerPath f) s := by
  obtain ⟨id, path, first, last, kind⟩ := s
  cases kind with
  | none => rfl
  | some k => rfl

lemma chosen_listed (app : String) (symbols : List Symbol) (f : SourceFile) :
    ListedSymbol.chosen app (symbols.map listed) f = (chosenSymbols app symbols f).map listed := by
  have under : ∀ path, ListedSymbol.under (symbols.map listed) path =
      (symbolsAt symbols path).map listed := by
    intro path
    rw [ListedSymbol.under, filter_map]
    rfl
  rw [ListedSymbol.chosen, chosenSymbols, under, under]
  cases symbolsAt symbols (app ++ "/" ++ innerPath f) with
  | nil => rfl
  | cons s ss => rfl

lemma documentsOf_listed (app : String) (symbols : List Symbol) (f : SourceFile) :
    ListedSymbol.documentsOf app (symbols.map listed) f = documentsOf app symbols f := by
  rw [ListedSymbol.documentsOf, documentsOf, chosen_listed]
  cases chosenSymbols app symbols f with
  | nil => rfl
  | cons s ss =>
    refine congrArg (FileDocuments.mk true) ?_
    rw [map_map]
    exact map_congr_left fun s _ => document_listed f s

lemma symbol_of_mem_window {blank : Prop} [Decidable blank] {text : List Char}
    {first last : Int} (h : d ∈ if _ : blank then [] else [windowDocument file text first last]) :
    d.symbol = none := by
  split_ifs at h
  · cases h
  · rw [mem_singleton.1 h, windowDocument]

lemma symbol_of_mem_windowsFrom {lines : List (List Char)} {window : Int} {more start : Nat}
    (h : d ∈ windowsFrom file lines window more start) : d.symbol = none := by
  fun_induction windowsFrom file lines window more start with
  | case1 => exact symbol_of_mem_window h
  | case2 start _ stop text here _ ih =>
    rcases mem_append.1 h with h | h
    · exact symbol_of_mem_window h
    · exact ih h
  | case3 => cases h

lemma result_documents_toValue (project : Location) (r : Report) : ∃ printed,
    (documents project r.toValue).result = (.ok ((sources project).flatMap fun f =>
      (documentsOf project.path.name r.symbols f).documents), printed) := by
  have symbols : r.toValue.getD "symbol_table" (.list []) =
      .ok (.list ((r.symbols.map listed).map ListedSymbol.value)) := by
    rw [map_map]
    rfl
  obtain ⟨opening, built⟩ := ListedSymbol.result_documents symbols project
  simp only [documentsOf_listed] at built
  exact ⟨_, built⟩

/-! ### Documents of symbols -/

/-- A document was cut for a symbol of a report from the source in which that symbol is recorded. -/
def Document.IsOwn (project : Location) (r : Report) (d : Document) : Prop :=
  ∃ f ∈ sources project, ∃ s ∈ r.symbols, d.file = innerPath f ∧
    s.file = project.path.name ++ "/" ++ d.file ∧
    symbolDocument (Text.lines f.source) d.file s.toValue = .ok d

lemma mem_chosenSymbols {s : Symbol} :
    s ∈ chosenSymbols app symbols f ↔ s ∈ symbols ∧ (s.file = app ++ "/" ++ innerPath f ∨
      s.file = innerPath f ∧ ∀ t ∈ symbols, t.file ≠ app ++ "/" ++ innerPath f) := by
  rw [chosenSymbols]
  cases named : symbolsAt symbols (app ++ "/" ++ innerPath f) with
  | nil =>
    have none : ∀ t ∈ symbols, t.file ≠ app ++ "/" ++ innerPath f := by
      simpa [symbolsAt] using named
    rw [symbolsAt, mem_filter, decide_eq_true_iff]
    refine and_congr_right fun hs => ?_
    exact ⟨fun bare => .inr ⟨bare, none⟩, fun h => (h.resolve_left (none s hs)).1⟩
  | cons t ts =>
    have first : t ∈ symbolsAt symbols (app ++ "/" ++ innerPath f) := named ▸ mem_cons_self
    rw [symbolsAt, mem_filter, decide_eq_true_iff] at first
    change s ∈ t :: ts ↔ _
    rw [← named, symbolsAt, mem_filter, decide_eq_true_iff]
    refine and_congr_right fun hs => ?_
    exact ⟨.inl, fun h => h.resolve_right fun other => other.2 t first.1 first.2⟩

lemma mem_documentsOf (isSymbol : d.symbol.isSome = true) :
    d ∈ (documentsOf app symbols f).documents ↔
      ∃ s ∈ chosenSymbols app symbols f, symbolChunk (Text.lines f.source) (innerPath f) s = d := by
  rw [documentsOf]
  cases chosenSymbols app symbols f with
  | nil =>
    simp only [not_mem_nil, false_and, exists_false, iff_false]
    intro h
    rw [symbol_of_mem_windowsFrom h] at isSymbol
    cases isSymbol
  | cons s ss => exact mem_map

/-- All documents of symbols are cut from the sources in which their symbols are recorded. -/
def AllOwn (project : Location) (r : Report) (docs : List Document) : Prop :=
  ∀ d ∈ docs, d.symbol.isSome = true → d.IsOwn project r

def HasSymbols (project : Location) (r : Report) (f : SourceFile) : Prop :=
  ∃ s ∈ r.symbols, s.file = project.path.name ++ "/" ++ innerPath f

/-- The documents of symbols of a source are its own exactly if no others are taken for its own. -/
lemma allOwn_documentsOf_iff {project : Location} {r : Report} (hf : f ∈ sources project) :
    AllOwn project r (documentsOf project.path.name r.symbols f).documents ↔
      ((∃ s ∈ r.symbols, s.file = innerPath f) → HasSymbols project r f) := by
  constructor
  · rintro own ⟨s, hs, bare⟩
    by_contra none
    simp only [HasSymbols, not_exists, not_and] at none
    have chosen : s ∈ chosenSymbols project.path.name r.symbols f :=
      mem_chosenSymbols.2 ⟨hs, .inr ⟨bare, none⟩⟩
    obtain ⟨_, -, t, ht, -, path, -⟩ := own _ ((mem_documentsOf rfl).2 ⟨s, chosen, rfl⟩) rfl
    exact none t ht path
  · intro only d hd isSymbol
    obtain ⟨s, chosen, rfl⟩ := (mem_documentsOf isSymbol).1 hd
    obtain ⟨hs, path | ⟨bare, none⟩⟩ := mem_chosenSymbols.1 chosen
    · exact ⟨f, hf, s, hs, rfl, path, symbolDocument_toValue _ _ s⟩
    · obtain ⟨t, ht, path⟩ := only ⟨s, hs, bare⟩
      exact absurd path (none t ht)

lemma allOwn_flatMap_iff (project : Location) (r : Report) :
    AllOwn project r ((sources project).flatMap fun f =>
      (documentsOf project.path.name r.symbols f).documents) ↔
    ∀ f ∈ sources project, (∃ s ∈ r.symbols, s.file = innerPath f) → HasSymbols project r f := by
  rw [AllOwn, forall_mem_flatMap]
  exact forall₂_congr fun f hf => allOwn_documentsOf_iff hf

section

variable {project : Location} {printed : String} {r : Report}

/-- A symbol is recorded under the bare path of a source exactly if the source lies, in a folder with the
name of the project, where the source of the symbol lies in the project. -/
lemma exists_symbol_at_innerPath_iff (report : r.IsOn project printed) (valid : project.WellFormed)
    (named : project.path.name ≠ "") (hf : f ∈ sources project) :
    (∃ s ∈ r.symbols, s.file = innerPath f) ↔ ∃ g ∈ sources project,
      f.names = project.path.name :: g.names ∧ HasSymbols project r g := by
  constructor
  · rintro ⟨s, hs, bare⟩
    obtain ⟨names, isSource, path⟩ := report.mem_dependencies_iff.1 (report.symbol_mem_dependencies hs)
    obtain ⟨g, hg, rfl⟩ := exists_mem_sources_iff.2 isSource
    obtain ⟨nonempty, names, -⟩ := find?_of_mem_sources valid hg
    -- the bare path and the recorded one are the same text, so they have the same names
    have same : .ofText (innerPath f) = Path.ofText (recordedPath project.path.name g.names) := by
      rw [← bare, path]
    rw [innerPath, ofText_intercalate (find?_of_mem_sources valid hf).2.1,
      ofText_recordedPath valid.name names nonempty, recordedNames, if_neg named] at same
    refine ⟨g, hg, congrArg Path.parts same, s, hs, ?_⟩
    rw [path, recordedPath, if_neg named, innerPath]
  · rintro ⟨g, hg, inside, s, hs, path⟩
    refine ⟨s, hs, ?_⟩
    rw [path, innerPath, innerPath, inside,
      String.intercalate_cons_of_ne_nil (find?_of_mem_sources valid hg).1]

lemma forall_symbol_at_innerPath_iff (report : r.IsOn project printed) (valid : project.WellFormed)
    (named : project.path.name ≠ "") :
    (∀ f ∈ sources project, (∃ s ∈ r.symbols, s.file = innerPath f) → HasSymbols project r f) ↔
      ∀ f ∈ sources project, ∀ g ∈ sources project, f.names = project.path.name :: g.names →
        HasSymbols project r g → HasSymbols project r f := by
  refine forall₂_congr fun f hf => ?_
  rw [exists_symbol_at_innerPath_iff report valid named hf]
  simp only [forall_exists_index, and_imp]

/-- The documents of an analysed project exist. Those of symbols are cut from the sources of their symbols
exactly if each source has symbols of its own when symbols are recorded under its bare path. In a well
formed project with a name, such a source lies in a folder of that name, so all is well if there is no such
folder. -/
theorem documents_own_iff (returned : (Report.ofProject project).result = (.ok r, printed)) :
    ∃ docs shown, (documents project r.toValue).result = (.ok docs, shown) ∧
      (AllOwn project r docs ↔ ∀ f ∈ sources project,
        (∃ s ∈ r.symbols, s.file = innerPath f) → HasSymbols project r f) ∧
      (project.WellFormed → project.path.name ≠ "" →
        (AllOwn project r docs ↔ ∀ f ∈ sources project, ∀ g ∈ sources project,
          f.names = project.path.name :: g.names → HasSymbols project r g → HasSymbols project r f) ∧
        (project.find? [project.path.name] = none → AllOwn project r docs)) := by
  obtain ⟨shown, built⟩ := result_documents_toValue project r
  have all := allOwn_flatMap_iff project r
  refine ⟨_, shown, built, all, fun valid named => ?_⟩
  have report := Report.result_ofProject_eq_ok_iff.1 returned
  rw [all, forall_symbol_at_innerPath_iff report valid named]
  refine ⟨Iff.rfl, fun absent f hf g hg inside => ?_⟩
  obtain ⟨-, -, content, found, -⟩ := find?_of_mem_sources valid hf
  rw [inside, Location.find?_cons_of_eq_none absent] at found
  cases found

end

def ownNamed (inner : String) : Location where
  path := ⟨"/", ["app"]⟩
  entry := some (.folder [("app", .folder [("x.js", .file (Text.encode inner.toList))]),
    ("x.js", .file (Text.encode "function f() \x7b\n\x7d\n".toList))])

lemma ownNamed_wellFormed (inner : String) : (ownNamed inner).WellFormed where
  name := .inr (by decide : IsName "app")
  no_null := (by decide : '\x00' ∉ "/".toList ∧ ∀ n ∈ ["app"], '\x00' ∉ n.toList)
  tree := by
    rintro _ ⟨⟩
    refine .folder (by simp) (by simp; decide) ?_
    simp only [forall_mem_cons, not_mem_nil, false_implies, implies_true, and_true]
    exact ⟨.folder (by simp) (by simp; decide) (by simpa using .file _), .file _⟩

def outerSymbol : Symbol := ⟨"app.x.f", "app/x.js", 1, 2, some .function⟩

/-- Where both sources have a symbol, both documents come from their own. -/
theorem documents_own_iff_ownNamed : ∃ r printed docs shown,
    (Report.ofProject (ownNamed "function g() \x7b\n\x7d\n")).result = (.ok r, printed) ∧
    r.symbols = [outerSymbol, ⟨"app.app.x.g", "app/app/x.js", 1, 2, some .function⟩] ∧
    (documents (ownNamed "function g() \x7b\n\x7d\n") r.toValue).result = (.ok docs, shown) ∧
    AllOwn (ownNamed "function g() \x7b\n\x7d\n") r docs := by
  obtain ⟨r, printed, returned, symbols⟩ : ∃ r printed,
      (Report.ofProject (ownNamed "function g() \x7b\n\x7d\n")).result = (.ok r, printed) ∧
      r.symbols = [outerSymbol, ⟨"app.app.x.g", "app/app/x.js", 1, 2, some .function⟩] :=
    Report.exists_result_of_withoutTables (by decide +kernel) fun _ _ => rfl
  obtain ⟨docs, shown, built, -, own⟩ := documents_own_iff returned
  refine ⟨r, printed, docs, shown, returned, symbols, built, ?_⟩
  have each : ∀ f ∈ sources (ownNamed "function g() \x7b\n\x7d\n"),
      ∃ s ∈ [outerSymbol, ⟨"app.app.x.g", "app/app/x.js", 1, 2, some .function⟩],
        s.file = "app/" ++ innerPath f := by
    decide +kernel
  refine (own (ownNamed_wellFormed _) (by decide : "app" ≠ "")).1.2 fun f hf _ _ _ _ => ?_
  rw [HasSymbols, symbols]
  exact each f hf

/-- Where the source inside has no symbols, its text is indexed as that of the symbol outside. -/
theorem document_misplaced_ownNamed : ∃ r printed docs shown,
    (Report.ofProject (ownNamed "let a = 1\n")).result = (.ok r, printed) ∧
    (documents (ownNamed "let a = 1\n") r.toValue).result = (.ok docs, shown) ∧
    ∃ d ∈ docs, d.text = "let a = 1" ∧ d.file = "app/x.js" ∧ d.symbol = some "app.x.f" ∧
      ¬ d.IsOwn (ownNamed "let a = 1\n") r := by
  obtain ⟨r, printed, returned, symbols⟩ : ∃ r printed,
      (Report.ofProject (ownNamed "let a = 1\n")).result = (.ok r, printed) ∧
      r.symbols = [outerSymbol] :=
    Report.exists_result_of_withoutTables (by decide +kernel) fun _ _ => rfl
  obtain ⟨shown, built⟩ := result_documents_toValue (ownNamed "let a = 1\n") r
  obtain ⟨f, hf, names, source⟩ : ∃ f ∈ sources (ownNamed "let a = 1\n"),
      f.names = ["app", "x.js"] ∧ f.source = "let a = 1\n".toList := by
    decide +kernel
  have path : innerPath f = "app/x.js" := by
    rw [innerPath, names]
    rfl
  have chosen : outerSymbol ∈ chosenSymbols "app" r.symbols f := by
    rw [mem_chosenSymbols, symbols, path]
    decide
  refine ⟨r, printed, _, shown, returned, built, _,
    List.mem_flatMap.2 ⟨f, hf, (mem_documentsOf rfl).2 ⟨_, chosen, rfl⟩⟩, ?_, path, rfl, ?_⟩
  · change String.ofList (unlines (slice (Text.lines f.source) 0 (some 2))) = _
    rw [source]
    decide
  · rintro ⟨_, -, s, hs, -, elsewhere, -⟩
    rw [symbols, List.mem_singleton] at hs
    change s.file = "app/" ++ innerPath f at elsewhere
    rw [hs, path] at elsewhere
    exact absurd elsewhere (by decide)

end Unbundle.Index
