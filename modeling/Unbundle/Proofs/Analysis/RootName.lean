import Mathlib.Algebra.GroupWithZero.Nat
import Unbundle.Proofs.Analysis.Completion

/-!
# The name of a project

The name of a project stands in front of each path and each full name that is found in it. Every step of an
analysis commutes with a change of this name, unless something is out of reach under one of the names.
-/

open List String Unbundle.Text

namespace Unbundle

/-! ### The name of a folder -/

variable {α β γ δ : Type}

/-! ### Computations that stay in reach -/

/-- Two computations return related results, or stop with faults of the same kind. Nothing is said if one
of them comes to a path that is too long to be looked for. -/
inductive AgreeInReach (R : α → β → Prop) : Except Fault α → Except Fault β → Prop
  | ok {a : α} {b : β} (related : R a b) : AgreeInReach R (.ok a) (.ok b)
  | error {e e' : Fault} (kind : e.kind = e'.kind) : AgreeInReach R (.error e) (.error e')
  | left (path : String) (y : Except Fault β) : AgreeInReach R (.error (.file .nameTooLong path)) y
  | right (x : Except Fault α) (path : String) : AgreeInReach R x (.error (.file .nameTooLong path))

namespace AgreeInReach

variable {R : α → β → Prop} {x : Except Fault α} {y : Except Fault β} {S : γ → δ → Prop} {f : α → Except Fault γ}
  {xs : List α}

lemma refl (x : Except Fault α) : AgreeInReach Eq x x := by
  cases x with
  | error e => exact .error rfl
  | ok a => exact .ok rfl

lemma known (h : AgreeInReach R x y) :
    AgreeInReach (fun a b => R a b ∧ x = .ok a) x y := by
  cases h with
  | ok related => exact .ok ⟨related, rfl⟩
  | error kind => exact .error kind
  | left path y => exact .left path y
  | right x path => exact .right x path

lemma bind
    {g : β → Except Fault δ} (first : AgreeInReach R x y)
    (next : ∀ a b, R a b → AgreeInReach S (f a) (g b)) : AgreeInReach S (x >>= f) (y >>= g) := by
  cases first with
  | ok related => exact next _ _ related
  | error kind => exact .error kind
  | left path y => exact .left path _
  | right x path => exact .right _ path

lemma mapM {g : α → Except Fault δ}
    (h : ∀ x ∈ xs, AgreeInReach S (f x) (g x)) :
    AgreeInReach (Forall₂ S) (xs.mapM f) (xs.mapM g) := by
  induction xs with
  | nil => exact .ok .nil
  | cons x xs ih =>
    rw [mapM_cons, mapM_cons]
    refine (h x mem_cons_self).bind fun c d first => ?_
    refine (ih fun x' hx' => h x' (mem_cons_of_mem x hx')).bind fun cs ds others => ?_
    exact .ok (.cons first others)

lemma filterM {f g : α → Except Fault Bool}
    (h : ∀ x ∈ xs, AgreeInReach Eq (f x) (g x)) : AgreeInReach Eq (xs.filterM f) (xs.filterM g) := by
  suffices ∀ acc, AgreeInReach Eq (filterAuxM f xs acc) (filterAuxM g xs acc) from
    (this []).bind fun _ _ same => same ▸ .refl _
  induction xs with
  | nil => exact fun acc => .refl _
  | cons x xs ih =>
    intro acc
    refine (h x mem_cons_self).bind fun b _ same => ?_
    rw [← same]
    exact ih (fun x' hx' => h x' (mem_cons_of_mem x hx')) _

end AgreeInReach

namespace Files

variable {names : List String}

/-! ### Paths below a folder -/

lemma Entry.follow_up {e : Entry} (up up' : List Entry) (down : ".." ∉ names) :
    follow (e :: up) names = follow (e :: up') names := by
  induction names generalizing e up up' with
  | nil => rw [follow, follow]
  | cons name names ih =>
    cases e with
    | file content => rw [follow, follow]
    | folder es =>
      rw [mem_cons, not_or] at down
      rw [follow, follow, if_neg (Ne.symm down.1), if_neg (Ne.symm down.1)]
      split_ifs
      · rfl
      · cases lookup name es with
        | none => rfl
        | some e => exact ih _ _ down.2

lemma Entry.follow_eq_error {up : List Entry} {cause : FileCause} (h : follow up names = .error cause) :
    cause = .nameTooLong := by
  fun_induction follow up names with
  | case1 => cases h
  | case2 names ih => exact ih h
  | case3 => exact (Except.error.inj h).symm
  | case4 => cases h
  | case5 => cases h
  | case6 => cases h
  | case7 es up names ih => exact ih h
  | case8 => exact (Except.error.inj h).symm
  | case9 => cases h
  | case10 es up name names _ _ e _ ih => exact ih h

lemma mem_intercalate_iff {c : Char} (h : c ≠ '/') :
    c ∈ (intercalate "/" names).toList ↔ ∃ n ∈ names, c ∈ n.toList := by
  refine ⟨fun found => (Location.mem_intercalate found).resolve_left h, ?_⟩
  induction names with
  | nil => simp
  | cons n names ih =>
    rintro ⟨m, hm, hc⟩
    cases names with
    | nil => simpa [mem_singleton.1 hm] using hc
    | cons n' names =>
      rw [String.intercalate_cons_cons, toList_append, toList_append]
      rcases mem_cons.1 hm with rfl | hm
      · exact mem_append_left _ (mem_append_left _ hc)
      · exact mem_append_right _ (ih ⟨m, hm, hc⟩)

lemma Path.null_mem_toText {p : Path} :
    '\x00' ∈ p.toText.toList ↔ '\x00' ∈ p.root.toList ∨ ∃ n ∈ p.parts, '\x00' ∈ n.toList := by
  rw [← mem_intercalate_iff (by decide), ← mem_append, ← toList_append, ← plain,
    toText]
  split_ifs with empty
  · rw [empty]
    decide
  · rfl

/-! ### Lengths of paths -/

lemma byteLength_append (cs ds : List Char) :
    byteLength (cs ++ ds) = byteLength cs + byteLength ds := by
  simp [byteLength, encode]

lemma byteLength_replicate (n : Nat) (c : Char) :
    byteLength (replicate n c) = n * byteLength [c] := by
  simp [byteLength, encode]

lemma byteLength_intercalate (name : String) (names : List String) :
    byteLength (intercalate "/" (name :: names)).toList =
      byteLength name.toList + (names.map fun n => 1 + byteLength n.toList).sum := by
  induction names generalizing name with
  | nil => simp
  | cons n names ih =>
    have slash : byteLength "/".toList = 1 := by decide
    rw [String.intercalate_cons_cons, toList_append, toList_append, byteLength_append, byteLength_append, ih, map_cons, sum_cons]
    omega

lemma Path.byteLength_toText (h : names ≠ []) :
    byteLength (toText ⟨"/", names⟩).toList =
      (names.map fun n => 1 + byteLength n.toList).sum := by
  obtain ⟨name, names, rfl⟩ := exists_cons_of_ne_nil h
  have slash : byteLength "/".toList = 1 := by decide
  have rooted : plain ⟨"/", name :: names⟩ ≠ "" := by simp [plain]
  rw [toText, if_neg rooted, plain, toList_append, byteLength_append,
    byteLength_intercalate, slash, map_cons, sum_cons, add_assoc]

namespace Location

variable {l : Location}

def inside (parent : Path) (tree : Option Entry) (name : String) : Location :=
  ⟨parent.child name, tree⟩

variable {parent : Path} {tree : Option Entry} {a b : String}

@[simp] lemma inside_name : (inside parent tree a).path.name = a := by
  simp [inside, Path.child, Path.name]

def textBelow (l : Location) (names : List String) : String := (l.path.join ⟨"", names⟩).toText

lemma look_of_null (null : '\x00' ∈ (l.textBelow names).toList) : l.look ⟨"", names⟩ = .ok none := by
  rw [look]
  exact if_pos (by simpa [textBelow] using null)

lemma look_of_long (clean : '\x00' ∉ (l.textBelow names).toList)
    (long : maxPath < byteLength (l.textBelow names).toList) :
    l.look ⟨"", names⟩ = .error (.file .nameTooLong (l.textBelow names)) := by
  rw [look]
  exact (if_neg (by simpa [textBelow] using clean)).trans (if_pos long)

lemma look_of_short (clean : '\x00' ∉ (l.textBelow names).toList)
    (short : byteLength (l.textBelow names).toList ≤ maxPath) :
    l.look ⟨"", names⟩ = (l.entry.elim (.ok none) fun e =>
      Entry.follow [e, .folder [(l.path.name, e)]] names).mapError fun cause =>
        .file cause (l.textBelow names) := by
  rw [look]
  refine (if_neg (by simpa [textBelow] using clean)).trans ((if_neg (Nat.not_lt.2 short)).trans ?_)
  cases l.entry <;> rfl

lemma look_eq_error {p : Path} {fault : Fault} (h : l.look p = .error fault) :
    ∃ path, fault = .file .nameTooLong path := by
  have too_long : ∀ {found : Except FileCause (Option Entry)} {full : String},
      (∀ cause, found = .error cause → cause = .nameTooLong) →
      found.mapError (fun cause => .file cause full) = .error fault →
      ∃ path, fault = .file .nameTooLong path := by
    intro found full only stopped
    cases found with
    | ok e => cases stopped
    | error cause => exact ⟨full, by rw [← Except.error.inj stopped, only cause rfl]⟩
  rw [look] at h
  split_ifs at h
  · exact ⟨_, (Except.error.inj h).symm⟩
  · refine too_long (fun cause stopped => ?_) h
    split at stopped
    · cases stopped
    · exact Entry.follow_eq_error stopped
    · exact Entry.follow_eq_error stopped

/-- Looking along a path below a folder gives the same under each of its names, if both are in reach. -/
lemma look_inside (clean : '\x00' ∉ a.toList) (clean' : '\x00' ∉ b.toList) (down : ".." ∉ names) :
    AgreeInReach Eq ((inside parent tree a).look ⟨"", names⟩)
      ((inside parent tree b).look ⟨"", names⟩) := by
  have nulls : '\x00' ∈ ((inside parent tree a).textBelow names).toList ↔
      '\x00' ∈ ((inside parent tree b).textBelow names).toList := by
    simp only [textBelow, inside, Path.null_mem_toText, Path.join, Path.child, if_true, mem_append]
    grind
  by_cases null : '\x00' ∈ ((inside parent tree b).textBelow names).toList
  · rw [look_of_null (nulls.2 null), look_of_null null]
    exact .ok rfl
  rcases Nat.lt_or_ge maxPath (byteLength ((inside parent tree a).textBelow names).toList) with
    long | short
  · rw [look_of_long (mt nulls.1 null) long]
    exact .left _ _
  rcases Nat.lt_or_ge maxPath (byteLength ((inside parent tree b).textBelow names).toList) with
    long' | short'
  · rw [look_of_long null long']
    exact .right _ _
  rw [look_of_short (mt nulls.1 null) short, look_of_short null short', inside_name, inside_name]
  change AgreeInReach Eq (.mapError _ (tree.elim _ _)) (.mapError _ (tree.elim _ _))
  cases tree with
  | none => exact .ok rfl
  | some e =>
    simp only [Option.elim_some]
    rw [Entry.follow_up [.folder [(a, e)]] [.folder [(b, e)]] down]
    cases Entry.follow [e, .folder [(b, e)]] names with
    | error cause => exact .error rfl
    | ok found => exact .ok rfl

end Location

end Files

end Unbundle

open List Function String

namespace Unbundle.Analysis

open Files
open Grammar (Node)

/-! ### The name of a project -/

/-! ### Another name in front -/

/-- A text with what it begins with exchanged. A text that begins otherwise stays as it is. -/
def replaceLead (old new s : String) : String :=
  match dropLead? old.toList s.toList with
  | some rest => new ++ String.ofList rest
  | none => s

@[simp] lemma replaceLead_append (old new s : String) : replaceLead old new (old ++ s) = new ++ s := by
  simp [replaceLead, dropLead?_append]

def renamePath (a b path : String) : String := replaceLead (a ++ "/") (b ++ "/") path

def renameId (a b id : String) : String := replaceLead (a ++ ".") (b ++ ".") id

def Symbol.rename (a b : String) (s : Symbol) : Symbol :=
  { s with id := renameId a b s.id, file := renamePath a b s.file }

def EntryPoint.rename (a b : String) (e : EntryPoint) : EntryPoint :=
  { e with file := renamePath a b e.file }

def CallEdge.rename (a b : String) (e : CallEdge) : CallEdge :=
  { e with file := renamePath a b e.file }

def FileFindings.rename (a b : String) (g : FileFindings) : FileFindings :=
  { g with
    path := renamePath a b g.path
    entryPoints := g.entryPoints.map (EntryPoint.rename a b)
    symbols := g.symbols.map (Symbol.rename a b) }

def changeField (key : String) (change : Value → Value) : Value → Value
  | .map fs => .map (fs.map fun p => if p.1 = key then (p.1, change p.2) else p)
  | v => v

def changeText (change : String → String) : Value → Value
  | .text s => .text (change s)
  | v => v

def renameRecord (a b : String) : Value → Value :=
  changeField "entry_point" (changeField "file" (changeText (renamePath a b)))

/-! ### Where findings belong -/

def Origin.below (app file moduleName : String) : Origin :=
  ⟨app ++ "/" ++ file, app ++ "." ++ moduleName⟩

lemma SourceFile.origin_eq {app : String} (named : app ≠ "") (f : SourceFile) :
    f.origin app = .below app (intercalate "/" f.names)
      (intercalate "." (moduleParts f.names)) := by
  have path := origin_file app f
  rw [recordedPath, if_neg named] at path
  have module : joinName (some app) (moduleParts f.names) =
      app ++ "." ++ intercalate "." (moduleParts f.names) := by
    rw [joinName]
    · exact intercalate_cons_of_ne_nil (by simp)
    · exact named
  exact congrArg₂ Origin.mk path module

section

variable (a b file moduleName : String)

@[simp] lemma renamePath_below : renamePath a b (Origin.below a file moduleName).file =
    (Origin.below b file moduleName).file :=
  replaceLead_append _ _ _

@[simp] lemma renameId_below (rest : String) :
    renameId a b ((Origin.below a file moduleName).moduleName ++ rest) =
      (Origin.below b file moduleName).moduleName ++ rest := by
  have lead := replaceLead_append (a ++ ".") (b ++ ".") (moduleName ++ rest)
  rwa [← String.append_assoc, ← String.append_assoc] at lead

/-! ### Findings -/

lemma functionSymbol_rename (parent : Option String) (node : Node) :
    functionSymbol (.below b file moduleName) parent node =
      (functionSymbol (.below a file moduleName) parent node).map (.rename a b) := by
  cases node with
  | function name span =>
    cases parent with
    | none =>
      have id := renameId_below a b file moduleName ("." ++ name.text)
      simp only [← String.append_assoc] at id
      simp only [functionSymbol, map_cons, Symbol.rename, renamePath_below]
      exact congrArg (fun id => [Symbol.mk id _ _ _ _]) id.symm
    | some c =>
      have id := renameId_below a b file moduleName ("." ++ c ++ "." ++ name.text)
      simp only [← String.append_assoc] at id
      simp only [functionSymbol, map_cons, Symbol.rename, renamePath_below]
      exact congrArg (fun id => [Symbol.mk id _ _ _ _]) id.symm
  | _ => rfl

lemma nodeSymbols_rename (node : Node) :
    nodeSymbols (.below b file moduleName) node =
      (nodeSymbols (.below a file moduleName) node).map (.rename a b) := by
  have own := functionSymbol_rename a b file moduleName none node
  cases node with
  | classDef name span bases keywords body decorators =>
    have id := renameId_below a b file moduleName ("." ++ name.text)
    simp only [← String.append_assoc] at id
    have methods := functionSymbol_rename a b file moduleName (some name.text)
    simp only [nodeSymbols, map_cons, map_flatMap, ← methods, Symbol.rename, renamePath_below]
    exact congrArg (fun id => Symbol.mk id _ _ _ _ :: _) id.symm
  | _ => exact own

lemma functionEntries_rename (node : Node) :
    functionEntries (.below b file moduleName) node =
      (functionEntries (.below a file moduleName) node).map (.rename a b) := by
  cases node with
  | function name span parameters body decorators =>
    simp [functionEntries, EntryPoint.rename]
  | _ => rfl

lemma nodeEntries_rename (node : Node) :
    nodeEntries (.below b file moduleName) node =
      (nodeEntries (.below a file moduleName) node).map (.rename a b) := by
  have own := functionEntries_rename a b file moduleName node
  cases node with
  | classDef name span bases keywords body =>
    simp only [nodeEntries, map_flatMap, ← functionEntries_rename]
  | _ => exact own

lemma findings_rename (tags : List String) (nodes : List Node) :
    findings (.below b file moduleName) tags nodes =
      (findings (.below a file moduleName) tags nodes).rename a b := by
  simp [findings, FileFindings.rename, map_flatMap, ← nodeEntries_rename, ← nodeSymbols_rename]

lemma lineSymbols_rename (line : Nat) (ls : List (List Char)) :
    lineSymbols (.below b file moduleName) line ls =
      (lineSymbols (.below a file moduleName) line ls).map (.rename a b) := by
  induction ls generalizing line with
  | nil => rfl
  | cons l ls ih =>
    rw [lineSymbols, lineSymbols, ih]
    cases definition? l with
    | none => rfl
    | some found =>
      obtain ⟨name, kind⟩ := found
      have id := renameId_below a b file moduleName ("." ++ name)
      simp only [← String.append_assoc] at id
      simp only [map_cons, Symbol.rename, renamePath_below]
      exact congrArg (fun id => Symbol.mk id _ _ _ _ :: _) id.symm

lemma scriptEntries_rename (source : List Char) :
    scriptEntries (Origin.below b file moduleName).file source =
      (scriptEntries (Origin.below a file moduleName).file source).map (.rename a b) := by
  simp only [scriptEntries, map_filterMap]
  refine filterMap_congr fun m _ => ?_
  split
  · simp [EntryPoint.rename]
  · rfl

lemma scriptFindings_rename (source : List Char) :
    scriptFindings (.below b file moduleName) source =
      (scriptFindings (.below a file moduleName) source).rename a b := by
  simp [scriptFindings, FileFindings.rename, ← scriptEntries_rename, ← lineSymbols_rename]

end

/-! ### Calls -/

namespace CallEdge

variable (a b : String)

lemma merge_rename (e : CallEdge) (edges : List CallEdge) :
    merge (e.rename a b) (edges.map (rename a b)) = (merge e edges).map (rename a b) := by
  induction edges with
  | nil => rfl
  | cons f fs ih =>
    have key : ∀ d : CallEdge, (d.rename a b).key = d.key := fun _ => rfl
    rw [map_cons, merge, merge, key, key]
    split_ifs
    · rfl
    · rw [ih, map_cons]

lemma mergeAll_rename (calls : List CallEdge) :
    mergeAll (calls.map (rename a b)) = (mergeAll calls).map (rename a b) := by
  suffices ∀ edges,
      (calls.map (rename a b)).foldl (fun edges e => merge e edges) (edges.map (rename a b)) =
        (calls.foldl (fun edges e => merge e edges) edges).map (rename a b) from this []
  induction calls with
  | nil => exact fun edges => rfl
  | cons c cs ih =>
    intro edges
    rw [map_cons, foldl_cons, foldl_cons, merge_rename, ih]

end CallEdge

section

variable (a b file moduleName : String)

lemma functionCalls_rename (imports : Imports) (node : Node) :
    functionCalls (Origin.below b file moduleName).file imports node =
      (functionCalls (Origin.below a file moduleName).file imports node).map (.rename a b) := by
  cases node with
  | function name span parameters body decorators returns =>
    simp only [functionCalls, map_filterMap]
    refine filterMap_congr fun p _ => ?_
    obtain ⟨inner, use⟩ := p
    cases inner with
    | call line func args keywords =>
      simp [callSite?, comp_def, CallEdge.rename]
    | _ => rfl
  | _ => rfl

end

section

variable {parent : Path} {tree : Option Entry} {a b : String} (clean : '\x00' ∉ a.toList)
  (clean' : '\x00' ∉ b.toList)
include clean clean'

/-- A module is looked for by names without dots, so the way to it stays below the project. -/
lemma isLocal_rename (source : String) :
    AgreeInReach Eq (isLocal (.inside parent tree a) source) (isLocal (.inside parent tree b) source) := by
  have undotted : ∀ n ∈ (Text.splitOn '.' source.toList).map ofList, n ≠ ".." := by
    rintro n hn rfl
    obtain ⟨part, hp, dots⟩ := mem_map.1 hn
    have free := not_mem_of_mem_splitOn hp
    rw [← toList_ofList (l := part), dots] at free
    exact free (by decide)
  have file : ".." ∉ ((Text.splitOn '.' source.toList).map ofList).dropLast ++
      [((Text.splitOn '.' source.toList).map ofList).getLastD "" ++ ".py"] := by
    rw [mem_append, mem_singleton, not_or]
    refine ⟨fun dots => undotted _ (dropLast_subset _ dots) rfl, fun dots => ?_⟩
    have ends := congrArg (fun s : String => s.toList.getLast?) dots
    simp at ends
  have package : ".." ∉ (Text.splitOn '.' source.toList).map ofList ++ ["__init__.py"] := by
    rw [mem_append, not_or]
    exact ⟨fun dots => undotted _ dots rfl, by decide⟩
  refine (Location.look_inside clean clean' file).bind fun found _ same => ?_
  subst same
  split_ifs
  · exact .refl _
  · exact (Location.look_inside clean clean' package).bind fun found _ same => same ▸ .refl _

lemma sourceCalls_rename (file moduleName : String) (source : List Char) :
    AgreeInReach (fun cs cs' => cs' = cs.map (.rename a b))
      (sourceCalls (.inside parent tree a) (Origin.below a file moduleName).file source)
      (sourceCalls (.inside parent tree b) (Origin.below b file moduleName).file source) := by
  refine (AgreeInReach.refl (sourceNodes source)).bind fun nodes _ same => ?_
  subst same
  have imports : AgreeInReach Eq (localImports (.inside parent tree a) nodes)
      (localImports (.inside parent tree b) nodes) :=
    .filterM fun p _ => isLocal_rename clean clean' p.2
  refine imports.bind fun found _ same => ?_
  subst same
  refine .ok ?_
  rw [← CallEdge.mergeAll_rename, map_flatMap]
  simp only [functionCalls_rename a b file moduleName]

end

section

variable (a b file moduleName : String)

lemma tightest?_rename (symbols : List Symbol) (line : Int) :
    tightest? (symbols.map (.rename a b)) line = (tightest? symbols line).map (.rename a b) := by
  have step : ∀ best s, tighter (.map (.rename a b) best) (s.rename a b) =
      (tighter best s).map (.rename a b) := by
    intro best s
    rw [tighter, tighter, Option.all_map, apply_ite (Option.map (Symbol.rename a b))]
    rfl
  rw [tightest?, filter_map, foldl_map]
  change List.foldl _ (Option.map (.rename a b) none) _ = _
  exact foldl_hom (Option.map (Symbol.rename a b)) fun best s => step best s

lemma enclosing_rename (ls : List (List Char)) (line : Int) :
    enclosing ((lineSymbols (.below a file moduleName) 1 ls).map Symbol.toValue) line =
      enclosing ((lineSymbols (.below b file moduleName) 1 ls).map Symbol.toValue) line := by
  rw [lineSymbols_rename a b, enclosing_toValue, enclosing_toValue, tightest?_rename]
  cases tightest : tightest? (lineSymbols (.below a file moduleName) 1 ls) line with
  | none => rfl
  | some s =>
    obtain ⟨name, id⟩ := (mem_lineSymbols (mem_of_tightest? tightest)).2
    have id' : (s.rename a b).id = (Origin.below b file moduleName).moduleName ++ "." ++ name := by
      have renamed := renameId_below a b file moduleName ("." ++ name)
      rwa [← String.append_assoc, ← String.append_assoc, ← id] at renamed
    have last : ∀ app, afterLast '.' (app ++ "." ++ name).toList =
        afterLast '.' name.toList := by
      intro app
      rw [toList_append, toList_append, List.append_assoc]
      exact afterLast_append_cons _ _
    simp only [Option.map_some, Symbol.lastName, id, id', last]

lemma scriptCalls_rename (callerAt : Int → Except Fault String) (source : List Char) :
    AgreeInReach (fun cs cs' => cs' = cs.map (.rename a b))
      (scriptCalls (Origin.below a file moduleName).file callerAt source)
      (scriptCalls (Origin.below b file moduleName).file callerAt source) := by
  have each : AgreeInReach (Forall₂ fun c c' => c' = c.rename a b)
      ((scriptSites source).mapM fun s => do
        return s.toEdge (Origin.below a file moduleName).file (← callerAt s.line))
      ((scriptSites source).mapM fun s => do
        return s.toEdge (Origin.below b file moduleName).file (← callerAt s.line)) := by
    refine .mapM fun s _ => ?_
    refine (AgreeInReach.refl (callerAt s.line)).bind fun caller _ same => ?_
    subst same
    refine .ok ?_
    simp [ScriptSite.toEdge, ScriptCall.toEdge, CallEdge.rename]
  rw [scriptCalls_eq, scriptCalls_eq]
  refine each.bind fun found found' renamed => .ok ?_
  rw [eq_map_of_forall₂ renamed, CallEdge.mergeAll_rename]

end

/-! ### Source files -/

def IsBelow (app path : String) : Prop := ∃ inner, path = app ++ "/" ++ inner

lemma renamePath_inj {a b p q : String} (hp : IsBelow a p) (hq : IsBelow a q) :
    renamePath a b p = renamePath a b q ↔ p = q := by
  obtain ⟨x, rfl⟩ := hp
  obtain ⟨y, rfl⟩ := hq
  simp [renamePath]

namespace SourceFile

lemma isBelow_origin {app : String} (named : app ≠ "") (f : SourceFile) :
    IsBelow app (f.origin app).file := by
  rw [f.origin_eq named]
  exact ⟨_, rfl⟩

variable {parent : Path} {tree : Option Entry} {a b : String} (named : a ≠ "") (named' : b ≠ "")
include named named'

lemma findings_rename (f : SourceFile) :
    AgreeInReach (fun g g' => g' = g.rename a b) (f.findings a) (f.findings b) := by
  rw [findings, findings, f.origin_eq named, f.origin_eq named']
  cases f.language with
  | python =>
    refine (AgreeInReach.refl (visitableNodes f.source)).bind fun nodes _ same => ?_
    subst same
    exact .ok (Analysis.findings_rename a b _ _ _ nodes)
  | script => exact .ok (scriptFindings_rename a b _ _ f.source)

lemma calls_rename (clean : '\x00' ∉ a.toList) (clean' : '\x00' ∉ b.toList) (f : SourceFile) :
    AgreeInReach (fun cs cs' => cs' = cs.map (.rename a b))
      (f.calls (.inside parent tree a) a) (f.calls (.inside parent tree b) b) := by
  rw [calls, calls, f.origin_eq named, f.origin_eq named']
  cases f.language with
  | python => exact sourceCalls_rename clean clean' _ _ f.source
  | script =>
    have around := enclosing_rename a b (intercalate "/" f.names)
      (intercalate "." (moduleParts f.names))
      (lines f.source)
    dsimp only [scriptFindings]
    rw [funext around]
    exact scriptCalls_rename a b _ _ _ f.source

end SourceFile

/-! ### Records of entry points -/

section

variable {a b : String} {e : EntryPoint} {calls : List CallEdge}

lemma renameRecord_callRecord (e : EntryPoint) (cs : List Callee) :
    renameRecord a b (e.callRecord cs) = (e.rename a b).callRecord cs := by
  simp [renameRecord, changeField, changeText, EntryPoint.callRecord, EntryPoint.rename]

lemma edges_rename (entry : IsBelow a e.file) (edges : ∀ d ∈ calls, IsBelow a d.file) :
    (e.rename a b).edges (calls.map (.rename a b)) =
      (e.edges calls).map (.rename a b) := by
  rw [EntryPoint.edges, filter_map]
  congr 1
  refine filter_congr fun d hd => ?_
  simp only [comp_apply, CallEdge.rename, EntryPoint.rename, Prod.mk.injEq,
    renamePath_inj (edges d hd) entry]

lemma calleesOf_rename (edges : List CallEdge) :
    calleesOf (edges.map (.rename a b)) = calleesOf edges := by
  rw [calleesOf, foldl_map]
  rfl

lemma record?_rename (entry : IsBelow a e.file) (edges : ∀ d ∈ calls, IsBelow a d.file) :
    (e.rename a b).record? (calls.map (.rename a b)) =
      (e.record? calls).map (renameRecord a b) := by
  rw [EntryPoint.record?, EntryPoint.record?, edges_rename entry edges, calleesOf_rename]
  have handler : (e.rename a b).handler = e.handler := rfl
  simp only [handler, map_eq_nil_iff]
  split_ifs
  · rfl
  · rw [Option.map_some, renameRecord_callRecord]

lemma records_rename {entries : List EntryPoint} (inside : ∀ e ∈ entries, IsBelow a e.file)
    (edges : ∀ d ∈ calls, IsBelow a d.file) :
    (entries.map (.rename a b)).filterMap
        (EntryPoint.record? (calls.map (.rename a b))) =
      (entries.filterMap (EntryPoint.record? calls)).map (renameRecord a b) := by
  rw [filterMap_map, map_filterMap]
  exact filterMap_congr fun e he => record?_rename (inside e he) edges

end

end Unbundle.Analysis

open List Unbundle.Printing String

namespace Unbundle.Analysis

open Files

/-! ## Reports under two names -/

/-- A report is that of a project with another name. What is known of tables is left open. -/
structure Report.IsRenamed (a b : String) (r r' : Report) : Prop where
  drawing : r'.drawing = replaceLead (a ++ "/") (b ++ "/") r.drawing
  dependencies : r'.dependencies = r.dependencies.map fun d => (renamePath a b d.1, d.2)
  tags : r'.tags = r.tags.map fun t => (renamePath a b t.1, t.2)
  entryPoints : r'.entryPoints = r.entryPoints.map (EntryPoint.rename a b)
  symbols : r'.symbols = r.symbols.map (Symbol.rename a b)
  calls : r'.calls = r.calls.map (CallEdge.rename a b)
  entryCalls : r'.entryCalls = r.entryCalls.map (renameRecord a b)
  declared : r'.declared = r.declared

/-! ### The parts of a report -/

section

variable {parent : Path} {tree : Option Entry} {a b : String}

lemma drawing_rename :
    AgreeInReach (fun d d' => d' = replaceLead (a ++ "/") (b ++ "/") d)
      (drawing (.inside parent tree a)) (drawing (.inside parent tree b)) := by
  rw [drawing, drawing, Location.inside_name, Location.inside_name]
  cases tree with
  | none =>
    have first := replaceLead_append (a ++ "/") (b ++ "/") ""
    rw [append_empty, append_empty] at first
    exact .ok first.symm
  | some e =>
    cases e with
    | file content => exact .error rfl
    | folder es =>
      refine .ok ?_
      have lines : ∀ first ls, intercalate "\n" (first :: ls) =
          first ++ intercalate "\n" ("" :: ls) := by
        intro first ls
        simpa using intercalate_cons_append (s := "\n") (t := first) (u := "") (l := ls)
      rw [lines, lines (_ ++ _)]
      exact (replaceLead_append _ _ _).symm

lemma fileContent?_rename (name : String) :
    AgreeInReach Eq (fileContent? (.inside parent tree a) name)
      (fileContent? (.inside parent tree b) name) := by
  have same : (Location.inside parent tree a).find? [name] =
    (Location.inside parent tree b).find? [name] := rfl
  rw [fileContent?, fileContent?, same]
  split
  · exact .ok rfl
  · exact .ok rfl
  · exact .error rfl

lemma declared_rename :
    AgreeInReach Eq (declared (.inside parent tree a)) (declared (.inside parent tree b)) := by
  have requirements : AgreeInReach Eq (declaredRequirements (.inside parent tree a))
      (declaredRequirements (.inside parent tree b)) :=
    (fileContent?_rename _).bind fun _ _ same => same ▸ .refl _
  have packages : AgreeInReach Eq (declaredPackages (.inside parent tree a))
      (declaredPackages (.inside parent tree b)) :=
    (fileContent?_rename _).bind fun _ _ same => same ▸ .refl _
  refine requirements.bind fun python _ same => ?_
  subst same
  exact packages.bind fun _ _ same => same ▸ .refl _

namespace Report

variable (named : a ≠ "") (named' : b ≠ "") (clean : '\x00' ∉ a.toList) (clean' : '\x00' ∉ b.toList)
variable {name printed printed' : String} {root : Location}
variable {r r' : Report} {fault : Fault}

lemma dependencies_rename (files : r'.files = r.files.map (.rename a b)) :
    r'.dependencies = r.dependencies.map fun d => (renamePath a b d.1, d.2) := by
  simp only [dependencies, files, List.map_map]
  rfl

lemma tags_rename (files : r'.files = r.files.map (.rename a b)) :
    r'.tags = r.tags.map fun t => (renamePath a b t.1, t.2) := by
  simp only [tags, files, filter_map, List.map_map]
  rfl

include named named' clean clean' in
lemma withoutTables_rename :
    AgreeInReach (IsRenamed a b) (withoutTables (.inside parent tree a))
      (withoutTables (.inside parent tree b)) := by
  rw [withoutTables, withoutTables, Location.inside_name, Location.inside_name]
  refine drawing_rename.bind fun drawn drawn' drawings => ?_
  refine declared_rename.bind fun declares _ same => ?_
  subst same
  have findings : AgreeInReach (Forall₂ fun g g' => g' = g.rename a b)
      ((sources (.inside parent tree a)).mapM fun f => f.findings a)
      ((sources (.inside parent tree b)).mapM fun f => f.findings b) :=
    .mapM fun f _ => f.findings_rename named named'
  refine findings.known.bind fun files files' found => ?_
  have calls : AgreeInReach (Forall₂ fun cs cs' => cs' = cs.map (.rename a b))
      ((sources (.inside parent tree a)).mapM fun f => f.calls (.inside parent tree a) a)
      ((sources (.inside parent tree b)).mapM fun f => f.calls (.inside parent tree b) b) :=
    .mapM fun f _ => f.calls_rename named named' clean clean'
  refine calls.known.bind fun lists lists' renamed => ?_
  obtain ⟨found, all⟩ := found
  obtain ⟨renamed, called⟩ := renamed
  obtain rfl := eq_map_of_forall₂ found
  obtain rfl := eq_map_of_forall₂ renamed
  have all := mapM_eq_ok_iff.1 all
  have called := mapM_eq_ok_iff.1 called
  have entriesBelow : ∀ e ∈ files.flatMap FileFindings.entryPoints, IsBelow a e.file := by
    intro e he
    obtain ⟨g, hg, he⟩ := mem_flatMap.1 he
    obtain ⟨f, -, findings⟩ := exists_left_of_forall₂ all hg
    obtain ⟨path, -, inFile⟩ := f.findings_file findings
    rw [inFile e he, path]
    exact f.isBelow_origin named
  have callsBelow : ∀ d ∈ lists.flatten, IsBelow a d.file := by
    intro d hd
    obtain ⟨cs, hcs, hd⟩ := mem_flatten.1 hd
    obtain ⟨f, hf, calls⟩ := exists_left_of_forall₂ called hcs
    obtain ⟨g, -, findings⟩ := exists_right_of_forall₂ all hf
    rw [(f.calls_caller findings calls hd).1]
    exact f.isBelow_origin named
  dsimp only
  rw [callMap_toValue, callMap_toValue]
  have entries : (files.map (.rename a b)).flatMap FileFindings.entryPoints =
      (files.flatMap FileFindings.entryPoints).map (.rename a b) := by
    rw [flatMap_map, map_flatMap]
    rfl
  have edges : (lists.map (map (.rename a b))).flatten =
      lists.flatten.map (CallEdge.rename a b) := map_flatten.symm
  refine .ok
    { drawing := drawings
      dependencies := dependencies_rename rfl
      tags := tags_rename rfl
      entryPoints := entries
      symbols := ?_
      calls := edges
      entryCalls := ?_
      declared := rfl }
  · rw [symbols, symbols, flatMap_map, map_flatMap]
    rfl
  · rw [entries, edges]
    exact records_rename entriesBelow callsBelow

/-! ### Tables -/

lemma taggedFiles_rename (tags : List (String × List String)) :
    taggedFiles (tags.map fun t => (renamePath a b t.1, t.2)) =
      (taggedFiles tags).map (renamePath a b) := by
  simp only [taggedFiles, filter_map, List.map_map]
  rfl

lemma tablesInFile_after_eq_error {file : String}
    (h : (tablesInFile root file).after printed = (.error fault, printed')) :
    ∃ path, fault = .file .nameTooLong path := by
  rcases after_bind_eq_error h with stopped | ⟨found, middle, -, h⟩
  · exact Location.look_eq_error (Prod.mk.inj stopped).1
  · split at h
    · simp at h
    · simp at h
    · rw [after_bind] at h
      simp at h

/-- Nothing but the length of a path stops looking for tables. -/
lemma tableInfo_after_eq_error {tags : List (String × List String)}
    (h : (tableInfo root (textsByName tags)).after printed = (.error fault, printed')) :
    ∃ path, fault = .file .nameTooLong path := by
  rw [tableInfo, tableFiles_textsByName, silent_ok_bind] at h
  split at h
  · simp at h
  · rcases after_bind_eq_error h with stopped | ⟨found, middle, -, h⟩
    · obtain ⟨file, -, before, stopped⟩ := exists_error_of_after_mapM stopped
      exact tablesInFile_after_eq_error stopped
    · simp at h

lemma result_ofProject (project : Location) :
    (ofProject project).result.1 = withoutTables project >>= fun r =>
      ((tableInfo project (textsByName r.tags)).after "").1.map fun tables => { r with tables } := by
  rw [result_eq_after, ofProject, after_bind]
  cases withoutTables project with
  | error fault => rfl
  | ok r =>
    rw [ok_bind]
    change ((tableInfo project (textsByName r.tags) >>= fun tables =>
      pure { r with tables }).after "").1 = _
    rw [after_bind]
    rcases (tableInfo project (textsByName r.tags)).after "" with ⟨fault | tables, printed⟩
    · rfl
    · rfl

include named named' clean clean' in
lemma ofProject_rename :
    AgreeInReach (fun r r' => r.IsRenamed a b r' ∧ r'.tables.used = r.tables.used ∧
        r'.tables.schemaFiles = schemaFiles ((taggedFiles r.tags).map (renamePath a b)))
      (ofProject (.inside parent tree a)).result.1 (ofProject (.inside parent tree b)).result.1 := by
  rw [result_ofProject, result_ofProject]
  refine (withoutTables_rename named named' clean clean').bind fun r r' renamed => ?_
  rcases looked : (tableInfo (.inside parent tree a) (textsByName r.tags)).after "" with
    ⟨fault | tables, printed⟩
  · obtain ⟨path, rfl⟩ := tableInfo_after_eq_error looked
    exact .left path _
  rcases looked' : (tableInfo (.inside parent tree b) (textsByName r'.tags)).after "" with
    ⟨fault | tables', printed'⟩
  · obtain ⟨path, rfl⟩ := tableInfo_after_eq_error looked'
    exact .right _ path
  obtain ⟨-, -, -, used, -⟩ := tableInfo_after looked
  obtain ⟨schema, -, -, used', -⟩ := tableInfo_after looked'
  rw [renamed.tags, taggedFiles_rename] at used' schema
  have whole : IsRenamed a b { r with tables } { r' with tables := tables' } :=
    ⟨renamed.drawing, renamed.dependencies, renamed.tags, renamed.entryPoints, renamed.symbols,
      renamed.calls, renamed.entryCalls, renamed.declared⟩
  refine .ok ⟨whole, ?_, schema⟩
  rw [used, used', isEmpty_map]

/-- The analyses of a project under two names return reports that differ in the names alone, or stop with
faults of the same kind, unless one of them comes to a path that is too long to be looked for. Of the files
that use tables those under the new name are ranked; which tables are found is left open, since it depends
on the name. -/
theorem renamed_unless_out_of_reach (named : a ≠ "") (named' : b ≠ "") (clean : '\x00' ∉ a.toList)
    (clean' : '\x00' ∉ b.toList)
    (reach : ∀ path, (ofProject (.inside parent tree a)).result.1 ≠ .error (.file .nameTooLong path))
    (reach' : ∀ path, (ofProject (.inside parent tree b)).result.1 ≠ .error (.file .nameTooLong path)) :
    (∃ r r', (ofProject (.inside parent tree a)).result.1 = .ok r ∧
      (ofProject (.inside parent tree b)).result.1 = .ok r' ∧ r.IsRenamed a b r' ∧
      r'.tables.used = r.tables.used ∧
      r'.tables.schemaFiles = schemaFiles ((taggedFiles r.tags).map (renamePath a b))) ∨
    ∃ e e', (ofProject (.inside parent tree a)).result.1 = .error e ∧
      (ofProject (.inside parent tree b)).result.1 = .error e' ∧ e.kind = e'.kind := by
  have agree : AgreeInReach _ (ofProject (.inside parent tree a)).result.1
    (ofProject (.inside parent tree b)).result.1 := ofProject_rename named named' clean clean'
  generalize (ofProject (.inside parent tree a)).result.1 = x at agree reach ⊢
  generalize (ofProject (.inside parent tree b)).result.1 = y at agree reach' ⊢
  cases agree with
  | ok related => exact .inl ⟨_, _, rfl, rfl, related⟩
  | error kind => exact .inr ⟨_, _, rfl, rfl, kind⟩
  | left path y => exact absurd rfl (reach path)
  | right x path => exact absurd rfl (reach' path)

def calledModule : Option Entry :=
  some (.folder [("app", .folder [("y.js", .file (encode "class C {}".toList))]),
    ("m.py", .file []), ("x.py", .file (encode "import m\n@a.get('/')\ndef f():m.g()".toList))])

theorem renamed_unless_out_of_reach_calledModule :
    ∃ r r' printed printed', (ofProject (.inside ⟨"/", []⟩ calledModule "app")).result = (.ok r, printed) ∧
      (ofProject (.inside ⟨"/", []⟩ calledModule "my.app")).result = (.ok r', printed') ∧
      r.symbols.length = 2 ∧ r.calls.length = 1 ∧ r.entryCalls.length = 1 ∧
      r.IsRenamed "app" "my.app" r' := by
  obtain ⟨r, printed, returned, found⟩ : ∃ r printed,
      (ofProject (.inside ⟨"/", []⟩ calledModule "app")).result = (.ok r, printed) ∧
      (r.symbols.length, r.calls.length, r.entryCalls.length) = (2, 1, 1) :=
    exists_result_of_withoutTables (by decide +kernel) fun _ _ => rfl
  obtain ⟨r', printed', returned', -⟩ : ∃ r printed,
      (ofProject (.inside ⟨"/", []⟩ calledModule "my.app")).result = (.ok r, printed) ∧ r.symbols.length = 2 :=
    exists_result_of_withoutTables (by decide +kernel) fun _ _ => rfl
  have first := congrArg Prod.fst returned
  have second := congrArg Prod.fst returned'
  have renamed := @renamed_unless_out_of_reach ⟨"/", []⟩ calledModule "app" "my.app" (by decide)
    (by decide) (by decide) (by decide) (by simp [first]) (by simp [second])
  rcases renamed with ⟨s, s', left, right, renamed, -⟩ | ⟨e, e', left, -⟩
  · obtain rfl := Except.ok.inj (first.symm.trans left)
    obtain rfl := Except.ok.inj (second.symm.trans right)
    obtain ⟨symbols, calls, entryCalls⟩ := by simpa using found
    exact ⟨r, r', printed, printed', returned, returned', symbols, calls, entryCalls, renamed⟩
  · cases first.symm.trans left

def farDown : Path := ⟨"/", List.replicate 16 (String.ofList (List.replicate 250 'p'))⟩

def importedModule : Option Entry :=
  some (.folder [("m.py", .file []), ("x.py", .file (encode "import m\n".toList))])

def farProject (name : String) : Location := .inside farDown importedModule name

lemma textBelow_farProject (name : String) : (farProject name).textBelow ["m.py"] =
    Path.toText ⟨"/", farDown.parts ++ [name] ++ ["m.py"]⟩ := rfl

lemma no_null_farProject (clean : '\x00' ∉ name.toList) :
    '\x00' ∉ ((farProject name).textBelow ["m.py"]).toList := by
  rw [textBelow_farProject, Path.null_mem_toText]
  rintro (root | ⟨n, hn, null⟩)
  · exact absurd root (by decide : '\x00' ∉ "/".toList)
  · rw [mem_append, mem_append, mem_singleton, mem_singleton] at hn
    rcases hn with (hn | rfl) | rfl
    · rw [eq_of_mem_replicate hn, toList_ofList] at null
      exact absurd (eq_of_mem_replicate null) (by decide)
    · exact clean null
    · exact absurd null (by decide)

lemma byteLength_farProject (name : String) :
    byteLength ((farProject name).textBelow ["m.py"]).toList =
      4022 + byteLength name.toList := by
  have module : byteLength "m.py".toList = 4 := by decide
  have folder : byteLength (.replicate 250 'p') = 250 := byteLength_replicate _ _
  have folders : (List.replicate 16 (1 + 250)).sum = 4016 := by decide
  rw [textBelow_farProject, Path.byteLength_toText (by simp), farDown, map_append, map_append, map_replicate, toList_ofList, folder, sum_append, sum_append, map_singleton, map_singleton, sum_singleton, sum_singleton]
  omega

lemma isLocal_farProject :
    isLocal (farProject name) "m" = do
      if (← (farProject name).look ⟨"", ["m.py"]⟩).isSome then return true
      else return (← (farProject name).look ⟨"", ["m", "__init__.py"]⟩).isSome := by
  rw [isLocal]
  rfl

lemma isLocal_of_short (clean : '\x00' ∉ name.toList) (short : byteLength name.toList ≤ 73) :
    isLocal (farProject name) "m" = .ok true := by
  have looked := Location.look_of_short (no_null_farProject clean) (by
    rw [byteLength_farProject]
    exact Nat.add_le_add_left short 4022)
  rw [isLocal_farProject, looked]
  rfl

lemma isLocal_of_long (clean : '\x00' ∉ name.toList) (long : 73 < byteLength name.toList) :
    ∃ fault, isLocal (farProject name) "m" = .error fault := by
  have looked := Location.look_of_long (no_null_farProject clean) (by
    rw [byteLength_farProject]
    exact Nat.add_lt_add_left long 4022)
  rw [isLocal_farProject, looked]
  exact ⟨_, rfl⟩

lemma not_stops_of_short (clean : '\x00' ∉ name.toList) (short : byteLength name.toList ≤ 73)
    {f : SourceFile} (hf : f ∈ sources (farProject name)) : ¬f.Stops (farProject name) := by
  have each : ((sources (farProject "a")).all fun f => !(tagNames f.source).contains "DynamoDB" &&
      (Grammar.parse f.source).toOption.any fun nodes => decide (visitStepsAll nodes ≤ maxSteps) &&
        (importsOf nodes).all fun p => p.2 == "m") = true := by decide +kernel
  have here := all_eq_true.1 each f hf
  simp only [Bool.and_eq_true, Option.any_eq_true, toOption_eq_some_iff, decide_eq_true_eq,
    all_eq_true] at here
  obtain ⟨untagged, nodes, read, here⟩ := here
  intro stops
  cases stops with
  | reading python refused deep => cases refused.symm.trans read
  | visiting python parsed deep =>
    obtain rfl := Except.ok.inj (parsed.symm.trans read)
    exact Nat.not_lt.2 here.1 deep
  | importing python parsed bound looked =>
    obtain rfl := Except.ok.inj (parsed.symm.trans read)
    obtain rfl : _ = "m" := beq_iff_eq.1 (here.2 _ bound)
    rw [isLocal_of_short clean short] at looked
    cases looked
  | tables used looked => exact absurd used (by simpa [SourceFile.UsesTables] using untagged)

lemma stops_of_long (clean : '\x00' ∉ name.toList) (long : 73 < byteLength name.toList) :
    ∃ f ∈ sources (farProject name), f.Stops (farProject name) := by
  have importing : ((sources (farProject "a")).any fun f => decide (f.language = .python) &&
      (Grammar.parse f.source).toOption.any fun nodes => (importsOf nodes).contains ("m", "m")) =
        true := by decide +kernel
  obtain ⟨f, hf, here⟩ := any_eq_true.1 importing
  simp only [Bool.and_eq_true, decide_eq_true_eq, Option.any_eq_true, toOption_eq_some_iff] at here
  obtain ⟨python, nodes, read, bound⟩ := here
  obtain ⟨fault, looked⟩ := isLocal_of_long clean long
  exact ⟨f, hf, .importing python read (contains_iff_mem.1 bound) looked⟩

/-- The same project is analysed under a short name, and not under a long one. -/
theorem stopped_under_long_name_farProject :
    ∃ a b : String, IsName a ∧ IsName b ∧
      (∃ r printed, (ofProject (farProject a)).result = (.ok r, printed)) ∧
      ¬∃ r printed, (ofProject (farProject b)).result = (.ok r, printed) := by
  refine ⟨"a", String.ofList (List.replicate 100 'b'), by decide, by decide, ?_, ?_⟩
  · obtain ⟨r, printed, report⟩ : ∃ r printed, IsOn (farProject "a") printed r :=
      exists_isOn rfl rfl rfl fun f hf => not_stops_of_short (by decide) (by decide) hf
    exact ⟨r, printed, result_ofProject_eq_ok_iff.2 report⟩
  · rintro ⟨r, printed, returned⟩
    obtain ⟨f, hf, stops⟩ := @stops_of_long (String.ofList (List.replicate 100 'b')) (by decide)
      (by decide)
    exact (result_ofProject_eq_ok_iff.1 returned).not_stops hf stops

end Report

end

end Unbundle.Analysis
