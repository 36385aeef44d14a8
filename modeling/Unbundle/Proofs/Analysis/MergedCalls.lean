import Mathlib.Order.WellFounded
import Unbundle.Proofs.Analysis.CalledModules
import Unbundle.Proofs.Analysis.RootName

/-!
# The edges of a source

The calls of a source and the imports that they go back to, by their places in the tree alone, and the edges
as those calls joined by key.
-/

open List

namespace Unbundle.Analysis

open Files (Location)
open Grammar (Node)
open Grammar.Node (Sooner Place placesBelow)

/-! ### Imports -/

/-- The place of a name in an import: the path of the import, and the number of the name in it. -/
abbrev BindingSite := List ℕ × ℕ

/-- One name is bound before another: its import is met before, or it stands before it in the same import. -/
abbrev BoundSooner : BindingSite → BindingSite → Prop := Prod.Lex Sooner (· < ·)

/-- A name is bound to a module at some place of a source. -/
def BindsAt (source : Node) (k : BindingSite) (b : String × String) : Prop :=
  ∃ node, source.nodeAt? k.1 = some node ∧ (nodeBindings node)[k.2]? = some b

/-- The last import of a name is that of a module. -/
def IsLastBinding (source : Node) (name target : String) : Prop :=
  ∃ k, BindsAt source k (name, target) ∧
    ∀ k' target', BindsAt source k' (name, target') → k' = k ∨ BoundSooner k' k

def moduleNames (target : String) : List String := (Text.splitOn '.' target.toList).map String.ofList

/-- There is a file or a package of a module in a folder. -/
def HasModule (root : Location) (names : List String) : Prop :=
  (∃ entry, root.look ⟨"", names.dropLast ++ [names.getLastD "" ++ ".py"]⟩ = .ok (some entry)) ∨
    ∃ entry, root.look ⟨"", names ++ ["__init__.py"]⟩ = .ok (some entry)

/-- A name stands for a module of the project. -/
def IsImported (root : Location) (source : Node) (name target : String) : Prop :=
  IsLastBinding source name target ∧ HasModule root (moduleNames target)

/-- What can be done with an imported name to call something: to call it, or a member of it. -/
inductive Reaches (imported : String → String → Prop) : Node → String × String → Prop
  | name {id target : String} : imported id target → Reaches imported (.name id) (target, id)
  | member {obj attr target : String} : imported obj target →
      Reaches imported (.member (.name obj) attr) (target, s!"{obj}.{attr}")

section

variable {name name' target : String} {imports : Imports} {root : Location} {nodes : List Node}

lemma sourceOf?_bind : sourceOf? name (bind name' target imports) =
    if name' = name then some target else sourceOf? name imports := by
  induction imports with
  | nil => rfl
  | cons p rest ih =>
    rw [bind]
    by_cases same : p.1 = name'
    · simp only [same, if_true, sourceOf?]
      split_ifs <;> rfl
    · simp only [same, if_false, sourceOf?, ih]
      split_ifs with here there
      · exact absurd (here.trans there.symm) same
      all_goals rfl

lemma map_bind : (bind name target imports).map Prod.fst =
    if name ∈ imports.map Prod.fst then imports.map Prod.fst else imports.map Prod.fst ++ [name] := by
  induction imports with
  | nil => rfl
  | cons p rest ih =>
    rw [bind]
    by_cases same : p.1 = name
    · simp [same]
    · simp only [same, if_false, map_cons, ih, mem_cons, Ne.symm same, false_or]
      split_ifs <;> rfl

lemma nodup_importsOf : ((importsOf nodes).map Prod.fst).Nodup := by
  rw [importsOf]
  induction ((Node.walk nodes).flatMap fun p => nodeBindings p.1) using reverseRecOn with
  | nil => exact .nil
  | append_singleton bs b ih =>
    rw [foldl_append, foldl_cons, foldl_nil, map_bind]
    split_ifs with bound
    · exact ih
    · exact ih.append (nodup_singleton _) (disjoint_singleton.2 bound)

lemma mem_iff_sourceOf? (distinct : (imports.map Prod.fst).Nodup) :
    (name, target) ∈ imports ↔ sourceOf? name imports = some target := by
  refine ⟨fun mem => ?_, mem_of_sourceOf?⟩
  induction imports with
  | nil => cases mem
  | cons p rest ih =>
    obtain ⟨fresh, distinct⟩ := nodup_cons.1 distinct
    rw [sourceOf?]
    rcases mem_cons.1 mem with rfl | mem
    · exact if_pos rfl
    · rw [if_neg fun same => fresh (mem_map.2 ⟨_, mem, same.symm⟩), ih distinct mem]

lemma sourceOf?_foldl (bs : List (String × String)) :
    sourceOf? name (bs.foldl (fun acc b => bind b.1 b.2 acc) []) =
      (bs.reverse.find? fun b => decide (b.1 = name)).map Prod.snd := by
  induction bs using reverseRecOn with
  | nil => rfl
  | append_singleton bs b ih =>
    rw [foldl_append, foldl_cons, foldl_nil, sourceOf?_bind, ih]
    by_cases here : b.1 = name
    · simp [here]
    · simp [here]

lemma find?_reverse_eq_some_iff {κ β : Type} {less : κ → κ → Prop} {ys : List (κ × β)} {p : β → Bool} {b : β}
    (sorted : ys.Pairwise fun y z => less y.1 z.1) (asymm : ∀ {k k'}, less k k' → ¬ less k' k) :
    (ys.map Prod.snd).reverse.find? p = some b ↔
      p b = true ∧ ∃ k, (k, b) ∈ ys ∧ ∀ y ∈ ys, p y.2 = true → y.1 = k ∨ less y.1 k := by
  rw [find?_eq_some_iff_append]
  refine and_congr_right fun _ => ⟨?_, ?_⟩
  · rintro ⟨after, before, split, rejected⟩
    rw [reverse_eq_iff, reverse_append, reverse_cons, append_assoc, singleton_append] at split
    obtain ⟨ys₁, ys₂, rfl, -, split⟩ := map_eq_append_iff.1 split
    obtain ⟨⟨k, c⟩, ys₃, rfl, rfl, same⟩ := map_eq_cons_iff.1 split
    refine ⟨k, by simp, fun y mem passes => ?_⟩
    rcases mem_append.1 mem with mem | mem
    · exact .inr ((pairwise_append.1 sorted).2.2 y mem _ mem_cons_self)
    · rcases mem_cons.1 mem with rfl | mem
      · exact .inl rfl
      · have later : y.2 ∈ after := mem_reverse.1 (same ▸ mem_map_of_mem mem)
        simpa [passes] using rejected _ later
  · rintro ⟨k, mem, last⟩
    obtain ⟨ys₁, ys₂, rfl⟩ := append_of_mem mem
    refine ⟨(ys₂.map Prod.snd).reverse, (ys₁.map Prod.snd).reverse, by simp, fun c hc => ?_⟩
    obtain ⟨y, hy, rfl⟩ := mem_map.1 (mem_reverse.1 hc)
    have later : less k y.1 := (pairwise_cons.1 (pairwise_append.1 sorted).2.1).1 y hy
    by_contra passes
    rcases last y (by simp [hy]) (by simpa using passes) with same | sooner
    · rw [same] at later
      exact asymm later later
    · exact asymm later sooner

lemma BoundSooner.asymm {k k' : BindingSite} (sooner : BoundSooner k k') : ¬ BoundSooner k' k :=
  ((Shortlex.wf Nat.lt_wfRel.wf).prod_lex Nat.lt_wfRel.wf).asymmetric _ _ sooner

def siteBindings (nodes : List Node) : List (BindingSite × (String × String)) :=
  (placesBelow ([], .compound nodes, .part)).flatMap fun p =>
    (nodeBindings p.2.1).zipIdx.map fun b => ((p.1, b.2), b.1)

lemma map_siteBindings : (siteBindings nodes).map .snd = (Node.walk nodes).flatMap fun p => nodeBindings p.1 := by
  rw [siteBindings, map_flatMap, Node.walk_eq_placesBelow, flatMap_map]
  simp only [map_map]
  exact congrArg (flatMap · _) (funext fun p => zipIdx_map_fst 0 _)

lemma pairwise_siteBindings : (siteBindings nodes).Pairwise fun y z => BoundSooner y.1 z.1 := by
  refine pairwise_flatMap.2 ⟨fun p _ => ?_, Node.pairwise_placesBelow.imp fun {p q} sooner => ?_⟩
  · have numbered : ((nodeBindings p.2.1).zipIdx.map Prod.snd).Pairwise (· < ·) := by
      rw [zipIdx_map_snd]
      exact pairwise_lt_range'
    exact pairwise_map.2 ((pairwise_map.1 numbered).imp fun less => .right _ less)
  · intro y hy z hz
    obtain ⟨b, -, rfl⟩ := mem_map.1 hy
    obtain ⟨c, -, rfl⟩ := mem_map.1 hz
    exact .left _ _ sooner

lemma mem_siteBindings {k : BindingSite} {b : String × String} :
    (k, b) ∈ siteBindings nodes ↔ BindsAt (.compound nodes) k b := by
  have top := Node.isPlace_self (.compound nodes)
  constructor
  · intro mem
    obtain ⟨⟨path, node, use⟩, below, mem⟩ := mem_flatMap.1 mem
    obtain ⟨⟨c, i⟩, found, ⟨⟩⟩ := mem_map.1 mem
    exact ⟨node, (top.below below).node, mem_zipIdx_iff_getElem?.1 found⟩
  · rintro ⟨node, there, found⟩
    obtain ⟨path, i⟩ := k
    cases path with
    | nil =>
      cases there
      cases found
    | cons j rest =>
      obtain ⟨use, below⟩ := top.exists_mem_placesBelow_iff.2 ⟨⟨j, rest, rfl⟩, there⟩
      exact mem_flatMap.2 ⟨_, below, mem_map.2 ⟨(b, i), mem_zipIdx_iff_getElem?.2 found, rfl⟩⟩

lemma sourceOf?_importsOf :
    sourceOf? name (importsOf nodes) = some target ↔ IsLastBinding (.compound nodes) name target := by
  have folded : sourceOf? name (importsOf nodes) = _ := sourceOf?_foldl _
  rw [folded, ← map_siteBindings, Option.map_eq_some_iff]
  simp only [find?_reverse_eq_some_iff pairwise_siteBindings asymm, decide_eq_true_eq]
  constructor
  · rintro ⟨⟨_, _⟩, ⟨rfl, k, mem, last⟩, rfl⟩
    exact ⟨k, mem_siteBindings.1 mem, fun k' target' bound => last _ (mem_siteBindings.2 bound) rfl⟩
  · rintro ⟨k, bound, last⟩
    refine ⟨(name, target), ⟨rfl, k, mem_siteBindings.2 bound, ?_⟩, rfl⟩
    rintro ⟨k', _, target'⟩ mem rfl
    exact last k' target' (mem_siteBindings.1 mem)

lemma isLocal_iff {found : Bool} (looked : isLocal root target = .ok found) :
    found = true ↔ HasModule root (moduleNames target) := by
  obtain ⟨file, first, looked⟩ := bind_eq_ok_iff.1 looked
  cases file with
  | some entry =>
    obtain rfl := pure_eq_ok_iff.1 looked
    exact iff_of_true rfl (.inl ⟨entry, first⟩)
  | none =>
    obtain ⟨package, second, looked⟩ := bind_eq_ok_iff.1 looked
    rw [← pure_eq_ok_iff.1 looked, HasModule, moduleNames, first, second]
    simp [Option.isSome_iff_exists]

lemma sourceOf?_localImports (known : localImports root nodes = .ok imports) :
    sourceOf? name imports = some target ↔ IsImported root (.compound nodes) name target := by
  have chosen := eq_filter_of_filterM_eq_ok known
  have each := exists_filterM_iff.1 ⟨_, known⟩
  have distinct : (imports.map Prod.fst).Nodup :=
    nodup_importsOf.sublist (chosen ▸ filter_sublist.map Prod.fst)
  rw [← mem_iff_sourceOf? distinct, chosen, mem_filter, mem_iff_sourceOf? nodup_importsOf,
    sourceOf?_importsOf]
  refine and_congr_right fun last => ?_
  obtain ⟨found, looked⟩ := each (name, target) ((mem_iff_sourceOf? nodup_importsOf).2 (sourceOf?_importsOf.2 last))
  rw [looked, ← isLocal_iff looked]
  simp [Except.toOption]

lemma callee?_eq_some_iff {func : Node} {p : String × String} :
    callee? imports func = some p ↔ Reaches (fun n t => sourceOf? n imports = some t) func p := by
  constructor
  · intro found
    unfold callee? at found
    split at found
    · obtain ⟨target, known, rfl⟩ := Option.map_eq_some_iff.1 found
      exact .member known
    · obtain ⟨target, known, rfl⟩ := Option.map_eq_some_iff.1 found
      exact .name known
    · cases found
  · rintro (⟨known⟩ | ⟨known⟩)
    · rw [callee?, known, Option.map_some]
    · rw [callee?, known, Option.map_some]

end

/-! ### Calls -/

/-- A call inside a function: the paths of both. -/
abbrev Site := List ℕ × List ℕ

/-- One call is met before another: its function is met before, or both are in one function and it is met before
in there. -/
abbrev CalledSooner : Site → Site → Prop := Prod.Lex Sooner Sooner

/-- There is a call of something inside a function of some name, on some line. -/
structure CallsIn (source : Node) (caller : String) (s : Site) (line : ℕ) (func : Node) : Prop where
  inside : ∃ i rest, s.2 = s.1 ++ i :: rest
  function : ∃ f, source.nodeAt? s.1 = some f ∧ definedName? f = some caller
  call : ∃ args keywords, source.nodeAt? s.2 = some (.call line func args keywords)

/-- A function calls something on an imported name. The function, module and symbol are the key of the call. -/
def CallsAt (imported : String → String → Prop) (source : Node) (s : Site) (key : String × String × String)
    (line : ℕ) : Prop :=
  ∃ func, CallsIn source key.1 s line func ∧ Reaches imported func key.2

/-- An edge is that of the first of the calls with its key, and tells whether the result of any is used and whether
any is awaited. -/
structure CallEdge.Joins (e : CallEdge) (file : String) (imported : String → String → Prop) (source : Node)
    (s : Site) : Prop where
  file : e.file = file
  call : CallsAt imported source s e.key e.line
  first : ∀ s' line, CallsAt imported source s' e.key line → s' = s ∨ CalledSooner s s'
  used : e.used = true ↔ ∃ s' line, CallsAt imported source s' e.key line ∧ source.IsUsed s'.2
  awaited : e.awaited = true ↔ ∃ s' line, CallsAt imported source s' e.key line ∧ source.IsAwaited s'.2

def siteCallsIn (file : String) (imports : Imports) (p : Place) : List (Site × CallEdge) :=
  (definedName? p.2.1).elim [] fun name =>
    (placesBelow p).filterMap fun q => (callSite? file name imports q.2).map fun c => ((p.1, q.1), c)

def siteCalls (file : String) (imports : Imports) (nodes : List Node) : List (Site × CallEdge) :=
  (placesBelow ([], .compound nodes, .part)).flatMap (siteCallsIn file imports)

section

variable {file : String} {imports : Imports} {nodes : List Node} {s : Site} {c : CallEdge} {p : Place}
  {imported : String → String → Prop}

lemma mem_siteCallsIn : (s, c) ∈ siteCallsIn file imports p ↔ ∃ name, definedName? p.2.1 = some name ∧
    ∃ q ∈ placesBelow p, callSite? file name imports q.2 = some c ∧ s = (p.1, q.1) := by
  rw [siteCallsIn]
  cases definedName? p.2.1 with
  | none => simp
  | some name => simp [eq_comm]

lemma map_siteCallsIn : (siteCallsIn file imports p).map Prod.snd = functionCalls file imports p.2.1 := by
  obtain ⟨path, f, use⟩ := p
  cases f with
  | function name span parameters body decorators returns =>
    rw [functionCalls, Node.walk_singleton path use rfl rfl, filterMap_cons_none rfl]
    simp [siteCallsIn, definedName?, map_filterMap]
  | _ => rfl

lemma map_siteCalls : (siteCalls file imports nodes).map Prod.snd =
    (Node.walk nodes).flatMap fun p => functionCalls file imports p.1 := by
  rw [siteCalls, map_flatMap, Node.walk_eq_placesBelow, flatMap_map]
  exact congrArg (flatMap · _) (funext fun p => map_siteCallsIn)

lemma pairwise_siteCalls : (siteCalls file imports nodes).Pairwise fun y z => CalledSooner y.1 z.1 := by
  refine pairwise_flatMap.2 ⟨fun p _ => ?_, Node.pairwise_placesBelow.imp fun {p q} sooner => ?_⟩
  · rw [siteCallsIn]
    cases definedName? p.2.1 with
    | none => exact .nil
    | some name =>
      refine pairwise_filterMap.2 (Node.pairwise_placesBelow.imp fun {q r} sooner => ?_)
      intro y hy z hz
      obtain ⟨-, -, rfl⟩ := Option.map_eq_some_iff.1 hy
      obtain ⟨-, -, rfl⟩ := Option.map_eq_some_iff.1 hz
      exact .right _ sooner
  · rintro ⟨_, _⟩ hy ⟨_, _⟩ hz
    obtain ⟨-, -, _, -, -, rfl⟩ := mem_siteCallsIn.1 hy
    obtain ⟨-, -, _, -, -, rfl⟩ := mem_siteCallsIn.1 hz
    exact .left _ _ sooner

lemma callSite?_eq_some_iff {name : String} {node : Node} {use : Node.Use} :
    callSite? file name imports (node, use) = some c ↔ ∃ func args keywords, node = .call c.line func args keywords ∧
      callee? imports func = some (c.target, c.symbol) ∧ c.file = file ∧ c.caller = name ∧ c.used = use.used ∧
      c.awaited = use.awaited := by
  obtain ⟨file', caller, line, target, symbol, used, awaited⟩ := c
  cases node with
  | call line' func args keywords =>
    simp only [callSite?, Option.map_eq_some_iff, Prod.exists, CallEdge.mk.injEq]
    constructor
    · rintro ⟨_, _, found, rfl, rfl, rfl, rfl, rfl, rfl, rfl⟩
      exact ⟨func, args, keywords, rfl, found, rfl, rfl, rfl, rfl⟩
    · rintro ⟨_, _, _, ⟨⟩, found, rfl, rfl, rfl, rfl⟩
      exact ⟨_, _, found, rfl, rfl, rfl, rfl, rfl, rfl, rfl⟩
  | _ => simp [callSite?]

lemma mem_siteCalls (known : ∀ name target, sourceOf? name imports = some target ↔ imported name target) :
    (s, c) ∈ siteCalls file imports nodes ↔ c.file = file ∧ CallsAt imported (.compound nodes) s c.key c.line ∧
      (c.used = true ↔ (Node.compound nodes).IsUsed s.2) ∧
      (c.awaited = true ↔ (Node.compound nodes).IsAwaited s.2) := by
  have top := Node.isPlace_self (.compound nodes)
  have same : (fun n t => sourceOf? n imports = some t) = imported := funext₂ fun n t => propext (known n t)
  constructor
  · intro mem
    obtain ⟨⟨path, f, use⟩, hp, mem⟩ := mem_flatMap.1 mem
    obtain ⟨name, named, ⟨path', node, use'⟩, hq, site, rfl⟩ := mem_siteCallsIn.1 mem
    obtain ⟨func, args, keywords, rfl, found, inFile, rfl, used, awaited⟩ := callSite?_eq_some_iff.1 site
    have place := top.below hp
    obtain ⟨inside, there⟩ := place.exists_mem_placesBelow_iff.1 ⟨use', hq⟩
    have reaches := same ▸ callee?_eq_some_iff.1 found
    refine ⟨inFile, ⟨func, ⟨inside, ⟨f, place.node, named⟩, args, keywords, there⟩, reaches⟩, ?_, ?_⟩
    · rw [used]
      exact (place.below hq).used
    · rw [awaited]
      exact (place.below hq).awaited
  · rintro ⟨inFile, ⟨func, ⟨inside, ⟨f, there, named⟩, args, keywords, there'⟩, reaches⟩, used, awaited⟩
    obtain ⟨path, path'⟩ := s
    have deeper : ∃ i rest, path = [] ++ i :: rest := by
      cases path with
      | nil =>
        cases there
        cases named
      | cons i rest => exact ⟨i, rest, rfl⟩
    obtain ⟨use, hp⟩ := top.exists_mem_placesBelow_iff.2 ⟨deeper, there⟩
    have place := top.below hp
    obtain ⟨use', hq⟩ := place.exists_mem_placesBelow_iff.2 ⟨inside, there'⟩
    have place' := place.below hq
    refine mem_flatMap.2 ⟨_, hp, mem_siteCallsIn.2 ⟨_, named, _, hq, callSite?_eq_some_iff.2 ?_, rfl⟩⟩
    refine ⟨func, args, keywords, rfl, callee?_eq_some_iff.2 (same ▸ reaches), inFile, rfl, ?_, ?_⟩
    · exact Bool.eq_iff_iff.2 (used.trans place'.used.symm)
    · exact Bool.eq_iff_iff.2 (awaited.trans place'.awaited.symm)

end

/-! ### Joining -/

namespace CallEdge

/-- What becomes of an edge with one more call. -/
def join (c e : CallEdge) : CallEdge :=
  if e.key = c.key then { e with used := e.used || c.used, awaited := e.awaited || c.awaited } else e

variable {c e : CallEdge} {edges : List CallEdge}

lemma key_join : (join c e).key = e.key := by
  rw [join]
  split_ifs <;> rfl

lemma merge_eq_map (distinct : (edges.map key).Nodup) (known : c.key ∈ edges.map key) :
    merge c edges = edges.map (join c) := by
  induction edges with
  | nil => cases known
  | cons f fs ih =>
    obtain ⟨fresh, distinct⟩ := nodup_cons.1 distinct
    rw [merge, map_cons, join]
    split_ifs with here
    · have others : ∀ e ∈ fs, join c e = e := by
        intro e he
        exact if_neg fun same => fresh (mem_map.2 ⟨e, he, same.trans here.symm⟩)
      rw [map_congr_left others, map_id']
    · rw [ih distinct ((mem_cons.1 known).resolve_left (Ne.symm here))]

lemma merge_eq_append (new : c.key ∉ edges.map key) : merge c edges = edges ++ [c] := by
  induction edges with
  | nil => rfl
  | cons f fs ih =>
    rw [map_cons, mem_cons, not_or] at new
    rw [merge, if_neg (Ne.symm new.1), ih new.2, cons_append]

/-- An edge is that of the first of some calls with its key. -/
structure StandsFor {κ : Type} (calls : List (κ × CallEdge)) (e : CallEdge) (z : κ × CallEdge) : Prop where
  file : e.file = z.2.file
  key : e.key = z.2.key
  line : e.line = z.2.line
  first : ∃ before after, calls = before ++ z :: after ∧ ∀ y ∈ before, y.2.key ≠ e.key
  used : e.used = true ↔ ∃ y ∈ calls, y.2.key = e.key ∧ y.2.used = true
  awaited : e.awaited = true ↔ ∃ y ∈ calls, y.2.key = e.key ∧ y.2.awaited = true

lemma StandsFor.join {κ : Type} {calls : List (κ × CallEdge)} {z z' : κ × CallEdge} (stands : StandsFor calls e z) :
    StandsFor (calls ++ [z']) (join z'.2 e) z := by
  obtain ⟨file, key, line, ⟨before, after, split, rejected⟩, used, awaited⟩ := stands
  have first : ∃ before' after', calls ++ [z'] = before' ++ z :: after' ∧ ∀ y ∈ before', y.2.key ≠ e.key :=
    ⟨before, after ++ [z'], by simp [split], rejected⟩
  have flag : ∀ f : CallEdge → Bool, (∃ y ∈ calls ++ [z'], y.2.key = e.key ∧ f y.2 = true) ↔
      (∃ y ∈ calls, y.2.key = e.key ∧ f y.2 = true) ∨ z'.2.key = e.key ∧ f z'.2 = true := by
    simp [or_and_right, exists_or]
  by_cases same : e.key = z'.2.key
  · have here : ∀ {p : Prop}, (z'.2.key = e.key ∧ p) ↔ p := and_iff_right same.symm
    rw [CallEdge.join, if_pos same]
    refine ⟨file, key, line, first, ?_, ?_⟩
    · rw [Bool.or_eq_true, used]
      exact ((flag CallEdge.used).trans (or_congr_right here)).symm
    · rw [Bool.or_eq_true, awaited]
      exact ((flag CallEdge.awaited).trans (or_congr_right here)).symm
  · have elsewhere : ∀ {p q : Prop}, (p ∨ z'.2.key = e.key ∧ q) ↔ p := or_iff_left fun h => same h.1.symm
    rw [CallEdge.join, if_neg same]
    exact ⟨file, key, line, first, used.trans ((flag _).trans elsewhere).symm,
      awaited.trans ((flag _).trans elsewhere).symm⟩

lemma exists_firsts {κ : Type} (calls : List (κ × CallEdge)) : ∃ firsts : List (κ × CallEdge), firsts.Sublist calls ∧
    Forall₂ (StandsFor calls) (mergeAll (calls.map Prod.snd)) firsts ∧
    ((mergeAll (calls.map Prod.snd)).map key).Nodup := by
  induction calls using reverseRecOn with
  | nil => exact ⟨[], .slnil, .nil, .nil⟩
  | append_singleton calls z ih =>
    obtain ⟨firsts, sub, stand, distinct⟩ := ih
    have merged : mergeAll ((calls ++ [z]).map Prod.snd) = merge z.2 (mergeAll (calls.map Prod.snd)) := by
      simp [mergeAll]
    have joined : Forall₂ (StandsFor (calls ++ [z])) ((mergeAll (calls.map Prod.snd)).map (join z.2))
        firsts := forall₂_map_left_iff.2 (stand.imp fun _ _ h => h.join)
    rw [merged]
    by_cases known : z.2.key ∈ (mergeAll (calls.map Prod.snd)).map key
    · rw [merge_eq_map distinct known]
      refine ⟨firsts, sub.trans (sublist_append_left ..), joined, ?_⟩
      simpa [Function.comp_def, key_join] using distinct
    · have unmatched : ∀ e ∈ mergeAll (calls.map Prod.snd), join z.2 e = e := fun e he =>
        if_neg fun same => known (mem_map.2 ⟨e, he, same⟩)
      rw [map_congr_left unmatched, map_id'] at joined
      have new : ∀ y ∈ calls, y.2.key ≠ z.2.key := by
        intro y hy same
        obtain ⟨e, he, key⟩ := exists_mem_mergeAll_iff.2 ⟨y.2, mem_map_of_mem hy, same⟩
        exact known (mem_map.2 ⟨e, he, key⟩)
      have alone : ∀ f : CallEdge → Bool,
          f z.2 = true ↔ ∃ y ∈ calls ++ [z], y.2.key = z.2.key ∧ f y.2 = true := by
        intro f
        simp only [mem_append, mem_singleton, or_and_right, exists_or, exists_eq_left, true_and]
        refine (or_iff_right ?_).symm
        rintro ⟨y, hy, same, -⟩
        exact new y hy same
      have own : StandsFor (calls ++ [z]) z.2 z :=
        ⟨rfl, rfl, rfl, ⟨calls, [], rfl, new⟩, alone used, alone awaited⟩
      rw [merge_eq_append known]
      refine ⟨firsts ++ [z], sub.append (.refl _), rel_append joined (.cons own .nil), ?_⟩
      rw [map_append]
      exact distinct.append (nodup_singleton _) (disjoint_singleton.2 known)

end CallEdge

/-! ### The edges -/

section

variable {file : String} {nodes : List Node} {imports : Imports} {imported : String → String → Prop}
  (known : ∀ name target, sourceOf? name imports = some target ↔ imported name target)

include known

variable {key : String × String × String}

lemma CallsAt.exists_mem_siteCalls {s : Site} {line : ℕ}
    (calls : CallsAt imported (.compound nodes) s key line) :
    ∃ c, (s, c) ∈ siteCalls file imports nodes ∧ c.key = key := by
  classical
  refine ⟨⟨file, key.1, line, key.2.1, key.2.2, decide ((Node.compound nodes).IsUsed s.2),
    decide ((Node.compound nodes).IsAwaited s.2)⟩, (mem_siteCalls known).2 ⟨rfl, calls, ?_, ?_⟩, rfl⟩
  · exact decide_eq_true_iff
  · exact decide_eq_true_iff

lemma exists_siteCall_iff {f : CallEdge → Bool} {P : List ℕ → Prop}
    (told : ∀ s c, (s, c) ∈ siteCalls file imports nodes → (f c = true ↔ P s.2)) :
    (∃ y ∈ siteCalls file imports nodes, y.2.key = key ∧ f y.2 = true) ↔
      ∃ s line, CallsAt imported (.compound nodes) s key line ∧ P s.2 := by
  constructor
  · rintro ⟨⟨s, c⟩, mem, rfl, flag⟩
    exact ⟨s, c.line, ((mem_siteCalls known).1 mem).2.1, (told s c mem).1 flag⟩
  · rintro ⟨s, line, calls, holds⟩
    obtain ⟨c, mem, same⟩ := calls.exists_mem_siteCalls known
    exact ⟨(s, c), mem, same, (told s c mem).2 holds⟩

lemma CallEdge.StandsFor.joins {e : CallEdge} {z : Site × CallEdge}
    (stands : StandsFor (siteCalls file imports nodes) e z) : e.Joins file imported (.compound nodes) z.1 := by
  obtain ⟨inFile, key, line, ⟨before, after, split, rejected⟩, used, awaited⟩ := stands
  have mem : z ∈ siteCalls file imports nodes := by simp [split]
  obtain ⟨inFile', calls, -⟩ := (mem_siteCalls known).1 mem
  have sorted : (siteCalls file imports nodes).Pairwise fun y z => CalledSooner y.1 z.1 := pairwise_siteCalls
  refine ⟨inFile.trans inFile', key ▸ line ▸ calls, fun s' line' calls' => ?_, ?_, ?_⟩
  · obtain ⟨c, mem', same⟩ := calls'.exists_mem_siteCalls known
    rw [split] at mem' sorted
    rcases mem_append.1 mem' with sooner | mem'
    · exact absurd same (rejected _ sooner)
    rcases mem_cons.1 mem' with here | later
    · exact .inl (congrArg Prod.fst here)
    · exact .inr ((pairwise_cons.1 (pairwise_append.1 sorted).2.1).1 _ later)
  · exact used.trans (exists_siteCall_iff known fun s c mem => ((mem_siteCalls known).1 mem).2.2.1)
  · exact awaited.trans (exists_siteCall_iff known fun s c mem => ((mem_siteCalls known).1 mem).2.2.2)

end

section

variable {root : Location} {file : String} {nodes : List Node} {edges : List CallEdge}

lemma exists_nodeCalls_iff : (∃ edges, nodeCalls root file nodes = .ok edges) ↔
    ∀ name target, IsLastBinding (.compound nodes) name target → ∃ found, isLocal root target = .ok found := by
  have searched : (∃ edges, nodeCalls root file nodes = .ok edges) ↔
      ∃ imports, localImports root nodes = .ok imports := by
    constructor
    · rintro ⟨edges, found⟩
      obtain ⟨imports, known, -⟩ := bind_eq_ok_iff.1 found
      exact ⟨imports, known⟩
    · rintro ⟨imports, known⟩
      exact ⟨_, by rw [nodeCalls, known]; rfl⟩
  rw [searched, exists_localImports_iff]
  simp only [Prod.forall, mem_iff_sourceOf? nodup_importsOf, sourceOf?_importsOf]

/-- There are edges of the keys of all calls, and of no others. -/
lemma exists_mem_edges_iff {key : String × String × String} (found : nodeCalls root file nodes = .ok edges) :
    (∃ e ∈ edges, e.key = key) ↔
      ∃ s line, CallsAt (IsImported root (.compound nodes)) (.compound nodes) s key line := by
  obtain ⟨imports, known, joined⟩ := bind_eq_ok_iff.1 found
  have known : ∀ name target, sourceOf? name imports = some target ↔ IsImported root (.compound nodes) name target :=
    fun _ _ => sourceOf?_localImports known
  rw [← pure_eq_ok_iff.1 joined, CallEdge.exists_mem_mergeAll_iff, ← map_siteCalls]
  constructor
  · rintro ⟨c, mem, rfl⟩
    obtain ⟨⟨s, c⟩, site, rfl⟩ := mem_map.1 mem
    exact ⟨s, c.line, ((mem_siteCalls known).1 site).2.1⟩
  · rintro ⟨s, line, calls⟩
    obtain ⟨c, mem, same⟩ := calls.exists_mem_siteCalls known
    exact ⟨c, mem_map_of_mem mem, same⟩

end

/-- For every project and every source that is read: its edges are found exactly if every module that a name stands
for can be looked for. They are then the calls inside functions on names that stand for modules of the project, with
those of one function, module and symbol joined, in the order in which the keys are met first: one edge for each key,
on the line of the first call, used if the result of some call is used, and awaited if some call is awaited. -/
theorem edges_are_the_joined_calls {root : Location} {file : String} {source : List Char} {nodes : List Node}
    (read : sourceNodes source = .ok nodes) :
    ((∃ edges, sourceCalls root file source = .ok edges) ↔
      ∀ name target, IsLastBinding (.compound nodes) name target → ∃ found, isLocal root target = .ok found) ∧
    ∀ edges, sourceCalls root file source = .ok edges →
      (edges.map CallEdge.key).Nodup ∧
      (∀ s key line, CallsAt (IsImported root (.compound nodes)) (.compound nodes) s key line →
        ∃ e ∈ edges, e.key = key) ∧
      ∃ sites : List Site, sites.Pairwise CalledSooner ∧
        Forall₂ (fun e s => e.Joins file (IsImported root (.compound nodes)) (.compound nodes) s) edges sites := by
  have opened : sourceCalls root file source = nodeCalls root file nodes := by rw [sourceCalls, read, ok_bind]
  rw [opened]
  refine ⟨exists_nodeCalls_iff, fun edges found => ?_⟩
  obtain ⟨imports, known, joined⟩ := bind_eq_ok_iff.1 found
  obtain ⟨firsts, sub, stand, distinct⟩ := CallEdge.exists_firsts (siteCalls file imports nodes)
  rw [map_siteCalls, pure_eq_ok_iff.1 joined] at stand distinct
  refine ⟨distinct, fun s key line calls => (exists_mem_edges_iff found).2 ⟨s, line, calls⟩, firsts.map Prod.fst,
    ?_, ?_⟩
  · exact pairwise_map.2 (pairwise_siteCalls.sublist sub)
  · refine forall₂_map_right_iff.2 (stand.imp fun e z stands => ?_)
    exact stands.joins fun _ _ => sourceOf?_localImports known

def oneModule : Location := .ofFiles [("m.py", [])]

def calledTwice : List Char := "import m\nasync def f():\n m.g()\n return await m.g()".toList

theorem edges_are_the_joined_calls_twice : ∃ nodes s, sourceNodes calledTwice = .ok nodes ∧
    sourceCalls oneModule "x.py" calledTwice = .ok [⟨"x.py", "f", 3, "m", "m.g", true, true⟩] ∧
    (CallEdge.mk "x.py" "f" 3 "m" "m.g" true true).Joins "x.py" (IsImported oneModule (.compound nodes))
      (.compound nodes) s := by
  have found : sourceCalls oneModule "x.py" calledTwice = .ok [⟨"x.py", "f", 3, "m", "m.g", true, true⟩] :=
    toOption_eq_some_iff.1 (by decide +kernel)
  obtain ⟨nodes, read, -⟩ := bind_eq_ok_iff.1 found
  obtain ⟨-, -, sites, -, joins⟩ := (edges_are_the_joined_calls read).2 _ found
  obtain _ | ⟨joins, -⟩ := joins
  exact ⟨nodes, _, read, found, joins⟩

def deepFolder : Location := ⟨⟨"/", replicate 65 (String.ofList (replicate 62 'a'))⟩, some (.folder [])⟩

lemma isLocal_deepFolder : ∃ fault, isLocal deepFolder "m" = .error fault := by
  have text : deepFolder.textBelow ["m.py"] =
      Files.Path.toText ⟨"/", replicate 65 (String.ofList (replicate 62 'a')) ++ ["m.py"]⟩ := by
    simp [Location.textBelow, deepFolder, Files.Path.join]
  have clean : '\x00' ∉ (deepFolder.textBelow ["m.py"]).toList := by
    rw [text, Files.Path.null_mem_toText]
    simp
  have long : Files.maxPath < Text.byteLength (deepFolder.textBelow ["m.py"]).toList := by
    rw [text, Files.Path.byteLength_toText (by simp), map_append, map_replicate, String.toList_ofList, Files.byteLength_replicate]
    decide
  have file : (moduleNames "m").dropLast ++ [(moduleNames "m").getLastD "" ++ ".py"] = ["m.py"] := by decide
  have first := file ▸ Location.look_of_long clean long
  exact ⟨_, by rw [isLocal]; exact congrArg (· >>= _) first⟩

/-- A source without any call, of which the edges are not found. -/
theorem no_edges_in_deepFolder : ∃ nodes fault, sourceNodes "import m".toList = .ok nodes ∧
    (∀ s key line, ¬ CallsAt (IsImported deepFolder (.compound nodes)) (.compound nodes) s key line) ∧
    sourceCalls deepFolder "x.py" "import m".toList = .error fault := by
  have evaluated : ((sourceNodes "import m".toList).toOption.any fun nodes =>
      (Node.walk nodes).all (fun p => (definedName? p.1).isNone) && (importsOf nodes).contains ("m", "m")) = true := by
    decide +kernel
  simp only [Option.any_eq_true, toOption_eq_some_iff, Bool.and_eq_true, all_eq_true, Option.isNone_iff_eq_none,
    contains_iff_mem] at evaluated
  obtain ⟨nodes, read, none, bound⟩ := evaluated
  obtain ⟨fault, looked⟩ := isLocal_deepFolder
  have opened : sourceCalls deepFolder "x.py" "import m".toList = nodeCalls deepFolder "x.py" nodes := by
    rw [sourceCalls, read, ok_bind]
  cases found : nodeCalls deepFolder "x.py" nodes with
  | ok edges =>
    obtain ⟨imports, known, -⟩ := bind_eq_ok_iff.1 found
    obtain ⟨_, looked'⟩ := exists_localImports_iff.1 ⟨imports, known⟩ _ bound
    cases looked.symm.trans looked'
  | error fault =>
    refine ⟨nodes, fault, read, ?_, opened.trans found⟩
    rintro ⟨path, _⟩ key line ⟨_, ⟨-, ⟨f, there, named⟩, -⟩, -⟩
    cases path with
    | nil =>
      cases there
      cases named
    | cons i rest =>
      obtain ⟨use, below⟩ := (Grammar.Node.isPlace_self _).exists_mem_placesBelow_iff.2 ⟨⟨i, rest, rfl⟩, there⟩
      have met : (f, use) ∈ Node.walk nodes := by
        rw [Grammar.Node.walk_eq_placesBelow]
        exact mem_map_of_mem below
      cases (none _ met).symm.trans named

/-! ## Calls of imported modules -/

/-! ### What an import means -/

/-- One name of an import: the names that lead to what is imported, and the dots and names of the module. -/
structure Import where
  access : List String
  dots : ℕ
  written : List String
  deriving DecidableEq

/-- The names of an import. What comes from a module goes by its own name or its new one, and a module by all of its
names or by its new one. An import from dots alone names no module. -/
def Import.ofNode : Node → List Import
  | .importFrom dots (some target) aliases => aliases.map fun a => ⟨[a.bound], dots, moduleNames target⟩
  | .importNames aliases =>
    aliases.map fun a => ⟨a.rename.elim (moduleNames a.name) ([·]), 0, moduleNames a.name⟩
  | _ => []

/-- A name is imported at some place of a source. -/
def ImportsAt (source : Node) (k : BindingSite) (i : Import) : Prop :=
  ∃ node, source.nodeAt? k.1 = some node ∧ (Import.ofNode node)[k.2]? = some i

def foldersOf (file : String) : List String := ((Text.splitOn '/' file.toList).map String.ofList).dropLast

/-- The module that an import means in a file below some folders. One dot is the folder of the file, and each
further one the folder above. There is nothing above the root. -/
def Import.resolve? (folders : List String) (i : Import) : Option (List String) :=
  if i.dots = 0 then some i.written
  else if i.dots ≤ folders.length + 1 then some (folders.take (folders.length + 1 - i.dots) ++ i.written)
  else none

def namesRead? : Node → Option (List String)
  | .name id => some [id]
  | .member value attr => (namesRead? value).map (· ++ [attr])
  | _ => none

/-- What is called is what some names lead to, or a member of it. -/
def IsThrough (access : List String) (func : Node) : Prop :=
  namesRead? func = some access ∨ ∃ attr, namesRead? func = some (access ++ [attr])

section

variable {folders : List String} {i : Import} {name target : String} {func node : Node}

/-- The dots change nothing exactly if there are none or they lead up to the root. -/
lemma Import.resolve?_eq_written_iff :
    i.resolve? folders = some i.written ↔ i.dots = 0 ∨ i.dots = folders.length + 1 := by
  rw [resolve?]
  split_ifs with absolute inside
  · simp [absolute]
  · have above : folders.take (folders.length + 1 - i.dots) = [] ↔ i.dots = folders.length + 1 := by
      rw [take_eq_nil_iff, ← length_eq_zero_iff]
      omega
    simp [above, absolute]
  · have : i.dots ≠ folders.length + 1 := by omega
    simp [absolute, this]

lemma namesRead?_eq_nil : namesRead? func ≠ some [] := by
  cases func <;> simp [namesRead?]

lemma namesRead?_eq_singleton_iff : namesRead? func = some [name] ↔ func = .name name := by
  cases func with
  | name id => simp [namesRead?]
  | member value attr => simp [namesRead?, append_eq_singleton_iff, namesRead?_eq_nil]
  | _ => simp [namesRead?]

lemma isThrough_singleton_iff :
    IsThrough [name] func ↔ func = .name name ∨ ∃ attr, func = .member (.name name) attr := by
  rw [IsThrough, namesRead?_eq_singleton_iff]
  refine or_congr_right (exists_congr fun attr => ?_)
  cases func with
  | member value attr' =>
    simp only [namesRead?, Option.map_eq_some_iff, Node.member.injEq, ← namesRead?_eq_singleton_iff]
    constructor
    · rintro ⟨names, read, same⟩
      obtain ⟨rfl, rfl⟩ := append_inj' same rfl |>.imp_right singleton_inj.1
      exact ⟨read, rfl⟩
    · rintro ⟨read, rfl⟩
      exact ⟨_, read, rfl⟩
  | _ => simp [namesRead?]

lemma exists_reaches_iff {imported : String → String → Prop} :
    (∃ symbol, Reaches imported func (target, symbol)) ↔ ∃ name, IsThrough [name] func ∧ imported name target := by
  simp only [isThrough_singleton_iff]
  constructor
  · rintro ⟨_, ⟨known⟩ | ⟨known⟩⟩
    · exact ⟨_, .inl rfl, known⟩
    · exact ⟨_, .inr ⟨_, rfl⟩, known⟩
  · rintro ⟨name, rfl | ⟨attr, rfl⟩, known⟩
    · exact ⟨_, .name known⟩
    · exact ⟨_, .member known⟩

lemma eq_of_moduleNames_eq_singleton (single : moduleNames target = [name]) : target = name := by
  obtain ⟨cs, parts, rfl⟩ := map_eq_singleton_iff.1 single
  have whole : ['.'].intercalate [cs] = target.toList := by
    rw [← parts, Text.splitOn_eq, intercalate_splitOn]
  rw [← String.ofList_toList (s := target), ← whole, intercalate_singleton]

lemma Import.exists_nodeBindings {j : ℕ} (imports : (ofNode node)[j]? = some i)
    (single : i.access = [name]) : ∃ target, (nodeBindings node)[j]? = some (name, target) ∧
      moduleNames target = i.written := by
  unfold ofNode at imports
  split at imports
  · obtain ⟨a, met, rfl⟩ := Option.map_eq_some_iff.1 (getElem?_map ▸ imports)
    obtain rfl := singleton_inj.1 single
    exact ⟨_, by rw [nodeBindings, getElem?_map, met, Option.map_some], rfl⟩
  · obtain ⟨⟨source, rename⟩, met, rfl⟩ := Option.map_eq_some_iff.1 (getElem?_map ▸ imports)
    rw [nodeBindings, getElem?_map, met]
    cases rename with
    | none =>
      have same : source = name := eq_of_moduleNames_eq_singleton single
      simp [Grammar.Alias.bound, same]
    | some new => simp [Grammar.Alias.bound, singleton_inj.1 single]
  · cases imports

end

/-! ### Which calls have edges -/

section

variable {root : Location} {file : String} {nodes : List Node} {edges : List CallEdge}

/-- A function has an edge to a module exactly if the module is in the project, and the function calls something
through a name of which the last import is written with the names of the module. -/
lemma exists_edge_iff {caller : String} {names : List String} (found : nodeCalls root file nodes = .ok edges) :
    (∃ e ∈ edges, e.caller = caller ∧ moduleNames e.target = names) ↔
      HasModule root names ∧ ∃ s line func name target, CallsIn (.compound nodes) caller s line func ∧
        IsThrough [name] func ∧ IsLastBinding (.compound nodes) name target ∧ moduleNames target = names := by
  constructor
  · rintro ⟨e, mem, rfl, rfl⟩
    obtain ⟨s, line, func, calls, reaches⟩ := (exists_mem_edges_iff found).1 ⟨e, mem, rfl⟩
    obtain ⟨name, through, last, has⟩ := exists_reaches_iff.1 ⟨e.symbol, reaches⟩
    exact ⟨has, s, line, func, name, e.target, calls, through, last, rfl⟩
  · rintro ⟨has, s, line, func, name, target, calls, through, last, rfl⟩
    have stands : IsImported root (.compound nodes) name target := ⟨last, has⟩
    obtain ⟨symbol, reaches⟩ := exists_reaches_iff.2 ⟨name, through, stands⟩
    have site : CallsAt (IsImported root (.compound nodes)) (.compound nodes) s (caller, target, symbol) line :=
      ⟨func, calls, reaches⟩
    obtain ⟨e, mem, same⟩ := (exists_mem_edges_iff found).2 ⟨s, line, site⟩
    obtain ⟨rfl, same⟩ := Prod.ext_iff.1 same
    exact ⟨e, mem, rfl, congrArg moduleNames (Prod.ext_iff.1 same).1⟩

end

/-- For every project and every source that is read, of which all the modules can be looked for: a function has an
edge to a module exactly if the module is in the project and the function calls something through a name of which
the last import is written with the names of the module. In particular no call is missed through an import that one
name leads to and no later import takes, if the import is absolute or its dots lead from the file to the root, and
the module that it means is in the project. -/
theorem edges_reach_the_written_modules {root : Location} {file : String} {source : List Char} {nodes : List Node}
    (read : sourceNodes source = .ok nodes)
    (searchable : ∀ name target, IsLastBinding (.compound nodes) name target →
      ∃ found, isLocal root target = .ok found) :
    ∃ edges, sourceCalls root file source = .ok edges ∧ ∀ caller names,
      ((∃ e ∈ edges, e.caller = caller ∧ moduleNames e.target = names) ↔
        HasModule root names ∧ ∃ s line func name target, CallsIn (.compound nodes) caller s line func ∧
          IsThrough [name] func ∧ IsLastBinding (.compound nodes) name target ∧ moduleNames target = names) ∧
      ∀ s line func k i name, CallsIn (.compound nodes) caller s line func → IsThrough i.access func →
        ImportsAt (.compound nodes) k i → i.resolve? (foldersOf file) = some names → HasModule root names →
        i.access = [name] → i.dots = 0 ∨ i.dots = (foldersOf file).length + 1 →
        (∀ k' target, BindsAt (.compound nodes) k' (name, target) → k' = k ∨ BoundSooner k' k) →
        ∃ e ∈ edges, e.caller = caller ∧ moduleNames e.target = names := by
  obtain ⟨edges, found⟩ := exists_nodeCalls_iff.2 searchable
  refine ⟨edges, by rw [sourceCalls, read, ok_bind, found], fun caller names => ⟨exists_edge_iff found, ?_⟩⟩
  intro s line func k i name calls through imports meant has single straight last
  obtain rfl : i.written = names := Option.some_inj.1 ((Import.resolve?_eq_written_iff.2 straight).symm.trans meant)
  obtain ⟨node, there, met⟩ := imports
  obtain ⟨target, bound, same⟩ := Import.exists_nodeBindings met single
  exact (exists_edge_iff found).2
    ⟨has, s, line, func, name, target, calls, single ▸ through, ⟨k, ⟨node, there, bound⟩, last⟩, same⟩

def relativeCall : List Char := "from .m import f\ndef g():f()".toList

def calledName? : Node → Option (ℕ × String)
  | .call line (.name id) _ _ => some (line, id)
  | _ => none

lemma exists_call_of_calledName? {node : Node} {line : ℕ} {id : String} (called : calledName? node = some (line, id)) :
    ∃ args keywords, node = .call line (.name id) args keywords := by
  unfold calledName? at called
  split at called
  · cases called
    exact ⟨_, _, rfl⟩
  · cases called

lemma exists_relativeCall : ∃ nodes, sourceNodes relativeCall = .ok nodes ∧
    CallsIn (.compound nodes) "g" ([1], [1, 1, 0]) 2 (.name "f") ∧
    ImportsAt (.compound nodes) ([0], 0) ⟨["f"], 1, ["m"]⟩ ∧
    siteBindings nodes = [(([0], 0), "f", "m")] := by
  have evaluated : ((sourceNodes relativeCall).toOption.any fun nodes =>
      ((Node.compound nodes).nodeAt? [1]).bind definedName? = some "g" ∧
      ((Node.compound nodes).nodeAt? [1, 1, 0]).bind calledName? = some (2, "f") ∧
      ((Node.compound nodes).nodeAt? [0]).bind (fun node => (Import.ofNode node)[0]?) = some ⟨["f"], 1, ["m"]⟩ ∧
      siteBindings nodes = [(([0], 0), "f", "m")]) = true := by
    decide +kernel
  simp only [Option.any_eq_true, toOption_eq_some_iff, decide_eq_true_eq, Option.bind_eq_some_iff] at evaluated
  obtain ⟨nodes, read, function, ⟨node, there, called⟩, imported, bindings⟩ := evaluated
  obtain ⟨args, keywords, rfl⟩ := exists_call_of_calledName? called
  exact ⟨nodes, read, ⟨⟨1, [0], rfl⟩, function, args, keywords, there⟩, imported, bindings⟩

theorem edges_reach_the_written_modules_relative : ∃ nodes edges, sourceNodes relativeCall = .ok nodes ∧
    CallsIn (.compound nodes) "g" ([1], [1, 1, 0]) 2 (.name "f") ∧
    ImportsAt (.compound nodes) ([0], 0) ⟨["f"], 1, ["m"]⟩ ∧
    Import.resolve? (foldersOf "x.py") ⟨["f"], 1, ["m"]⟩ = some ["m"] ∧ HasModule oneModule ["m"] ∧
    sourceCalls oneModule "x.py" relativeCall = .ok edges ∧
    ∃ e ∈ edges, e.caller = "g" ∧ moduleNames e.target = ["m"] := by
  obtain ⟨nodes, read, calls, imports, bindings⟩ := exists_relativeCall
  have meant : Import.resolve? (foldersOf "x.py") ⟨["f"], 1, ["m"]⟩ = some ["m"] := by decide +kernel
  have only : ∀ k b, BindsAt (.compound nodes) k b → k = ([0], 0) ∧ b = ("f", "m") := by
    intro k b bound
    have mem := mem_siteBindings.2 bound
    rw [bindings, mem_singleton] at mem
    exact Prod.ext_iff.1 mem
  have looked : isLocal oneModule "m" = .ok true := toOption_eq_some_iff.1 (by decide +kernel)
  have has : HasModule oneModule ["m"] := (isLocal_iff looked).1 rfl
  have searchable : ∀ name target, IsLastBinding (.compound nodes) name target →
      ∃ found, isLocal oneModule target = .ok found := by
    rintro name target ⟨k, bound, -⟩
    obtain ⟨-, same⟩ := only k _ bound
    cases same
    exact ⟨true, looked⟩
  obtain ⟨edges, found, reached⟩ := edges_reach_the_written_modules read searchable
  refine ⟨nodes, edges, read, calls, imports, meant, has, found, ?_⟩
  exact (reached "g" ["m"]).2 _ _ _ _ _ "f" calls (.inl rfl) imports meant has rfl (.inr rfl)
    fun k' target bound => .inl (only k' _ bound).1

def onePackage : Location := ⟨⟨"/", ["app"]⟩, some (.folder [("pkg", .folder [("m.py", .file [])])])⟩

/-- In a file of the package, the same import is one of another module of the package. Its call has no edge. -/
theorem relative_call_has_no_edge : ∃ nodes, sourceNodes relativeCall = .ok nodes ∧
    CallsIn (.compound nodes) "g" ([1], [1, 1, 0]) 2 (.name "f") ∧
    ImportsAt (.compound nodes) ([0], 0) ⟨["f"], 1, ["m"]⟩ ∧
    Import.resolve? (foldersOf "pkg/x.py") ⟨["f"], 1, ["m"]⟩ = some ["pkg", "m"] ∧
    HasModule onePackage ["pkg", "m"] ∧ sourceCalls onePackage "pkg/x.py" relativeCall = .ok [] := by
  obtain ⟨nodes, read, calls, imports, -⟩ := exists_relativeCall
  have looked : isLocal onePackage "pkg.m" = .ok true := toOption_eq_some_iff.1 (by decide +kernel)
  have names : moduleNames "pkg.m" = ["pkg", "m"] := by decide +kernel
  exact ⟨nodes, read, calls, imports, by decide +kernel, names ▸ (isLocal_iff looked).1 rfl,
    toOption_eq_some_iff.1 (by decide +kernel)⟩

end Unbundle.Analysis
