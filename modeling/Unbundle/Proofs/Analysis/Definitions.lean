import Mathlib.Data.Multiset.Bind
import Unbundle.Proofs.Analysis.CalledModules
import Unbundle.Proofs.Analysis.ListingOrder

/-!
# The definitions and routes of a source

A visit goes down the tree of a source branch by branch; what it finds is compared here with the nodes level
by level. A function that stands directly in a class is found twice, and a visit that has to go down too far
finds nothing.
-/

open List Unbundle.Grammar Unbundle.Text

namespace Unbundle.Analysis

open Grammar (Node Identifier Span)
open List (Forall₂)

/-! ### What there is to be found -/

def defined? : Node → Option (Identifier × Span)
  | .function name span .. | .classDef name span .. => some (name, span)
  | _ => none

def methodsOf : Node → List Node
  | .classDef _ _ _ _ body _ => body.filter fun d => (definedName? d).isSome
  | _ => []

def nodesOf (nodes : List Node) : List Node := (Node.walk nodes).map Prod.fst

def definitions (nodes : List Node) : List Node := (nodesOf nodes).filter fun d => (defined? d).isSome

def methods (nodes : List Node) : List Node := (nodesOf nodes).flatMap methodsOf

/-- A symbol is one of a definition: it has its lines, and its name for the last part of the full name. -/
def Symbol.Records (s : Symbol) (d : Node) : Prop :=
  ∃ name span, defined? d = some (name, span) ∧ s.firstLine = span.first ∧ s.lastLine = span.last ∧
    afterLast '.' s.id.toList = name.text.toList

def decoratorsOf : Node → List Node
  | .function _ _ _ _ decorators _ => decorators
  | _ => []

/-- The path that a decorator is a route for: it calls `route` or a method of a web request, as a member of a name
and in small or capital letters, with a text that is not empty as first argument. -/
def pathOf? : Node → Option String
  | .call _ (.member (.name _) attr) (.text path :: _) _ =>
    if lowercase attr ∈ "route" :: routeMethods ∧ path ≠ "" then some path else none
  | _ => none

def routesOf (d : Node) : List (Node × Node) :=
  ((decoratorsOf d).filter fun r => (pathOf? r).isSome).map (d, ·)

/-- An entry point is one of a route of a function. -/
def EntryPoint.Records (e : EntryPoint) (r : Node × Node) : Prop :=
  definedName? r.1 = some e.handler ∧ pathOf? r.2 = some e.path

/-! ### Correspondences -/

section

variable {α β γ : Type} {R : α → β → Prop}

lemma rel_of_forall₂ {xs : List α} {ys : List β} (h : Forall₂ R xs ys) : Multiset.Rel R xs ys := by
  induction h with
  | nil => exact .zero
  | cons related _ ih => exact .cons related ih

lemma forall₂_flatMap {f : γ → List α} {g : γ → List β} (each : ∀ c, Forall₂ R (f c) (g c)) (cs : List γ) :
    Forall₂ R (cs.flatMap f) (cs.flatMap g) := by
  induction cs with
  | nil => exact .nil
  | cons c cs ih =>
    exact rel_append (each c) ih

lemma forall₂_filter {f : β → List α} {p : β → Bool} (each : ∀ b, Forall₂ R (f b) (if p b then [b] else []))
    (bs : List β) : Forall₂ R (bs.flatMap f) (bs.filter p) := by
  have same : bs.filter p = bs.flatMap fun b => if p b then [b] else [] := by
    induction bs with
    | nil => rfl
    | cons b bs ih => by_cases h : p b <;> simp [h, ih]
  exact same ▸ forall₂_flatMap each bs

lemma rel_left_iff {xs : List α} {ys zs : List β} (h : Multiset.Rel R xs (ys ++ zs : List β)) :
    Multiset.Rel R xs ys ↔ zs = [] := by
  constructor
  · intro h'
    have sizes := (Multiset.card_eq_card_of_rel h).symm.trans (Multiset.card_eq_card_of_rel h')
    simpa using sizes
  · rintro rfl
    simpa using h

lemma rel_nodesOf {f : Node → List α} {g h : Node → List β} (each : ∀ x, Forall₂ R (f x) (g x ++ h x))
    (nodes : List Node) : Multiset.Rel R ((Node.preorderAll nodes).flatMap f)
      ((nodesOf nodes).flatMap g ++ (nodesOf nodes).flatMap h : List β) := by
  have found := rel_of_forall₂ (forall₂_flatMap each (Node.preorderAll nodes))
  have met : ((nodesOf nodes).flatMap g ++ (nodesOf nodes).flatMap h).Perm
      ((Node.preorderAll nodes).flatMap fun x => g x ++ h x) :=
    (flatMap_append_perm _ g h).trans ((Node.walk_perm nodes).flatMap_right _)
  rwa [Multiset.coe_eq_coe.2 met]

end

/-! ### What one node gives -/

section

variable (o : Origin) (parent : Option String) (d : Node)

lemma afterLast_concat (before : String) (name : Identifier) :
    afterLast '.' (before ++ "." ++ name.text).toList = name.text.toList := by
  rw [String.toList_append, String.toList_append, append_assoc]
  exact afterLast_append _ (no_dot_in_identifier name)

lemma forall₂_functionSymbol : Forall₂ Symbol.Records (functionSymbol o parent d)
    (if (definedName? d).isSome then [d] else []) := by
  cases d with
  | function name span parameters body decorators returns =>
    refine .cons ⟨name, span, rfl, rfl, rfl, ?_⟩ .nil
    cases parent with
    | none => exact afterLast_concat o.moduleName name
    | some c => exact afterLast_concat (o.moduleName ++ "." ++ c) name
  | _ => exact .nil

lemma forall₂_nodeSymbols : Forall₂ Symbol.Records (nodeSymbols o d)
    ((if (defined? d).isSome then [d] else []) ++ methodsOf d) := by
  cases d with
  | classDef name span bases keywords body decorators =>
    refine .cons ⟨name, span, rfl, rfl, rfl, afterLast_concat o.moduleName name⟩ ?_
    exact forall₂_filter (forall₂_functionSymbol o (some name.text)) body
  | function name span parameters body decorators returns =>
    exact forall₂_functionSymbol o none (.function name span parameters body decorators returns)
  | _ => exact .nil

lemma routePath?_text (path : String) (args : List Node) :
    routePath? (.text path :: args) = if path = "" then none else some path := by
  by_cases h : path = "" <;> simp [routePath?, literal?, h]

lemma map_route? (r : Node) : (route? r).map Prod.snd = pathOf? r := by
  unfold route?
  split
  · rename_i line obj attr args keywords
    cases args with
    | nil => simp [routePath?, pathOf?]
    | cons first rest =>
      cases first with
      | text path =>
        by_cases empty : path = ""
        · simp [routePath?_text, pathOf?, empty]
        · by_cases route : lowercase attr = "route"
          · simp [routePath?_text, pathOf?, route]
          · by_cases method : lowercase attr ∈ routeMethods <;>
              simp [routePath?_text, pathOf?, route, method]
      | _ => simp [routePath?, literal?, pathOf?]
  · rename_i other
    unfold pathOf?
    split
    · exact absurd rfl (other _ _ _ _ _)
    · rfl

lemma forall₂_filterMap_route? (rs : List Node) : Forall₂ (fun route r => pathOf? r = some route.2)
    (rs.filterMap route?) (rs.filter fun r => (pathOf? r).isSome) := by
  induction rs with
  | nil => exact .nil
  | cons r rs ih =>
    have path := map_route? r
    cases given : route? r with
    | none =>
      simpa [given, ← path] using ih
    | some route =>
      simpa [given, ← path] using ih

lemma forall₂_functionEntries : Forall₂ EntryPoint.Records (functionEntries o d) (routesOf d) := by
  cases d with
  | function name span parameters body decorators returns =>
    rw [functionEntries, routesOf, decoratorsOf, forall₂_map_left_iff, forall₂_map_right_iff]
    exact (forall₂_filterMap_route? decorators).imp fun route r path => ⟨rfl, path⟩
  | _ => exact .nil

lemma routesOf_eq_nil {d : Node} (h : definedName? d = none) : routesOf d = [] := by
  cases d with
  | function => cases h
  | _ => rfl

lemma forall₂_nodeEntries :
    Forall₂ EntryPoint.Records (nodeEntries o d) (routesOf d ++ (methodsOf d).flatMap routesOf) := by
  cases d with
  | classDef name span bases keywords body decorators =>
    have all : (body.filter fun d => (definedName? d).isSome).flatMap routesOf = body.flatMap routesOf := by
      induction body with
      | nil => rfl
      | cons d body ih =>
        cases h : definedName? d with
        | none => simp [h, ih, routesOf_eq_nil h]
        | some name => simp [h, ih]
    exact all ▸ forall₂_flatMap (forall₂_functionEntries o) body
  | function name span parameters body decorators returns =>
    simpa [nodeEntries, methodsOf] using
      forall₂_functionEntries o (.function name span parameters body decorators returns)
  | _ => exact .nil

end

/-! ### What a source gives -/

section

variable {o : Origin} {source : List Char} {nodes : List Node}

lemma sourceFindings_eq (parsed : parse source = .ok nodes) : sourceFindings o source =
    if maxSteps < visitStepsAll nodes then .error (.nesting .steps)
    else .ok (findings o (tagNames source) nodes) := by
  rw [sourceFindings, visitableNodes, sourceNodes, parsed]
  rw [ok_bind]
  split_ifs <;> rfl

lemma mem_nodesOf {x : Node} : x ∈ nodesOf nodes ↔ x ∈ Node.preorderAll nodes := (Node.walk_perm nodes).mem_iff

lemma rel_symbols (tags : List String) : Multiset.Rel Symbol.Records (findings o tags nodes).symbols
    (definitions nodes ++ methods nodes : List Node) := by
  have same : definitions nodes = (nodesOf nodes).flatMap fun d => if (defined? d).isSome then [d] else [] := by
    rw [definitions]
    induction nodesOf nodes with
    | nil => rfl
    | cons d ds ih => by_cases h : (defined? d).isSome <;> simp [h, ih]
  rw [same]
  exact rel_nodesOf (forall₂_nodeSymbols o) nodes

def routes (nodes : List Node) : List (Node × Node) := (nodesOf nodes).flatMap routesOf

lemma rel_entryPoints (tags : List String) : Multiset.Rel EntryPoint.Records (findings o tags nodes).entryPoints
    (routes nodes ++ (methods nodes).flatMap routesOf : List (Node × Node)) := by
  rw [methods, flatMap_assoc]
  exact rel_nodesOf (forall₂_nodeEntries o) nodes

lemma methods_subset : methods nodes ⊆ definitions nodes := by
  intro d hd
  obtain ⟨c, hc, hd⟩ := mem_flatMap.1 hd
  cases c with
  | classDef name span bases keywords body decorators =>
    obtain ⟨inside, function⟩ := mem_filter.1 hd
    refine mem_filter.2 ⟨?_, by cases d <;> simp_all [definedName?, defined?]⟩
    rw [mem_nodesOf] at hc ⊢
    refine Node.mem_preorderAll_of_mem_parts hc ?_
    simp [Node.parts, inside]
  | _ => cases hd

end

/-- Each definition of a source has a symbol, and each function that stands directly in a class has another one. So
symbols and definitions correspond one to one exactly if no function stands in a class, and entry points and routes
do if no such function has a route. -/
theorem recorded_once_unless_in_class (o : Origin) {source : List Char} {nodes : List Node}
    (parsed : parse source = .ok nodes) (visited : visitStepsAll nodes ≤ maxSteps) :
    ∃ g, sourceFindings o source = .ok g ∧
      Multiset.Rel Symbol.Records g.symbols (definitions nodes ++ methods nodes : List Node) ∧
      (Multiset.Rel Symbol.Records g.symbols (definitions nodes) ↔ methods nodes = []) ∧
      Multiset.Rel EntryPoint.Records g.entryPoints
        (routes nodes ++ (methods nodes).flatMap routesOf : List (Node × Node)) ∧
      (Multiset.Rel EntryPoint.Records g.entryPoints (routes nodes) ↔ ∀ d ∈ methods nodes, routesOf d = []) := by
  refine ⟨_, (sourceFindings_eq parsed).trans (if_neg (Nat.not_lt.2 visited)), rel_symbols _,
    rel_left_iff (rel_symbols _), rel_entryPoints _, ?_⟩
  rw [rel_left_iff (rel_entryPoints _), List.flatMap_eq_nil_iff]

def oneMethod : List Char := "class A:\n @a.get('/')\n def f():0".toList

lemma exists_oneMethod : ∃ nodes, parse oneMethod = .ok nodes ∧ visitStepsAll nodes ≤ maxSteps ∧
    (methods nodes).length = 1 ∧ ((methods nodes).flatMap routesOf).length = 1 := by
  apply exists_ok_of_any
  decide +kernel

theorem recorded_once_unless_in_class_oneMethod : ∃ nodes g, parse oneMethod = .ok nodes ∧
    sourceFindings ⟨"x.py", "x"⟩ oneMethod = .ok g ∧ (methods nodes).length = 1 ∧
    Multiset.Rel Symbol.Records g.symbols (definitions nodes ++ methods nodes : List Node) := by
  obtain ⟨nodes, parsed, visited, one, -⟩ := exists_oneMethod
  obtain ⟨g, found, symbols, -⟩ := recorded_once_unless_in_class ⟨"x.py", "x"⟩ parsed visited
  exact ⟨nodes, g, parsed, found, one, symbols⟩

/-- The method has two symbols, and its route two entry points. -/
theorem method_recorded_twice : ∃ nodes g, parse oneMethod = .ok nodes ∧
    sourceFindings ⟨"x.py", "x"⟩ oneMethod = .ok g ∧
    ¬ Multiset.Rel Symbol.Records g.symbols (definitions nodes) ∧
    ¬ Multiset.Rel EntryPoint.Records g.entryPoints (routes nodes) := by
  obtain ⟨nodes, parsed, visited, method, route⟩ := exists_oneMethod
  refine ⟨nodes, _, parsed, (sourceFindings_eq parsed).trans (if_neg (Nat.not_lt.2 visited)), ?_, ?_⟩
  · rw [rel_left_iff (rel_symbols _)]
    intro none
    simp [none] at method
  · rw [rel_left_iff (rel_entryPoints _)]
    intro none
    simp [none] at route

/-! ### The same nodes on both ways -/

/-- A node imports a module: by its name, or names from it. -/
inductive ImportsModule : Node → String → Prop
  | names {aliases : List Alias} {a : Alias} : a ∈ aliases → ImportsModule (.importNames aliases) a.name
  | members {dots : ℕ} {aliases : List Alias} {m : String} : ImportsModule (.importFrom dots (some m) aliases) m

lemma mem_nodeImports_iff {x : Node} {m : String} : m ∈ nodeImports x ↔ ImportsModule x m := by
  constructor
  · intro h
    cases x with
    | importNames aliases =>
      obtain ⟨a, ha, rfl⟩ := mem_map.1 h
      exact .names ha
    | importFrom dots source aliases =>
      obtain rfl := Option.mem_toList.1 h
      exact .members
    | _ => cases h
  · rintro (⟨ha⟩ | ⟨⟩)
    · exact mem_map_of_mem ha
    · exact mem_singleton_self _

/-- If a visit of a source comes to its end, it finds each definition that is met level by level and nothing but
those, and its dependencies are the modules that are imported at some node, in ascending order. It comes to its end
exactly if it does not have to go down too far. -/
theorem visit_finds_what_walk_meets (o : Origin) {source : List Char} {nodes : List Node}
    (parsed : parse source = .ok nodes) :
    (maxSteps < visitStepsAll nodes ∧ sourceFindings o source = .error (.nesting .steps)) ∨
    visitStepsAll nodes ≤ maxSteps ∧ ∃ g, sourceFindings o source = .ok g ∧
      (∀ d ∈ definitions nodes, ∃ s ∈ g.symbols, s.Records d) ∧
      (∀ s ∈ g.symbols, ∃ d ∈ definitions nodes, s.Records d) ∧
      g.dependencies.Pairwise (· < ·) ∧
      ∀ m, m ∈ g.dependencies ↔ ∃ x ∈ nodesOf nodes, ImportsModule x m := by
  have result : sourceFindings o source = _ := sourceFindings_eq parsed
  by_cases deep : maxSteps < visitStepsAll nodes
  · exact .inl ⟨deep, result.trans (if_pos deep)⟩
  refine .inr ⟨Nat.not_lt.1 deep, _, result.trans (if_neg deep), ?_, ?_, pairwise_sorted _, ?_⟩
  · intro d hd
    have symbols : Multiset.Rel Symbol.Records (findings o (tagNames source) nodes).symbols _ := rel_symbols _
    exact Multiset.exists_mem_of_rel_of_mem (Multiset.rel_flip.2 symbols) (List.mem_append_left _ hd)
  · intro s hs
    obtain ⟨d, hd, records⟩ := Multiset.exists_mem_of_rel_of_mem (rel_symbols _) hs
    exact ⟨d, (List.mem_append.1 hd).elim id (methods_subset ·), records⟩
  · intro m
    rw [findings, mem_sorted, List.mem_flatMap]
    simp only [mem_nodesOf, mem_nodeImports_iff]

/-- A function, and then a number with so many signs that a visit does not reach it. -/
def functionAndSigns : List Char := "def f():0\n".toList ++ List.replicate 500 '-' ++ ['1']

theorem visit_finds_what_walk_meets_oneMethod : ∃ nodes g, parse oneMethod = .ok nodes ∧
    (definitions nodes).length = 2 ∧ sourceFindings ⟨"x.py", "x"⟩ oneMethod = .ok g ∧
    ∀ d ∈ definitions nodes, ∃ s ∈ g.symbols, s.Records d := by
  obtain ⟨nodes, parsed, two, visited⟩ : ∃ nodes, parse oneMethod = .ok nodes ∧
      (definitions nodes).length = 2 ∧ visitStepsAll nodes ≤ maxSteps := exists_ok_of_any (by decide +kernel)
  rcases visit_finds_what_walk_meets ⟨"x.py", "x"⟩ parsed with ⟨deep, -⟩ | ⟨-, g, found, all, -⟩
  · exact absurd visited (Nat.not_le.2 deep)
  · exact ⟨nodes, g, parsed, two, found, all⟩

/-- The function is met level by level, and the visit ends with a fault. -/
theorem walked_and_not_visited : ∃ nodes, parse functionAndSigns = .ok nodes ∧
    (definitions nodes).length = 1 ∧
    sourceFindings ⟨"x.py", "x"⟩ functionAndSigns = .error (.nesting .steps) := by
  obtain ⟨nodes, parsed, one, deep⟩ : ∃ nodes, parse functionAndSigns = .ok nodes ∧
      (definitions nodes).length = 1 ∧ maxSteps < visitStepsAll nodes := exists_ok_of_any (by decide +kernel)
  exact ⟨nodes, parsed, one, (sourceFindings_eq parsed).trans (if_pos deep)⟩

/-! ### The methods of a route -/

/-- A decorator that calls `route` of a name for a path, with some methods in a list or tuple. No other argument
named so comes after it. -/
inductive IsRouteFor (path : String) (ms : List String) : Node → Prop
  | intro {line : ℕ} {obj : String} {args before after : List Node} {value : Node}
    (texts : value = .list (ms.map .text) ∨ value = .tuple (ms.map .text))
    (last : ∀ k ∈ after, ∀ other, k ≠ .keyword (some "methods") other) :
    IsRouteFor path ms (.call line (.member (.name obj) "route") (.text path :: args)
      (before ++ .keyword (some "methods") value :: after))

section

variable {o : Origin} {nodes : List Node} {e : EntryPoint} {ms : List String} {path : String}

lemma chosenMethod_eq {value : Node} {before after : List Node} (present : ms ≠ []) (texts : literals value = ms)
    (last : ∀ k ∈ after, ∀ other, k ≠ .keyword (some "methods") other) :
    chosenMethod (before ++ .keyword (some "methods") value :: after) = uppercase (ms.getLast present) := by
  simp only [chosenMethod, flatMap_append, flatMap_cons, texts]
  rw [(flatMap_eq_nil_iff (l := after)).2, append_nil, getLast?_append_of_ne_nil _ present,
    getLast?_eq_some_getLast present]
  · rfl
  · intro k hk
    split
    · exact absurd rfl (last _ hk _)
    · rfl

/-- Of the methods of a route the last one is chosen. -/
lemma IsRouteFor.route? {r : Node} (h : IsRouteFor path ms r) (present : ms ≠ []) (named : path ≠ "") :
    route? r = some (uppercase (ms.getLast present), path) := by
  obtain @⟨line, obj, args, before, after, value, texts, last⟩ := h
  have small : lowercase "route" = "route" := by decide +kernel
  have read : literals value = ms := by
    rcases texts with rfl | rfl <;> simp [literals, Function.comp_def, literal?]
  simp [Analysis.route?, small, routePath?_text, named, chosenMethod_eq present read last]

lemma mem_functionEntries_iff {d : Node} : e ∈ functionEntries o d ↔
    e.file = o.file ∧ definedName? d = some e.handler ∧ ∃ r ∈ decoratorsOf d, route? r = some (e.method, e.path) := by
  cases d with
  | function name span parameters body decorators returns =>
    simp only [functionEntries, definedName?, mem_map, mem_filterMap, Option.some.injEq]
    constructor
    · rintro ⟨route, given, rfl⟩
      exact ⟨rfl, rfl, given⟩
    · obtain ⟨file, method, path, handler⟩ := e
      rintro ⟨rfl, rfl, given⟩
      exact ⟨_, given, rfl⟩
  | _ => simp [functionEntries, definedName?]

lemma mem_entryPoints_iff {tags : List String} : e ∈ (findings o tags nodes).entryPoints ↔
    e.file = o.file ∧ ∃ d ∈ nodesOf nodes, definedName? d = some e.handler ∧
      ∃ r ∈ decoratorsOf d, route? r = some (e.method, e.path) := by
  have own : e ∈ (findings o tags nodes).entryPoints ↔ ∃ d ∈ nodesOf nodes, e ∈ functionEntries o d := by
    simp only [mem_nodesOf]
    constructor
    · exact Report.exists_definition_of_mem_nodeEntries
    · rintro ⟨d, hd, he⟩
      refine mem_flatMap.2 ⟨d, hd, ?_⟩
      cases d with
      | classDef => cases he
      | _ => exact he
  simp only [own, mem_functionEntries_iff]
  constructor
  · rintro ⟨d, hd, file, given⟩
    exact ⟨file, d, hd, given⟩
  · rintro ⟨file, d, hd, given⟩
    exact ⟨d, hd, file, given⟩

end

/-- A function with a route for some methods has an entry point for the last of them. It has one for each of them
exactly if each is the last one, but for capital letters, or is given by another decorator of a function of this
name. -/
theorem route_recorded_for_last_method (o : Origin) {source : List Char} {nodes : List Node}
    (parsed : parse source = .ok nodes) (visited : visitStepsAll nodes ≤ maxSteps) :
    ∃ g, sourceFindings o source = .ok g ∧
      ∀ d ∈ nodesOf nodes, ∀ name, definedName? d = some name → ∀ r ∈ decoratorsOf d, ∀ path ms,
        IsRouteFor path ms r → path ≠ "" → ∀ present : ms ≠ [],
        ⟨o.file, uppercase (ms.getLast present), path, name⟩ ∈ g.entryPoints ∧
        ((∀ m ∈ ms, ⟨o.file, uppercase m, path, name⟩ ∈ g.entryPoints) ↔
          ∀ m ∈ ms, uppercase m = uppercase (ms.getLast present) ∨
            ∃ d' ∈ nodesOf nodes, definedName? d' = some name ∧
              ∃ r' ∈ decoratorsOf d', r' ≠ r ∧ route? r' = some (uppercase m, path)) := by
  refine ⟨_, (sourceFindings_eq parsed).trans (if_neg (Nat.not_lt.2 visited)), ?_⟩
  intro d hd name function r hr path ms form named present
  have given := form.route? present named
  simp only [mem_entryPoints_iff, true_and]
  refine ⟨⟨d, hd, function, r, hr, given⟩, forall₂_congr fun m hm => ?_⟩
  constructor
  · rintro ⟨d', hd', function', r', hr', given'⟩
    by_cases same : r' = r
    · subst same
      exact .inl (Prod.mk.inj (Option.some.inj (given'.symm.trans given))).1
    · exact .inr ⟨d', hd', function', r', hr', same, given'⟩
  · rintro (same | ⟨d', hd', function', r', hr', -, given'⟩)
    · exact ⟨d, hd, function, r, hr, same ▸ given⟩
    · exact ⟨d', hd', function', r', hr', given'⟩

def twoMethods : List Char := "@a.route('/',methods=['GET','POST'])\ndef f():0".toList

def twoMethods? : Node → Option (String × List String)
  | .call _ (.member (.name _) "route") [.text path] [.keyword (some "methods") (.list [.text a, .text b])] =>
    some (path, [a, b])
  | _ => none

lemma isRouteFor_of_twoMethods? {r : Node} {path : String} {ms : List String} (h : twoMethods? r = some (path, ms)) :
    IsRouteFor path ms r := by
  unfold twoMethods? at h
  split at h
  · cases h
    exact @IsRouteFor.intro _ [_, _] _ _ [] [] [] _ (.inl rfl) (by simp)
  · cases h

lemma exists_twoMethods : ∃ nodes, parse twoMethods = .ok nodes ∧ visitStepsAll nodes ≤ maxSteps ∧
    ∃ d ∈ nodesOf nodes, definedName? d = some "f" ∧ ∃ r ∈ decoratorsOf d, IsRouteFor "/" ["GET", "POST"] r := by
  obtain ⟨nodes, parsed, visited, d, hd, function, r, hr, form⟩ : ∃ nodes, parse twoMethods = .ok nodes ∧
      visitStepsAll nodes ≤ maxSteps ∧ ∃ d ∈ nodesOf nodes, definedName? d = some "f" ∧
        ∃ r ∈ decoratorsOf d, twoMethods? r = some ("/", ["GET", "POST"]) := exists_ok_of_any (by decide +kernel)
  exact ⟨nodes, parsed, visited, d, hd, function, r, hr, isRouteFor_of_twoMethods? form⟩

theorem route_recorded_for_last_method_twoMethods : ∃ nodes g, parse twoMethods = .ok nodes ∧
    sourceFindings ⟨"x.py", "x"⟩ twoMethods = .ok g ∧ ⟨"x.py", uppercase "POST", "/", "f"⟩ ∈ g.entryPoints := by
  obtain ⟨nodes, parsed, visited, d, hd, function, r, hr, form⟩ := exists_twoMethods
  obtain ⟨g, found, recorded⟩ := route_recorded_for_last_method ⟨"x.py", "x"⟩ parsed visited
  exact ⟨nodes, g, parsed, found, (recorded d hd "f" function r hr _ _ form (by decide) (by decide)).1⟩

/-- There is no entry point for the first of the two methods. -/
theorem first_method_not_recorded : ∃ nodes g, parse twoMethods = .ok nodes ∧
    (∃ d ∈ nodesOf nodes, definedName? d = some "f" ∧ ∃ r ∈ decoratorsOf d, IsRouteFor "/" ["GET", "POST"] r) ∧
    sourceFindings ⟨"x.py", "x"⟩ twoMethods = .ok g ∧ ⟨"x.py", uppercase "GET", "/", "f"⟩ ∉ g.entryPoints := by
  obtain ⟨nodes, parsed, -, route⟩ := exists_twoMethods
  obtain ⟨g, found, missing⟩ : ∃ g, sourceFindings ⟨"x.py", "x"⟩ twoMethods = .ok g ∧
      ⟨"x.py", uppercase "GET", "/", "f"⟩ ∉ g.entryPoints := exists_ok_of_any (by decide +kernel)
  exact ⟨nodes, g, parsed, route, found, missing⟩

end Unbundle.Analysis
