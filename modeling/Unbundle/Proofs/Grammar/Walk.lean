import Mathlib.Data.List.Shortlex
import Mathlib.Tactic.Common
import Unbundle.Grammar.Statement

/-!
# The two ways through a tree

A tree in preorder is its root and then its parts in preorder. Going level by level meets the same nodes.
-/

open List Function

namespace Unbundle.Grammar.Node

variable {ps : List (Node × Use)} {part x : Node} {nodes : List Node} {n : Nat}
variable {xs : List Node} {p : Node × Use} {y : Node}

@[simp] lemma preorderAll_nil : preorderAll [] = [] := by
  simp [preorderAll]

@[simp] lemma preorderAll_cons (x : Node) (xs : List Node) :
    preorderAll (x :: xs) = preorder x ++ preorderAll xs := by
  simp [preorderAll]

@[simp] lemma preorderAll_append (xs ys : List Node) :
    preorderAll (xs ++ ys) = preorderAll xs ++ preorderAll ys := by
  induction xs with
  | nil => simp
  | cons x xs ih => simp [ih]

lemma preorder_eq (x : Node) : preorder x = x :: preorderAll x.parts := by
  cases x <;> simp [preorder, parts]

lemma self_mem_preorder (x : Node) : x ∈ preorder x := by
  rw [preorder_eq]
  exact mem_cons_self

lemma mem_preorderAll : x ∈ preorderAll xs ↔ ∃ y ∈ xs, x ∈ preorder y := by
  induction xs with
  | nil => simp
  | cons y ys ih => simp [ih]

lemma mem_preorderAll_of_mem_levels (h : p ∈ levels n ps) :
    p.1 ∈ preorderAll (ps.map Prod.fst) := by
  induction n generalizing ps with
  | zero => simp [levels] at h
  | succ n ih =>
    rw [levels, mem_append] at h
    rcases h with here | below
    · exact mem_preorderAll.2 ⟨p.1, mem_map_of_mem here, self_mem_preorder p.1⟩
    · obtain ⟨part, hpart, hp⟩ := mem_preorderAll.1 (ih below)
      simp only [map_flatMap, usedParts, map_map, mem_flatMap, mem_map,
        comp_apply, exists_eq_right] at hpart
      obtain ⟨q, hq, hpart⟩ := hpart
      refine mem_preorderAll.2 ⟨q.1, mem_map_of_mem hq, ?_⟩
      rw [preorder_eq]
      exact mem_cons_of_mem _ (mem_preorderAll.2 ⟨part, hpart, hp⟩)

lemma mem_preorderAll_of_mem_walk (h : p ∈ walk nodes) : p.1 ∈ preorderAll nodes := by
  simpa [comp_def] using mem_preorderAll_of_mem_levels h

/-! ### Levels -/

lemma depthAll_append (xs ys : List Node) : depthAll (xs ++ ys) = max (depthAll xs) (depthAll ys) := by
  induction xs with
  | nil => simp [depthAll]
  | cons x xs ih => simp [depthAll, ih]

lemma depth_eq (x : Node) : depth x = depthAll x.parts + 1 := by
  cases x <;> simp [depth, depthAll, parts, depthAll_append]

lemma depthAll_le_iff : depthAll xs ≤ n ↔ ∀ x ∈ xs, depth x ≤ n := by
  induction xs with
  | nil => simp [depthAll]
  | cons x xs ih => simp [depthAll, ih, Nat.max_le]

lemma depth_lt_of_mem_parts (h : part ∈ x.parts) : depth part < depth x := by
  rw [depth_eq x, Nat.lt_succ_iff]
  exact depthAll_le_iff.1 (Nat.le_refl _) part h

lemma mem_preorder_of_mem_parts (h : y ∈ preorder x) (hp : part ∈ y.parts) : part ∈ preorder x := by
  -- by the number of levels: the parts of a node have fewer
  induction levels : depth x using Nat.strongRecOn generalizing x with
  | ind n ih =>
    rw [preorder_eq] at h ⊢
    refine mem_cons_of_mem x ?_
    rcases mem_cons.1 h with rfl | below
    · exact mem_preorderAll.2 ⟨part, hp, self_mem_preorder part⟩
    · obtain ⟨z, hz, hy⟩ := mem_preorderAll.1 below
      exact mem_preorderAll.2 ⟨z, hz, ih _ (levels ▸ depth_lt_of_mem_parts hz) hy rfl⟩

lemma mem_preorderAll_of_mem_parts (h : y ∈ preorderAll nodes) (hp : part ∈ y.parts) :
    part ∈ preorderAll nodes := by
  obtain ⟨x, hx, hy⟩ := mem_preorderAll.1 h
  exact mem_preorderAll.2 ⟨x, hx, mem_preorder_of_mem_parts hy hp⟩

/-- Within as many levels as there are, all is met that is met in preorder. -/
lemma exists_mem_levels (h : x ∈ preorderAll (ps.map Prod.fst)) (deep : ∀ p ∈ ps, depth p.1 ≤ n) :
    ∃ use, (x, use) ∈ levels n ps := by
  induction n generalizing ps with
  | zero =>
    obtain ⟨_, hy, -⟩ := mem_preorderAll.1 h
    obtain ⟨p, hp, -⟩ := mem_map.1 hy
    have flat := deep p hp
    rw [depth_eq] at flat
    exact absurd flat (Nat.not_succ_le_zero _)
  | succ n ih =>
    obtain ⟨_, hy, hx⟩ := mem_preorderAll.1 h
    obtain ⟨⟨y, use⟩, hp, rfl⟩ := mem_map.1 hy
    rw [preorder_eq] at hx
    rcases mem_cons.1 hx with rfl | below
    · exact ⟨use, mem_append_left _ hp⟩
    have parts : ∀ q ∈ ps.flatMap usedParts, depth q.1 ≤ n := by
      intro q hq
      obtain ⟨p, hp, hq⟩ := mem_flatMap.1 hq
      obtain ⟨part, hpart, rfl⟩ := mem_map.1 hq
      have whole := deep p hp
      rw [depth_eq] at whole
      exact depthAll_le_iff.1 (Nat.le_of_succ_le_succ whole) part hpart
    have met : x ∈ preorderAll ((ps.flatMap usedParts).map Prod.fst) := by
      obtain ⟨part, hpart, hx⟩ := mem_preorderAll.1 below
      refine mem_preorderAll.2 ⟨part, mem_map.2 ⟨(part, useOfParts y use), ?_, rfl⟩, hx⟩
      exact mem_flatMap.2 ⟨(y, use), hp, mem_map_of_mem hpart⟩
    obtain ⟨use', found⟩ := ih met parts
    exact ⟨use', mem_append_right _ found⟩

lemma exists_mem_walk_iff : (∃ use, (x, use) ∈ walk nodes) ↔ x ∈ preorderAll nodes := by
  refine ⟨fun ⟨use, met⟩ => mem_preorderAll_of_mem_walk met, fun h => ?_⟩
  refine exists_mem_levels (by simpa [comp_def] using h) fun p hp => ?_
  obtain ⟨y, hy, rfl⟩ := mem_map.1 hp
  exact depthAll_le_iff.1 (Nat.le_refl _) y hy

/-! ### The same nodes as often -/

lemma preorderAll_perm (xs : List Node) :
    (preorderAll xs).Perm (xs ++ preorderAll (xs.flatMap parts)) := by
  induction xs with
  | nil => simp
  | cons x xs ih =>
    rw [preorderAll_cons, preorder_eq, flatMap_cons, preorderAll_append, cons_append, cons_append]
    refine .cons x ((ih.append_left _).trans ?_)
    rw [← append_assoc, ← append_assoc]
    exact perm_append_comm.append_right _

lemma levels_perm (deep : ∀ p ∈ ps, depth p.1 ≤ n) :
    ((levels n ps).map Prod.fst).Perm (preorderAll (ps.map Prod.fst)) := by
  induction n generalizing ps with
  | zero =>
    cases ps with
    | nil => simp [levels]
    | cons p ps =>
      have flat := deep p mem_cons_self
      rw [depth_eq] at flat
      exact absurd flat (Nat.not_succ_le_zero _)
  | succ n ih =>
    have below : ∀ q ∈ ps.flatMap usedParts, depth q.1 ≤ n := by
      intro q hq
      obtain ⟨p, hp, hq⟩ := mem_flatMap.1 hq
      obtain ⟨part, hpart, rfl⟩ := mem_map.1 hq
      exact Nat.le_of_lt_succ (Nat.lt_of_lt_of_le (depth_lt_of_mem_parts hpart) (deep p hp))
    have parts : (ps.flatMap usedParts).map Prod.fst = (ps.map Prod.fst).flatMap parts := by
      simp [map_flatMap, flatMap_map, usedParts, comp_def]
    rw [levels, map_append]
    exact ((parts ▸ ih below).append_left _).trans (preorderAll_perm _).symm

/-- Level by level each node is met as often as in preorder. -/
lemma walk_perm (nodes : List Node) : ((walk nodes).map Prod.fst).Perm (preorderAll nodes) := by
  have deep : ∀ p ∈ nodes.map fun node => (node, Use.part), depth p.1 ≤ depthAll nodes := by
    intro p hp
    obtain ⟨y, hy, rfl⟩ := mem_map.1 hp
    exact depthAll_le_iff.1 (Nat.le_refl _) y hy
  have met := levels_perm deep
  simpa [comp_def, walk] using met

end Unbundle.Grammar.Node

open List

namespace Unbundle.Grammar.Node

/-! ## Paths in a tree -/

/-- The node at a path below a node. -/
def nodeAt? : Node → List ℕ → Option Node
  | x, [] => some x
  | x, i :: path => x.parts[i]?.bind fun part => nodeAt? part path

/-- A path comes before another one, level by level. -/
abbrev Sooner : List ℕ → List ℕ → Prop := List.Shortlex (· < ·)

/-- The node at a path is what an `await` is about. -/
def IsAwaited (x : Node) (path : List ℕ) : Prop :=
  ∃ outer i v, path = outer ++ [i] ∧ x.nodeAt? outer = some (.await v)

/-- The node at a path is the whole of a statement. -/
def IsStatement (x : Node) (path : List ℕ) : Prop :=
  ∃ outer i v, path = outer ++ [i] ∧ x.nodeAt? outer = some (.discarded v)

/-- The value of the node at a path is used: neither the node nor an `await` directly around it is the whole of
a statement. -/
def IsUsed (x : Node) (path : List ℕ) : Prop :=
  ¬ x.IsStatement path ∧
    ∀ outer i v, path = outer ++ [i] → x.nodeAt? outer = some (.await v) → ¬ x.IsStatement outer

/-! ### Going down -/

section

variable {x y : Node} {path rest : List ℕ} {i : ℕ}

lemma nodeAt?_append : x.nodeAt? (path ++ rest) = (x.nodeAt? path).bind fun y => y.nodeAt? rest := by
  induction path generalizing x with
  | nil => rfl
  | cons i path ih =>
    rw [cons_append, nodeAt?, nodeAt?, Option.bind_assoc]
    exact congrArg _ (funext fun part => ih)

lemma nodeAt?_concat (here : x.nodeAt? path = some y) : x.nodeAt? (path ++ [i]) = y.parts[i]? := by
  rw [nodeAt?_append, here, Option.bind_some, nodeAt?]
  cases y.parts[i]? <;> rfl

lemma isAwaited_concat (here : x.nodeAt? path = some y) : x.IsAwaited (path ++ [i]) ↔ ∃ v, y = .await v := by
  constructor
  · rintro ⟨outer, j, v, same, there⟩
    obtain ⟨rfl, -⟩ := append_inj' same rfl
    exact ⟨v, Option.some.inj (here.symm.trans there)⟩
  · rintro ⟨v, rfl⟩
    exact ⟨path, i, v, rfl, here⟩

lemma isStatement_concat (here : x.nodeAt? path = some y) :
    x.IsStatement (path ++ [i]) ↔ ∃ v, y = .discarded v := by
  constructor
  · rintro ⟨outer, j, v, same, there⟩
    obtain ⟨rfl, -⟩ := append_inj' same rfl
    exact ⟨v, Option.some.inj (here.symm.trans there)⟩
  · rintro ⟨v, rfl⟩
    exact ⟨path, i, v, rfl, here⟩

lemma isUsed_concat (here : x.nodeAt? path = some y) :
    x.IsUsed (path ++ [i]) ↔ (¬ ∃ v, y = .discarded v) ∧ ((∃ v, y = .await v) → ¬ x.IsStatement path) := by
  rw [IsUsed, isStatement_concat here]
  refine and_congr_right fun _ => ⟨?_, ?_⟩
  · rintro used ⟨v, rfl⟩
    exact used path i v rfl here
  · rintro used outer j v same there
    obtain ⟨rfl, -⟩ := append_inj' same rfl
    exact used ⟨v, Option.some.inj (here.symm.trans there)⟩

end

/-! ### Places -/

abbrev Place := List ℕ × (Node × Use)

/-- The path of a place leads to its node, and the use is what the nodes around it make of it. -/
structure IsPlace (x : Node) (p : Place) : Prop where
  node : x.nodeAt? p.1 = some p.2.1
  direct : p.2.2.direct = true ↔ ¬ x.IsStatement p.1
  used : p.2.2.used = true ↔ x.IsUsed p.1
  awaited : p.2.2.awaited = true ↔ x.IsAwaited p.1

/-- The places of the parts of a node. -/
def partPlaces (p : Place) : List Place := (usedParts p.2).zipIdx.map fun q => (p.1 ++ [q.2], q.1)

def placeLevels : ℕ → List Place → List Place
  | 0, _ => []
  | n + 1, ps => ps ++ placeLevels n (ps.flatMap partPlaces)

section

variable {x : Node} {p q : Place} {ps : List Place} {n : ℕ}

lemma mem_partPlaces : q ∈ partPlaces p ↔
    ∃ i part, p.2.1.parts[i]? = some part ∧ q = (p.1 ++ [i], part, useOfParts p.2.1 p.2.2) := by
  simp only [partPlaces, usedParts, mem_map, Prod.exists, mem_zipIdx_iff_getElem?, getElem?_map,
    Option.map_eq_some_iff]
  constructor
  · rintro ⟨_, _, i, ⟨_, there, ⟨⟩⟩, rfl⟩
    exact ⟨i, _, there, rfl⟩
  · rintro ⟨i, part, there, rfl⟩
    exact ⟨_, _, i, ⟨part, there, rfl⟩, rfl⟩

lemma IsPlace.part (place : x.IsPlace p) (mem : q ∈ partPlaces p) : x.IsPlace q := by
  obtain ⟨i, part, there, rfl⟩ := mem_partPlaces.1 mem
  obtain ⟨path, y, use⟩ := p
  obtain ⟨node, direct, used, awaited⟩ := place
  refine ⟨(nodeAt?_concat node).trans there, ?_, ?_, ?_⟩
  · rw [isStatement_concat node]
    cases y <;> simp [useOfParts, Use.part]
  · rw [isUsed_concat node]
    cases y with
    | await v => simp [useOfParts, direct]
    | _ => simp [useOfParts, Use.part]
  · rw [isAwaited_concat node]
    cases y <;> simp [useOfParts, Use.part]

lemma map_partPlaces : (partPlaces p).map Prod.snd = usedParts p.2 := by
  rw [partPlaces, map_map]
  exact zipIdx_map_fst 0 _

lemma map_placeLevels : (placeLevels n ps).map Prod.snd = levels n (ps.map .snd) := by
  induction n generalizing ps with
  | zero => rfl
  | succ n ih =>
    rw [placeLevels, map_append, ih, levels, map_flatMap, flatMap_map]
    simp only [map_partPlaces]

lemma isPlace_of_mem_placeLevels (places : ∀ p ∈ ps, x.IsPlace p) (mem : q ∈ placeLevels n ps) : x.IsPlace q := by
  induction n generalizing ps with
  | zero => cases mem
  | succ n ih =>
    rcases mem_append.1 mem with mem | mem
    · exact places q mem
    · refine ih (fun r hr => ?_) mem
      obtain ⟨p, hp, hr⟩ := mem_flatMap.1 hr
      exact (places p hp).part hr

lemma exists_append_of_mem_placeLevels (mem : q ∈ placeLevels n ps) : ∃ p ∈ ps, ∃ rest, q.1 = p.1 ++ rest := by
  induction n generalizing ps with
  | zero => cases mem
  | succ n ih =>
    rcases mem_append.1 mem with mem | mem
    · exact ⟨q, mem, [], q.1.append_nil.symm⟩
    · obtain ⟨r, hr, rest, same⟩ := ih mem
      obtain ⟨p, hp, hr⟩ := mem_flatMap.1 hr
      obtain ⟨i, part, -, rfl⟩ := mem_partPlaces.1 hr
      exact ⟨p, hp, i :: rest, same.trans (append_cons ..).symm⟩

lemma exists_mem_placeLevels {rest : List ℕ} {y : Node} (deep : ∀ p ∈ ps, depth p.2.1 ≤ n) (mem : p ∈ ps)
    (there : p.2.1.nodeAt? rest = some y) : ∃ use, (p.1 ++ rest, y, use) ∈ placeLevels n ps := by
  induction n generalizing ps p rest with
  | zero =>
    have flat := deep p mem
    rw [depth_eq] at flat
    exact absurd flat (Nat.not_succ_le_zero _)
  | succ n ih =>
    cases rest with
    | nil =>
      obtain ⟨path, node, use⟩ := p
      cases there
      rw [append_nil]
      exact ⟨use, mem_append_left _ mem⟩
    | cons i rest =>
      obtain ⟨part, found, there⟩ := Option.bind_eq_some_iff.1 there
      have below : ∀ q ∈ ps.flatMap partPlaces, depth q.2.1 ≤ n := by
        intro q hq
        obtain ⟨p, hp, hq⟩ := mem_flatMap.1 hq
        obtain ⟨j, part, found, rfl⟩ := mem_partPlaces.1 hq
        exact Nat.le_of_lt_succ ((depth_lt_of_mem_parts (mem_of_getElem? found)).trans_le (deep p hp))
      obtain ⟨use, met⟩ := ih below (mem_flatMap.2 ⟨p, mem, mem_partPlaces.2 ⟨i, part, found, rfl⟩⟩) there
      rw [append_cons]
      exact ⟨use, mem_append_right _ met⟩

/-! ### The order of the places -/

lemma sooner_concat {path path' : List ℕ} {i j : ℕ} (sooner : Sooner path path')
    (level : path.length = path'.length) : Sooner (path ++ [i]) (path' ++ [j]) := by
  refine .of_lex (by simp [level]) ?_
  induction (shortlex_iff_lex level).1 sooner with
  | nil => cases level
  | rel less => exact .rel less
  | @cons a _ _ lex ih =>
    have level := Nat.succ.inj level
    exact .cons (ih (.of_lex level lex) level)

lemma pairwise_partPlaces : (partPlaces p).Pairwise fun q r => Sooner q.1 r.1 := by
  have numbered : ((usedParts p.2).zipIdx.map Prod.snd).Pairwise (· < ·) := by
    rw [zipIdx_map_snd]
    exact pairwise_lt_range'
  refine pairwise_map.2 ((pairwise_map.1 numbered).imp fun {q q'} less => ?_)
  exact ((shortlex_singleton_iff _ _).2 less).append_left p.1

lemma length_of_mem_partPlaces (mem : q ∈ partPlaces p) : q.1.length = p.1.length + 1 := by
  obtain ⟨i, part, -, rfl⟩ := mem_partPlaces.1 mem
  simp

lemma pairwise_placeLevels {l : ℕ} (level : ∀ p ∈ ps, p.1.length = l)
    (sorted : ps.Pairwise fun p q => Sooner p.1 q.1) : (placeLevels n ps).Pairwise fun p q => Sooner p.1 q.1 := by
  induction n generalizing ps l with
  | zero => exact .nil
  | succ n ih =>
    have next : ∀ q ∈ ps.flatMap partPlaces, q.1.length = l + 1 := by
      intro q hq
      obtain ⟨p, hp, hq⟩ := mem_flatMap.1 hq
      rw [length_of_mem_partPlaces hq, level p hp]
    refine pairwise_append.2 ⟨sorted, ih next ?_, ?_⟩
    · refine pairwise_flatMap.2 ⟨fun p _ => pairwise_partPlaces, ?_⟩
      refine sorted.imp_of_mem fun {p p'} hp hp' sooner q hq q' hq' => ?_
      obtain ⟨i, part, -, rfl⟩ := mem_partPlaces.1 hq
      obtain ⟨j, part', -, rfl⟩ := mem_partPlaces.1 hq'
      exact sooner_concat sooner ((level p hp).trans (level p' hp').symm)
    · intro p hp q hq
      obtain ⟨r, hr, rest, same⟩ := exists_append_of_mem_placeLevels hq
      refine .of_length_lt ?_
      rw [same, length_append, next r hr, level p hp]
      omega

def placesBelow (p : Place) : List Place := placeLevels (depthAll p.2.1.parts) (partPlaces p)

lemma pairwise_placesBelow : (placesBelow p).Pairwise fun q r => Sooner q.1 r.1 :=
  pairwise_placeLevels (fun _ => length_of_mem_partPlaces) pairwise_partPlaces

lemma IsPlace.below (place : x.IsPlace p) (mem : q ∈ placesBelow p) : x.IsPlace q :=
  isPlace_of_mem_placeLevels (fun _ => place.part) mem

lemma IsPlace.exists_mem_placesBelow_iff (place : x.IsPlace p) {path : List ℕ} {y : Node} :
    (∃ use, (path, y, use) ∈ placesBelow p) ↔
      (∃ i rest, path = p.1 ++ i :: rest) ∧ x.nodeAt? path = some y := by
  constructor
  · rintro ⟨use, mem⟩
    obtain ⟨q, hq, rest, same⟩ := exists_append_of_mem_placeLevels mem
    obtain ⟨i, part, -, rfl⟩ := mem_partPlaces.1 hq
    exact ⟨⟨i, rest, same.trans (append_cons ..).symm⟩, (place.below mem).node⟩
  · rintro ⟨⟨i, rest, rfl⟩, there⟩
    rw [nodeAt?_append, place.node, Option.bind_some] at there
    obtain ⟨part, found, there⟩ := Option.bind_eq_some_iff.1 there
    have deep : ∀ q ∈ partPlaces p, depth q.2.1 ≤ depthAll p.2.1.parts := by
      intro q hq
      obtain ⟨j, part, found, rfl⟩ := mem_partPlaces.1 hq
      exact depthAll_le_iff.1 (le_refl _) part (mem_of_getElem? found)
    rw [append_cons]
    exact exists_mem_placeLevels deep (mem_partPlaces.2 ⟨i, part, found, rfl⟩) there

/-- The trees of a source, level by level, are what is below all of them. -/
lemma walk_eq_placesBelow (nodes : List Node) :
    walk nodes = (placesBelow ([], .compound nodes, .part)).map Prod.snd := by
  rw [placesBelow, map_placeLevels, map_partPlaces]
  rfl

/-- A node comes first, level by level. How its own value is used does not matter below it, unless it is one of
the few that decide it. -/
lemma walk_singleton (path : List ℕ) (use : Use) (same : useOfParts x use = .part)
    (same' : useOfParts x .part = .part) :
    walk [x] = (x, .part) :: (placesBelow (path, x, use)).map .snd := by
  have one : depthAll [x] = depthAll x.parts + 1 := by simp [depthAll, depth_eq]
  rw [placesBelow, map_placeLevels, map_partPlaces, walk, one, levels]
  simp [usedParts, same, same']

lemma isPlace_self (x : Node) : x.IsPlace ([], x, .part) := by
  constructor <;> simp [IsAwaited, IsUsed, IsStatement, Use.part, nodeAt?]

end

end Unbundle.Grammar.Node
