import Mathlib.Data.List.Find
import Mathlib.Data.Set.Finite.Lemmas
import Unbundle.Proofs.Analysis.Findings
import Unbundle.Proofs.Grammar.Walk

/-!
# Who calls

A call is recorded for the function it stands in, by its last name. That function is one of the definitions
found in the same file, although calls and definitions are found in different ways.
-/

open List

namespace Unbundle.Analysis

open Grammar (Node Identifier)
open Files (Location)

variable {e : CallEdge} {calls edges : List CallEdge} {symbols : List Symbol}
variable {file : String} {s : Symbol} {line : Int}

/-- A name is the last of the names that make up a dotted one. -/
def IsLastName (name dotted : String) : Prop :=
  '.' ∉ name.toList ∧ ∃ before, dotted = before ++ "." ++ name

lemma isLastName_afterLast {dotted : String} (h : '.' ∈ dotted.toList) :
    IsLastName (.ofList (Text.afterLast '.' dotted.toList)) dotted := by
  obtain ⟨free, before, cut⟩ := Text.eq_append_afterLast h
  exact ⟨by simpa using free, .ofList before, String.toList_inj.1 (by simp [← cut])⟩

lemma no_dot_in_identifier (i : Identifier) : '.' ∉ i.text.toList := by
  intro dot
  have valid := i.valid
  revert valid dot
  cases i.text.toList with
  | nil => simp
  | cons c cs =>
    intro dot valid
    simp only [Text.isIdentifier, Bool.and_eq_true, all_eq_true] at valid
    rcases mem_cons.1 dot with rfl | dot
    · exact absurd valid.1 (by decide)
    · exact absurd (valid.2 _ dot) (by decide)

/-! ### Joined calls -/

namespace CallEdge

variable {c : CallEdge}
variable {k : String × String × String}

/-- Two edges are calls from one function to one callee. -/
def SameCall (e c : CallEdge) : Prop := e.file = c.file ∧ e.key = c.key

lemma mem_merge (h : e ∈ merge c edges) : e = c ∨ ∃ d ∈ edges, e.SameCall d := by
  induction edges with
  | nil => exact .inl (by simpa [merge] using h)
  | cons f fs ih =>
    rw [merge] at h
    split_ifs at h
    all_goals rcases mem_cons.1 h with rfl | h
    · exact .inr ⟨f, mem_cons_self, rfl, rfl⟩
    · exact .inr ⟨e, mem_cons_of_mem f h, rfl, rfl⟩
    · exact .inr ⟨e, mem_cons_self, rfl, rfl⟩
    · refine (ih h).imp_right fun ⟨d, hd, same⟩ => ⟨d, mem_cons_of_mem f hd, same⟩

lemma mem_mergeAll (h : e ∈ mergeAll calls) : ∃ c ∈ calls, e.SameCall c := by
  -- going through the calls, each edge so far stands for a call seen so far
  suffices ∀ edges, e ∈ calls.foldl (fun edges c => merge c edges) edges →
      (∃ c ∈ calls, e.SameCall c) ∨ ∃ d ∈ edges, e.SameCall d by
    simpa using this [] h
  clear h
  induction calls with
  | nil => exact fun edges h => .inr ⟨e, h, rfl, rfl⟩
  | cons c cs ih =>
    intro edges h
    rcases ih _ h with ⟨d, hd, same⟩ | ⟨d, hd, same⟩
    · exact .inl ⟨d, mem_cons_of_mem c hd, same⟩
    · rcases mem_merge hd with rfl | ⟨f, hf, same'⟩
      · exact .inl ⟨d, mem_cons_self, same⟩
      · exact .inr ⟨f, hf, same.1.trans same'.1, same.2.trans same'.2⟩

lemma exists_mem_merge_iff :
    (∃ e ∈ merge c edges, e.key = k) ↔ c.key = k ∨ ∃ e ∈ edges, e.key = k := by
  induction edges with
  | nil => simp [merge]
  | cons f fs ih =>
    rw [merge]
    split_ifs with same
    · simp only [exists_mem_cons_iff, ← same]
      exact or_self_left.symm
    · simp only [exists_mem_cons_iff, ih]
      exact or_left_comm

lemma exists_mem_mergeAll_iff :
    (∃ e ∈ mergeAll calls, e.key = k) ↔ ∃ c ∈ calls, c.key = k := by
  suffices ∀ edges, (∃ e ∈ calls.foldl (fun edges c => merge c edges) edges, e.key = k) ↔
      (∃ c ∈ calls, c.key = k) ∨ ∃ e ∈ edges, e.key = k by
    simpa [mergeAll] using this []
  induction calls with
  | nil => simp
  | cons c cs ih =>
    intro edges
    rw [foldl_cons, ih, exists_mem_merge_iff, exists_mem_cons_iff]
    exact or_left_comm.trans or_assoc.symm

lemma SameCall.caller_eq (h : e.SameCall c) : e.caller = c.caller :=
  congrArg Prod.fst h.2

end CallEdge

/-! ### Calls of a Python source -/

lemma mem_functionCalls {imports : Imports} {node : Node}
    (h : e ∈ functionCalls file imports node) :
    e.file = file ∧ ∃ name span parameters body decorators returns,
      node = .function name span parameters body decorators returns ∧ e.caller = name.text := by
  unfold functionCalls at h
  split at h
  · obtain ⟨⟨inner, use⟩, -, site⟩ := mem_filterMap.1 h
    unfold callSite? at site
    split at site
    · obtain ⟨callee, -, rfl⟩ := Option.map_eq_some_iff.1 site
      exact ⟨rfl, _, _, _, _, _, _, rfl, rfl⟩
    · cases site
  · cases h

lemma mem_sourceCalls {root : Location} {source : List Char}
    (h : sourceCalls root file source = .ok calls) (he : e ∈ calls) :
    ∃ nodes, sourceNodes source = .ok nodes ∧ e.file = file ∧
      ∃ name span parameters body decorators returns,
        .function name span parameters body decorators returns ∈ Node.preorderAll nodes ∧
        e.caller = name.text := by
  obtain ⟨nodes, read, h⟩ := bind_eq_ok_iff.1 h
  obtain ⟨imports, -, h⟩ := bind_eq_ok_iff.1 h
  rw [← pure_eq_ok_iff.1 h] at he
  obtain ⟨c, hc, same⟩ := CallEdge.mem_mergeAll he
  obtain ⟨⟨node, use⟩, met, hc⟩ := mem_flatMap.1 hc
  obtain ⟨inFile, name, span, parameters, body, decorators, returns, rfl, caller⟩ :=
    mem_functionCalls hc
  exact ⟨nodes, read, same.1.trans inFile, name, span, parameters, body, decorators, returns,
    Node.mem_preorderAll_of_mem_walk met, same.caller_eq.trans caller⟩

/-! ### Calls of a script -/

/-- A call in a script: the number of its line, the module that its name comes from, and the call. -/
structure ScriptSite where
  line : Nat
  target : String
  call : ScriptCall

def ScriptSite.toEdge (file caller : String) (s : ScriptSite) : CallEdge :=
  s.call.toEdge file caller s.line s.target

/-- The calls of an imported name on some lines, the first of which has number `line`. -/
def sitesOf (name target : String) (line : Nat) (ls : List (List Char)) : List ScriptSite :=
  (ls.zipIdx line).flatMap fun l => (callsOn name l.1).map (⟨l.2, target, ·⟩)

/-- The calls of a script: name by name in the order in which they are bound, and line by line for each. -/
def scriptSites (source : List Char) : List ScriptSite :=
  (scriptImports source).flatMap fun b => sitesOf b.1 b.2 1 (Text.lines source)

section

variable {file : String} {callerAt : Int → Except Fault String} {source : List Char}

lemma callsOfName_eq (name target : String) (line : Nat) (ls : List (List Char)) :
    callsOfName file callerAt name target line ls =
      (sitesOf name target line ls).mapM fun s => do return s.toEdge file (← callerAt s.line) := by
  induction ls generalizing line with
  | nil => rfl
  | cons l ls ih =>
    have first : sitesOf name target line (l :: ls) =
        (callsOn name l).map (⟨line, target, ·⟩) ++ sitesOf name target (line + 1) ls := rfl
    rw [callsOfName, ih, first, mapM_append, mapM_map]
    rfl

lemma scriptCalls_eq : scriptCalls file callerAt source = do
    return CallEdge.mergeAll
      (← (scriptSites source).mapM fun s => do return s.toEdge file (← callerAt s.line)) := by
  rw [scriptSites, mapM_flatMap]
  simp only [← callsOfName_eq]
  rw [scriptCalls]
  cases (scriptImports source).mapM fun b => callsOfName file callerAt b.1 b.2 1 (Text.lines source) <;> rfl

lemma exists_callers (found : scriptCalls file callerAt source = .ok edges) :
    ∃ callerOf : Int → String, (∀ s ∈ scriptSites source, callerAt s.line = .ok (callerOf s.line)) ∧
      edges = CallEdge.mergeAll ((scriptSites source).map fun s => s.toEdge file (callerOf s.line)) := by
  rw [scriptCalls_eq] at found
  obtain ⟨calls, each, joined⟩ := bind_eq_ok_iff.1 found
  obtain rfl := pure_eq_ok_iff.1 joined
  have step : ∀ s c, (do return ScriptSite.toEdge file (← callerAt s.line) s) = Except.ok c →
      callerAt s.line = .ok ((callerAt s.line).toOption.getD "") ∧
        c = s.toEdge file ((callerAt s.line).toOption.getD "") := by
    intro s c edge
    obtain ⟨caller, known, edge⟩ := bind_eq_ok_iff.1 edge
    rw [known, ← pure_eq_ok_iff.1 edge]
    exact ⟨rfl, rfl⟩
  refine ⟨fun i => (callerAt i).toOption.getD "", fun s hs => ?_, ?_⟩
  · obtain ⟨c, -, edge⟩ := exists_right_of_forall₂ (mapM_eq_ok_iff.1 each) hs
    exact (step s c edge).1
  · rw [eq_map_of_forall₂ ((mapM_eq_ok_iff.1 each).imp fun s c edge => (step s c edge).2)]

lemma exists_scriptCalls_iff : (∃ edges, scriptCalls file callerAt source = .ok edges) ↔
    ∀ s ∈ scriptSites source, ∃ caller, callerAt s.line = .ok caller := by
  constructor
  · rintro ⟨edges, found⟩ s hs
    obtain ⟨callerOf, known, -⟩ := exists_callers found
    exact ⟨_, known s hs⟩
  · intro known
    have each : ∀ s ∈ scriptSites source, ∃ c, (do return s.toEdge file (← callerAt s.line)) = .ok c := by
      intro s hs
      obtain ⟨caller, known⟩ := known s hs
      exact ⟨_, bind_eq_ok_iff.2 ⟨caller, known, rfl⟩⟩
    obtain ⟨calls, found⟩ := exists_mapM_iff.2 each
    exact ⟨_, by rw [scriptCalls_eq, found]; rfl⟩

lemma mem_scriptCalls (h : scriptCalls file callerAt source = .ok edges) (he : e ∈ edges) :
    e.file = file ∧ ∃ place, callerAt place = .ok e.caller := by
  obtain ⟨callerOf, known, rfl⟩ := exists_callers h
  obtain ⟨c, hc, same⟩ := CallEdge.mem_mergeAll he
  obtain ⟨s, hs, rfl⟩ := mem_map.1 hc
  exact ⟨same.1, s.line, same.caller_eq ▸ known s hs⟩

end

/-! ### The function around a line -/

namespace Symbol

def HasLine (s : Symbol) (line : Int) : Prop := s.firstLine ≤ line ∧ line ≤ s.lastLine

instance (s : Symbol) (line : Int) : Decidable (s.HasLine line) := inferInstanceAs (Decidable (_ ∧ _))

/-- The number of lines after the first one. -/
def span (s : Symbol) : Int := s.lastLine - s.firstLine

/-- What follows the last dot of the full name. -/
def lastName (s : Symbol) : String := String.ofList (Text.afterLast '.' s.id.toList)

end Symbol

def tighter (best : Option Symbol) (s : Symbol) : Option Symbol :=
  if best.all fun t => s.span < t.span then some s else best

def tightest? (symbols : List Symbol) (line : Int) : Option Symbol :=
  (symbols.filter fun s => s.HasLine line).foldl tighter none

lemma mem_of_foldl_tighter {best : Option Symbol} (h : symbols.foldl tighter best = some s) :
    s ∈ symbols ∨ best = some s := by
  induction symbols generalizing best with
  | nil => exact .inr h
  | cons t ts ih =>
    rcases ih h with later | here
    · exact .inl (mem_cons_of_mem t later)
    · rw [tighter] at here
      split_ifs at here
      · exact .inl (mem_cons.2 (.inl (Option.some.inj here).symm))
      · exact .inr here

lemma mem_of_tightest? (h : tightest? symbols line = some s) : s ∈ symbols :=
  (mem_filter.1 ((mem_of_foldl_tighter h).resolve_right nofun)).1

/-- A full name and the lines that it is for. -/
structure Extent where
  id : String
  first : Int
  last : Int

namespace Extent

def HasLine (x : Extent) (line : Int) : Prop := x.first ≤ line ∧ line ≤ x.last

instance (x : Extent) (line : Int) : Decidable (x.HasLine line) := inferInstanceAs (Decidable (_ ∧ _))

def span (x : Extent) : Int := x.last - x.first

def lastName (x : Extent) : String := String.ofList (Text.afterLast '.' x.id.toList)

/-- What a value tells of a symbol. -/
structure IsToldBy (x : Extent) (v : Value) : Prop where
  id : v.field "id" = .ok (.text x.id)
  first : v.getD "start_line" (.int 0) = .ok (.int x.first)
  last : v.getD "end_line" (.int 0) = .ok (.int x.last)

end Extent

/-- What is known of the tightest symbol while it is searched for. -/
def Tightest.of (best : Option Extent) : Tightest :=
  ⟨best.map Extent.lastName, (best.map fun x => Value.int x.span).getD (.float (1.0 / 0.0))⟩

lemma consider_told {x : Extent} {v : Value} (told : x.IsToldBy v) (best : Option Extent) :
    (Tightest.of best).consider line v =
      .ok (.of (if x.HasLine line ∧ best.all (x.span < ·.span) then some x else best)) := by
  have read : (Tightest.of best).consider line v =
      ((Value.int x.first).related .le (.int line) >>= fun first =>
        if first then (Value.int line).related .le (.int x.last) >>= fun last =>
          if last then (Value.int x.span).related .lt (Tightest.of best).span >>= fun tighter =>
            if tighter then .ok (.of (some x)) else .ok (.of best)
          else .ok (.of best)
        else .ok (.of best)) := by
    rw [Tightest.consider, told.first, told.last, told.id]
    rfl
  rw [read, Value.related_le, Value.related_le, ok_bind, ok_bind]
  by_cases first : x.first ≤ line
  · by_cases last : line ≤ x.last
    · rw [if_pos (decide_eq_true first), if_pos (decide_eq_true last)]
      cases best with
      | none => simp [Extent.HasLine, first, last]; rfl
      | some y =>
        change ((Value.int x.span).related .lt (.int y.span) >>= _) = _
        rw [Value.related_lt, ok_bind]
        by_cases tighter : x.span < y.span <;> simp [tighter, Extent.HasLine, first, last]
    · simp [Extent.HasLine, last]
  · simp [Extent.HasLine, first]

/-- What the symbol around a line is called, if there is one. -/
def callerName (name : Option String) : String := (name.filter (· ≠ "")).getD moduleLevel

lemma enclosing_of_considered {vs : List Value} {best : Option Extent}
    (considered : vs.foldlM (fun (best : Tightest) v => best.consider line v) (.of none) = .ok (.of best)) :
    enclosing vs line = .ok (callerName (best.map Extent.lastName)) := by
  have start : Tightest.mk none (.float (1.0 / 0.0)) = .of none := rfl
  rw [enclosing, start, considered, ok_bind, Tightest.of, callerName]
  generalize Option.map Extent.lastName _ = name
  cases name with
  | none => rfl
  | some n =>
    by_cases empty : n = ""
    · subst empty
      rfl
    · rw [Option.filter_some, if_pos (by simpa using empty)]
      simp

def Symbol.extent (s : Symbol) : Extent := ⟨s.id, s.firstLine, s.lastLine⟩

lemma Symbol.extent_isToldBy (s : Symbol) : s.extent.IsToldBy s.toValue := ⟨rfl, rfl, rfl⟩

/-- The function around a line is the tightest symbol around it, by its last name. -/
lemma enclosing_toValue (symbols : List Symbol) (line : Int) :
    enclosing (symbols.map Symbol.toValue) line =
      .ok ((((tightest? symbols line).map Symbol.lastName).filter (· ≠ "")).getD moduleLevel) := by
  have considered : ∀ best : Option Symbol, (symbols.map Symbol.toValue).foldlM
      (fun (best : Tightest) s => best.consider line s) (.of (best.map Symbol.extent)) = .ok (.of
        (((symbols.filter fun s => s.HasLine line).foldl tighter best).map Symbol.extent)) := by
    induction symbols with
    | nil => exact fun best => rfl
    | cons s ss ih =>
      intro best
      have step : (if s.extent.HasLine line ∧ (best.map Symbol.extent).all (s.extent.span < ·.span) then some s.extent
          else best.map Symbol.extent) = (if s.HasLine line then tighter best s else best).map Symbol.extent := by
        cases best <;> grind [tighter, Extent.HasLine, Symbol.HasLine, Extent.span, Symbol.span, Symbol.extent]
      rw [map_cons, foldlM_cons, consider_told s.extent_isToldBy, step, ok_bind, ih]
      split_ifs with inside <;> simp [inside]
  rw [enclosing_of_considered (considered none), tightest?, Option.map_map]
  rfl

/-! ### The tightest symbol -/

/-- A symbol is around a line, and none around it has fewer lines. -/
def Extent.IsTightest (x : Extent) (line : Int) (xs : List Extent) : Prop :=
  x.HasLine line ∧ ∀ y ∈ xs, y.HasLine line → x.span ≤ y.span

instance (x : Extent) (line : Int) (xs : List Extent) : Decidable (x.IsTightest line xs) :=
  inferInstanceAs (Decidable (_ ∧ _))

def firstTightest? (line : Int) (xs : List Extent) : Option Extent := xs.find? fun x => x.IsTightest line xs

/-- Symbols were inserted among others, all of one kind. -/
inductive Inserted (P : Extent → Prop) : List Extent → List Extent → Prop
  | nil : Inserted P [] []
  | keep {xs ys : List Extent} (x : Extent) : Inserted P xs ys → Inserted P (x :: xs) (x :: ys)
  | insert {xs ys : List Extent} {y : Extent} : P y → Inserted P xs ys → Inserted P xs (y :: ys)

/-- A symbol that is not around a line, or around all lines of the chosen one and one more. -/
def IsLooser (line : Int) (best : Option Extent) (y : Extent) : Prop :=
  ¬y.HasLine line ∨ ∃ x ∈ best, y.first < x.first ∧ x.last ≤ y.last ∨ y.first ≤ x.first ∧ x.last < y.last

section

variable {xs ys : List Extent} {x z : Extent} {vs ws : List Value} {P : Extent → Prop}

lemma isSome_firstTightest? (line : Int) (xs : List Extent) :
    (firstTightest? line xs).isSome ↔ ∃ x ∈ xs, x.HasLine line := by
  rw [firstTightest?, find?_isSome]
  constructor
  · rintro ⟨x, hx, tightest⟩
    exact ⟨x, hx, (of_decide_eq_true tightest).1⟩
  · rintro ⟨x, hx, here⟩
    obtain ⟨z, hz, least⟩ := Set.exists_min_image {y | y ∈ xs ∧ y.HasLine line} Extent.span
      (xs.finite_toSet.subset fun _ h => h.1) ⟨x, hx, here⟩
    exact ⟨z, hz.1, decide_eq_true ⟨hz.2, fun y hy has => least y ⟨hy, has⟩⟩⟩

lemma not_hasLine_of_none (none : firstTightest? line xs = none) : ∀ y ∈ xs, ¬y.HasLine line := by
  simpa [none] using isSome_firstTightest? line xs

lemma firstTightest?_concat (xs : List Extent) (x : Extent) :
    firstTightest? line (xs ++ [x]) = if x.HasLine line ∧ (firstTightest? line xs).all (x.span < ·.span) then some x
      else firstTightest? line xs := by
  cases found : firstTightest? line xs with
  | none =>
    have outside := not_hasLine_of_none found
    grind [firstTightest?, Extent.IsTightest]
  | some z =>
    have tightest : z.IsTightest line xs := by simpa using find?_some found
    have chosen : z ∈ xs := mem_of_find?_eq_some found
    by_cases tighter : x.HasLine line ∧ x.span < z.span
    · have looser : ∀ y ∈ xs, ¬y.IsTightest line (xs ++ [x]) := by grind [Extent.IsTightest]
      grind [firstTightest?, Extent.IsTightest]
    · have same : xs.find? (fun y => y.IsTightest line (xs ++ [x])) = some z := by
        rw [← found, firstTightest?]
        exact find?_congr fun y hy => decide_eq_decide.2 (by grind [Extent.IsTightest])
      rw [firstTightest?, find?_append, same, if_neg (by simpa using tighter), Option.some_or]

lemma foldlM_consider (line : Int) (told : Forall₂ Extent.IsToldBy ys vs) (xs : List Extent) :
    vs.foldlM (fun (best : Tightest) v => best.consider line v) (.of (firstTightest? line xs)) =
      .ok (.of (firstTightest? line (xs ++ ys))) := by
  induction told generalizing xs with
  | nil => simp [pure, Except.pure]
  | cons here _ ih => rw [foldlM_cons, consider_told here, ok_bind, ← firstTightest?_concat, ih, append_assoc, singleton_append]

lemma Inserted.mem (more : Inserted P xs ys) : (∀ y ∈ xs, y ∈ ys) ∧ ∀ y ∈ ys, y ∈ xs ∨ P y := by
  induction more with
  | nil => simp
  | keep x _ ih => grind
  | insert added _ ih => grind

lemma Inserted.find?_eq {p q : Extent → Bool} (more : Inserted P xs ys) (added : ∀ y, P y → ¬q y)
    (kept : ∀ x ∈ xs, q x = p x) : ys.find? q = xs.find? p := by
  induction more with
  | nil => rfl
  | keep x _ ih => grind
  | insert here _ ih => grind

lemma firstTightest?_inserted (more : Inserted (IsLooser line (firstTightest? line xs)) xs ys) :
    firstTightest? line ys = firstTightest? line xs := by
  obtain ⟨kept, added⟩ := more.mem
  cases found : firstTightest? line xs with
  | none =>
    have outside := not_hasLine_of_none found
    rw [← found]
    refine more.find?_eq (fun y looser => ?_) fun x hx => ?_ <;> grind [IsLooser, Extent.IsTightest]
  | some z =>
    have tightest : z.IsTightest line xs := by simpa using find?_some found
    have chosen : z ∈ ys := kept z (mem_of_find?_eq_some found)
    rw [found] at more added
    have wider {y : Extent} (looser : IsLooser line (some z) y) (has : y.HasLine line) : z.span < y.span := by
      obtain ⟨_, ⟨⟩, wider⟩ := looser.resolve_left (not_not.2 has)
      simp only [Extent.span]
      omega
    rw [← found]
    refine more.find?_eq (fun y looser => ?_) fun x hx => ?_ <;> grind [Extent.IsTightest]

/-- A line is in the first of the tightest symbols around it, whatever looser ones are inserted. -/
theorem enclosing_is_tightest (told : Forall₂ Extent.IsToldBy xs vs) (line : Int) :
    ((firstTightest? line xs).isSome ↔ ∃ x ∈ xs, x.HasLine line) ∧
      enclosing vs line = .ok (callerName ((firstTightest? line xs).map Extent.lastName)) ∧
      ∀ ys ws, Inserted (IsLooser line (firstTightest? line xs)) xs ys → Forall₂ Extent.IsToldBy ys ws →
        enclosing ws line = enclosing vs line := by
  have name {xs vs} (told : Forall₂ Extent.IsToldBy xs vs) := enclosing_of_considered (foldlM_consider line told [])
  refine ⟨isSome_firstTightest? line xs, name told, fun ys ws more told' => ?_⟩
  rw [name told', name told]
  simp only [nil_append, firstTightest?_inserted more]

end

theorem enclosing_is_tightest_nested : enclosing ([⟨"m.outer", "m", 1, 9, none⟩, ⟨"m.inner", "m", 2, 3, none⟩,
    ⟨"m.later", "m", 7, 8, none⟩].map Symbol.toValue) 2 = .ok "inner" := by
  have told (ss : List Symbol) : Forall₂ Extent.IsToldBy (ss.map Symbol.extent) (ss.map Symbol.toValue) := by
    rw [forall₂_map_left_iff, forall₂_map_right_iff]
    exact forall₂_same.2 fun s _ => s.extent_isToldBy
  obtain ⟨-, name, same⟩ := enclosing_is_tightest (told [⟨"m.inner", "m", 2, 3, none⟩]) 2
  refine (same _ _ ?_ (told _)).trans name
  exact .insert (.inr ⟨_, rfl, .inl (by decide)⟩) (.keep _ (.insert (.inl (by decide)) .nil))

lemma caller_of_enclosing {name : String}
    (h : enclosing (symbols.map Symbol.toValue) line = .ok name) :
    name = moduleLevel ∨ ∃ s ∈ symbols, name = s.lastName := by
  rw [enclosing_toValue, Except.ok.injEq] at h
  cases found : (((tightest? symbols line).map Symbol.lastName).filter (· ≠ "")) with
  | none =>
    rw [found] at h
    exact .inl h.symm
  | some n =>
    rw [found] at h
    obtain ⟨s, tightest, last⟩ := Option.map_eq_some_iff.1 (Option.filter_eq_some_iff.1 found).1
    exact .inr ⟨s, mem_of_tightest? tightest, h.symm.trans last.symm⟩

/-! ### Calls of a file -/

lemma SourceFile.calls_caller {project : Location} {app : String} {f : SourceFile} {g : FileFindings}
    (hg : f.findings app = .ok g) (h : f.calls project app = .ok calls) (he : e ∈ calls) :
    e.file = (f.origin app).file ∧
      (e.caller = moduleLevel ∨ ∃ s ∈ g.symbols, IsLastName e.caller s.id) := by
  unfold findings at hg
  unfold SourceFile.calls at h
  cases language : f.language with
  | python =>
    rw [language] at hg h
    obtain ⟨nodes, read, rfl⟩ := sourceFindings_eq_ok hg
    obtain ⟨nodes', read', inFile, name, span, parameters, body, decorators, returns, met, caller⟩ :=
      mem_sourceCalls h he
    obtain rfl : nodes = nodes' := Except.ok.inj (read.symm.trans read')
    refine ⟨inFile, .inr ⟨_, mem_flatMap.2 ⟨_, met, mem_singleton_self _⟩, ?_⟩⟩
    rw [caller]
    exact ⟨no_dot_in_identifier name, _, rfl⟩
  | script =>
    rw [language] at hg h
    obtain rfl := Except.ok.inj hg
    obtain ⟨inFile, place, caller⟩ := mem_scriptCalls h he
    refine ⟨inFile, (caller_of_enclosing caller).imp_right ?_⟩
    rintro ⟨s, hs, last⟩
    obtain ⟨name, named⟩ := (mem_lineSymbols hs).2
    rw [last]
    exact ⟨s, hs, isLastName_afterLast (by simp [named])⟩

end Unbundle.Analysis
