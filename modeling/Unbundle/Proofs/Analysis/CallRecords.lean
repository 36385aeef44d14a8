import Mathlib.Data.List.Induction
import Unbundle.Analysis.Report
import Unbundle.Proofs.Outcome

/-!
# Records of calls

Entry points and edges may come from an analysis or from someone else. The record of an entry point depends
on nothing but the edges from its handler: it has one callee for each module and symbol that they reach.
-/

open List

namespace Unbundle.Analysis

/-! ### Edges and entry points as values -/

/-- An edge and a value that tells of it. A flag that the value leaves out is not set. -/
structure ToldEdge extends CallEdge where
  value : Value
  told_file : value.field "caller_file" = .ok (.text file)
  told_caller : value.field "caller_function" = .ok (.text caller)
  told_target : value.field "callee_module" = .ok (.text target)
  told_symbol : value.field "callee_symbol" = .ok (.text symbol)
  told_used : value.getD "return_value_used" (.bool false) = .ok (.bool used)
  told_awaited : value.getD "is_awaited" (.bool false) = .ok (.bool awaited)

/-- An entry point and a value that tells of it. The name of a handler that is left out, or is nothing, is
empty. -/
structure ToldEntry extends EntryPoint where
  value : Value
  told_file : value.field "file" = .ok (.text file)
  told_method : value.field "method" = .ok (.text method)
  told_path : value.field "path" = .ok (.text path)
  told_handler : ∃ h, value.get "handler_function" = .ok h ∧
    (h = .text handler ∨ h.truthy = false ∧ handler = "")

def CallEdge.told (e : CallEdge) : ToldEdge := ⟨e, e.toValue, rfl, rfl, rfl, rfl, rfl, rfl⟩

def EntryPoint.told (e : EntryPoint) : ToldEntry := ⟨e, e.toValue, rfl, rfl, rfl, _, rfl, .inl rfl⟩

/-! ### Edges by caller -/

def textKey (k : String × String) : Value × Value := (.text k.1, .text k.2)

@[simp] lemma sameKey_textKey {k l : String × String} :
    sameKey (textKey k) (textKey l) = true ↔ k = l := by
  simp [sameKey, textKey, Value.same, Prod.ext_iff]

namespace Groups

/-- The keys of all groups are texts. -/
def KeyedByText (groups : Groups) : Prop := ∀ p ∈ groups, ∃ k, p.1 = textKey k

lemma keyedByText_add {groups : Groups} (texts : groups.KeyedByText) (k : String × String)
    (v : Value) : (groups.add (textKey k) v).KeyedByText := by
  induction groups with
  | nil => exact forall_mem_singleton.2 ⟨k, rfl⟩
  | cons p rest ih =>
    have first := texts _ mem_cons_self
    have others : KeyedByText rest := fun q hq => texts q (mem_cons_of_mem _ hq)
    rw [add]
    split_ifs
    · exact forall_mem_cons.2 ⟨first, others⟩
    · exact forall_mem_cons.2 ⟨first, ih others⟩

lemma members_add {groups : Groups} (texts : groups.KeyedByText) (k l : String × String)
    (v : Value) :
    (groups.add (textKey k) v).members (textKey l) =
      groups.members (textKey l) ++ if k = l then [v] else [] := by
  induction groups with
  | nil => by_cases h : k = l <;> simp [add, members]
  | cons p rest ih =>
    obtain ⟨key, vs⟩ := p
    obtain ⟨j, rfl⟩ : ∃ j, key = textKey j := texts _ mem_cons_self
    have ih := ih fun q hq => texts q (mem_cons_of_mem _ hq)
    by_cases hk : j = k
    · subst hk
      by_cases hl : j = l <;> simp [add, members, hl]
    · by_cases hl : j = l
      · subst hl
        simp [add, members, hk, Ne.symm hk]
      · simp [add, members, hk, hl, ih]

end Groups

namespace CallEdge

def source (e : CallEdge) : String × String := (e.file, e.caller)

def reached (e : CallEdge) : String × String := (e.target, e.symbol)

def callee (e : CallEdge) : Callee :=
  ⟨.text e.target, .text e.symbol, .bool e.used, .bool e.awaited⟩

end CallEdge

def groupedCalls (edges : List ToldEdge) : Groups :=
  edges.foldl (fun groups e => groups.add (textKey e.source) e.value) []

lemma edgesByCaller_eq (edges : List ToldEdge) :
    edgesByCaller (edges.map ToldEdge.value) = .ok (groupedCalls edges) := by
  rw [edgesByCaller, groupedCalls]
  generalize ([] : Groups) = groups
  induction edges generalizing groups with
  | nil => rfl
  | cons e es ih =>
    rw [map_cons, foldlM_cons, e.told_file, e.told_caller]
    exact ih _

lemma groupedCalls_concat (es : List ToldEdge) (e : ToldEdge) :
    groupedCalls (es ++ [e]) = (groupedCalls es).add (textKey e.source) e.value := by
  simp [groupedCalls]

lemma keyedByText_groupedCalls (edges : List ToldEdge) : (groupedCalls edges).KeyedByText := by
  induction edges using reverseRecOn with
  | nil => simp [groupedCalls, Groups.KeyedByText]
  | append_singleton es e ih =>
    rw [groupedCalls_concat]
    exact Groups.keyedByText_add ih _ _

lemma members_groupedCalls (edges : List ToldEdge) (k : String × String) :
    (groupedCalls edges).members (textKey k) =
      (edges.filter fun e => e.source = k).map ToldEdge.value := by
  induction edges using reverseRecOn with
  | nil => rfl
  | append_singleton es e ih =>
    rw [groupedCalls_concat, Groups.members_add (keyedByText_groupedCalls es), ih]
    by_cases h : e.source = k <;> simp [h]

/-! ### Callees -/

def calleesOf (edges : List CallEdge) : List Callee :=
  edges.foldl (fun cs e => Callee.join e.callee cs) []

lemma callees_eq (edges : List ToldEdge) :
    callees (edges.map ToldEdge.value) = .ok (calleesOf (edges.map ToldEdge.toCallEdge)) := by
  rw [callees, calleesOf]
  generalize ([] : List Callee) = cs
  induction edges generalizing cs with
  | nil => rfl
  | cons e es ih =>
    rw [map_cons, foldlM_cons, e.told_target, e.told_symbol, e.told_used, e.told_awaited]
    exact ih _

def joined (edges : List CallEdge) (k : String × String) : Callee :=
  ⟨.text k.1, .text k.2, .bool (edges.any fun e => e.reached = k && e.used),
    .bool (edges.any fun e => e.reached = k && e.awaited)⟩

lemma nodup_eraseDups {α : Type} [BEq α] [LawfulBEq α] (xs : List α) : xs.eraseDups.Nodup := by
  induction n : xs.length using Nat.strongRecOn generalizing xs with
  | ind n ih =>
    cases xs with
    | nil => simp
    | cons x xs =>
      rw [eraseDups_cons, nodup_cons]
      refine ⟨by simp, ih _ ?_ _ rfl⟩
      subst n
      exact Nat.lt_succ_of_le (length_filter_le _ xs)

lemma eraseDups_concat {α : Type} [BEq α] [LawfulBEq α] (xs : List α) (x : α) :
    (xs ++ [x]).eraseDups = xs.eraseDups ++ if x ∈ xs.eraseDups then [] else [x] := by
  rw [eraseDups_append, removeAll]
  by_cases known : x ∈ xs <;> simp [known, eraseDups_cons]

lemma join_joined (e : CallEdge) (edges : List CallEdge) {ks : List (String × String)} (distinct : ks.Nodup) :
    Callee.join e.callee (ks.map (joined edges)) =
      ks.map (joined (edges ++ [e])) ++ if e.reached ∈ ks then [] else [e.callee] := by
  induction ks with
  | nil => rfl
  | cons k ks ih =>
    obtain ⟨fresh, distinct⟩ := nodup_cons.1 distinct
    have key : sameKey ((joined edges k).target, (joined edges k).symbol)
        (e.callee.target, e.callee.symbol) = true ↔ k = e.reached :=
      @sameKey_textKey k e.reached
    have others : ∀ l, l ≠ e.reached → joined (edges ++ [e]) l = joined edges l := by
      intro l other
      simp [Ne.symm other, joined]
    rw [map_cons, Callee.join]
    by_cases same : k = e.reached
    · subst same
      have rest : ks.map (joined (edges ++ [e])) = ks.map (joined edges) :=
        map_congr_left fun l hl => others l fun eq => fresh (eq ▸ hl)
      rw [if_pos (key.2 rfl), map_cons, rest]
      cases used : e.used <;> cases awaited : e.awaited <;>
        simp [joined, CallEdge.callee, Value.truthy, used, awaited]
    · rw [if_neg (mt key.1 same), ih distinct, map_cons, others k same]
      simp [Ne.symm same]

/-- There is one callee for each module and symbol, in the order of their first edges. -/
lemma calleesOf_eq (edges : List CallEdge) :
    calleesOf edges = (edges.map CallEdge.reached).eraseDups.map (joined edges) := by
  induction edges using reverseRecOn with
  | nil => rfl
  | append_singleton es e ih =>
    have fold : calleesOf (es ++ [e]) = Callee.join e.callee (calleesOf es) := by simp [calleesOf]
    rw [fold, ih, join_joined e es (nodup_eraseDups _), map_append, map_singleton, eraseDups_concat,
      map_append]
    split_ifs with known
    · rfl
    · have unset : ∀ flag : CallEdge → Bool, (es.any fun d => d.reached = e.reached && flag d) = false := by
        intro flag
        refine any_eq_false.2 fun d hd set => known ?_
        obtain ⟨same, -⟩ : d.reached = e.reached ∧ flag d = true := by simpa using set
        exact mem_eraseDups.2 (mem_map.2 ⟨d, hd, same⟩)
      rw [map_singleton, joined, any_append, any_append, unset, unset]
      simp [CallEdge.callee, CallEdge.reached]

lemma calleesOf_append_copies {edges copies : List CallEdge} (there : copies ⊆ edges) :
    calleesOf (edges ++ copies) = calleesOf edges := by
  have none : (copies.map CallEdge.reached).removeAll (edges.map CallEdge.reached) = [] := by
    refine filter_eq_nil_iff.2 fun k hk => ?_
    simpa using map_subset CallEdge.reached there hk
  have flags : ∀ p, (edges ++ copies).any p = edges.any p := by
    intro p
    rw [any_append, Bool.or_eq_left_iff_imp, any_eq_true, any_eq_true]
    exact fun ⟨e, he, holds⟩ => ⟨e, there he, holds⟩
  rw [calleesOf_eq, calleesOf_eq, map_append, eraseDups_append, none, eraseDups_nil,
    append_nil]
  refine map_congr_left fun k _ => ?_
  rw [joined, joined, flags, flags]

/-- The module and the symbol that a callee is. -/
def Callee.Reaches (p : String × String) (c : Callee) : Prop :=
  c.target = .text p.1 ∧ c.symbol = .text p.2

/-- A callee is one that some edge reaches, and has flags. -/
structure Callee.IsOf (c : Callee) (edges : List CallEdge) : Prop where
  reached : ∃ e ∈ edges, c.target = .text e.target ∧ c.symbol = .text e.symbol
  used : ∃ b, c.used = .bool b
  awaited : ∃ b, c.awaited = .bool b

lemma isOf_of_mem_calleesOf {edges : List CallEdge} {c : Callee} (h : c ∈ calleesOf edges) :
    c.IsOf edges := by
  rw [calleesOf_eq] at h
  obtain ⟨k, hk, rfl⟩ := mem_map.1 h
  obtain ⟨e, he, rfl⟩ := mem_map.1 (mem_eraseDups.1 hk)
  exact ⟨⟨e, he, rfl, rfl⟩, ⟨_, rfl⟩, ⟨_, rfl⟩⟩

lemma exists_mem_calleesOf_iff {edges : List CallEdge} {p : String × String} :
    (∃ c ∈ calleesOf edges, c.Reaches p) ↔ ∃ e ∈ edges, (e.target, e.symbol) = p := by
  constructor
  · rintro ⟨c, hc, target, symbol⟩
    obtain ⟨e, he, target', symbol'⟩ := (isOf_of_mem_calleesOf hc).reached
    rw [target', Value.text.injEq] at target
    rw [symbol', Value.text.injEq] at symbol
    exact ⟨e, he, Prod.ext target symbol⟩
  · rintro ⟨e, he, rfl⟩
    rw [calleesOf_eq]
    exact ⟨_, mem_map_of_mem (mem_eraseDups.2 (mem_map_of_mem he)), rfl, rfl⟩

/-! ### Records of entry points -/

namespace EntryPoint

def callRecord (e : EntryPoint) (cs : List Callee) : Value :=
  .map [("entry_point", .map [("method", .text e.method), ("path", .text e.path),
      ("file", .text e.file)]),
    ("handler_function", .text e.handler),
    ("cross_file_calls", .list (cs.map Callee.toValue))]

def edges (calls : List CallEdge) (e : EntryPoint) : List CallEdge :=
  calls.filter fun d => (d.file, d.caller) = (e.file, e.handler)

def record? (calls : List CallEdge) (e : EntryPoint) : Option Value :=
  if e.handler = "" ∨ e.edges calls = [] then none
  else some (e.callRecord (calleesOf (e.edges calls)))

lemma record?_congr {calls calls' : List CallEdge} {e : EntryPoint}
    (h : e.edges calls = e.edges calls') : e.record? calls = e.record? calls' := by
  rw [record?, record?, h]

lemma record?_append_copies {calls copies : List CallEdge} (there : copies ⊆ calls) (e : EntryPoint) :
    e.record? (calls ++ copies) = e.record? calls := by
  have both : e.edges (calls ++ copies) = e.edges calls ++ e.edges copies := filter_append ..
  have more : e.edges copies ⊆ e.edges calls := filter_subset _ there
  have empty : e.edges calls = [] → e.edges copies = [] := fun none => eq_nil_of_subset_nil (none ▸ more)
  simp [record?, both, calleesOf_append_copies more, and_iff_left_of_imp empty]

end EntryPoint

lemma entryCalls_groupedCalls (edges : List ToldEdge) (e : ToldEntry) :
    entryCalls (groupedCalls edges) e.value = .ok (e.record? (edges.map ToldEdge.toCallEdge)) := by
  obtain ⟨h, field, named⟩ := e.told_handler
  have key : pairKey (.text e.file) (.text e.handler) = .ok (textKey (e.file, e.handler)) := rfl
  have own : e.edges (edges.map ToldEdge.toCallEdge) =
      (edges.filter fun d => d.source = (e.file, e.handler)).map ToldEdge.toCallEdge := filter_map
  rw [entryCalls, field, ok_bind, EntryPoint.record?, own]
  by_cases unnamed : e.handler = ""
  · have none : h.truthy = false := named.elim (fun text => by simp [text, unnamed, Value.truthy]) And.left
    simp [none, unnamed, pure, Except.pure]
  · obtain rfl := named.resolve_right fun ⟨_, empty⟩ => unnamed empty
    have members := members_groupedCalls edges (e.file, e.handler)
    simp only [e.told_file, e.told_method, e.told_path, key, ok_bind, members]
    cases called : edges.filter fun d => d.source = (e.file, e.handler) with
    | nil => simp [pure, Except.pure]
    | cons d ds =>
      have found := callees_eq (d :: ds)
      rw [map_cons] at found
      simp only [map_cons, found]
      simp [unnamed, Value.truthy]
      rfl

lemma callMap_eq (entries : List ToldEntry) (edges : List ToldEdge) :
    callMap (.list (entries.map ToldEntry.value)) (.list (edges.map ToldEdge.value)) =
      .ok (entries.filterMap fun e => e.record? (edges.map ToldEdge.toCallEdge)) := by
  rw [callMap]
  cases edges with
  | nil =>
    simp [EntryPoint.record?, EntryPoint.edges, Value.truthy, pure, Except.pure]
  | cons d ds =>
    have each : (entries.map ToldEntry.value).mapM (entryCalls (groupedCalls (d :: ds))) =
        .ok (entries.map fun e => e.record? ((d :: ds).map ToldEdge.toCallEdge)) := by
      rw [mapM_eq_ok_iff, forall₂_map_left_iff, forall₂_map_right_iff, forall₂_same]
      exact fun e _ => entryCalls_groupedCalls (d :: ds) e
    refine bind_eq_ok_iff.2 ⟨_, rfl, bind_eq_ok_iff.2 ⟨_, edgesByCaller_eq (d :: ds), ?_⟩⟩
    refine bind_eq_ok_iff.2 ⟨_, rfl, bind_eq_ok_iff.2 ⟨_, each, ?_⟩⟩
    rw [filterMap_map]
    rfl

def toldCallMap (entries : List ToldEntry) (edges : List ToldEdge) : Except Fault (List Value) :=
  callMap (.list (entries.map ToldEntry.value)) (.list (edges.map ToldEdge.value))

/-- The call map has, in their order, the records of the entry points whose handler has a name and an edge.
Each has one callee for each module and symbol that the edges from the handler reach, in the order of their
first edges, and with the flags that these edges set. So copies of edges change nothing, and neither does an
order in which the edges of each function stay as they are. -/
theorem callMap_aggregates (entries : List ToldEntry) (edges : List ToldEdge) :
    toldCallMap entries edges =
      .ok ((entries.filter fun p => p.handler ≠ "" ∧ ∃ e ∈ edges, e.source = (p.file, p.handler)).map fun p =>
        let own := (edges.filter fun e => e.source = (p.file, p.handler)).map ToldEdge.toCallEdge
        p.callRecord ((own.map CallEdge.reached).eraseDups.map (joined own))) ∧
    (∀ copies ⊆ edges, toldCallMap entries (edges ++ copies) = toldCallMap entries edges) ∧
    ∀ edges', (∀ k, (edges'.filter fun e => e.source = k) = edges.filter fun e => e.source = k) →
      toldCallMap entries edges' = toldCallMap entries edges := by
  have own (p : ToldEntry) (edges : List ToldEdge) : p.edges (edges.map ToldEdge.toCallEdge) =
      (edges.filter fun e => e.source = (p.file, p.handler)).map ToldEdge.toCallEdge := filter_map
  simp only [toldCallMap, callMap_eq]
  refine ⟨?_, fun copies there => ?_, fun edges' same => ?_⟩
  · refine congrArg _ (Eq.trans ?_ (filterMap_filter.symm.trans (congrFun filterMap_eq_map _)))
    refine filterMap_congr fun p _ => ?_
    rw [EntryPoint.record?, own, calleesOf_eq]
    by_cases called : p.handler ≠ "" ∧ ∃ e ∈ edges, e.source = (p.file, p.handler)
    · rw [if_neg (by simpa using called), if_pos (decide_eq_true called)]
      rfl
    · rw [if_pos (by simpa [or_iff_not_imp_left] using called), if_neg (by simpa using called)]
  · refine congrArg _ (filterMap_congr fun p _ => ?_)
    rw [map_append, EntryPoint.record?_append_copies (map_subset _ there)]
  · refine congrArg _ (filterMap_congr fun p _ => EntryPoint.record?_congr ?_)
    rw [own, own, same]

def bareEdge : ToldEdge where
  toCallEdge := ⟨"a.py", "f", 0, "m", "g", false, false⟩
  value := .map [("caller_file", .text "a.py"), ("caller_function", .text "f"), ("callee_module", .text "m"),
    ("callee_symbol", .text "g")]
  told_file := rfl
  told_caller := rfl
  told_target := rfl
  told_symbol := rfl
  told_used := rfl
  told_awaited := rfl

def servedByF : EntryPoint := ⟨"a.py", "GET", "/", "f"⟩

theorem callMap_aggregates_copy :
    [bareEdge] ⊆ [bareEdge, CallEdge.told ⟨"a.py", "f", 3, "m", "g", true, false⟩] ∧
    toldCallMap [servedByF.told]
        ([bareEdge, CallEdge.told ⟨"a.py", "f", 3, "m", "g", true, false⟩] ++ [bareEdge]) =
      .ok [servedByF.callRecord [⟨.text "m", .text "g", .bool true, .bool false⟩]] := by
  have there : [bareEdge] ⊆ [bareEdge, CallEdge.told ⟨"a.py", "f", 3, "m", "g", true, false⟩] := by simp
  obtain ⟨records, copies, -⟩ :=
    callMap_aggregates [servedByF.told] [bareEdge, CallEdge.told ⟨"a.py", "f", 3, "m", "g", true, false⟩]
  exact ⟨there, (copies _ there).trans (records.trans rfl)⟩

lemma callMap_toValue (entries : List EntryPoint) (calls : List CallEdge) :
    callMap (.list (entries.map EntryPoint.toValue)) (.list (calls.map CallEdge.toValue)) =
      .ok (entries.filterMap (EntryPoint.record? calls)) := by
  have told := callMap_eq (entries.map EntryPoint.told) (calls.map CallEdge.told)
  simpa only [map_map, filterMap_map, Function.comp_def, EntryPoint.told, CallEdge.told,
    map_id'] using told

lemma mem_callMap {entries : List EntryPoint} {calls : List CallEdge} {records : List Value}
    (h : callMap (.list (entries.map EntryPoint.toValue)) (.list (calls.map CallEdge.toValue)) =
      .ok records) {v : Value} (hv : v ∈ records) :
    ∃ e ∈ entries, ∃ cs, v = e.callRecord cs ∧ ∀ c ∈ cs, c.IsOf (e.edges calls) := by
  obtain rfl := Except.ok.inj ((callMap_toValue entries calls).symm.trans h)
  obtain ⟨e, he, record⟩ := mem_filterMap.1 hv
  rw [EntryPoint.record?] at record
  split_ifs at record
  exact ⟨e, he, _, (Option.some.inj record).symm, fun c hc => isOf_of_mem_calleesOf hc⟩

end Unbundle.Analysis
