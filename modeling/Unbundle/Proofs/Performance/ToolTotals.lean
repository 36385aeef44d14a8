import Mathlib.Algebra.BigOperators.Group.List.Lemmas
import Mathlib.Algebra.Order.Ring.Int
import Mathlib.Data.List.Chain
import Unbundle.Performance.Review
import Unbundle.Proofs.Value.Conversion

/-!
# Calls by tool

The calls are gathered by tool in the order of first calls, and the tools are then sorted by falling times.
Sorting takes a run at the start as it is and puts each later item into its place, so that items with equal
keys stay in their order.
-/

open List Unbundle.Printing String Unbundle.Value Unbundle.Number

namespace Unbundle.Value

lemma addAs_int (sign : String) (m n : Int) : (int m).addAs sign (.int n) = .ok (.int (m + n)) := rfl

/-! ### Sorting -/

section

variable {α β : Type} {less : Less β} {g : α → β} {f : α → Int} {S : α → α → Prop} {x : α} {xs ys : List α}
  {lo hi : Nat}

def Before (f : α → Int) (S : α → α → Prop) (a b : α) : Prop := f a < f b ∨ f a = f b ∧ S a b

def Sorts (g : α → β) (f : α → Int) (S : α → α → Prop) (xs : List α) (outcome : Except Fault (List β)) : Prop :=
  ∃ ys : List α, outcome = .ok (ys.map g) ∧ ys.Perm xs ∧ ys.Pairwise (Before f S)

variable (told : ∀ a b, less (g a) (g b) = .ok (decide (f a < f b)))

include told

lemma exists_runLength (falling : Bool) (x : α) (xs : List α) : ∃ n, runLength less falling (g x) (xs.map g) = .ok n ∧
    (x :: xs.take n).IsChain fun a b => decide (f b < f a) = falling := by
  induction xs generalizing x with
  | nil => exact ⟨0, rfl, .singleton x⟩
  | cons y xs ih =>
    rw [map_cons, runLength, told, ok_bind]
    by_cases goes : decide (f y < f x) = falling
    · obtain ⟨n, counted, chain⟩ := ih y
      rw [if_pos (beq_iff_eq.2 goes), counted]
      exact ⟨n + 1, rfl, .cons_cons goes chain⟩
    · exact ⟨0, if_neg (mt beq_iff_eq.1 goes), .singleton x⟩

/-- Halving finds the place between the items that are not larger and the larger ones. -/
lemma exists_placeOf (sorted : xs.Pairwise fun a b => f a ≤ f b) (ordered : lo ≤ hi) (inside : hi ≤ xs.length)
    (low : ∀ y ∈ xs.take lo, f y ≤ f x) (high : ∀ y ∈ xs.drop hi, f x < f y) :
    ∃ i, placeOf less (g x) (xs.map g) lo hi = .ok i ∧ (∀ y ∈ xs.take i, f y ≤ f x) ∧ ∀ y ∈ xs.drop i, f x < f y := by
  fun_induction placeOf less (g x) (xs.map g) lo hi with
  | case1 lo hi _ mid none =>
    rw [getElem?_eq_none_iff, List.length_map] at none
    omega
  | case2 lo hi _ mid z found ihLow ihHigh =>
    have bound : mid < xs.length := by omega
    rw [getElem?_map, getElem?_eq_getElem bound] at found
    obtain rfl := Option.some.inj found
    rw [← take_append_drop mid xs, drop_eq_getElem_cons bound, pairwise_append, pairwise_cons] at sorted
    obtain ⟨-, ⟨after, -⟩, cross⟩ := sorted
    rw [told]
    by_cases less : f x < f xs[mid]
    · rw [decide_eq_true less]
      refine ihLow (by omega) (by omega) low fun y hy => ?_
      rw [drop_eq_getElem_cons bound] at hy
      rcases mem_cons.1 hy with rfl | hy
      · exact less
      · exact less.trans_le (after y hy)
    · rw [decide_eq_false less]
      refine ihHigh (by omega) inside (fun y hy => ?_) high
      rw [take_succ_eq_append_getElem bound] at hy
      rcases mem_append.1 hy with hy | hy
      · exact (cross y hy _ mem_cons_self).trans (not_lt.1 less)
      · exact mem_singleton.1 hy ▸ not_lt.1 less
  | case3 lo hi closed =>
    obtain rfl : lo = hi := by omega
    exact ⟨lo, rfl, low, high⟩

lemma sorts_insertSorted (sorted : xs.Pairwise (Before f S)) (last : ∀ y ∈ xs, S y x) :
    Sorts g f S (xs ++ [x]) (insertSorted less (xs.map g) (g x)) := by
  obtain ⟨i, placed, low, high⟩ := exists_placeOf told
    (sorted.imp fun before => before.elim le_of_lt fun same => same.1.le) xs.length.zero_le le_rfl (by simp) (by simp)
  obtain ⟨first, second, cross⟩ := pairwise_append.1 (take_append_drop i xs ▸ sorted)
  refine ⟨xs.take i ++ x :: xs.drop i, ?_, ?_, ?_⟩
  · rw [insertSorted, List.length_map, placed, ok_bind]
    simp [pure, Except.pure]
  · have moved : (xs.take i ++ x :: xs.drop i).Perm (xs.take i ++ xs.drop i ++ [x]) :=
      perm_middle.trans (perm_append_singleton ..).symm
    rwa [take_append_drop] at moved
  · refine pairwise_append.2 ⟨first, pairwise_cons.2 ⟨fun y hy => .inl (high y hy), second⟩, fun y hy z hz => ?_⟩
    rcases mem_cons.1 hz with rfl | hz
    · exact (low y hy).lt_or_eq.imp_right fun same => ⟨same, last y (mem_of_mem_take hy)⟩
    · exact cross y hy z hz

lemma sorts_foldlM (sorted : xs.Pairwise (Before f S)) (ordered : ys.Pairwise S) (last : ∀ x ∈ xs, ∀ y ∈ ys, S x y) :
    Sorts g f S (xs ++ ys) ((ys.map g).foldlM (insertSorted less) (xs.map g)) := by
  induction ys generalizing xs with
  | nil => exact ⟨xs, rfl, by simp, sorted⟩
  | cons y ys ih =>
    obtain ⟨first, ordered⟩ := pairwise_cons.1 ordered
    obtain ⟨zs, inserted, perm, sorted⟩ := sorts_insertSorted told sorted fun x hx => last x hx y mem_cons_self
    have after : ∀ a ∈ zs, ∀ b ∈ ys, S a b := by
      intro a ha b hb
      rcases mem_append.1 (perm.mem_iff.1 ha) with ha | ha
      · exact last a ha b (mem_cons_of_mem y hb)
      · exact mem_singleton.1 ha ▸ first b hb
    obtain ⟨all, rest, perm', sorted⟩ := ih sorted ordered after
    refine ⟨all, by rw [map_cons, foldlM_cons, inserted, ok_bind, rest], perm'.trans ?_, sorted⟩
    simpa using perm.append_right ys

/-- Sorting keeps the order of items whose numbers are the same. -/
lemma sorts_sortWith (ordered : xs.Pairwise S) : Sorts g f S xs (sortWith less (xs.map g)) := by
  rcases xs with _ | ⟨x, _ | ⟨y, rest⟩⟩
  · exact ⟨[], rfl, .nil, .nil⟩
  · exact ⟨[x], rfl, .rfl, by simp⟩
  · obtain ⟨n, counted, chain⟩ := exists_runLength told (decide (f y < f x)) y rest
    have run : ((x :: y :: rest).take (n + 2)).IsChain fun a b => decide (f b < f a) = decide (f y < f x) :=
      .cons_cons rfl chain
    rw [map_cons, map_cons, sortWith, told, ok_bind, counted, ← map_cons, ← map_cons]
    generalize x :: y :: rest = all at *
    generalize decide (f y < f x) = falling at *
    obtain ⟨first, second, cross⟩ := pairwise_append.1 (take_append_drop (n + 2) all ▸ ordered)
    obtain ⟨start, begun, perm, sorted⟩ : ∃ start : List α, (if falling then ((all.map g).take (n + 2)).reverse
        else (all.map g).take (n + 2)) = start.map g ∧ start.Perm (all.take (n + 2)) ∧ start.Pairwise (Before f S) := by
      cases falling with
      | true =>
        -- A run that is reversed falls strictly, so no two of its items have the same number.
        have falls : ((all.take (n + 2)).map f).IsChain (· > ·) := (isChain_map f).2 (by simpa using run)
        have falls := pairwise_map.1 (isChain_iff_pairwise.1 falls)
        exact ⟨_, by simp, reverse_perm _, pairwise_reverse.2 (falls.imp .inl)⟩
      | false =>
        have rises : ((all.take (n + 2)).map f).IsChain (· ≤ ·) := (isChain_map f).2 (by simpa using run)
        have rises := pairwise_map.1 (isChain_iff_pairwise.1 rises)
        exact ⟨_, by simp, .rfl, (rises.and first).imp fun both => both.1.lt_or_eq.imp_right (⟨·, both.2⟩)⟩
    obtain ⟨zs, folded, perm', sorted⟩ := sorts_foldlM told sorted second fun a ha => cross a (perm.mem_iff.1 ha)
    refine ⟨zs, ?_, perm'.trans ?_, sorted⟩
    · rw [← begun, map_drop] at folded
      exact folded
    · simpa using perm.append_right (all.drop (n + 2))

end

lemma exists_sortFalling {α β : Type} {key : β → Value} {g : α → β} {f : α → Int} {S : α → α → Prop} {xs : List α}
    (keys : ∀ a, key (g a) = .int (f a)) (ordered : xs.Pairwise S) :
    ∃ ys : List α, sortFalling key (xs.map g) = .ok (ys.map g) ∧ ys.Perm xs ∧
      ys.Pairwise fun a b => f b < f a ∨ f b = f a ∧ S a b := by
  have told (a b : α) : (key (g a)).related .lt (key (g b)) = .ok (decide (f a < f b)) := by rw [keys, keys, related_lt]
  obtain ⟨ys, sorted, perm, pairs⟩ :=
    @sorts_sortWith α β (fun a b => (key a).related .lt (key b)) g f _ _ told (pairwise_reverse.2 ordered)
  refine ⟨ys.reverse, ?_, (reverse_perm ys).trans (perm.trans (reverse_perm xs)), pairwise_reverse.2 pairs⟩
  rw [sortFalling, ← map_reverse, sorted, map_reverse]
  rfl

end Unbundle.Value

namespace Unbundle.Number

lemma nearest_of_lt {n : Nat} (small : n < 2 ^ 53) : nearest n = n := by
  have drop : n.log2 - 52 = 0 := by
    rcases Nat.eq_zero_or_pos n with rfl | positive
    · simp
    · have := (Nat.log2_lt positive.ne').2 small
      omega
  simp [nearest, drop, Ratio.round, Nat.mod_one]

lemma digits_mul_ten {n : Nat} (positive : 0 < n) : digits (n * 10) = digits n ++ ['0'] := by
  rw [digits, Nat.toDigits_of_base_le (by omega) (by omega), Nat.mul_div_cancel _ (by omega), Nat.mul_mod_left]
  rfl

lemma placed_whole (n : Nat) : placed 3 (n * 10 ^ 3) = digits n ++ ['.', '0', '0', '0'] := by
  rcases Nat.eq_zero_or_pos n with rfl | positive
  · rfl
  · have shown : digits (n * 10 ^ 3) = digits n ++ ['0', '0', '0'] := by
      rw [show n * 10 ^ 3 = n * 10 * 10 * 10 by omega, digits_mul_ten (by omega), digits_mul_ten (by omega),
        digits_mul_ten positive]
      simp
    have long : 0 < (digits n).length := Nat.length_toDigits_pos
    rw [placed, shown]
    simp [zeros, show 3 + 1 - ((digits n).length + 3) = 0 by omega]

end Unbundle.Number

namespace Unbundle.Performance

/-! ### Gathering -/

abbrev ToolCalls := List (String × Int)

namespace ToolCalls

variable {calls : ToolCalls} {call : String × Int} {name : String} {tools : List String}

def names (calls : ToolCalls) : List String := calls.map Prod.fst

def seconds (calls : ToolCalls) (name : String) : Int := ((calls.filter (·.1 = name)).map Prod.snd).sum

/-- What the calls of a tool come to. -/
def tally (calls : ToolCalls) (name : String) : ToolTotal := ⟨.text name, calls.names.count name, .int (calls.seconds name)⟩

/-- A record of a call. Fields that are missing have their defaults. -/
def Records (v : Value) (call : String × Int) : Prop :=
  v.getD "tool_name" (.text "Unknown") = .ok (.text call.1) ∧ v.getD "duration_seconds" (.int 0) = .ok (.int call.2)

/-- The tools of calls, each once and in the order of their first calls. -/
structure Lists (calls : ToolCalls) (tools : List String) : Prop where
  mem_iff : ∀ name, name ∈ tools ↔ name ∈ calls.names
  ordered : tools.Pairwise fun a b => calls.names.idxOf a < calls.names.idxOf b

lemma Lists.nodup (lists : Lists calls tools) : tools.Nodup := lists.ordered.imp fun before same => (same ▸ before).false

lemma Lists.concat (lists : Lists calls tools) :
    Lists (calls ++ [call]) (if call.1 ∈ tools then tools else tools ++ [call.1]) := by
  have grown : names (calls ++ [call]) = calls.names ++ [call.1] := by simp [names]
  have old : tools.Pairwise fun a b => (calls.names ++ [call.1]).idxOf a < (calls.names ++ [call.1]).idxOf b := by
    refine lists.ordered.imp_of_mem fun {a b} ha hb before => ?_
    rwa [idxOf_append_of_mem ((lists.mem_iff a).1 ha), idxOf_append_of_mem ((lists.mem_iff b).1 hb)]
  split_ifs with known
  · refine ⟨fun name => ?_, grown ▸ old⟩
    have := lists.mem_iff
    grind
  · refine ⟨fun name => by simp [grown, lists.mem_iff], ?_⟩
    rw [grown, pairwise_append]
    refine ⟨old, by simp, fun a ha b hb => ?_⟩
    cases mem_singleton.1 hb
    have later := mt (lists.mem_iff call.1).2 known
    have there := (lists.mem_iff a).1 ha
    rw [idxOf_append_of_mem there, idxOf_append_of_notMem later]
    exact (idxOf_lt_length_of_mem there).trans_le (Nat.le_add_right ..)

lemma tally_concat : tally (calls ++ [call]) name =
    if call.1 = name then ⟨.text name, calls.names.count name + 1, .int (calls.seconds name + call.2)⟩ else calls.tally name := by
  by_cases own : call.1 = name <;> simp [tally, names, seconds, own]

lemma add_tallies (distinct : tools.Nodup) (first : call.1 ∉ tools → call.1 ∉ calls.names) :
    ToolTotal.add (.text call.1) (.int call.2) (tools.map calls.tally) =
      .ok ((if call.1 ∈ tools then tools else tools ++ [call.1]).map (tally (calls ++ [call]))) := by
  induction tools with
  | nil =>
    have new := first not_mem_nil
    have none : calls.filter (·.1 = call.1) = [] := by
      refine filter_eq_nil_iff.2 fun c hc same => new (mem_map.2 ⟨c, hc, of_decide_eq_true same⟩)
    rw [map_nil, ToolTotal.add, addAs_int]
    simp [tally_concat, seconds, none, count_eq_zero.2 new, ok_bind, pure, Except.pure]
  | cons tool tools ih =>
    obtain ⟨new, distinct⟩ := nodup_cons.1 distinct
    have same : (calls.tally tool).name.same (.text call.1) = (tool == call.1) := by simp [tally, same]
    rw [map_cons, ToolTotal.add, same]
    by_cases own : tool = call.1
    · have others : tools.map (tally (calls ++ [call])) = tools.map calls.tally := by
        refine map_congr_left fun name mem => tally_concat.trans (if_neg ?_)
        rintro rfl
        exact new (own ▸ mem)
      rw [tally, addAs_int]
      simp [own, others, tally_concat, ok_bind, pure, Except.pure]
    · rw [if_neg (by simpa using own), ih distinct fun h => first (by simp [h, Ne.symm own])]
      by_cases known : call.1 ∈ tools <;> simp [known, Ne.symm own, tally_concat, ok_bind, pure, Except.pure]

lemma exists_foldlM_addCall {values : List Value} {more : ToolCalls} (lists : Lists calls tools)
    (each : Forall₂ Records values more) : ∃ tools', Lists (calls ++ more) tools' ∧
      values.foldlM ToolTotal.addCall (tools.map calls.tally) = .ok (tools'.map (tally (calls ++ more))) := by
  induction each generalizing calls tools with
  | nil => exact ⟨tools, by rwa [append_nil], by rw [append_nil]; rfl⟩
  | cons recorded _ ih =>
    obtain ⟨tools', lists', rest⟩ := ih lists.concat
    rw [List.append_assoc] at rest lists'
    refine ⟨tools', lists', ?_⟩
    rw [foldlM_cons, ToolTotal.addCall, recorded.1, recorded.2]
    change (ToolTotal.add _ _ _ >>= _) = _
    rw [add_tallies lists.nodup fun h => mt (lists.mem_iff _).2 h]
    exact rest

end ToolCalls

/-! ### Printing -/

variable {report : Value} {calls : ToolCalls} {tools : List String}

/-- A number that can be shown. -/
def IsFigure (v : Value) : Prop := (∃ x, v = .float x) ∨ ∃ n : Int, v = .int n ∧ n.natAbs < floatLimit

/-- A report whose summary of tool calls, as far as there is one, has numbers that can be shown. -/
def HasFigures (report : Value) : Prop :=
  ∃ summary figures, report.getD "summary" (.map []) = .ok (.map summary) ∧
    (map summary).getD "tool_calls" (.map []) = .ok (.map figures) ∧
    ∀ name ∈ ["total_time_seconds", "percentage_of_total"], IsFigure ((Value.lookup name figures).getD (.int 0))

lemma IsFigure.exists_fixed {v : Value} (h : IsFigure v) (places : Nat) : ∃ cs, v.fixed places = .ok cs := by
  obtain ⟨x, rfl⟩ | ⟨n, rfl, small⟩ := h
  · exact ⟨_, rfl⟩
  · rw [Value.fixed, if_neg (not_le.2 small)]
    exact ⟨_, rfl⟩

lemma IsFigure.exists_exceeds {v : Value} (h : IsFigure v) (n : Int) : ∃ b, v.related .gt (.int n) = .ok b := by
  obtain ⟨x, rfl⟩ | ⟨m, rfl, -⟩ := h
  · simp only [related, numeric?]
    cases (Numeric.ofFloat x).compare? (.finite (n < 0) ⟨n.natAbs, 1⟩) <;> exact ⟨_, rfl⟩
  · exact ⟨_, related_int ..⟩

/-- Seconds to three places, of the nearest floating-point number. -/
def shownSeconds (n : Int) : String :=
  String.ofList ((if n < 0 then ['-'] else []) ++ placed 3 (nearest n.natAbs * 10 ^ 3))

lemma shownSeconds_of_lt {n : Int} (small : n.natAbs < 2 ^ 53) :
    shownSeconds n = ofList (ofInt n) ++ ".000" := by
  rw [shownSeconds, nearest_of_lt small, placed_whole, ofInt]
  apply toList_injective
  split_ifs <;> simp

def average (calls : ToolCalls) (name : String) : String :=
  String.ofList (((Value.int (calls.seconds name)).div (.int (calls.names.count name)) >>= Value.fixed 3).toOption.getD [])

def block (calls : ToolCalls) (name : String) : List String :=
  [s!"\n  {name}:", s!"    调用次数: {calls.names.count name}", s!"    总耗时: {shownSeconds (calls.seconds name)}秒",
    s!"    平均耗时: {average calls name}秒/次"]

lemma printTool_tally {name : String} (called : name ∈ calls.names)
    (small : (calls.seconds name).natAbs < floatLimit) :
    printTool (calls.tally name) = lines (block calls name) := by
  have count : 0 < calls.names.count name := count_pos_iff.2 called
  obtain ⟨x, mean⟩ : ∃ x, (int (calls.seconds name)).div (.int (calls.names.count name)) = .ok (.float x) := by
    have zero : (calls.names.count name : Int) ≠ 0 := by omega
    have fits : ¬floatLimit * (calls.names.count name : Int).natAbs ≤ (calls.seconds name).natAbs :=
      not_le.2 (small.trans_le (Nat.le_mul_of_pos_right _ (by omega)))
    exact ⟨_, (if_neg zero).trans (if_neg fits)⟩
  have total : (int (calls.seconds name)).fixed 3 = .ok (shownSeconds (calls.seconds name)).toList := by
    rw [Value.fixed, if_neg (not_le.2 small), shownSeconds]
    split_ifs <;> simp
  have shown : (float x).fixed 3 = .ok (average calls name).toList := by
    rw [average, mean, toList_ofList]
    rfl
  have named : (text name).str = name := ofList_toList
  rw [printTool, ToolCalls.tally, mean, silent_ok_bind]
  simp only [fixed, total, shown, named, silent_ok_bind, pure_bind, ofList_toList]
  rfl

lemma exists_verdict {share : Value} (h : IsFigure share) :
    ∃ ss, printToolVerdict share = lines ("\n💡 性能评估:" :: ss) := by
  obtain ⟨cs, shown⟩ := h.exists_fixed 1
  obtain ⟨high, above⟩ := h.exists_exceeds 20
  obtain ⟨usual, above'⟩ := h.exists_exceeds 10
  rw [printToolVerdict]
  simp only [exceeds, above, above', fixed, shown, silent_ok_bind, pure_bind, line_eq_lines]
  cases high <;> cases usual <;> simp only [lines_bind] <;> exact ⟨_, rfl⟩

lemma printTools_tally
    (each : ∀ name ∈ tools, name ∈ calls.names ∧ (calls.seconds name).natAbs < floatLimit) :
    (tools.map calls.tally).forM printTool = lines (tools.flatMap (block calls)) := by
  induction tools with
  | nil => rfl
  | cons name tools ih =>
    obtain ⟨here, each⟩ := forall_mem_cons.1 each
    change (printTool (calls.tally name) >>= fun _ => (tools.map calls.tally).forM printTool) = _
    rw [printTool_tally here.1 here.2, ih each, lines_bind, flatMap_cons]

/-- The statistics of tool calls have one block for each tool that was called, by falling times and then in the order
of the first calls. The numbers of calls in the blocks add up to the number of records, and as long as a total has no
more than fifty-three binary digits it is shown as it is. -/
theorem tool_blocks_partition_calls {values : List Value} (listed : report.getD "tool_calls" (.list []) = .ok (.list values))
    (nonempty : values ≠ []) (each : List.Forall₂ ToolCalls.Records values calls) (figures : HasFigures report)
    (small : ∀ name ∈ calls.names, (calls.seconds name).natAbs < floatLimit) : ∃ tools head tail : List String,
      toolCalls report = Printing.lines (head ++ tools.flatMap (block calls) ++ tail) ∧
      head.getLast? = some "\n🔨 各工具调用统计:" ∧ tail.head? = some "\n💡 性能评估:" ∧
      tools.Nodup ∧ (∀ name, name ∈ tools ↔ name ∈ calls.names) ∧
      (tools.map calls.names.count).sum = values.length ∧
      (∀ name ∈ tools, (calls.seconds name).natAbs < 2 ^ 53 →
        shownSeconds (calls.seconds name) = String.ofList (ofInt (calls.seconds name)) ++ ".000") ∧
      tools.Pairwise fun a b => calls.seconds b < calls.seconds a ∨
        calls.seconds b = calls.seconds a ∧ calls.names.idxOf a < calls.names.idxOf b := by
  have none : ToolCalls.Lists [] [] := ⟨by simp [ToolCalls.names], .nil⟩
  obtain ⟨tools, lists, gathered⟩ := ToolCalls.exists_foldlM_addCall none each
  rw [List.nil_append] at lists gathered
  have keys (name : String) : (calls.tally name).total = .int (calls.seconds name) := rfl
  obtain ⟨names, isSorted, perm, ordered⟩ := exists_sortFalling keys lists.ordered
  have members : ∀ name, name ∈ names ↔ name ∈ calls.names := fun name => perm.mem_iff.trans (lists.mem_iff name)
  obtain ⟨summary, fields, summarised, counted, shown⟩ := figures
  obtain ⟨total, ht⟩ := (shown "total_time_seconds" (by simp)).exists_fixed 2
  obtain ⟨part, hp⟩ := (shown "percentage_of_total" (by simp)).exists_fixed 1
  obtain ⟨verdict, hv⟩ := exists_verdict (shown "percentage_of_total" (by simp))
  let count := ((Value.lookup "count" fields).getD (.int 0)).str
  refine ⟨names, [doubleRule, "🔧 工具调用分析", doubleRule, "\n📈 基本统计:",
    s!"  调用次数: {count}", s!"  总耗时: {String.ofList total}秒",
    s!"  占总时间: {String.ofList part}%", "\n🔨 各工具调用统计:"], "\n💡 性能评估:" :: verdict ++ [""], ?_, rfl, rfl,
    perm.nodup_iff.2 lists.nodup, members, ?_, fun _ _ => shownSeconds_of_lt, ordered⟩
  · have filled : (list values).truthy = true := by simpa [truthy] using nonempty
    have tallied : (do toolTotals (← (list values).items)) = .ok (tools.map calls.tally) := gathered
    have field (key : String) : (Value.map fields).getD key (.int 0) = .ok ((Value.lookup key fields).getD (.int 0)) := rfl
    have printed := printTools_tally fun name mem => ⟨(members name).1 mem, small name ((members name).1 mem)⟩
    simp only [toolCalls, heading, figure, number, summaryOf, listed, summarised, counted, Printing.silent_ok_bind, filled,
      field, fixed, ht, hp, tallied, isSorted, pure_bind, printed, hv, Printing.line_eq_lines, Printing.lines_bind, Bool.not_true,
      Bool.false_eq_true, if_false]
    simp [count]
  · have distinct : names.Perm calls.names.dedup :=
      (List.perm_ext_iff_of_nodup (perm.nodup_iff.2 lists.nodup) (List.nodup_dedup _)).2 fun name => by simp [members]
    rw [(distinct.map _).sum_eq, List.sum_map_count_dedup_eq_length, ToolCalls.names, List.length_map, each.length_eq]

def twoTools : Value := .map [("tool_calls", .list [.map [("tool_name", .text "a"), ("duration_seconds", .int 2)],
  .map [("duration_seconds", .int 2)], .map [("tool_name", .text "a")]])]

theorem tool_blocks_partition_calls_two : ∃ tools head tail : List String, toolCalls twoTools =
      Printing.lines (head ++ tools.flatMap (block [("a", 2), ("Unknown", 2), ("a", 0)]) ++ tail) ∧
      (tools.map ["a", "Unknown", "a"].count).sum = 3 := by
  obtain ⟨tools, head, tail, printed, -, -, -, -, counts, -⟩ :=
    @tool_blocks_partition_calls twoTools [("a", 2), ("Unknown", 2), ("a", 0)] _ rfl (by simp)
      (.cons ⟨rfl, rfl⟩ (.cons ⟨rfl, rfl⟩ (.cons ⟨rfl, rfl⟩ .nil)))
      ⟨[], [], rfl, rfl, fun _ _ => .inr ⟨0, rfl, by decide +kernel⟩⟩ (by decide +kernel)
  exact ⟨tools, head, tail, printed, counts⟩

/-- A total is shown as the nearest floating-point number, and one that is too large for any stops the section. -/
theorem total_beyond_floats_stops : shownSeconds (2 ^ 53 + 1) = "9007199254740992.000" ∧
    ∃ fault printed, (toolCalls (.map [("tool_calls", .list [.map [("duration_seconds", .int (2 ^ 1024))]])])).result =
      (.error fault, printed) ∧ fault.kind = "OverflowError" :=
  ⟨by decide +kernel, Printing.exists_result_of_outcome (by decide +kernel)⟩

end Unbundle.Performance
