import Mathlib.Data.List.TakeDrop
import Unbundle.Proofs.Analysis.Findings

/-!
# Lines of the functions of a script

The end of a function is searched for from its own first line on. Two searches that read the same braces
stay in step: the one that began further out is always at least as deep. So functions whose first brace
opens, and that are closed, lie beside or inside each other.
-/

open List

namespace Unbundle.Analysis

variable {ls : List (List Char)} {d : Depth} {i k : Nat} {cs : List Char}

/-! ### Braces -/

def isBrace (c : Char) : Bool := c == '{' || c == '}'

def braces (ls : List (List Char)) : List Char := (ls.flatMap bareLine).filter isBrace

def OpensFirst (ls : List (List Char)) : Prop := (braces ls).head? = some '{'

/-- Some closing brace of a text leaves none open. -/
def Returns (cs : List Char) : Prop :=
  ∃ inside, inside ++ ['}'] <+: cs.filter isBrace ∧ inside.count '{' = inside.count '}' + 1

/-- On the lines that are searched, some closing brace leaves none open. -/
def Closes (ls : List (List Char)) : Prop :=
  ∃ inside, inside ++ ['}'] <+: braces (ls.take searchedLines) ∧
    inside.count '{' = inside.count '}' + 1

instance (ls : List (List Char)) : Decidable (OpensFirst ls) := inferInstanceAs (Decidable (_ = _))

lemma braces_append (ls ms : List (List Char)) : braces (ls ++ ms) = braces ls ++ braces ms := by
  simp [braces]

lemma braces_cons (l : List Char) (ls : List (List Char)) :
    braces (l :: ls) = (bareLine l).filter isBrace ++ braces ls := by
  simp [braces]

lemma eq_open_of_head?_ne {b : Char} {bs : List Char} (only : ∀ c ∈ b :: bs, isBrace c = true)
    (first : (b :: bs).head? ≠ some '}') : b = '{' := by
  have brace : b = '{' ∨ b = '}' := by simpa [isBrace] using only b mem_cons_self
  rcases brace with opening | closing
  · exact opening
  · exact absurd (by simp [closing]) first

lemma OpensFirst.head?_ne {ls ms : List (List Char)} (opens : OpensFirst ls) (lead : ms <+: ls) :
    (braces ms).head? ≠ some '}' := by
  obtain ⟨rest, rfl⟩ := lead
  rw [OpensFirst, braces_append] at opens
  cases front : braces ms with
  | nil => simp
  | cons b bs =>
    obtain rfl : b = '{' := by simpa [front] using opens
    simp

namespace Depth

def start : Depth := ⟨0, false⟩

lemma after?_filter (d : Depth) (cs : List Char) : d.after? (cs.filter isBrace) = d.after? cs := by
  induction cs generalizing d with
  | nil => rfl
  | cons c cs ih =>
    by_cases brace : isBrace c = true
    · rw [filter_cons_of_pos brace]
      simp only [after?, ih]
    · have other : c ≠ '{' ∧ c ≠ '}' := by simpa [isBrace] using brace
      rw [filter_cons_of_neg brace, ih, after?, if_neg other.1, if_neg other.2]

lemma after?_append (d : Depth) (cs ds : List Char) :
    d.after? (cs ++ ds) = (d.after? cs).bind fun e => e.after? ds := by
  induction cs generalizing d with
  | nil => rfl
  | cons c cs ih =>
    simp only [cons_append, after?]
    split_ifs
    · exact ih _
    · rfl
    · exact ih _
    · exact ih _

/-- A text of braces ends a function exactly if some closing brace in it leaves none open, once there has
been an open one. -/
lemma after?_eq_none_iff {bs : List Char} (only : ∀ b ∈ bs, isBrace b = true) :
    d.after? bs = none ↔ ∃ inside, inside ++ ['}'] <+: bs ∧ (d.started ∨ '{' ∈ inside) ∧
      d.open_ + inside.count '{' = inside.count '}' + 1 := by
  induction bs generalizing d with
  | nil => simp [after?]
  | cons b bs ih =>
    have ih := fun {d : Depth} => @ih d fun c hc => only c (mem_cons_of_mem b hc)
    have brace : b = '{' ∨ b = '}' := by simpa [isBrace] using only b mem_cons_self
    -- What stands before the closing brace is empty, or it begins with the first brace of all.
    have peel : ∀ P : List Char → Prop, (∃ inside, inside ++ ['}'] <+: b :: bs ∧ P inside) ↔
        (b = '}' ∧ P []) ∨ ∃ inside, inside ++ ['}'] <+: bs ∧ P (b :: inside) := by
      intro P
      constructor
      · rintro ⟨inside, lead, holds⟩
        cases inside with
        | nil => exact .inl ⟨(cons_prefix_cons.1 lead).1.symm, holds⟩
        | cons c inside =>
          rw [cons_append, cons_prefix_cons] at lead
          obtain ⟨rfl, lead⟩ := lead
          exact .inr ⟨inside, lead, holds⟩
      · rintro (⟨rfl, holds⟩ | ⟨inside, lead, holds⟩)
        · exact ⟨[], by simp, holds⟩
        · exact ⟨b :: inside, cons_prefix_cons.2 ⟨rfl, lead⟩, holds⟩
    rw [peel]
    rcases brace with rfl | rfl
    · rw [after?, if_pos rfl, ih]
      simp only [Char.reduceEq, false_and, false_or]
      refine exists_congr fun inside => and_congr_right fun _ => ?_
      simp
      omega
    · rw [after?, if_neg (by decide), if_pos rfl]
      by_cases ends : d.started = true ∧ d.open_ = 1
      · simp [ends]
      · rw [if_neg (by simpa using ends), ih]
        simp only [count_cons]
        constructor
        · rintro ⟨inside, lead, begun, count⟩
          refine .inr ⟨inside, lead, by simpa using begun, ?_⟩
          simp
          omega
        · rintro (⟨-, begun, count⟩ | ⟨inside, lead, begun, count⟩)
          · exact absurd ⟨by simpa using begun, by simpa using count⟩ ends
          · refine ⟨inside, lead, by simpa using begun, ?_⟩
            simp at count
            omega

/-! ### Two searches in step -/

/-- A search that has begun, and one further out that is at least as deep. -/
structure Surrounds (outer inner : Depth) : Prop where
  outer_started : outer.started = true
  inner_started : inner.started = true
  inner_open : 1 ≤ inner.open_
  le : inner.open_ ≤ outer.open_

/-- As long as the inner search has not ended the outer one has not, and it stays at least as deep. -/
lemma Surrounds.after? {outer inner : Depth} (h : Surrounds outer inner) (cs : List Char) :
    inner.after? cs = none ∨ ∃ outer' inner', outer.after? cs = some outer' ∧
      inner.after? cs = some inner' ∧ Surrounds outer' inner' := by
  induction cs generalizing outer inner with
  | nil => exact .inr ⟨outer, inner, rfl, rfl, h⟩
  | cons c cs ih =>
    obtain ⟨outer_started, inner_started, inner_open, le⟩ := h
    simp only [Depth.after?, outer_started, inner_started, Bool.true_and, beq_iff_eq]
    split_ifs with opening closing inner_ends outer_ends
    · apply ih
      constructor <;> simp <;> omega
    · exact .inl rfl
    · exact .inl rfl
    · omega
    · apply ih
      constructor <;> simp <;> omega
    · exact ih ⟨outer_started, inner_started, inner_open, le⟩

def Regular (d : Depth) : Prop := d = start ∨ d.started = true ∧ 1 ≤ d.open_

/-- Where a regular search ends, one that begins later has ended, if it does not meet a closing brace first. -/
lemma Regular.start_after? (h : Regular d) (first : (cs.filter isBrace).head? ≠ some '}')
    (ended : d.after? cs = none) : start.after? cs = none := by
  have only : ∀ b ∈ cs.filter isBrace, isBrace b = true := fun b hb => (mem_filter.1 hb).2
  rw [← after?_filter] at ended ⊢
  generalize cs.filter isBrace = bs at first only ended ⊢
  cases bs with
  | nil => cases ended
  | cons b bs =>
    obtain rfl : b = '{' := eq_open_of_head?_ne only first
    -- Both have read the first opening brace now, and the outer one was not below zero.
    have both : Surrounds ⟨d.open_ + 1, true⟩ ⟨start.open_ + 1, true⟩ := by
      rcases h with rfl | ⟨-, deep⟩ <;> constructor <;> simp [start]
      omega
    rw [after?] at ended ⊢
    rcases both.after? bs with inner | ⟨_, _, read, -⟩
    · exact inner
    · rw [read] at ended
      cases ended

lemma open_of_after? {e : Depth} (h : d.started = true ∧ 1 ≤ d.open_) (read : d.after? cs = some e) :
    e.started = true ∧ 1 ≤ e.open_ := by
  rcases Surrounds.after? ⟨h.1, h.1, h.2, Int.le_refl _⟩ cs with ended | ⟨_, e', _, inner, ⟨_, begun, deep, _⟩⟩
  · rw [read] at ended
    cases ended
  · obtain rfl : e = e' := by simpa [read] using inner
    exact ⟨begun, deep⟩

lemma regular_of_after? {e : Depth} {cs : List Char} (first : (cs.filter isBrace).head? ≠ some '}')
    (read : start.after? cs = some e) : Regular e := by
  have only : ∀ b ∈ cs.filter isBrace, isBrace b = true := fun b hb => (mem_filter.1 hb).2
  rw [← after?_filter] at read
  generalize cs.filter isBrace = bs at first read only
  cases bs with
  | nil => exact .inl (Option.some.inj read).symm
  | cons b bs =>
    have opening : b = '{' := eq_open_of_head?_ne only first
    rw [after?, if_pos opening] at read
    exact .inr (open_of_after? ⟨rfl, by decide⟩ read)

end Depth

/-! ### Searching line by line -/

open Depth (start Surrounds Regular)

lemma closing?_cons (d : Depth) (i : Nat) (l : List Char) (ls : List (List Char)) :
    closing? d i (l :: ls) =
      (d.after? (bareLine l)).elim (some i) fun e => closing? e (i + 1) ls := by
  rw [closing?]
  cases d.after? (bareLine l) <;> rfl

lemma closing?_eq_none_iff : closing? d i ls = none ↔ d.after? (braces ls) ≠ none := by
  induction ls generalizing d i with
  | nil => simp [closing?, braces, Depth.after?]
  | cons l ls ih =>
    rw [closing?_cons, braces_cons, Depth.after?_append, Depth.after?_filter]
    cases d.after? (bareLine l) with
    | none => simp
    | some e => simpa using ih

lemma closing?_bounds (found : closing? d i ls = some k) : i ≤ k ∧ k < i + ls.length := by
  induction ls generalizing d i with
  | nil => simp [closing?] at found
  | cons l ls ih =>
    rw [closing?_cons] at found
    cases read : d.after? (bareLine l) with
    | none =>
      simp only [read, Option.elim_none, Option.some.injEq] at found
      simp only [length_cons]
      omega
    | some e =>
      rw [read] at found
      have := ih found
      simp only [length_cons]
      omega

lemma closing?_eq_some_iff :
    closing? d i ls = some (i + k) ↔ d.after? ((ls.take (k + 1)).flatMap bareLine) = none ∧
      d.after? ((ls.take k).flatMap bareLine) ≠ none := by
  induction ls generalizing d i k with
  | nil => simp [closing?]
  | cons l ls ih =>
    rw [closing?_cons, take_succ_cons, flatMap_cons, Depth.after?_append]
    cases read : d.after? (bareLine l) with
    | none => cases k <;> simp [Depth.after?_append, read, Depth.after?]
    | some e =>
      cases k with
      | zero =>
        have later : closing? e (i + 1) ls ≠ some i := fun found => by
          have := closing?_bounds found
          omega
        simpa [Depth.after?] using later
      | succ k =>
        rw [Nat.add_left_comm, Nat.add_comm k, take_succ_cons, flatMap_cons, Depth.after?_append, read]
        exact ih

lemma exists_closing?_of_after? (i : Nat) (ended : d.after? ((ls.take (k + 1)).flatMap bareLine) = none) :
    ∃ j ≤ k, closing? d i ls = some (i + j) := by
  induction k with
  | zero => exact ⟨0, Nat.le_refl 0, closing?_eq_some_iff.2 ⟨ended, nofun⟩⟩
  | succ k ih =>
    by_cases before : d.after? ((ls.take (k + 1)).flatMap bareLine) = none
    · obtain ⟨j, le, found⟩ := ih before
      exact ⟨j, Nat.le_succ_of_le le, found⟩
    · exact ⟨k + 1, Nat.le_refl _, closing?_eq_some_iff.2 ⟨ended, before⟩⟩

/-! ### Lengths of functions -/

lemma start_after?_eq_none_iff : start.after? cs = none ↔ Returns cs := by
  rw [← Depth.after?_filter, Depth.after?_eq_none_iff fun b hb => (mem_filter.1 hb).2]
  refine exists_congr fun inside => and_congr_right fun _ => ?_
  constructor
  · rintro ⟨-, count⟩
    simp [start] at count
    omega
  · intro count
    have : 0 < inside.count '{' := by omega
    exact ⟨.inr (count_pos_iff.1 this), by simp [start]; omega⟩

lemma closes_iff : Closes ls ↔ ∃ k, closing? start 0 (ls.take searchedLines) = some k := by
  rw [← Option.isSome_iff_exists, Option.isSome_iff_ne_none, ne_eq, closing?_eq_none_iff, not_not, braces,
    Depth.after?_filter, start_after?_eq_none_iff]
  rfl

instance (cs : List Char) : Decidable (Returns cs) := decidable_of_iff _ start_after?_eq_none_iff

instance (ls : List (List Char)) : Decidable (Closes ls) :=
  inferInstanceAs (Decidable (Returns ((ls.take searchedLines).flatMap bareLine)))

lemma functionLength_of_closing? (found : closing? start 0 (ls.take searchedLines) = some k) :
    functionLength ls = k + 1 := by
  rw [functionLength]
  rw [start] at found
  rw [found]

lemma functionLength_le (closes : Closes ls) : functionLength ls ≤ ls.length := by
  obtain ⟨k, found⟩ := closes_iff.1 closes
  have bound := closing?_bounds found
  rw [functionLength_of_closing? found]
  simp only [length_take] at bound
  omega

lemma functionLength_of_not_closes (h : ¬ Closes ls) : functionLength ls = 2 := by
  have unfound : closing? start 0 (ls.take searchedLines) = none := by
    rw [closes_iff] at h
    push Not at h
    exact Option.eq_none_iff_forall_ne_some.2 h
  rw [functionLength]
  rw [start] at unfound
  rw [unfound]

lemma functionLength_pos (ls : List (List Char)) : 1 ≤ functionLength ls := by
  rw [functionLength]
  split <;> omega

/-- Of two functions whose first braces open, the one that begins on a line of the other ends no
later. -/
lemma functionLength_drop_le {m : Nat} (closes : Closes ls) (opens : OpensFirst ls)
    (inner_opens : OpensFirst (ls.drop m)) (inside : m < functionLength ls) :
    m + functionLength (ls.drop m) ≤ functionLength ls := by
  obtain ⟨k, found⟩ := closes_iff.1 closes
  rw [functionLength_of_closing? found] at inside ⊢
  obtain ⟨n, rfl⟩ := Nat.exists_eq_add_of_le (Nat.le_of_lt_succ inside)
  have near := (closing?_bounds found).2
  rw [length_take] at near
  have split : ∀ r, start.after? (((ls.take searchedLines).take (m + r)).flatMap bareLine) =
      (start.after? (((ls.take searchedLines).take m).flatMap bareLine)).bind fun d =>
        d.after? ((((ls.take searchedLines).drop m).take r).flatMap bareLine) := by
    intro r
    rw [take_add, flatMap_append, Depth.after?_append]
  rw [← Nat.zero_add (m + n), closing?_eq_some_iff, Nat.add_assoc, split, split] at found
  obtain ⟨ended, going⟩ := found
  cases read : start.after? (((ls.take searchedLines).take m).flatMap bareLine) with
  | none => exact absurd (by rw [read]; rfl) going
  | some d =>
    -- The outer search is regular where the inner one begins, since the lines before open first.
    have regular : Regular d :=
      Depth.regular_of_after? (opens.head?_ne (( take_prefix _ _).trans ( take_prefix _ _))) read
    rw [read, drop_take, take_take, Nat.min_eq_left (by omega)] at ended
    have inner := regular.start_after? (inner_opens.head?_ne ( take_prefix _ _)) ended
    rw [← Nat.min_eq_left (by omega : n + 1 ≤ searchedLines), ← take_take] at inner
    obtain ⟨j, le, found⟩ := exists_closing?_of_after? 0 inner
    rw [functionLength_of_closing? found]
    omega

/-! ### Symbols -/

def Symbol.linesFrom (s : Symbol) (source : List Char) : List (List Char) :=
  (Text.lines source).drop (s.firstLine - 1)

def Symbol.Apart (s t : Symbol) : Prop := s.lastLine < t.firstLine ∨ t.lastLine < s.firstLine

def Symbol.Within (s t : Symbol) : Prop := t.firstLine ≤ s.firstLine ∧ s.lastLine ≤ t.lastLine

instance (s t : Symbol) : Decidable (s.Apart t) := inferInstanceAs (Decidable (_ ∨ _))

instance (s t : Symbol) : Decidable (s.Within t) := inferInstanceAs (Decidable (_ ∧ _))

lemma line_bounds_of_mem_symbols {o : Origin} {source : List Char} {s : Symbol}
    (h : s ∈ (scriptFindings o source).symbols) :
    1 ≤ s.firstLine ∧ s.firstLine ≤ (Text.lines source).length ∧
      s.lastLine + 1 = s.firstLine + functionLength (s.linesFrom source) := by
  obtain ⟨i, l, d, here, -, rfl⟩ := mem_lineSymbols_iff.1 h
  have bound := (List.getElem?_eq_some_iff.1 here).1
  dsimp only [Symbol.linesFrom]
  rw [Nat.add_sub_cancel_left]
  omega

/-- Every symbol of a script begins on one of its lines and does not end before it begins. If its braces
are closed it ends on a line of the script, and otherwise it is given the line after its first one, which
the script may not have. A symbol that is closed, and any later one, are apart or the later lies inside the
earlier, if the first braces of both open. -/
theorem symbol_lines_nest (o : Origin) (source : List Char) :
    (∀ s ∈ (scriptFindings o source).symbols,
      1 ≤ s.firstLine ∧ s.firstLine ≤ s.lastLine ∧ s.firstLine ≤ (Text.lines source).length ∧
      (Closes (s.linesFrom source) → s.lastLine ≤ (Text.lines source).length) ∧
      (¬ Closes (s.linesFrom source) → s.lastLine = s.firstLine + 1)) ∧
    ∀ s ∈ (scriptFindings o source).symbols, ∀ t ∈ (scriptFindings o source).symbols,
      s.firstLine ≤ t.firstLine → Closes (s.linesFrom source) → OpensFirst (s.linesFrom source) →
      OpensFirst (t.linesFrom source) → s.Apart t ∨ t.Within s := by
  constructor
  · intro s hs
    obtain ⟨first, bound, last⟩ := line_bounds_of_mem_symbols hs
    have length : (s.linesFrom source).length = (Text.lines source).length - (s.firstLine - 1) := by
      rw [Symbol.linesFrom, List.length_drop]
    refine ⟨first, ?_, bound, fun closes => ?_, fun open_ => ?_⟩
    · have := functionLength_pos (s.linesFrom source)
      omega
    · have := functionLength_le closes
      omega
    · rw [functionLength_of_not_closes open_] at last
      omega
  · intro s hs t ht order closes opens inner_opens
    obtain ⟨first, -, last⟩ := line_bounds_of_mem_symbols hs
    obtain ⟨-, -, inner_last⟩ := line_bounds_of_mem_symbols ht
    have inner : t.linesFrom source = (s.linesFrom source).drop (t.firstLine - s.firstLine) := by
      rw [Symbol.linesFrom, Symbol.linesFrom, List.drop_drop]
      congr 1
      omega
    rw [inner] at inner_opens inner_last
    by_cases apart : s.lastLine < t.firstLine
    · exact .inl (.inl apart)
    · have := functionLength_drop_le closes opens inner_opens (by omega)
      exact .inr ⟨order, by omega⟩

def methodAndArrow : List Char := "class A \x7b\n  f() \x7b\n  \x7d\n\x7d\nconst g = () => 1\n".toList

theorem symbol_lines_nest_methodAndArrow :
    ∃ s ∈ (scriptFindings ⟨"a.js", "a"⟩ methodAndArrow).symbols,
    ∃ t ∈ (scriptFindings ⟨"a.js", "a"⟩ methodAndArrow).symbols,
    ∃ u ∈ (scriptFindings ⟨"a.js", "a"⟩ methodAndArrow).symbols,
      s.firstLine ≤ t.firstLine ∧ Closes (s.linesFrom methodAndArrow) ∧
      OpensFirst (s.linesFrom methodAndArrow) ∧ OpensFirst (t.linesFrom methodAndArrow) ∧
      (s.Apart t ∨ t.Within s) ∧
      ¬ Closes (u.linesFrom methodAndArrow) ∧ u.lastLine = u.firstLine + 1 := by
  have symbols : (scriptFindings ⟨"a.js", "a"⟩ methodAndArrow).symbols =
      [⟨"a.A", "a.js", 1, 4, some .classDecl⟩, ⟨"a.f", "a.js", 2, 3, some .function⟩,
        ⟨"a.g", "a.js", 5, 6, some .function⟩] := by
    decide +kernel
  obtain ⟨lines, nest⟩ := symbol_lines_nest ⟨"a.js", "a"⟩ methodAndArrow
  rw [symbols] at lines nest ⊢
  have unclosed : ¬ Closes (Symbol.linesFrom ⟨"a.g", "a.js", 5, 6, some .function⟩ methodAndArrow) := by
    decide +kernel
  obtain ⟨-, -, -, -, last⟩ := lines ⟨"a.g", "a.js", 5, 6, some .function⟩ (by simp)
  have closes : Closes (Symbol.linesFrom ⟨"a.A", "a.js", 1, 4, some .classDecl⟩ methodAndArrow) := by
    decide +kernel
  have opens : OpensFirst (Symbol.linesFrom ⟨"a.A", "a.js", 1, 4, some .classDecl⟩ methodAndArrow) := by
    decide +kernel
  have inner_opens : OpensFirst
      (Symbol.linesFrom ⟨"a.f", "a.js", 2, 3, some .function⟩ methodAndArrow) := by
    decide +kernel
  exact ⟨_, .head _, _, .tail _ (.head _), _, .tail _ (.tail _ (.head _)), by decide, closes, opens,
    inner_opens, nest _ (.head _) _ (.tail _ (.head _)) (by decide) closes opens inner_opens, unclosed,
    last unclosed⟩

/-- Two classes whose bodies are missing. Neither is closed, so each is given the line after its own. -/
def twoClasses : List Char := "class A\nclass B\n".toList

theorem symbol_lines_cross_twoClasses :
    (¬ ∀ s ∈ (scriptFindings ⟨"a.js", "a"⟩ twoClasses).symbols,
      1 ≤ s.firstLine ∧ s.firstLine ≤ s.lastLine ∧ s.lastLine ≤ (Text.lines twoClasses).length) ∧
    ¬ ∀ s ∈ (scriptFindings ⟨"a.js", "a"⟩ twoClasses).symbols,
      ∀ t ∈ (scriptFindings ⟨"a.js", "a"⟩ twoClasses).symbols,
        s.Apart t ∨ s.Within t ∨ t.Within s := by
  have symbols : (scriptFindings ⟨"a.js", "a"⟩ twoClasses).symbols =
      [⟨"a.A", "a.js", 1, 2, some .classDecl⟩, ⟨"a.B", "a.js", 2, 3, some .classDecl⟩] := by
    decide +kernel
  have length : (Text.lines twoClasses).length = 2 := by
    decide +kernel
  rw [symbols, length]
  decide

/-! ### Literals -/

def quotationMarks : List Char := ['\x60', '"', '\'']

/-- A piece of a line: text without quotation marks, or a literal with such a text in it. -/
inductive LinePiece where
  | plain (cs : List Char) (free : ∀ c ∈ cs, c ∉ quotationMarks)
  | literal (mark : Char) (body : List Char) (known : mark ∈ quotationMarks)
      (free : ∀ c ∈ body, c ∉ quotationMarks)

namespace LinePiece

def textWithout (gone : List Char) : LinePiece → List Char
  | plain cs _ => cs
  | literal mark body _ _ => if mark ∈ gone then [] else mark :: (body ++ [mark])

abbrev written (ls : List (List LinePiece)) : List (List Char) := ls.map (·.flatMap (textWithout []))

abbrev outside (ls : List (List LinePiece)) : List (List Char) :=
  ls.map (·.flatMap (textWithout quotationMarks))

end LinePiece

open LinePiece (written outside textWithout)

variable {mark : Char}

lemma dropQuoted_cons {c : Char} (other : c ≠ mark) (cs : List Char) :
    dropQuoted mark (c :: cs) = c :: dropQuoted mark cs := by
  rw [dropQuoted, Text.splitOn, if_neg other, dropQuoted]
  rcases Text.splitOn mark cs with _ | ⟨part, _ | ⟨_, _ | _⟩⟩ <;> rfl

lemma dropQuoted_append (free : mark ∉ cs) (ds : List Char) :
    dropQuoted mark (cs ++ ds) = cs ++ dropQuoted mark ds := by
  induction cs with
  | nil => rfl
  | cons c cs ih =>
    rw [mem_cons, not_or] at free
    rw [cons_append, dropQuoted_cons (symm free.1), ih free.2, cons_append]

lemma dropQuoted_literal {body : List Char} (free : mark ∉ body) (cs : List Char) :
    dropQuoted mark (mark :: (body ++ mark :: cs)) = dropQuoted mark cs := by
  rw [dropQuoted, Text.splitOn, if_pos rfl, Text.splitOn_eq, splitOn_append_cons_self,
    splitOn_eq_singleton free, ← Text.splitOn_eq, dropQuoted]
  cases parts : Text.splitOn mark cs with
  | nil => exact absurd (Text.splitOn_eq mark cs ▸ parts) (splitOn_ne_nil mark cs)
  | cons part parts => rfl

/-- Dropping what is quoted by one mark drops its literals and nothing else. -/
lemma dropQuoted_textWithout (known : mark ∈ quotationMarks) (gone : List Char) (ps : List LinePiece) :
    dropQuoted mark (ps.flatMap (textWithout gone)) = ps.flatMap (textWithout (mark :: gone)) := by
  induction ps with
  | nil => rfl
  | cons p ps ih =>
    rw [flatMap_cons, flatMap_cons, ← ih]
    cases p with
    | plain cs free => exact dropQuoted_append (fun inside => free mark inside known) _
    | literal mark' body _ free =>
      have free : mark ∉ body := fun inside => free mark inside known
      by_cases dropped : mark' ∈ gone
      · simp [textWithout, dropped]
      by_cases same : mark' = mark
      · subst same
        simpa [textWithout, dropped] using dropQuoted_literal free _
      · simp only [textWithout, dropped, same, mem_cons]
        exact dropQuoted_append (by simp [free, Ne.symm same]) _

lemma map_bareLine_written (ls : List (List LinePiece)) : (written ls).map bareLine = outside ls := by
  rw [map_map]
  refine map_congr_left fun ps _ => ?_
  rw [Function.comp_apply, bareLine, dropQuoted_textWithout (by decide), dropQuoted_textWithout (by decide),
    dropQuoted_textWithout (by decide)]
  rfl

/-- The line with this index is the first of some on which a closing brace leaves none open. -/
def ReturnsOn (ls : List (List Char)) (index : Nat) : Prop :=
  Returns (ls.take (index + 1)).flatten ∧ ¬ Returns (ls.take index).flatten

instance (ls : List (List Char)) (index : Nat) : Decidable (ReturnsOn ls index) :=
  inferInstanceAs (Decidable (_ ∧ _))

lemma closing?_start_eq_some_iff (near : k < searchedLines) :
    closing? start 0 (ls.take searchedLines) = some k ↔ ReturnsOn (ls.map bareLine) k := by
  rw [← Nat.zero_add k, closing?_eq_some_iff, Nat.zero_add, take_take, take_take,
    Nat.min_eq_left near, Nat.min_eq_left (Nat.le_of_lt near), ne_eq, start_after?_eq_none_iff,
    start_after?_eq_none_iff, flatMap_def, flatMap_def, map_take, map_take, ReturnsOn]

/-- The number of lines of a function, by its bare lines alone. -/
lemma functionLength_eq (ls : List (List Char)) :
    (∀ k < searchedLines, ReturnsOn (ls.map bareLine) k → functionLength ls = k + 1) ∧
    ((∀ k < searchedLines, ¬ ReturnsOn (ls.map bareLine) k) → functionLength ls = 2) := by
  refine ⟨fun k near returns => ?_, fun never => functionLength_of_not_closes fun closes => ?_⟩
  · exact functionLength_of_closing? ((closing?_start_eq_some_iff near).2 returns)
  · obtain ⟨k, found⟩ := closes_iff.1 closes
    have near : k < searchedLines := by
      have := closing?_bounds found
      rw [length_take] at this
      omega
    exact never k near ((closing?_start_eq_some_iff near).1 found)

/-- For all lines made of pieces, and each of them: the function that starts there ends on the first line on which
a closing brace outside of literals leaves none open, if that line is at most 1001 lines behind. Otherwise it is
given two lines. So what stands in the literals does not matter. -/
theorem functionEnd_counts_outside_literals (lines : List (List LinePiece)) (s : Nat) :
    (∀ k ≤ 1001, ReturnsOn (outside (lines.drop s)) k → functionEnd (written lines) s = .ok (s + k + 1)) ∧
    ((∀ k ≤ 1001, ¬ ReturnsOn (outside (lines.drop s)) k) → functionEnd (written lines) s = .ok (s + 2)) ∧
    ∀ lines', outside lines' = outside lines → functionEnd (written lines') s = functionEnd (written lines) s := by
  have ends : ∀ ls, functionEnd (written ls) s = .ok (s + functionLength (written (ls.drop s))) := fun ls => by
    rw [functionEnd, if_pos (Int.natCast_nonneg s), Int.toNat_natCast, written, written, List.map_drop]
  have length := fun ls => map_bareLine_written ls ▸ functionLength_eq (written ls)
  obtain ⟨found, unfound⟩ := length (lines.drop s)
  simp only [ends]
  refine ⟨fun k near returns => ?_, fun never => ?_, fun lines' same => ?_⟩
  · rw [found k (Nat.lt_succ_of_le near) returns, Int.natCast_succ, Int.add_assoc]
  · rw [unfound fun k near => never k (Nat.le_of_lt_succ near)]
    rfl
  · have length' := length (lines'.drop s)
    have same : outside (lines'.drop s) = outside (lines.drop s) := by
      simpa only [outside, List.map_drop] using congrArg (List.drop s) same
    rw [same] at length'
    by_cases returns : ∃ k < searchedLines, ReturnsOn (outside (lines.drop s)) k
    · obtain ⟨k, near, returns⟩ := returns
      rw [length'.1 k near returns, found k near returns]
    · push Not at returns
      rw [length'.2 returns, unfound returns]

def bracesInLiteral : List (List LinePiece) :=
  [[.plain "f(".toList (by simp [quotationMarks]),
      .literal '\'' "\x7b\x7b".toList (by decide) (by simp [quotationMarks]),
      .plain ") \x7b".toList (by simp [quotationMarks])], [.plain "\x7d".toList (by simp [quotationMarks])]]

theorem functionEnd_counts_outside_literals_twoLines :
    ReturnsOn (outside (bracesInLiteral.drop 0)) 1 ∧
      functionEnd (written bracesInLiteral) (0 : Nat) = .ok ((0 : Nat) + (1 : Nat) + 1) := by
  have returns : ReturnsOn (outside (bracesInLiteral.drop 0)) 1 := by decide
  exact ⟨returns, (functionEnd_counts_outside_literals bracesInLiteral 0).1 1 (by decide) returns⟩

end Unbundle.Analysis
