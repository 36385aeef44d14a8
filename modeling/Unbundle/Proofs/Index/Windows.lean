import Mathlib.Data.List.DropRight
import Unbundle.Index.Preview
import Unbundle.Proofs.Index.OwnLines

/-!
# Windows on a source

Windows of a fixed number of lines slide over a source until one reaches its end, so that only the last one
can be short.
-/

open List

namespace Unbundle.Text

lemma trim_eq_nil_iff {cs : List Char} : trim cs = [] ↔ ∀ c ∈ cs, isBlank c := by
  rw [trim, trimBy, dropEndWhile_eq_nil_iff]
  constructor
  · intro h c hc
    rw [← takeWhile_append_dropWhile (p := isBlank) (l := cs), mem_append] at hc
    exact hc.elim mem_takeWhile_imp (h c)
  · exact fun h c hc => h c ((dropWhile_sublist _).mem hc)

end Unbundle.Text

namespace Unbundle.Index

open Text

/-- The numbers of the first and the last line of a window. -/
@[ext] structure Window where
  first : Int
  last : Int
  deriving DecidableEq

namespace Window

/-- Whether the line of a number is in a window. -/
def Shows (w : Window) (i : Int) : Prop := w.first ≤ i ∧ i ≤ w.last

/-- How many lines two windows have in common: those from the later first line to the earlier last one. -/
def common (v w : Window) : Int := max 0 (min v.last w.last - max v.first w.first + 1)

def size (w : Window) : Int := w.last - w.first + 1

def text (source : List Char) (w : Window) : List Char := chunk source w.first (some w.last)

/-- Whether there is more than white space in a window. -/
def isFilled (source : List Char) (w : Window) : Bool := !(trim (w.text source)).isEmpty

def document (source : List Char) (file : String) (w : Window) : Document :=
  windowDocument file (w.text source) w.first w.last

/-- The windows on `n` lines from a start on, filled or not. -/
def allFrom (n : Nat) (window : Int) (more start : Nat) : List Window :=
  if start < n then
    if n ≤ start + window then [⟨start + 1, n⟩]
    else ⟨start + 1, start + window⟩ :: allFrom n window more (start + more + 1)
  else []
termination_by n - start

def all (source : List Char) (window overlap : Int) : List Window :=
  allFrom (lines source).length window (window - overlap - 1).toNat 0

variable {n more start : Nat} {window : Int}

lemma bounds_of_mem_allFrom (positive : 1 ≤ window) {w : Window} (h : w ∈ allFrom n window more start) :
    start < w.first ∧ w.first ≤ w.last ∧ w.last ≤ n ∧ w.size ≤ window ∧ min (start + window) n ≤ w.last := by
  fun_induction allFrom n window more start with
  | case1 start inside reached =>
    cases mem_singleton.1 h
    simp only [size]
    omega
  | case2 start inside further ih =>
    rcases mem_cons.1 h with rfl | h
    · simp only [size]
      omega
    · have := ih h
      omega
  | case3 => cases h

lemma pairwise_allFrom (positive : 1 ≤ window) :
    (allFrom n window more start).Pairwise fun v w => v.first < w.first ∧ v.last < w.last := by
  fun_induction allFrom n window more start with
  | case1 => simp
  | case2 start inside further ih =>
    refine pairwise_cons.2 ⟨fun w hw => ?_, ih⟩
    have := bounds_of_mem_allFrom positive hw
    dsimp only
    omega
  | case3 => exact .nil

/-- Whatever the size of the windows, one begins in each turn, later than all before it and on a line. -/
lemma advances_allFrom (n : Nat) (window : Int) (more start : Nat) :
    (allFrom n window more start).length ≤ n - start ∧
      (allFrom n window more start).Pairwise (·.first < ·.first) ∧
      ∀ w ∈ allFrom n window more start, start < w.first ∧ w.first ≤ n := by
  fun_induction allFrom n window more start with
  | case1 start inside reached =>
    simp
    omega
  | case2 start inside further ih =>
    obtain ⟨length, advancing, bounds⟩ := ih
    refine ⟨by rw [length_cons]; omega, pairwise_cons.2 ⟨fun w hw => ?_, advancing⟩, forall_mem_cons.2 ⟨?_, fun w hw => ?_⟩⟩
    · have := bounds w hw
      dsimp only
      omega
    · dsimp only
      omega
    · have := bounds w hw
      omega
  | case3 => simp

lemma head?_allFrom (inside : start < n) :
    (allFrom n window more start).head? = some ⟨start + 1, min (start + window) n⟩ := by
  rw [allFrom]
  split_ifs with reached
  · rw [min_eq_right reached, head?_singleton]
  · rw [min_eq_left (by omega), head?_cons]

/-- If windows are not further apart than they are long, a window and the next share what is beyond the step. -/
lemma isChain_allFrom (close : more + 1 ≤ window) :
    (allFrom n window more start).IsChain fun v w => v.common w = window - (more + 1) := by
  fun_induction allFrom n window more start with
  | case1 => simp
  | case2 start inside further ih =>
    refine isChain_cons.2 ⟨fun w hw => ?_, ih⟩
    rw [head?_allFrom (by omega), Option.mem_some_iff] at hw
    rw [← hw]
    simp only [common]
    omega
  | case3 => exact .nil

lemma exists_mem_allFrom (close : more + 1 ≤ window) {i : Nat} (from_start : start ≤ i) (inside : i < n) :
    ∃ w ∈ allFrom n window more start, w.Shows (i + 1) := by
  fun_induction allFrom n window more start with
  | case1 start _ reached => exact ⟨_, mem_singleton_self _, by simp only [Shows]; omega⟩
  | case2 start _ further ih =>
    by_cases here : i + 1 ≤ start + window
    · exact ⟨_, mem_cons_self, by simp only [Shows]; omega⟩
    · obtain ⟨w, hw, covered⟩ := ih (by omega)
      exact ⟨w, mem_cons_of_mem _ hw, covered⟩
  | case3 => omega

/-- From a start on that a whole window follows, all windows are whole but the one that reaches the end. That one lacks
what the lines fall short of a whole number of steps. -/
lemma size_of_mem_allFrom (close : more + 1 ≤ window) (whole : start + window ≤ n) {w : Window}
    (h : w ∈ allFrom n window more start) :
    w.size = if w.last = n then window - (window - (n - start)) % (more + 1) else window := by
  fun_induction allFrom n window more start with
  | case1 start inside reached =>
    have exact_fit : window - (n - start) = 0 := by omega
    cases mem_singleton.1 h
    simp [size, exact_fit]
    omega
  | case2 start inside further ih =>
    rcases mem_cons.1 h with rfl | h
    · simp [size]
      omega
    -- one step further, the remainder is the same
    rw [← Int.add_emod_right]
    by_cases later : (start + more + 1 : Nat) + window ≤ n
    · have step : window - (n - start) + (more + 1) = window - (n - ((start + more + 1 : Nat) : Int)) := by
        omega
      rw [step]
      exact ih later h
    · rw [allFrom, if_pos (by omega), if_pos (by omega), mem_singleton] at h
      rw [h, Int.emod_eq_of_lt (by omega) (by omega)]
      simp [size]
      omega
  | case3 => cases h

end Window

open Window

lemma windowsFrom_eq (source : List Char) (file : String) (window : Int) (more start : Nat) :
    windowsFrom file (lines source) window more start =
      ((allFrom (lines source).length window more start).filter (isFilled source)).map (document source file) := by
  have one start stop : (if (trim (unlines (slice (lines source) start (some stop)))).isEmpty then []
      else [windowDocument file (unlines (slice (lines source) start (some stop))) (start + 1) stop]) =
      ([⟨start + 1, stop⟩].filter (isFilled source)).map (document source file) := by
    have same : text source ⟨start + 1, stop⟩ = unlines (slice (lines source) start (some stop)) := by
      simp [text, chunk]
    by_cases h : (trim (unlines (slice (lines source) start (some stop)))).isEmpty <;> simp [isFilled, document, same, h]
  fun_induction allFrom (lines source).length window more start with
  | case1 start inside reached =>
    rw [windowsFrom, if_pos inside, min_eq_right reached, if_pos (le_refl _), one]
  | case2 start inside further ih =>
    rw [windowsFrom, if_pos inside, min_eq_left (by omega), if_neg further, one, ih, ← map_append,
      ← filter_append, singleton_append]
  | case3 start outside => rw [windowsFrom, if_neg outside]; rfl

lemma windows_eq (source : List Char) (file : String) (window overlap : Int) :
    windows source file window overlap =
      ((all source window overlap).filter (isFilled source)).map (document source file) :=
  windowsFrom_eq source file window _ 0

lemma forall_windows_iff {source : List Char} {file : String} {window overlap : Int} {P : Window → Prop} :
    (∀ d ∈ windows source file window overlap, ∃ w, d = w.document source file ∧ P w) ↔
      ∀ w ∈ all source window overlap, w.isFilled source → P w := by
  have told {v w : Window} (same : v.document source file = w.document source file) : v = w :=
    Window.ext (Value.int.inj (congrArg Document.first same)) (Value.int.inj (congrArg Document.last same))
  simp only [windows_eq, forall_mem_map, mem_filter, and_imp]
  refine forall₃_congr fun w _ _ => ⟨?_, fun h => ⟨w, rfl, h⟩⟩
  rintro ⟨v, same, h⟩
  exact told same ▸ h

lemma isFilled_of_line {source line : List Char} {w : Window} {i : Nat} (found : (lines source)[i]? = some line)
    (filled : ¬∀ c ∈ line, isBlank c) (positive : 1 ≤ w.first) (shown : w.Shows (i + 1)) : w.isFilled source := by
  obtain ⟨c, hc, filled⟩ := by simpa using filled
  obtain ⟨first, last⟩ := shown
  have inside : line ∈ slice (lines source) (w.first - 1) (some w.last) := by
    rw [← Int.toNat_of_nonneg (a := w.first - 1) (by omega), ← Int.toNat_of_nonneg (a := w.last) (by omega), slice_eq]
    refine mem_of_getElem? (i := i - (w.first - 1).toNat) ?_
    rw [getElem?_take_of_lt (by omega), getElem?_drop, ← found]
    congr 1
    omega
  have member : c ∈ w.text source := by
    rw [text, chunk, mem_unlines (by rintro rfl; simp [isBlank] at filled)]
    exact mem_flatten_of_mem inside hc
  simpa [isFilled, trim_eq_nil_iff] using ⟨c, member, filled⟩

section

variable {source : List Char} {window overlap : Int}

/-- The windows on a source lie within its lines and move on at both ends, and each shares with the next as many lines
as asked for, as long as it moves on. The documents are those that show more than white space, and no line that has
more than that is lost. -/
theorem windows_cover_lines (file : String) (positive : 1 ≤ window) (shared : 0 ≤ overlap) :
    windows source file window overlap = ((all source window overlap).filter (isFilled source)).map (document source file) ∧
    (∀ w ∈ all source window overlap, 1 ≤ w.first ∧ w.first ≤ w.last ∧ w.last ≤ (lines source).length ∧ w.size ≤ window) ∧
    (all source window overlap).Pairwise (fun v w => v.first < w.first ∧ v.last < w.last) ∧
    (all source window overlap).IsChain (fun v w => v.common w = min overlap (window - 1)) ∧
    ∀ (i : Nat) (line : List Char), (lines source)[i]? = some line → (¬∀ c ∈ line, Text.isBlank c) →
      ∃ w : Window, w.document source file ∈ windows source file window overlap ∧ w.Shows (i + 1) := by
  have close : ((window - overlap - 1).toNat : Int) + 1 ≤ window := by omega
  have step : window - (((window - overlap - 1).toNat : Int) + 1) = min overlap (window - 1) := by omega
  refine ⟨windows_eq .., fun w hw => ?_, pairwise_allFrom positive, step ▸ isChain_allFrom close, ?_⟩
  · have := bounds_of_mem_allFrom positive hw
    omega
  · intro i line found filled
    obtain ⟨w, hw, shown⟩ := exists_mem_allFrom close i.zero_le (List.getElem?_eq_some_iff.1 found).1
    have bounds := bounds_of_mem_allFrom positive hw
    refine ⟨w, ?_, shown⟩
    rw [windows_eq]
    exact mem_map_of_mem (mem_filter.2 ⟨hw, isFilled_of_line found filled (by omega) shown⟩)

def fourLines : List Char := "a\nb\nc\nd".toList

theorem windows_cover_lines_four : (1 : Int) ≤ 2 ∧ (0 : Int) ≤ 1 ∧ (lines fourLines)[2]? = some ['c'] ∧
    ∃ w : Window, w.document fourLines "x.py" ∈ windows fourLines "x.py" 2 1 ∧ w.Shows 3 :=
  ⟨by decide, by decide, by decide,
    (windows_cover_lines "x.py" (by decide) (by decide)).2.2.2.2 2 ['c'] (by decide) (by simp [Text.isBlank])⟩

/-- A document has at most as many lines as asked for and more than it shares with the next. It has no fewer than a
window moves on, unless it is the last one and the lines fall short of a whole number of steps by more than is shared. -/
theorem windows_comparable_iff (file : String) (shared : 0 ≤ overlap) (longer : overlap < window)
    (enough : window ≤ (lines source).length) :
    let n : Int := (lines source).length
    let lack := (window - n) % (window - overlap)
    let last : Window := ⟨n - (window - lack) + 1, n⟩
    (∀ d ∈ windows source file window overlap, ∃ w : Window, d = w.document source file ∧ overlap < w.size ∧
      w.size ≤ window) ∧
    ((∀ d ∈ windows source file window overlap, ∃ w : Window, d = w.document source file ∧ window - overlap ≤ w.size) ↔
      lack ≤ overlap ∨ ¬last.isFilled source) := by
  intro n lack last
  have more : ((window - overlap - 1).toNat : Int) + 1 = window - overlap := by omega
  have close : ((window - overlap - 1).toNat : Int) + 1 ≤ window := by omega
  have small : 0 ≤ lack ∧ lack < window - overlap :=
    ⟨Int.emod_nonneg _ (by omega), Int.emod_lt_of_pos _ (by omega)⟩
  have sizes : ∀ w ∈ all source window overlap, w.size = if w.last = n then window - lack else window := by
    intro w hw
    have := size_of_mem_allFrom close (by omega) hw
    rwa [more, Int.natCast_zero, Int.sub_zero] at this
  have last_of {w : Window} (hw : w ∈ all source window overlap) (reaches : w.last = n) : w = last := by
    have size := (sizes w hw).trans (if_pos reaches)
    rw [Window.size] at size
    exact Window.ext (by dsimp only [last]; omega) reaches
  simp only [forall_windows_iff]
  refine ⟨fun w hw _ => ?_, fun each => ?_, fun either w hw filled => ?_⟩
  · rw [sizes w hw]
    split_ifs <;> omega
  · -- the last window is one of them, since some window shows the last line
    obtain ⟨w, hw, shown⟩ := exists_mem_allFrom (n := (lines source).length) (i := (lines source).length - 1) close
      (Nat.zero_le _) (by omega)
    have bounds := bounds_of_mem_allFrom (by omega) hw
    obtain rfl := last_of hw (by have := shown.2; omega)
    rw [or_iff_not_imp_right, not_not]
    intro filled
    have := each last hw filled
    simp only [size, last] at this
    omega
  · rw [sizes w hw]
    split_ifs with reaches
    · obtain fits | blank := either
      · omega
      · exact absurd (last_of hw reaches ▸ filled) blank
    · omega

theorem windows_comparable_iff_four : (0 : Int) ≤ 1 ∧ (1 : Int) < 3 ∧ (3 : Int) ≤ (lines fourLines).length ∧
    ∀ d ∈ windows fourLines "x.py" 3 1, ∃ w : Window, d = w.document fourLines "x.py" ∧ 3 - 1 ≤ w.size :=
  ⟨by decide, by decide, by decide,
    (windows_comparable_iff "x.py" (by decide) (by decide) (by decide)).2.2 (.inl (by decide))⟩

/-- Windows of three lines that share none leave one of four lines for the last. -/
theorem last_window_short : (3 : Int) ≤ (lines fourLines).length ∧
    ¬∀ d ∈ windows fourLines "x.py" 3 0, ∃ w : Window, d = w.document fourLines "x.py" ∧ 3 - 0 ≤ w.size := by
  rw [forall_windows_iff]
  decide +kernel

/-- With any numbers for size and overlap, there are at most as many windows as lines, and the documents begin on lines
further and further down. -/
theorem windows_advance (source : List Char) (file : String) (window overlap : Int) :
    windows source file window overlap = ((all source window overlap).filter (isFilled source)).map (document source file) ∧
    (all source window overlap).length ≤ max 1 (lines source).length ∧
    ∃ starts : List Int, (windows source file window overlap).map Document.first = starts.map Value.int ∧
      starts.Pairwise (· < ·) ∧ ∀ i ∈ starts, 1 ≤ i ∧ i ≤ (lines source).length := by
  obtain ⟨length, advancing, bounds⟩ := advances_allFrom (lines source).length window (window - overlap - 1).toNat 0
  refine ⟨windows_eq .., length.trans (by omega), ((all source window overlap).filter (isFilled source)).map Window.first, ?_, ?_, ?_⟩
  · rw [windows_eq, map_map, map_map]
    rfl
  · exact pairwise_map.2 (advancing.filter _)
  · intro i hi
    obtain ⟨w, hw, rfl⟩ := mem_map.1 hi
    have := bounds w (mem_of_mem_filter hw)
    omega

end

end Unbundle.Index

namespace Unbundle.Text

/-! ## Numbers in a preview -/

variable {p : Char → Bool} {l : List Char} {ls : List (List Char)}

lemma feed_not_mem_lines (cs : List Char) : ∀ l ∈ lines cs, '\n' ∉ l := by
  have feed : isLineBreak '\n' = true := rfl
  fun_induction lines cs with
  | case4 c cs _ free none => grind
  | case5 c cs _ free l ls more ih => rw [more] at ih; grind
  | _ => simp_all

lemma dropEndWhile_append (a b : List Char) :
    dropEndWhile p (a ++ b) = if dropEndWhile p b = [] then dropEndWhile p a else a ++ dropEndWhile p b := by
  induction a with
  | nil => simp [dropEndWhile]
  | cons c a ih =>
    rw [cons_append, dropEndWhile, ih]
    by_cases none : dropEndWhile p b = []
    · rw [if_pos none, if_pos none, dropEndWhile]
    · cases rest : a ++ dropEndWhile p b <;> simp_all

lemma trimEnd_append_feed (r : List Char) :
    trimEnd (l ++ '\n' :: r) = if trimEnd r = [] then trimEnd l else l ++ '\n' :: trimEnd r := by
  rw [trimEnd, dropEndWhile_append, dropEndWhile]
  cases h : dropEndWhile isBlank r <;> simp [trimEnd, h, isBlank]

lemma dropEndWhile_dropWhile : dropEndWhile p (l.dropWhile p) = (dropEndWhile p l).dropWhile p := by
  induction l with
  | nil => rfl
  | cons c l ih => cases h : dropEndWhile p l <;> by_cases hc : p c <;> simp_all [dropEndWhile]

lemma dropEndWhile_twice : dropEndWhile p (dropEndWhile p l) = dropEndWhile p l := by
  induction l with
  | nil => rfl
  | cons c l ih => cases h : dropEndWhile p l <;> by_cases hc : p c <;> simp_all [dropEndWhile]

lemma trim_trimEnd : trim (trimEnd l) = trim l := by
  rw [trim, trimBy, trimEnd, ← dropEndWhile_dropWhile, dropEndWhile_twice, trim, trimBy]

lemma trim_dropWhile : trim (l.dropWhile isBlank) = trim l := by
  rw [trim, trimBy, dropWhile_idempotent, trim, trimBy]

lemma isBlank_of_trim {c : Char} {cs : List Char} (h : trim l = c :: cs) : isBlank c = false := by
  have first := head?_dropWhile_not isBlank (dropEndWhile isBlank l)
  rw [trim, trimBy, dropEndWhile_dropWhile] at h
  simpa [h] using first

end Unbundle.Text

namespace Unbundle.Index

open Text

variable {source : List Char} {first : Int} {last : Option Int} {l : List Char} {ls : List (List Char)}

/-- The lines of a text without its blank end are those at the start of the text. -/
lemma map_trim_splitOn_trimEnd (ne : ls ≠ []) (free : ∀ l ∈ ls, '\n' ∉ l) :
    (Text.splitOn '\n' (trimEnd (unlines ls))).map trim <+: ls.map trim := by
  induction ls with
  | nil => exact absurd rfl ne
  | cons l ls ih =>
    obtain ⟨here, free⟩ := forall_mem_cons.1 free
    have one : Text.splitOn '\n' (trimEnd l) = [trimEnd l] := by
      rw [splitOn_eq, splitOn_eq_singleton]
      exact fun h => here (mem_of_mem_dropEndWhile h)
    cases ls with
    | nil => simp [unlines, join, one, trim_trimEnd]
    | cons m ls =>
      rw [unlines_cons_cons, trimEnd_append_feed]
      split_ifs with blank
      · simp [one, trim_trimEnd]
      · rw [splitOn_eq, splitOn_append_cons_self, splitOn_eq_singleton here, ← splitOn_eq]
        exact cons_prefix_cons.2 ⟨rfl, ih (by simp) free⟩

lemma map_trim_codeLines (first : ls.head? = some l) (filled : trim l ≠ []) (free : ∀ m ∈ ls, '\n' ∉ m) :
    (codeLines (unlines ls)).map trim <+: ls.map trim := by
  obtain ⟨ls, rfl⟩ := head?_eq_some_iff.1 first
  have start : (unlines (l :: ls)).dropWhile isBlank = unlines (l.dropWhile isBlank :: ls) := by
    have kept : l.dropWhile isBlank ≠ [] := fun none => filled (by rw [trim, trimBy, none]; rfl)
    cases ls with
    | nil => rfl
    | cons m ls => rw [unlines_cons_cons, dropWhile_append, if_neg (by simpa using kept), unlines_cons_cons]
  have free' : ∀ m ∈ l.dropWhile isBlank :: ls, '\n' ∉ m := by
    rw [forall_mem_cons] at free ⊢
    exact ⟨fun h => free.1 ((dropWhile_sublist _).mem h), free.2⟩
  have shown := map_trim_splitOn_trimEnd (cons_ne_nil _ _) free'
  rwa [← start, map_cons, trim_dropWhile] at shown

/-- A text of white space alone is shown as an empty line, and any other begins with a line that is not blank. -/
lemma trim_head_codeLines {text : List Char} {rest : List (List Char)} (h : codeLines text = l :: rest) :
    trim l = [] ↔ trim text = [] := by
  rw [codeLines] at h
  cases t : trim text with
  | nil => simp_all [Text.splitOn, trim, trimBy, dropEndWhile]
  | cons c cs =>
    have filled := isBlank_of_trim t
    have other : c ≠ '\n' := by rintro rfl; simp [isBlank] at filled
    rw [t, Text.splitOn, if_neg other] at h
    have mem : c ∈ l := by
      cases parts : Text.splitOn '\n' cs with
      | nil => simp [(cons.inj (parts ▸ h)).1.symm]
      | cons part parts' =>
        rw [parts] at h
        simp [(cons.inj h).1.symm]
    simpa [trim_eq_nil_iff] using ⟨c, mem, filled⟩

/-- A line of the source is shown under its number, up to white space at its ends. -/
def IsRight (source : List Char) (n : Int) (text : List Char) : Prop :=
  1 ≤ n ∧ ∃ line, (lines source)[(n - 1).toNat]? = some line ∧ trim line = trim text

def numbered (first : Int) (text : List Char) : List (Int × List Char) :=
  ((codeLines text).take previewLines).zipIdx.map fun p => (first + p.2, p.1)

lemma exists_chunk (source : List Char) (last : Option Int) (positive : 1 ≤ first) :
    ∃ n, chunk source first last = unlines (((lines source).drop (first - 1).toNat).take n) := by
  have start : (lines source).drop (clampBound (lines source).length (first - 1)) =
      (lines source).drop (first - 1).toNat := by
    rw [clampBound, if_neg (by omega), drop_eq_drop_iff]
    omega
  exact ⟨_, by rw [chunk, slice, start]⟩

/-- All numbers are right exactly if the first is, and that is as long as there is no blank line at the start. -/
lemma forall_isRight_iff : (∀ p ∈ numbered first (chunk source first last), IsRight source p.1 p.2) ↔
    1 ≤ first ∧ ∃ line, (lines source)[(first - 1).toNat]? = some line ∧
      (trim line = [] ↔ trim (chunk source first last) = []) := by
  constructor
  · intro right
    cases shown : codeLines (chunk source first last) with
    | nil =>
      rw [codeLines, splitOn_eq] at shown
      exact absurd shown (splitOn_ne_nil _ _)
    | cons l rest =>
      obtain ⟨positive, line, found, same⟩ := right (first, l) (by simp [numbered, shown, previewLines])
      exact ⟨positive, line, found, same ▸ trim_head_codeLines shown⟩
  · rintro ⟨positive, line, found, same⟩ p hp
    obtain ⟨⟨t, i⟩, ht, rfl⟩ := mem_map.1 hp
    rw [mem_zipIdx_iff_getElem?, getElem?_take] at ht
    have ht : (codeLines (chunk source first last))[i]? = some t := (Option.ite_none_right_eq_some.1 ht).2
    refine ⟨by dsimp only; omega, ?_⟩
    rw [show (first + i - 1).toNat = (first - 1).toNat + i by omega]
    obtain ⟨n, cut⟩ := exists_chunk source last positive
    by_cases blank : trim (chunk source first last) = []
    · rw [codeLines, blank] at ht
      cases i <;> simp [Text.splitOn] at ht
      exact ⟨line, found, ht ▸ same.2 blank⟩
    · have taken : n ≠ 0 := by
        rintro rfl
        exact blank (by rw [cut]; rfl)
      have shown := map_trim_codeLines (by rw [head?_take, if_neg taken, head?_drop, found]) (mt same.1 blank)
        fun m hm => feed_not_mem_lines source m (mem_of_mem_drop (mem_of_mem_take hm))
      rw [← cut] at shown
      have here : ((((lines source).drop (first - 1).toNat).take n).map trim)[i]? = some (trim t) := by
        obtain ⟨after, whole⟩ := shown
        rw [← whole, List.getElem?_append_left (by simpa using (List.getElem?_eq_some_iff.1 ht).1), List.getElem?_map, ht]
        rfl
      rw [getElem?_map, getElem?_take, getElem?_drop, Option.map_eq_some_iff] at here
      obtain ⟨line, found, same⟩ := here
      exact ⟨line, (Option.ite_none_right_eq_some.1 found).2, same⟩

def numberedLine (n : Int) (text : List Char) : String :=
  let number := replicate (4 - (Number.ofInt n).length) ' ' ++ Number.ofInt n
  let shown := String.ofList (number ++ " | ".toList ++ text)
  s!"      {shown}"

lemma showNumbered_eq (first : Int) (ts : List (List Char)) (k : Nat) : showNumbered (some (.int first)) (ts.zipIdx (k + 1)) =
    .lines ((ts.zipIdx k).map fun p => numberedLine (first + p.2) p.1) := by
  induction ts generalizing k with
  | nil => rfl
  | cons t ts ih =>
    have number : lineNumber (some (.int first)) (k + 1) = .ok (.int (first + k)) := by
      rw [show first + k = first + (k + 1 : Nat) - 1 by omega]
      rfl
    rw [zipIdx_cons, showNumbered, number, ih]
    rfl

lemma exists_showPlaced {d : Document} (start : d.first = .int first) :
    ∃ before after, showPlaced d.metadata (.text d.text) = Printing.lines
      (before ++ (numbered first d.text.toList).map (fun p => numberedLine p.1 p.2) ++ after) := by
  have lift {α : Type} (a : α) (f : α → Printing Unit) : (liftM (Except.ok a : Except Fault α) >>= f) = f a := rfl
  obtain ⟨file, name, kind, start', last⟩ : d.metadata.getD "file_path" (.text "N/A") = .ok (.text d.file) ∧
      fieldIfHeld d.metadata "function_name" = .ok (some (.text d.name)) ∧
      fieldIfHeld d.metadata "type" = .ok (some d.kind) ∧
      fieldIfHeld d.metadata "start_line" = .ok (some (.int first)) ∧
      fieldIfHeld d.metadata "end_line" = .ok (some d.last) := by
    rw [← start, Document.metadata]
    cases d.symbol <;> exact ⟨rfl, rfl, rfl, rfl, rfl⟩
  have text : (Value.text d.text).textFor "strip" = .ok d.text := rfl
  have listed := showNumbered_eq first ((codeLines d.text.toList).take previewLines) 0
  obtain ⟨after, omitted⟩ : ∃ ss, showOmitted previewLines (codeLines d.text.toList).length = Printing.lines ss := by
    rw [showOmitted]
    split_ifs
    · exact ⟨_, Printing.line_eq_lines _⟩
    · exact ⟨[], rfl⟩
  have pairs : (numbered first d.text.toList).map (fun p => numberedLine p.1 p.2) =
      ((codeLines d.text.toList).take previewLines).zipIdx.map fun p => numberedLine (first + p.2) p.1 := by
    rw [numbered, map_map]
    rfl
  simp only [showPlaced, file, name, kind, start', last, text, lift, listed, omitted, pairs]
  by_cases named : (Value.text d.name).truthy = true
  · rw [if_pos named, Printing.lines_bind]
    exact ⟨[_, _, _, _, _], after, rfl⟩
  · rw [if_neg named, Printing.lines_bind]
    exact ⟨[_, _, _, _], after, rfl⟩

/-- The preview of a document numbers its lines right exactly if the document starts on a line of the source and that is
blank only where all of the text is. -/
theorem preview_numbers_right_iff {file : String} {d : Document}
    (made : (∃ window overlap, d ∈ windows source file window overlap) ∨
      ∃ symbol, symbolDocument (lines source) file symbol = .ok d) (start : d.first = .int first) :
    ∃ before after, showPlaced d.metadata (.text d.text) = Printing.lines
      (before ++ (numbered first d.text.toList).map (fun p => numberedLine p.1 p.2) ++ after) ∧
    ((∀ p ∈ numbered first d.text.toList, IsRight source p.1 p.2) ↔ 1 ≤ first ∧
      ∃ line, (lines source)[(first - 1).toNat]? = some line ∧ (trim line = [] ↔ trim d.text.toList = [])) := by
  obtain ⟨last, text⟩ : ∃ last, d.text.toList = chunk source first last := by
    obtain ⟨window, overlap, mem⟩ | ⟨symbol, read⟩ := made
    · rw [windows_eq] at mem
      obtain ⟨w, -, rfl⟩ := mem_map.1 mem
      cases start
      exact ⟨some w.last, String.toList_ofList⟩
    · simp only [symbolDocument, bind_eq_ok_iff, chunkBetween, pure_eq_ok_iff] at read
      obtain ⟨v, -, v', -, text, ⟨w, less, lo, bound, last, -, cut⟩, id, -, name, -, kind, -, rfl⟩ := read
      cases start
      cases less
      cases bound
      exact ⟨last, by rw [String.toList_ofList, ← cut]; rfl⟩
  obtain ⟨before, after, shown⟩ := exists_showPlaced start
  exact ⟨before, after, shown, by rw [text]; exact forall_isRight_iff⟩

theorem preview_numbers_right_four :
    (⟨1, 4⟩ : Window).document fourLines "x.py" ∈ windows fourLines "x.py" 50 10 ∧
    ∀ p ∈ numbered 1 fourLines, IsRight fourLines p.1 p.2 := by
  have mem : (⟨1, 4⟩ : Window).document fourLines "x.py" ∈ windows fourLines "x.py" 50 10 := by
    rw [windows_eq]
    exact mem_map_of_mem (by decide +kernel)
  have text : ((⟨1, 4⟩ : Window).document fourLines "x.py").text.toList = fourLines := by decide +kernel
  obtain ⟨-, -, -, right⟩ := preview_numbers_right_iff (.inl ⟨50, 10, mem⟩) rfl
  rw [text] at right
  exact ⟨mem, right.2 ⟨le_rfl, ['a'], by decide +kernel, by decide +kernel⟩⟩

def thirdLine : List Char := ['\n', '\n', 'x']

theorem blank_lines_shift_numbers :
    (⟨1, 3⟩ : Window).document thirdLine "x.py" ∈ windows thirdLine "x.py" 50 10 ∧
    (1, ['x']) ∈ numbered 1 ((⟨1, 3⟩ : Window).text thirdLine) ∧ ¬IsRight thirdLine 1 ['x'] := by
  refine ⟨?_, by decide +kernel, ?_⟩
  · rw [windows_eq]
    exact mem_map_of_mem (by decide +kernel)
  · rintro ⟨-, line, found, same⟩
    cases (show (lines thirdLine)[0]? = some [] by decide +kernel).symm.trans found
    revert same
    decide +kernel

end Unbundle.Index
