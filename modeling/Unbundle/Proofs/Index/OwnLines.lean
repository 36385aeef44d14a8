import Unbundle.Index.Build
import Unbundle.Proofs.Analysis.Definitions
import Unbundle.Proofs.Text.Utf8

/-!
# The chunk of a symbol

The lines of a definition are counted at line feeds, whereas a source is cut into chunks at every break for
display.
-/

open List Unbundle.Text

namespace Unbundle.Text

/-- The lines of a text that is cut at some breaks. A break at the very end starts no further line. -/
def linesAt (breaks : Char → Bool) : List Char → List (List Char)
  | [] => []
  | c :: cs =>
    if breaks c then [] :: linesAt breaks cs
    else
      match linesAt breaks cs with
      | [] => [[c]]
      | l :: ls => (c :: l) :: ls

def isFeed (c : Char) : Bool := c == '\n'

lemma lines_eq_linesAt {cs : List Char} (plain : '\r' ∉ cs) : lines cs = linesAt isLineBreak cs := by
  induction cs with
  | nil => rfl
  | cons c cs ih =>
    rw [mem_cons, not_or] at plain
    -- `lines` opens at a character only where no carriage return and line feed come together
    have single : ∀ rest, c = '\r' → cs = '\n' :: rest → False := fun _ h => absurd h.symm plain.1
    cases others : linesAt isLineBreak cs <;> simp [lines, linesAt, ih plain.2, others]

section

variable {p : Char → Bool} {b : Char} {l rest : List Char}

lemma linesAt_append (hb : p b) : linesAt p (l ++ b :: rest) = linesAt p (l ++ [b]) ++ linesAt p rest := by
  induction l with
  | nil => simp [linesAt, hb]
  | cons c l ih =>
    rw [cons_append, linesAt, ih, cons_append, linesAt]
    by_cases h : p c
    · simp [h]
    · cases lines : linesAt p (l ++ [b]) with
      | nil => cases l <;> grind [linesAt]
      | cons first others => simp [h]

lemma length_linesAt_le : (linesAt p l).length ≤ l.countP p + 1 := by
  induction l with
  | nil => simp [linesAt]
  | cons c l ih =>
    rw [linesAt]
    by_cases h : p c
    · simpa [h] using ih
    · cases lines : linesAt p l with
      | nil => simp [h]
      | cons first others => simpa [h, lines] using ih

lemma length_linesAt_concat (hb : p b) : (linesAt p (l ++ [b])).length = l.countP p + 1 := by
  induction l with
  | nil => simp [linesAt, hb]
  | cons c l ih =>
    rw [cons_append, linesAt]
    by_cases h : p c
    · simp [h, ih]
    · cases lines : linesAt p (l ++ [b]) with
      | nil => simp [lines] at ih
      | cons first others => simpa [h, lines] using ih

lemma linesAt_of_free (free : ∀ c ∈ l, ¬p c) : linesAt p l = if l = [] then [] else [l] := by
  induction l with
  | nil => rfl
  | cons c l ih =>
    rw [forall_mem_cons] at free
    rw [linesAt, ih free.2]
    cases l <;> simp [free.1]

lemma linesAt_free_append (free : ∀ c ∈ l, ¬p c) (hb : p b) : linesAt p (l ++ b :: rest) = l :: linesAt p rest := by
  induction l with
  | nil => simp [linesAt, hb]
  | cons c l ih =>
    rw [forall_mem_cons] at free
    rw [cons_append, linesAt, ih free.2]
    simp [free.1]

lemma free_or_exists_break (p : Char → Bool) (cs : List Char) :
    (∀ c ∈ cs, ¬p c) ∨ ∃ l b rest, cs = l ++ b :: rest ∧ p b ∧ ∀ c ∈ l, ¬p c := by
  induction cs with
  | nil => simp
  | cons c cs ih =>
    by_cases h : p c
    · exact .inr ⟨[], c, cs, rfl, h, by simp⟩
    · obtain free | ⟨l, b, rest, rfl, hb, free⟩ := ih
      · exact .inl (forall_mem_cons.2 ⟨h, free⟩)
      · exact .inr ⟨c :: l, b, rest, rfl, hb, forall_mem_cons.2 ⟨h, free⟩⟩

lemma not_break_of_mem_linesAt {cs line : List Char} {c : Char} (h : line ∈ linesAt p cs) (hc : c ∈ line) : ¬p c := by
  induction cs generalizing line with
  | nil => simp [linesAt] at h
  | cons d cs ih =>
    rw [linesAt] at h
    by_cases hd : p d
    · simp only [hd, if_true, mem_cons] at h
      rcases h with rfl | h
      · simp at hc
      · exact ih h hc
    · cases lines : linesAt p cs with
      | nil =>
        simp_all
      | cons first others =>
        simp only [if_neg hd, lines] at h
        rcases mem_cons.1 h with rfl | h
        · rcases mem_cons.1 hc with rfl | hc
          · exact hd
          · exact ih (by simp [lines]) hc
        · exact ih (by simp [lines, h]) hc

end

/-- The lines of a text at all its breaks, from some lines on that end at breaks of one kind: the other breaks before
them count as well. -/
lemma take_drop_linesAt {p q : Char → Bool} (both : ∀ c, p c → q c) (n m : Nat) (cs : List Char)
    (free : ∀ c ∈ (((linesAt p cs).drop n).take m).flatten, ¬q c) :
    ((linesAt q cs).drop (n + ((linesAt p cs).take n).flatten.countP q)).take m = ((linesAt p cs).drop n).take m := by
  induction n generalizing cs with
  | zero =>
    induction m generalizing cs with
    | zero => simp
    | succ m ih =>
      obtain none | ⟨l, b, rest, rfl, hb, none⟩ := free_or_exists_break p cs
      · rw [linesAt_of_free none] at free ⊢
        have free' : ∀ c ∈ cs, ¬q c := by
          by_cases h : cs = [] <;> simp_all
        simp [linesAt_of_free free']
      · rw [linesAt_free_append none hb] at free ⊢
        simp only [drop_zero, take_succ_cons, flatten_cons, mem_append] at free
        have free' : ∀ c ∈ l, ¬q c := fun c hc => free c (.inl hc)
        have later := ih rest fun c hc => free c (.inr hc)
        rw [linesAt_free_append free' (both b hb)]
        simpa using later
  | succ n ih =>
    obtain none | ⟨l, b, rest, rfl, hb, none⟩ := free_or_exists_break p cs
    · have short := length_linesAt_le (p := q) (l := cs)
      rw [linesAt_of_free none]
      by_cases h : cs = []
      · simp [h, linesAt]
      · simp only [if_neg h]
        rw [drop_eq_nil_of_le]
        · simp
        · simp
          omega
    · rw [linesAt_free_append none hb] at free ⊢
      have length := length_linesAt_concat (p := q) (l := l) (both b hb)
      have passed : n + 1 + ((l :: linesAt p rest).take (n + 1)).flatten.countP q =
          (linesAt q (l ++ [b])).length + (n + ((linesAt p rest).take n).flatten.countP q) := by
        simp only [take_succ_cons, flatten_cons, countP_append]
        omega
      rw [linesAt_append (both b hb), passed, drop_length_add_append]
      exact ih rest free

/-- Every break of a text written as a line feed. -/
def feeds : List Char → List Char
  | [] => []
  | '\r' :: '\n' :: cs => '\n' :: feeds cs
  | c :: cs => (if isLineBreak c then '\n' else c) :: feeds cs

/-- A text without the line feed at its end, if it has one. -/
def dropFeed (cs : List Char) : List Char := if cs.getLast? = some '\n' then cs.dropLast else cs

lemma dropFeed_cons {c d : Char} {cs : List Char} : dropFeed (c :: d :: cs) = c :: dropFeed (d :: cs) := by
  by_cases h : (d :: cs).getLast? = some '\n' <;> simp [dropFeed, h]

end Unbundle.Text

namespace Unbundle.Index

open Text Analysis

/-- The lines of a source from one to another, both ends included, where only a line feed ends a line. -/
def ownLines (source : List Char) (first last : Nat) : List (List Char) :=
  ((linesAt isFeed source).drop (first - 1)).take (last - (first - 1))

def breaksBefore (source : List Char) (first : Nat) : Nat :=
  ((linesAt isFeed source).take (first - 1)).flatten.countP isLineBreak

def hasBreak (ls : List (List Char)) : Bool := ls.flatten.any isLineBreak

lemma mem_unlines {ls : List (List Char)} {c : Char} (h : c ≠ '\n') : c ∈ unlines ls ↔ c ∈ ls.flatten := by
  unfold unlines
  induction ls with
  | nil => simp [join]
  | cons l ls ih =>
    cases ls with
    | nil => simp [join]
    | cons l' ls => simp [join, h, ih]

lemma slice_eq (xs : List α) (a b : Nat) : slice xs a (some b) = (xs.drop a).take (b - a) := by
  have low : clampBound xs.length a = min a xs.length := by simp [clampBound]
  have high : clampBound xs.length b = min b xs.length := by simp [clampBound]
  simp only [slice, Option.map_some, Option.getD_some, low]
  rcases le_total a xs.length with inside | outside
  · rw [min_eq_left inside, take_eq_take_iff, length_drop]
    omega
  · rw [min_eq_right outside, drop_eq_nil_of_le outside]
    simp

lemma unlines_cons_cons {ls : List (List Char)} (l m : List Char) :
    unlines (l :: m :: ls) = l ++ '\n' :: unlines (m :: ls) := by
  simp [unlines, join]

lemma unlines_append {ls ms : List (List Char)} (some_ls : ls ≠ []) (some_ms : ms ≠ []) :
    unlines (ls ++ ms) = unlines ls ++ '\n' :: unlines ms := by
  obtain ⟨m, ms, rfl⟩ := exists_cons_of_ne_nil some_ms
  induction ls with
  | nil => exact absurd rfl some_ls
  | cons l ls ih =>
    cases ls with
    | nil => exact unlines_cons_cons l m
    | cons l' ls => simpa [unlines_cons_cons] using ih

lemma unlines_lines (cs : List Char) : unlines (lines cs) = dropFeed (feeds cs) := by
  have lines_cons (c : Char) (cs : List Char) : ∃ l ls, lines (c :: cs) = l :: ls := by
    generalize all : c :: cs = ds
    fun_cases lines ds <;> simp at all ⊢
  have feeds_cons (c : Char) (cs : List Char) : ∃ d ds, feeds (c :: cs) = d :: ds := by
    generalize all : c :: cs = ds
    fun_cases feeds ds <;> simp at all ⊢
  have broken {cs : List Char} (ih : unlines (lines cs) = dropFeed (feeds cs)) :
      unlines ([] :: lines cs) = dropFeed ('\n' :: feeds cs) := by
    cases cs with
    | nil => rfl
    | cons c cs =>
      obtain ⟨l, ls, lines⟩ := lines_cons c cs
      obtain ⟨d, ds, feeds⟩ := feeds_cons c cs
      rw [lines, feeds] at ih ⊢
      rw [unlines_cons_cons, dropFeed_cons, ih, nil_append]
  fun_induction lines cs with
  | case1 => rfl
  | case2 cs ih => exact broken ih
  | case3 c cs single break_ ih =>
    rw [feeds.eq_3 c cs single, if_pos break_]
    exact broken ih
  | case4 c cs single kept ends ih =>
    cases cs with
    | nil =>
      have other : c ≠ '\n' := by
        rintro rfl
        exact kept rfl
      simp [unlines, join, feeds, kept, dropFeed, other]
    | cons d cs =>
      obtain ⟨l, ls, lines⟩ := lines_cons d cs
      cases ends.symm.trans lines
  | case5 c cs single kept l ls rest ih =>
    cases cs with
    | nil => cases rest
    | cons d cs =>
      obtain ⟨e, es, feeds⟩ := feeds_cons d cs
      rw [Text.feeds.eq_3 c _ single, if_neg kept, feeds, dropFeed_cons, ← feeds, ← ih, rest]
      cases ls <;> simp [unlines, join]

/-- Chunks of lines that follow each other are joined by a line feed. All lines make up the source with its breaks as
line feeds, and no line is beyond the last. -/
theorem chunks_splice (source : List Char) :
    (∀ a b c : Int, 1 ≤ a → a ≤ b → b < c → c ≤ (lines source).length →
      chunk source a (some b) ++ '\n' :: chunk source (b + 1) (some c) = chunk source a (some c)) ∧
    chunk source 1 (some (lines source).length) = dropFeed (feeds source) ∧
    ∀ a b : Int, (lines source).length < b → chunk source a (some b) = chunk source a (some (lines source).length) := by
  refine ⟨fun a b c positive ordered less inside => ?_, ?_, fun a b beyond => ?_⟩
  · obtain ⟨k, hk⟩ := Int.eq_ofNat_of_zero_le (a := a - 1) (by omega)
    obtain ⟨m, rfl⟩ := Int.eq_ofNat_of_zero_le (a := b) (by omega)
    obtain ⟨n, rfl⟩ := Int.eq_ofNat_of_zero_le (a := c) (by omega)
    have parts : ((lines source).drop k).take (n - k) =
        ((lines source).drop k).take (m - k) ++ ((lines source).drop m).take (n - m) := by
      rw [show n - k = m - k + (n - m) by omega, take_add, drop_drop, show k + (m - k) = m by omega]
    rw [chunk, chunk, chunk, hk, add_sub_cancel_right, slice_eq, slice_eq, slice_eq, parts, unlines_append]
    · exact ne_nil_of_length_pos (by rw [length_take, length_drop]; omega)
    · exact ne_nil_of_length_pos (by rw [length_take, length_drop]; omega)
  · rw [chunk, ← unlines_lines]
    have := slice_eq (lines source) 0 (lines source).length
    simp_all
  · have clamped {n : Nat} {b : Int} (beyond : n ≤ b) : clampBound n b = n := by
      rw [clampBound]
      split_ifs <;> omega
    simp only [chunk, slice, Option.map_some, clamped beyond.le, clamped (le_refl ((lines source).length : Int))]

section

variable {source : List Char} (plain : '\r' ∉ source)

include plain

/-- Lines without other breaks are a chunk, as many lines further on as there are other breaks before. -/
lemma chunk_eq_unlines {first : Nat} (positive : 1 ≤ first) (last : Nat) (whole : ¬hasBreak (ownLines source first last)) :
    chunk source (first + breaksBefore source first) (some (last + breaksBefore source first)) =
      unlines (ownLines source first last) := by
  have feeds : ∀ c, isFeed c → isLineBreak c := by
    intro c h
    rw [isFeed, beq_iff_eq] at h
    simp [h, isLineBreak]
  have shifted := take_drop_linesAt feeds (first - 1) (last - (first - 1)) source
    fun c hc found => whole (any_eq_true.2 ⟨c, hc, found⟩)
  have start : (first + breaksBefore source first - 1) = ((first - 1 + breaksBefore source first : Nat) : Int) := by
    omega
  have size : last + breaksBefore source first - (first - 1 + breaksBefore source first) = last - (first - 1) := by
    omega
  rw [chunk, start, ← Int.natCast_add, slice_eq, size, lines_eq_linesAt plain]
  exact congrArg unlines shifted

/-- A chunk holds no break but line feeds, so lines that do are none. -/
lemma chunk_ne_unlines {first last : Nat} (broken : hasBreak (ownLines source first last)) (a : Int) (b : Option Int) :
    chunk source a b ≠ unlines (ownLines source first last) := by
  intro same
  obtain ⟨c, hc, found⟩ := any_eq_true.1 broken
  have other : c ≠ '\n' := by
    rintro rfl
    obtain ⟨line, hline, hc⟩ := mem_flatten.1 hc
    exact not_break_of_mem_linesAt (mem_of_mem_drop (mem_of_mem_take hline)) hc rfl
  rw [← mem_unlines other, ← same, chunk, mem_unlines other, mem_flatten] at hc
  obtain ⟨line, hline, hc⟩ := hc
  rw [lines_eq_linesAt plain] at hline
  exact not_break_of_mem_linesAt (mem_of_mem_drop (mem_of_mem_take hline)) hc found

end

/-- The lines of a symbol are in order. If no other break stands in them, they are the chunk that lies as many lines
further on as other breaks come before; if one does, no chunk is made of them. -/
theorem own_lines_shifted_by_breaks (o : Origin) {source : List Char} {nodes : List Grammar.Node} (plain : '\r' ∉ source)
    (parsed : Grammar.parse source = .ok nodes) (visited : visitStepsAll nodes ≤ maxSteps) :
    ∃ g, sourceFindings o source = .ok g ∧ ∀ s ∈ g.symbols, 1 ≤ s.firstLine ∧ s.firstLine ≤ s.lastLine ∧
      let own := ownLines source s.firstLine s.lastLine
      let shift := breaksBefore source s.firstLine
      (¬hasBreak own → chunk source (s.firstLine + shift) (some (s.lastLine + shift)) = unlines own) ∧
      (hasBreak own → ∀ first last, chunk source first last ≠ unlines own) := by
  refine ⟨_, (sourceFindings_eq parsed).trans (if_neg (Nat.not_lt.2 visited)), fun s hs => ?_⟩
  obtain ⟨d, -, name, span, -, first, last, -⟩ := Multiset.exists_mem_of_rel_of_mem (rel_symbols _) hs
  obtain ⟨positive, ordered⟩ := span.ordered
  rw [← first] at positive ordered
  rw [← last] at ordered
  exact ⟨positive, ordered, chunk_eq_unlines plain positive _, chunk_ne_unlines plain⟩

def afterFormFeed : List Char := "'\x0c'\ndef f():0".toList

lemma exists_afterFormFeed : ∃ nodes, Grammar.parse afterFormFeed = .ok nodes ∧ visitStepsAll nodes ≤ maxSteps ∧
    (findings ⟨"x.py", "x"⟩ (tagNames afterFormFeed) nodes).symbols = [⟨"x.f", "x.py", 2, 2, none⟩] := by
  apply exists_ok_of_any
  decide +kernel

theorem own_lines_shifted_by_breaks_afterFormFeed : ∃ nodes g, Grammar.parse afterFormFeed = .ok nodes ∧
    sourceFindings ⟨"x.py", "x"⟩ afterFormFeed = .ok g ∧ ∃ s ∈ g.symbols,
      ¬hasBreak (ownLines afterFormFeed s.firstLine s.lastLine) ∧ breaksBefore afterFormFeed s.firstLine = 1 ∧
      chunk afterFormFeed (s.firstLine + 1) (some (s.lastLine + 1)) =
        unlines (ownLines afterFormFeed s.firstLine s.lastLine) := by
  obtain ⟨nodes, parsed, visited, symbols⟩ := exists_afterFormFeed
  have found := (sourceFindings_eq (o := ⟨"x.py", "x"⟩) parsed).trans (if_neg (Nat.not_lt.2 visited))
  obtain ⟨g, found', each⟩ := own_lines_shifted_by_breaks ⟨"x.py", "x"⟩ (by decide +kernel) parsed visited
  cases found.symm.trans found'
  have listed : ⟨"x.f", "x.py", 2, 2, none⟩ ∈ (findings ⟨"x.py", "x"⟩ (tagNames afterFormFeed) nodes).symbols := by
    simp [symbols]
  have whole : ¬hasBreak (ownLines afterFormFeed 2 2) := by decide +kernel
  exact ⟨nodes, _, parsed, found, _, listed, whole, by decide +kernel, (each _ listed).2.2.1 whole⟩

/-- The chunk of the function is the end of the line before it. -/
theorem chunk_of_line_before : ∃ nodes g, Grammar.parse afterFormFeed = .ok nodes ∧
    sourceFindings ⟨"x.py", "x"⟩ afterFormFeed = .ok g ∧ ∃ s ∈ g.symbols,
      unlines (ownLines afterFormFeed s.firstLine s.lastLine) = "def f():0".toList ∧
      chunk afterFormFeed s.firstLine (some s.lastLine) = "'".toList := by
  obtain ⟨nodes, parsed, visited, symbols⟩ := exists_afterFormFeed
  refine ⟨nodes, _, parsed, (sourceFindings_eq parsed).trans (if_neg (Nat.not_lt.2 visited)),
    ⟨"x.f", "x.py", 2, 2, none⟩, by simp [symbols], ?_, ?_⟩
  · decide +kernel
  · decide +kernel

end Unbundle.Index

namespace Unbundle

/-! ## The style of line breaks -/

/-! ### Texts of a file -/

namespace Files

/-- Two contents of a file that each reader sees as the same text, or as no text. -/
structure SameText (content content' : List UInt8) : Prop where
  lenient : lenientText content = lenientText content'
  strict : outcome (strictText content) = outcome (strictText content')
  block : outcome (blockText content) = outcome (blockText content')

/-- The text that the strict readers see. -/
def text? (content : List UInt8) : Option (List Char) :=
  (decode content).toOption.map unifyBreaks

lemma outcome_strictText (content : List UInt8) :
    outcome (strictText content) = (text? content).elim (.error "UnicodeDecodeError") .ok := by
  rw [strictText, text?]
  cases decode content <;> rfl

lemma outcome_blockText (content : List UInt8) :
    outcome (blockText content) = (text? content).elim (.error "UnicodeDecodeError") .ok := by
  rw [blockText, decodeBlocks, text?]
  cases decode content <;> rfl

lemma sameText_rewriteBytes (s : BreakStyle) {content : List UInt8} (plain : 0x0d ∉ content) :
    SameText content (s.rewriteBytes content) := by
  have same : text? content = text? (s.rewriteBytes content) := by
    have rewritten := decodeFrom_rewriteBytes s 0 0 content
    change (decode _).toOption = (decode _).toOption.map _ at rewritten
    rw [text?, text?, rewritten]
    cases read : (decode content).toOption with
    | none => rfl
    | some cs =>
      have free := return_not_mem_decodeFrom plain read
      simp [unifyBreaks_of_not_mem free, unifyBreaks_rewriteChars s free]
  refine ⟨?_, ?_, ?_⟩
  · have free := return_not_mem_decodeSkipping plain
    rw [lenientText, lenientText, decodeSkipping_rewriteBytes, unifyBreaks_of_not_mem free,
      unifyBreaks_rewriteChars s free]
  · rw [outcome_strictText, outcome_strictText, same]
  · rw [outcome_blockText, outcome_blockText, same]

end Files

/-! ### Projects with the same texts -/

namespace Index

open Files Analysis

section

variable {project project' : Location} (alike : project.Alike Eq (fun _ => SameText) project')
include alike

lemma sources_eq : sources project = sources project' := by
  rw [← List.forall₂_eq_eq_eq]
  refine (forall₂_sources alike).imp ?_
  rintro ⟨names, language, source⟩ ⟨_, _, _⟩ ⟨rfl, rfl, content, content', same, rfl, rfl⟩
  rw [same.lenient]

lemma outcome_declared : outcome (declared project) = outcome (declared project') := by
  refine outcome_bind ?_ fun python => outcome_bind ?_ fun packages => rfl
  · rw [declaredRequirements, declaredRequirements]
    have agree := agree_fileContent? alike.listed "requirements.txt"
    generalize fileContent? project "requirements.txt" = here at agree ⊢
    generalize fileContent? project' "requirements.txt" = there at agree ⊢
    cases agree with
    | error e => rfl
    | ok related =>
      cases related with
      | none => rfl
      | @some c c' same =>
        exact outcome_bind (x := blockText c) (y := blockText c') same.block fun text => rfl
  · rw [declaredPackages, declaredPackages]
    have agree := agree_fileContent? alike.listed "package.json"
    generalize fileContent? project "package.json" = here at agree ⊢
    generalize fileContent? project' "package.json" = there at agree ⊢
    cases agree with
    | error e => rfl
    | ok related =>
      cases related with
      | none => rfl
      | @some c c' same =>
        exact outcome_bind (x := strictText c) (y := strictText c') same.strict fun text => rfl

lemma tablesInFile_eq (file : String) : tablesInFile project file = tablesInFile project' file := by
  have looked := alike.listed.look (.ofText file)
  unfold tablesInFile
  dsimp only
  rw [alike.path]
  generalize project.look (.ofText file) = found at looked ⊢
  generalize project'.look (.ofText file) = found' at looked ⊢
  cases looked with
  | error e => rfl
  | ok related =>
    cases related with
    | none => rfl
    | some inside =>
      cases inside with
      | file same =>
        rw [Printing.silent_ok_bind, Printing.silent_ok_bind]
        dsimp only
        rw [same.lenient]
      | folder => rfl

lemma tableInfo_eq (tags : Value) : tableInfo project tags = tableInfo project' tags := by
  rw [tableInfo, tableInfo, funext (tablesInFile_eq alike)]

lemma outcome_withoutTables (valid : project.WellFormed) :
    outcome (Report.withoutTables project) = outcome (Report.withoutTables project') := by
  have calls : (fun f : SourceFile => f.calls project project.path.name) =
      fun f => f.calls project' project'.path.name := by
    funext f
    rw [alike.path, f.calls_eq alike.listed]
  rw [Report.withoutTables, calls, alike.path, sources_eq alike, drawing_eq valid alike.listed]
  refine outcome_bind rfl fun drawing => outcome_bind (outcome_declared alike) fun declared => rfl

lemma documents_eq (report : Value) : documents project report = documents project' report := by
  rw [documents, documents, alike.path, sources_eq alike]

end

/-- A project without carriage returns has the same report, or a fault of the same kind, and the same
documents if all its line breaks are written in another style. -/
theorem line_breaks_unseen {project project' : Location} (s : BreakStyle) (valid : project.WellFormed)
    (rewritten : project.Alike Eq
      (fun _ content content' => 0x0d ∉ content ∧ content' = s.rewriteBytes content) project') :
    (Report.ofProject project').outcome = (Report.ofProject project).outcome ∧
      ∀ report, (documents project' report).result = (documents project report).result := by
  have alike : project.Alike Eq (fun _ => SameText) project' := by
    refine rewritten.mono (fun _ _ same => same) ?_
    rintro path content _ ⟨plain, rfl⟩
    exact sameText_rewriteBytes s plain
  constructor
  · refine (Printing.outcome_silent_bind (outcome_withoutTables alike valid) fun report => ?_).symm
    rw [tableInfo_eq alike]
  · intro report
    rw [documents_eq alike]

/-- A source in which a character is cut short by a line break, and a list of packages. -/
def cutShort : List (String × List UInt8) :=
  [("requirements.txt", encode "b==1\n".toList),
    ("x.py", encode "def f():\n  0 #".toList ++ [0xe2, 0x82, 0x0a] ++ encode "f()\n".toList)]

theorem line_breaks_unseen_cutShort : ∃ r printed,
    (Report.ofProject (.ofFiles cutShort)).result = (.ok r, printed) ∧
    r.symbols = [⟨"app.x.f", "app/x.py", 1, 2, none⟩] ∧ r.declared.length = 1 ∧
    ∀ s : BreakStyle,
      (Report.ofProject (.ofFiles (cutShort.map fun p => (p.1, s.rewriteBytes p.2)))).outcome =
        (.ok r, printed) ∧
      ∀ report, (documents (.ofFiles (cutShort.map fun p => (p.1, s.rewriteBytes p.2))) report).result =
        (documents (.ofFiles cutShort) report).result := by
  obtain ⟨r, printed, returned, parts⟩ : ∃ r printed,
      (Report.ofProject (.ofFiles cutShort)).result = (.ok r, printed) ∧
      (r.symbols, r.declared.length) = ([⟨"app.x.f", "app/x.py", 1, 2, none⟩], 1) :=
    Report.exists_result_of_withoutTables (by decide +kernel) fun _ _ => rfl
  obtain ⟨symbols, declared⟩ := Prod.mk.inj parts
  refine ⟨r, printed, returned, symbols, declared, fun s => ?_⟩
  have plain : ∀ p ∈ cutShort, 0x0d ∉ p.2 := by decide +kernel
  have rewritten : Location.Alike Eq
      (fun _ content content' => 0x0d ∉ content ∧ content' = s.rewriteBytes content)
      (.ofFiles cutShort) (.ofFiles (cutShort.map fun p => (p.1, s.rewriteBytes p.2))) := by
    refine Location.alike_ofFiles (by simp [Function.comp_def]) fun p hp q hq named => ?_
    obtain ⟨p', hp', rfl⟩ := List.mem_map.1 hq
    have distinct : (cutShort.map Prod.fst).Nodup := by decide
    obtain rfl : p = p' := List.inj_on_of_nodup_map distinct hp hp' named
    exact ⟨plain p hp, rfl⟩
  obtain ⟨report, documents⟩ :=
    line_breaks_unseen s (Location.wellFormed_ofFiles (by decide) (by decide)) rewritten
  refine ⟨report.trans ?_, documents⟩
  rw [Printing.outcome, returned]
  rfl

end Index

end Unbundle
