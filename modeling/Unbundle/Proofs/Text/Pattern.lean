import Mathlib.Data.List.Forall2
import Mathlib.Tactic.Common
import Unbundle.Text.Pattern

/-!
# What patterns match

The texts that a pattern can match, and the groups that they give; conditions on the surroundings are left
out. Each match is such a text, and for a pattern without such conditions the matcher finds a match at a
place exactly if one starts there. Searching a text from left to
right finds a match at each such place unless one that starts earlier reaches over it.
-/

open List

namespace Unbundle.Text

variable {cs : List Char} {p : Char → Bool}

/-! ## Cutting a text at a separator -/

variable {sep : Char}

lemma splitOn_eq (sep : Char) (cs : List Char) : splitOn sep cs = cs.splitOn sep := by
  induction cs with
  | nil => rfl
  | cons c cs ih =>
    rw [splitOn, splitOn_cons_eq_if_modifyHead, ih]
    by_cases h : c = sep
    · simp [h]
    · rcases hs : cs.splitOn sep with _ | ⟨part, parts⟩
      · exact absurd hs (splitOn_ne_nil sep cs)
      · simp

lemma not_mem_of_mem_splitOn {part : List Char} (h : part ∈ splitOn sep cs) : sep ∉ part := by
  induction cs generalizing part with
  | nil => simp_all [splitOn]
  | cons c cs ih =>
    rw [splitOn] at h
    split_ifs at h with same
    · rcases mem_cons.1 h with rfl | h
      · exact not_mem_nil
      · exact ih h
    · cases parts : splitOn sep cs with
      | nil =>
        rw [parts] at h
        simpa [mem_singleton.1 h] using Ne.symm same
      | cons first others =>
        rw [parts] at h ih
        rcases mem_cons.1 h with rfl | h
        · exact not_mem_cons_of_ne_of_not_mem (.symm same) (ih mem_cons_self)
        · exact ih (mem_cons_of_mem first h)

lemma afterLast_append_cons (before after : List Char) :
    afterLast sep (before ++ sep :: after) = afterLast sep after := by
  rw [afterLast, afterLast, splitOn_eq, splitOn_eq, splitOn_append_cons_self]
  cases parts : after.splitOn sep with
  | nil => exact absurd parts (splitOn_ne_nil sep after)
  | cons part parts =>
    simp [getLast?_cons]

lemma afterLast_append (before : List Char) {last : List Char} (h : sep ∉ last) :
    afterLast sep (before ++ sep :: last) = last := by
  rw [afterLast_append_cons, afterLast, splitOn_eq, splitOn_eq_singleton h]
  rfl

lemma eq_append_afterLast (h : sep ∈ cs) :
    sep ∉ afterLast sep cs ∧ ∃ before, cs = before ++ sep :: afterLast sep cs := by
  obtain ⟨last, before, split, free⟩ := eq_append_cons_of_mem (mem_reverse.2 h)
  have found : cs = before.reverse ++ sep :: last.reverse := by
    rw [← reverse_reverse cs, split]
    simp
  rw [found, afterLast_append _ (by simpa using free)]
  exact ⟨by simpa using free, _, rfl⟩

/-! ### What a text begins with -/

lemma dropLead?_append (lead cs : List Char) : dropLead? lead (lead ++ cs) = some cs := by
  induction lead with
  | nil => rfl
  | cons c lead ih => simp [dropLead?, ih]

/-! ### What a text ends with -/

lemma dropEndWhile_eq_nil_iff : dropEndWhile p cs = [] ↔ ∀ c ∈ cs, p c := by
  induction cs with
  | nil => simp [dropEndWhile]
  | cons c cs ih =>
    rw [dropEndWhile, forall_mem_cons, ← ih]
    cases dropEndWhile p cs <;> simp

lemma mem_of_mem_dropEndWhile {c : Char} (mem : c ∈ dropEndWhile p cs) : c ∈ cs := by
  fun_induction dropEndWhile p cs <;> simp_all
  grind

/-! ### Texts in order -/

lemma pairwise_mergeSort {xs : List String} (distinct : xs.Nodup) :
    (xs.mergeSort fun a b => decide (a ≤ b)).Pairwise (· < ·) := by
  have ascending : (xs.mergeSort fun a b => decide (a ≤ b)).Pairwise fun a b => decide (a ≤ b) = true := by
    refine List.pairwise_mergeSort ?_ ?_ _
    · intro a b c hab hbc
      simp only [decide_eq_true_eq] at hab hbc ⊢
      exact String.le_trans hab hbc
    · intro a b
      simpa using String.le_total a b
  refine (ascending.and ((mergeSort_perm _ _).nodup_iff.2 distinct)).imp ?_
  rintro a b ⟨le, ne⟩
  exact Std.lt_of_le_of_ne (of_decide_eq_true le) ne

end Unbundle.Text

open List

namespace Unbundle.Text

/-! ## What patterns match -/

namespace Place

/-- The place after some characters from a place on, before the rest. -/
def after (s : Place) (w rest : List Char) : Place :=
  ⟨w.foldl (fun _ c => some c) s.last, rest, s.offset + w.length⟩

@[simp] lemma after_rest (s : Place) (w rest : List Char) : (s.after w rest).rest = rest := rfl

@[simp] lemma after_offset (s : Place) (w rest : List Char) :
    (s.after w rest).offset = s.offset + w.length := rfl

@[simp] lemma after_nil (s : Place) : s.after [] s.rest = s := rfl

lemma after_after (s : Place) (v w rest rest' : List Char) :
    (s.after v rest').after w rest = s.after (v ++ w) rest := by
  simp [after, Nat.add_assoc]

lemma after_cons (last : Option Char) (c : Char) (cs : List Char) (offset : Nat) (w rest : List Char) :
    after ⟨some c, cs, offset + 1⟩ w rest = after ⟨last, c :: cs, offset⟩ (c :: w) rest := by
  simp [after, Nat.add_assoc, Nat.add_comm 1]

end Place

namespace Pattern

variable {last : Option Char} {offset skip : Nat} {cs rest : List Char} {s : Place}
variable {α : Type} {pat : Pattern} {gs : List (List Char)} {k : Place → List Piece → Option α} {w : List Char}

/-! ### Texts of a pattern -/

/-- Whether a pattern says nothing of what stands before and after its text. -/
def isPlain : Pattern → Bool
  | one _ | many _ _ => true
  | seq a b | either a b => a.isPlain && b.isPlain
  | maybe a | group a => a.isPlain
  | edge | atStart | atEnd | unlessAfter _ | unlessBefore _ => false

/-- A pattern can match a text as a whole with these groups, in some surroundings. -/
def Spells : Pattern → List Char → List (List Char) → Prop
  | one p, w, gs => (∃ c, w = [c] ∧ p c = true) ∧ gs = []
  | many p least, w, gs => ((∀ c ∈ w, p c = true) ∧ least ≤ w.length) ∧ gs = []
  | seq a b, w, gs => ∃ v gs' u hs, w = v ++ u ∧ gs = gs' ++ hs ∧ a.Spells v gs' ∧ b.Spells u hs
  | either a b, w, gs => a.Spells w gs ∨ b.Spells w gs
  | maybe a, w, gs => a.Spells w gs ∨ (w = [] ∧ gs = [])
  | group a, w, gs => ∃ hs, a.Spells w hs ∧ gs = hs ++ [w]
  | _, w, gs => w = [] ∧ gs = []

/-! ### The matcher -/

lemma mem_reach {p : Char → Bool} {acc : List Place} {t : Place} :
    t ∈ reach p last offset acc cs ↔ t ∈ acc ∨ ∃ w rest, cs = w ++ rest ∧ (∀ c ∈ w, p c = true) ∧
      t = .after ⟨last, cs, offset⟩ w rest := by
  induction cs generalizing last offset acc with
  | nil =>
    rw [reach, mem_cons, or_comm]
    refine or_congr_right ⟨?_, ?_⟩
    · rintro rfl
      exact ⟨[], [], rfl, by simp, rfl⟩
    · rintro ⟨w, rest, split, -, rfl⟩
      obtain ⟨rfl, rfl⟩ := append_eq_nil_iff.1 split.symm
      rfl
  | cons c cs ih =>
    -- either no character is taken, or `c` and then some of the others
    have here : Place.mk last (c :: cs) offset = .after ⟨last, c :: cs, offset⟩ [] (c :: cs) := rfl
    have later := Place.after_cons last c cs offset
    rw [reach]
    split_ifs with fits
    · rw [ih, mem_cons, or_comm (a := t = _), or_assoc]
      refine or_congr_right ⟨?_, ?_⟩
      · rintro (rfl | ⟨w, rest, rfl, others, rfl⟩)
        · exact ⟨[], c :: cs, rfl, by simp, here⟩
        · exact ⟨c :: w, rest, rfl, forall_mem_cons.2 ⟨fits, others⟩, later w rest⟩
      · rintro ⟨w, rest, split, all, rfl⟩
        cases w with
        | nil =>
          obtain rfl : c :: cs = rest := split
          exact .inl rfl
        | cons d w =>
          obtain ⟨rfl, rfl⟩ := cons.inj split
          exact .inr ⟨w, rest, rfl, (forall_mem_cons.1 all).2, (later w rest).symm⟩
    · rw [mem_cons, or_comm]
      refine or_congr_right ⟨?_, ?_⟩
      · rintro rfl
        exact ⟨[], c :: cs, rfl, by simp, here⟩
      · rintro ⟨w, rest, split, all, rfl⟩
        cases w with
        | nil =>
          obtain rfl : c :: cs = rest := split
          rfl
        | cons d w =>
          obtain ⟨rfl, -⟩ := cons.inj split
          exact absurd (all c mem_cons_self) fits

lemma run_eq_some {gs : List Piece} {a : α}
    (h : pat.run s gs k = some a) :
    ∃ w rest pieces, s.rest = w ++ rest ∧ pat.Spells w (pieces.map Piece.chars) ∧
      k (s.after w rest) (gs ++ pieces) = some a := by
  induction pat generalizing s gs k a with
  | one p =>
    rw [run] at h
    split at h
    · cases h
    · next c cs rest =>
      split_ifs at h with fits
      exact ⟨[c], cs, [], rest, ⟨⟨c, rfl, fits⟩, rfl⟩, by rwa [append_nil]⟩
  | many p least =>
    obtain ⟨t, ht, found⟩ := exists_of_findSome?_eq_some h
    split_ifs at found with few
    rcases mem_reach.1 ht with none | ⟨w, rest, split, fits, rfl⟩
    · cases none
    · refine ⟨w, rest, [], split, ⟨⟨fits, ?_⟩, rfl⟩, by simpa using found⟩
      simp only [Place.after_offset] at few
      omega
  | seq x y hx hy =>
    obtain ⟨v, rest, pieces, split, first, h⟩ := hx h
    obtain ⟨u, rest', pieces', split', second, h⟩ := hy h
    rw [Place.after_rest] at split'
    rw [Place.after_after, append_assoc] at h
    refine ⟨v ++ u, rest', pieces ++ pieces', by rw [split, split', append_assoc], ?_, h⟩
    exact ⟨v, _, u, _, rfl, map_append, first, second⟩
  | either x y hx hy =>
    rw [run] at h
    cases first : x.run s gs k with
    | some b =>
      obtain ⟨w, rest, pieces, split, fits, found⟩ := hx first
      rw [first] at h
      exact ⟨w, rest, pieces, split, .inl fits, found.trans h⟩
    | none =>
      rw [first] at h
      obtain ⟨w, rest, pieces, split, fits, found⟩ := hy h
      exact ⟨w, rest, pieces, split, .inr fits, found⟩
  | maybe x hx =>
    rw [run] at h
    cases first : x.run s gs k with
    | some b =>
      obtain ⟨w, rest, pieces, split, fits, found⟩ := hx first
      rw [first] at h
      exact ⟨w, rest, pieces, split, .inl fits, found.trans h⟩
    | none =>
      rw [first] at h
      exact ⟨[], s.rest, [], rfl, .inr ⟨rfl, rfl⟩, by simpa using h⟩
  | group x hx =>
    obtain ⟨w, rest, pieces, split, fits, h⟩ := hx h
    refine ⟨w, rest, pieces ++ [⟨s.rest, s.offset + w.length - s.offset⟩], split, ?_, ?_⟩
    · refine ⟨_, fits, ?_⟩
      simp [Piece.chars, split]
    · simpa using h
  | edge | atStart | atEnd | unlessAfter _ | unlessBefore _ =>
    rw [run] at h
    split_ifs at h
    exact ⟨[], s.rest, [], rfl, ⟨rfl, rfl⟩, by simpa using h⟩

lemma isSome_orElse {x y : Option α} :
    (x <|> y).isSome = true ↔ x.isSome = true ∨ y.isSome = true := by
  cases x <;> simp

lemma isSome_run (plain : pat.isPlain = true) {hs : List (List Char)}
    (fits : pat.Spells w hs) (split : s.rest = w ++ rest)
    (next : ∀ gs, (k (s.after w rest) gs).isSome = true) (gs : List Piece) :
    (pat.run s gs k).isSome = true := by
  induction pat generalizing s w rest hs k gs with
  | one p =>
    obtain ⟨⟨c, rfl, fits⟩, -⟩ := fits
    rw [run, split, singleton_append]
    dsimp only
    rw [if_pos fits]
    exact next gs
  | many p least =>
    obtain ⟨⟨fits, enough⟩, -⟩ := fits
    rw [run, findSome?_isSome_iff]
    refine ⟨s.after w rest, mem_reach.2 (.inr ⟨w, rest, split, fits, rfl⟩), ?_⟩
    rw [if_neg (by simpa using enough)]
    exact next gs
  | seq x y hx hy =>
    rw [isPlain, Bool.and_eq_true] at plain
    obtain ⟨v, gs', u, hs', rfl, -, first, second⟩ := fits
    refine hx plain.1 first (by rw [split, append_assoc]) (fun gs => ?_) gs
    refine hy plain.2 second rfl (fun gs => ?_) gs
    rw [Place.after_after]
    exact next gs
  | either x y hx hy =>
    rw [isPlain, Bool.and_eq_true] at plain
    rw [run, isSome_orElse]
    exact fits.imp (fun fits => hx plain.1 fits split next gs) fun fits => hy plain.2 fits split next gs
  | maybe x hx =>
    rw [run, isSome_orElse]
    refine fits.imp (fun fits => hx plain fits split next gs) ?_
    rintro ⟨rfl, -⟩
    subst split
    exact next gs
  | group x hx =>
    obtain ⟨hs', fits, -⟩ := fits
    exact hx plain fits split (fun gs => next (gs ++ [_])) gs
  | edge => cases plain
  | atStart => cases plain
  | atEnd => cases plain
  | unlessAfter p => cases plain
  | unlessBefore p => cases plain

section

variable {pat : Pattern}
variable {m : Match} {pre : List Char}
variable {w post : List Char} {gs : List (List Char)}

lemma matchAt_eq_some (h : pat.matchAt s = some m) :
    ∃ w rest, s.rest = w ++ rest ∧ m.length = w.length ∧ pat.Spells w m.groups := by
  obtain ⟨w, rest, pieces, split, fits, found⟩ := run_eq_some h
  obtain rfl := Option.some.inj found
  exact ⟨w, rest, split, by simp, by simpa using fits⟩

lemma matchAt_start (h : pat.matchAt s = some m) : m.start = s.offset := by
  obtain ⟨_, _, _, -, -, found⟩ := run_eq_some h
  exact (Option.some.inj found) ▸ rfl

/-! ### Searching a text -/

lemma exists_matchAt_of_mem (h : m ∈ pat.findFrom skip last offset cs) :
    ∃ pre rest, cs = pre ++ rest ∧ pat.matchAt (.after ⟨last, cs, offset⟩ pre rest) = some m := by
  induction cs generalizing skip last offset with
  | nil =>
    rw [findFrom] at h
    split_ifs at h
    · exact ⟨[], [], rfl, Option.mem_toList.1 h⟩
    · cases h
  | cons c cs ih =>
    have later : ∀ {skip}, m ∈ pat.findFrom skip (some c) (offset + 1) cs →
        ∃ pre rest, c :: cs = pre ++ rest ∧
          pat.matchAt (.after ⟨last, c :: cs, offset⟩ pre rest) = some m := by
      intro skip h
      obtain ⟨pre, rest, split, found⟩ := ih h
      exact ⟨c :: pre, rest, by rw [split]; rfl, by rwa [← Place.after_cons]⟩
    cases skip with
    | succ n => exact later h
    | zero =>
      rw [findFrom] at h
      cases found : pat.matchAt ⟨last, c :: cs, offset⟩ with
      | none =>
        rw [found] at h
        exact later h
      | some m' =>
        rw [found] at h
        rcases mem_cons.1 h with rfl | h
        · exact ⟨[], c :: cs, rfl, found⟩
        · exact later h

lemma exists_of_mem_findFrom (h : m ∈ pat.findFrom skip last offset cs) :
    ∃ pre w post, cs = pre ++ (w ++ post) ∧ pat.Spells w m.groups := by
  obtain ⟨pre, _, rfl, found⟩ := exists_matchAt_of_mem h
  obtain ⟨w, post, rfl, -, fits⟩ := matchAt_eq_some found
  exact ⟨pre, w, post, rfl, fits⟩

/-- What starts at some place of the text is found, unless a match that starts earlier reaches over it. -/
lemma mem_findFrom_of_matchAt (found : pat.matchAt (.after ⟨last, pre ++ rest, offset⟩ pre rest) = some m)
    (clear : skip ≤ pre.length) (apart : ∀ pre' v m', pre = pre' ++ v →
      pat.matchAt (.after ⟨last, pre ++ rest, offset⟩ pre' (v ++ rest)) = some m' → v = [] ∨ m'.length ≤ v.length) :
    m ∈ pat.findFrom skip last offset (pre ++ rest) := by
  induction pre generalizing skip last offset with
  | nil =>
    obtain rfl : skip = 0 := Nat.le_zero.1 clear
    have here : pat.matchAt ⟨last, rest, offset⟩ = some m := found
    cases rest <;> simp [findFrom, here]
  | cons c pre ih =>
    have later : ∀ {skip}, skip ≤ pre.length → m ∈ pat.findFrom skip (some c) (offset + 1) (pre ++ rest) := by
      intro skip clear
      refine ih (by rwa [Place.after_cons last]) clear fun pre' v m' split found' => ?_
      rw [Place.after_cons last] at found'
      exact apart (c :: pre') v m' (by rw [split]; rfl) found'
    rw [cons_append]
    cases skip with
    | succ n => exact later (Nat.le_of_succ_le_succ clear)
    | zero =>
      rw [findFrom]
      cases earlier : pat.matchAt ⟨last, c :: (pre ++ rest), offset⟩ with
      | none => exact later (Nat.zero_le _)
      | some m' =>
        have short := (apart [] (c :: pre) m' rfl earlier).resolve_left (cons_ne_nil _ _)
        exact mem_cons_of_mem m' (later (Nat.sub_le_of_le_add short))

variable (plain : pat.isPlain = true)
include plain

lemma exists_matchAt (fits : pat.Spells w gs)
    (split : s.rest = w ++ rest) : ∃ m, pat.matchAt s = some m :=
  Option.isSome_iff_exists.1 (isSome_run plain fits split (fun _ => rfl) [])

lemma exists_mem_findFrom (fits : pat.Spells w gs)
    (before : skip ≤ pre.length) :
    ∃ m ∈ pat.findFrom skip last offset (pre ++ (w ++ post)),
      (∃ v post', w ++ post = v ++ post' ∧ pat.Spells v m.groups) ∨
      ∃ pre' v u post', pre = pre' ++ v ∧ w ++ post = u ++ post' ∧ v ≠ [] ∧ u ≠ [] ∧
        pat.Spells (v ++ u) m.groups := by
  induction pre generalizing skip last offset with
  | nil =>
    obtain rfl : skip = 0 := Nat.le_zero.1 before
    obtain ⟨m, found⟩ := exists_matchAt plain fits (s := ⟨last, w ++ post, offset⟩) rfl
    obtain ⟨v, post', split, -, fits'⟩ := matchAt_eq_some found
    refine ⟨m, ?_, .inl ⟨v, post', split, fits'⟩⟩
    cases rest : w ++ post with
    | nil =>
      rw [rest] at found
      simp [findFrom, found]
    | cons d ds =>
      rw [rest] at found
      simp [findFrom, found]
  | cons c pre ih =>
    -- what is found later is found now, and its match starts one character later
    have later : ∀ {skip}, skip ≤ pre.length →
        ∃ m ∈ pat.findFrom skip (some c) (offset + 1) (pre ++ (w ++ post)),
          (∃ v post', w ++ post = v ++ post' ∧ pat.Spells v m.groups) ∨
          ∃ pre' v u post', c :: pre = pre' ++ v ∧ w ++ post = u ++ post' ∧ v ≠ [] ∧ u ≠ [] ∧
            pat.Spells (v ++ u) m.groups := by
      intro skip before
      obtain ⟨m, hm, here | ⟨pre', v, u, post', rfl, across⟩⟩ :=
        @ih (some c) (offset + 1) skip before
      · exact ⟨m, hm, .inl here⟩
      · exact ⟨m, hm, .inr ⟨c :: pre', v, u, post', rfl, across⟩⟩
    cases skip with
    | succ n => exact later (Nat.le_of_succ_le_succ before)
    | zero =>
      rw [cons_append, findFrom]
      cases found : pat.matchAt ⟨last, c :: (pre ++ (w ++ post)), offset⟩ with
      | none => exact later (Nat.zero_le _)
      | some m =>
        obtain ⟨v, post', split, length, fits'⟩ := matchAt_eq_some found
        by_cases short : m.length - 1 ≤ pre.length
        · obtain ⟨m', hm', result⟩ := later short
          exact ⟨m', mem_cons_of_mem m hm', result⟩
        · rw [← cons_append] at split
          rcases append_eq_append_iff.1 split with ⟨u, rfl, across⟩ | ⟨u, whole, -⟩
          · refine ⟨m, mem_cons_self, .inr ⟨[], c :: pre, u, post', rfl, across, by simp, ?_, fits'⟩⟩
            rintro rfl
            rw [append_nil, length_cons] at length
            omega
          · have longer := congrArg List.length whole
            rw [length_cons, length_append] at longer
            omega

lemma occurs_of_spells (fits : pat.Spells w gs) :
    pat.occurs (pre ++ (w ++ post)) = true := by
  obtain ⟨m, found, -⟩ := @exists_mem_findFrom none 0 0 _ pre w post gs plain fits (Nat.zero_le _)
  rw [occurs, find?, findAll, isSome_head?]
  exact ne_nil_of_mem found

end

/-! ### Common patterns -/

lemma isPlain_sequence {ps : List Pattern} (h : ∀ p ∈ ps, p.isPlain = true) :
    (sequence ps).isPlain = true := by
  induction ps with
  | nil => rfl
  | cons p ps ih =>
    obtain ⟨first, others⟩ := forall_mem_cons.1 h
    cases ps with
    | nil => exact first
    | cons p' ps => simp [sequence, isPlain, first, ih others]

@[simp] lemma isPlain_word (s : String) : (word s).isPlain = true :=
  isPlain_sequence (by simp [char, isPlain])

@[simp] lemma spells_char {c : Char} :
    (char c).Spells w gs ↔ w = [c] ∧ gs = [] := by
  simp [char, Spells]

lemma spells_sequence_char :
    (sequence (cs.map char)).Spells w gs ↔ w = cs ∧ gs = [] := by
  induction cs generalizing w gs with
  | nil => simp [sequence, Spells]
  | cons c cs ih =>
    cases cs with
    | nil => simp [sequence]
    | cons d cs =>
      change (seq (char c) (sequence ((d :: cs).map char))).Spells w gs ↔ _
      simp only [Spells, spells_char, ih]
      constructor
      · rintro ⟨_, _, _, _, rfl, rfl, ⟨rfl, rfl⟩, rfl, rfl⟩
        exact ⟨rfl, rfl⟩
      · rintro ⟨rfl, rfl⟩
        exact ⟨[c], [], d :: cs, [], rfl, rfl, ⟨rfl, rfl⟩, rfl, rfl⟩

@[simp] lemma spells_word {s : String} :
    (word s).Spells w gs ↔ w = s.toList ∧ gs = [] :=
  spells_sequence_char

lemma spells_choice {l : List String} :
    (choice (l.map word)).Spells w gs ↔ w ∈ l.map String.toList ∧ gs = [] := by
  induction l with
  | nil => simp [choice, Spells]
  | cons s l ih =>
    cases l with
    | nil => simp [choice]
    | cons t l =>
      change (either (word s) (choice ((t :: l).map word))).Spells w gs ↔ _
      rw [Spells, ih, spells_word, map_cons (l := t :: l), mem_cons, or_and_right]

lemma exists_spells_of_append {ps qs : List Pattern} (later : qs ≠ [])
    (h : (sequence (ps ++ qs)).Spells w gs) :
    ∃ v u gs' hs, w = v ++ u ∧ gs = gs' ++ hs ∧ (sequence qs).Spells u hs := by
  induction ps generalizing w gs with
  | nil => exact ⟨[], w, [], gs, rfl, rfl, h⟩
  | cons p ps ih =>
    have cut : sequence (p :: (ps ++ qs)) = seq p (sequence (ps ++ qs)) := by
      rw [sequence]
      exact fun none => later (append_eq_nil_iff.1 none).2
    rw [cons_append, cut] at h
    obtain ⟨v, gs₁, u, gs₂, rfl, rfl, -, rest⟩ := h
    obtain ⟨v', u', gs', hs, rfl, rfl, last⟩ := ih rest
    exact ⟨v ++ v', u', gs₁ ++ gs', hs, by simp, by simp, last⟩

def Groupless (a : Pattern) : Prop := ∀ w gs, a.Spells w gs → gs = []

lemma groupless_word (s : String) : (word s).Groupless := fun _ _ h => (spells_word.1 h).2

lemma groupless_char (c : Char) : (char c).Groupless := fun _ _ h => (spells_char.1 h).2

lemma groupless_many (p : Char → Bool) (least : Nat) : (many p least).Groupless := fun _ _ h => h.2

lemma Groupless.seq {a b : Pattern} (ha : a.Groupless) (hb : b.Groupless) :
    (seq a b).Groupless := by
  rintro _ _ ⟨v, gs, u, hs, -, rfl, first, second⟩
  rw [ha v gs first, hb u hs second, append_nil]

section

variable {a b : Pattern} {w : List Char} {gs : List (List Char)}

lemma spells_seq_left (h : a.Groupless) :
    (seq a b).Spells w gs ↔ ∃ v u, w = v ++ u ∧ a.Spells v [] ∧ b.Spells u gs := by
  constructor
  · rintro ⟨v, gs', u, hs, rfl, rfl, first, second⟩
    obtain rfl := h v gs' first
    exact ⟨v, u, rfl, first, second⟩
  · rintro ⟨v, u, rfl, first, second⟩
    exact ⟨v, [], u, gs, rfl, rfl, first, second⟩

lemma spells_seq_right (h : b.Groupless) :
    (seq a b).Spells w gs ↔ ∃ v u, w = v ++ u ∧ a.Spells v gs ∧ b.Spells u [] := by
  constructor
  · rintro ⟨v, gs', u, hs, rfl, rfl, first, second⟩
    obtain rfl := h u hs second
    exact ⟨v, u, rfl, by rwa [append_nil], second⟩
  · rintro ⟨v, u, rfl, first, second⟩
    exact ⟨v, gs, u, [], rfl, by rw [append_nil], first, second⟩

lemma spells_seq_word {s : String} :
    (seq (word s) b).Spells w gs ↔ ∃ u, w = s.toList ++ u ∧ b.Spells u gs := by
  simp [spells_seq_left (groupless_word s)]

end

/-! ### Groups of a pattern -/

/-- The classes of the groups that a pattern keeps, where each is a repetition and none is optional. -/
def kept? : Pattern → Option (List (Char → Bool))
  | group (many p (_ + 1)) => some [p]
  | group _ => none
  | seq a b => a.kept?.bind fun ps => b.kept?.map (ps ++ ·)
  | either a b => if a.kept?.any (·.isEmpty) && b.kept?.any (·.isEmpty) then some [] else none
  | maybe a => if a.kept?.any (·.isEmpty) then some [] else none
  | _ => some []

lemma any_isEmpty_iff {o : Option (List α)} : o.any (·.isEmpty) = true ↔ o = some [] := by
  cases o <;> simp

lemma Spells.kept {ps : List (Char → Bool)}
    (fits : pat.Spells w gs) (kept : pat.kept? = some ps) :
    Forall₂ (fun g p => g ≠ [] ∧ ∀ c ∈ g, p c = true) gs ps := by
  induction pat generalizing w gs ps with
  | one _ | many _ _ | edge | atStart | atEnd | unlessAfter _ | unlessBefore _ =>
    obtain ⟨-, rfl⟩ := fits
    obtain rfl := Option.some.inj kept
    exact .nil
  | seq a b ha hb =>
    obtain ⟨v, gs', u, hs, -, rfl, first, second⟩ := fits
    obtain ⟨ps', left, right⟩ := Option.bind_eq_some_iff.1 kept
    obtain ⟨qs, right', rfl⟩ := Option.map_eq_some_iff.1 right
    exact rel_append (ha first left) (hb second right')
  | either a b ha hb =>
    rw [kept?] at kept
    split_ifs at kept with groupless
    rw [Bool.and_eq_true, any_isEmpty_iff, any_isEmpty_iff] at groupless
    obtain rfl := Option.some.inj kept
    exact fits.elim (fun fits => ha fits groupless.1) fun fits => hb fits groupless.2
  | maybe a ha =>
    rw [kept?] at kept
    split_ifs at kept with groupless
    obtain rfl := Option.some.inj kept
    rcases fits with fits | ⟨-, rfl⟩
    · exact ha fits (any_isEmpty_iff.1 groupless)
    · exact .nil
  | group a _ =>
    cases a with
    | many p least =>
      cases least with
      | zero => cases kept
      | succ n =>
        obtain ⟨_, ⟨⟨all, enough⟩, rfl⟩, rfl⟩ := fits
        obtain rfl := Option.some.inj kept
        exact .cons ⟨ne_nil_of_length_pos (Nat.lt_of_lt_of_le n.succ_pos enough), all⟩ .nil
    | _ => cases kept

/-! ### Patterns at the start of a text -/

lemma findFrom_atStart {q : Pattern} (cs : List Char) :
    (seq atStart q).findFrom skip last (offset + 1) cs = [] := by
  induction cs generalizing skip last offset with
  | nil => simp [findFrom, matchAt, run]
  | cons c cs ih =>
    cases skip with
    | zero => simp [findFrom, matchAt, run, ih]
    | succ n => exact ih

lemma find?_atStart (q : Pattern) (cs : List Char) :
    (seq atStart q).find? cs = q.matchAt (.start cs) := by
  have here : (seq atStart q).matchAt (.start cs) = q.matchAt (.start cs) := by
    simp [matchAt, run, Place.start]
  rw [find?, findAll]
  cases cs with
  | nil =>
    rw [findFrom, if_pos rfl, Option.head?_toList]
    rfl
  | cons c cs =>
    rw [← here, findFrom, Place.start]
    cases (seq atStart q).matchAt ⟨none, c :: cs, 0⟩ with
    | none => simp [findFrom_atStart]
    | some m => rfl

end Pattern

end Unbundle.Text
