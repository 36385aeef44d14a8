import Unbundle.Proofs.Analysis.MergedCalls
import Unbundle.Proofs.Analysis.ScriptSymbols

/-!
# Calls of a script

The calls of a script are the matches of two patterns for each imported name on each line. The patterns tell
a name from a longer one by the characters of words; a dollar sign can be part of a name, but is part of no
word.
-/

open List Unbundle.Text

namespace Unbundle.Analysis

open Text (Pattern)
open Text.Pattern

variable {c : Char} {n : String} {cs line source : List Char}

/-! ### Joined calls -/

/-- For every script and all symbols: its edges are found exactly if the function around each match is, as it is among
symbols that were found. The edges then join the matches of one caller, module and symbol: there is one edge for each
such key, in the order in which the keys are met first, on the line of the first match, used if the result of some match
is used, and awaited if some match is awaited. -/
theorem edges_join_the_matches (file : String) (symbols : List Value) (source : List Char) :
    ((∃ edges, scriptCalls file (enclosing symbols) source = .ok edges) ↔
      ∀ s ∈ scriptSites source, ∃ caller, enclosing symbols s.line = .ok caller) ∧
    (∀ known : List Symbol, ∃ edges, scriptCalls file (enclosing (known.map Symbol.toValue)) source = .ok edges) ∧
    ∀ edges, scriptCalls file (enclosing symbols) source = .ok edges → ∃ callerOf : Int → String,
      (∀ s ∈ scriptSites source, enclosing symbols s.line = .ok (callerOf s.line)) ∧
      (edges.map CallEdge.key).Nodup ∧
      (∀ s ∈ scriptSites source, ∃ e ∈ edges, e.key = (callerOf s.line, s.target, s.call.symbol)) ∧
      ∃ firsts, List.Sublist firsts ((scriptSites source).map fun s => (s, s.toEdge file (callerOf s.line))) ∧
        List.Forall₂ (CallEdge.StandsFor ((scriptSites source).map fun s => (s, s.toEdge file (callerOf s.line))))
          edges firsts := by
  refine ⟨exists_scriptCalls_iff, fun known => ?_, fun edges found => ?_⟩
  · exact exists_scriptCalls_iff.2 fun s _ => ⟨_, enclosing_toValue known s.line⟩
  · obtain ⟨callerOf, known, rfl⟩ := exists_callers found
    obtain ⟨firsts, sub, stand, distinct⟩ :=
      CallEdge.exists_firsts ((scriptSites source).map fun s => (s, s.toEdge file (callerOf s.line)))
    rw [List.map_map] at stand distinct
    refine ⟨callerOf, known, distinct, fun s hs => ?_, firsts, sub, stand⟩
    exact CallEdge.exists_mem_mergeAll_iff.2 ⟨_, List.mem_map_of_mem hs, rfl⟩

/-! ### Names -/

def IsIdentifier (cs : List Char) : Prop := cs.head?.any isNameStart = true ∧ cs.all isNameChar = true

instance (cs : List Char) : Decidable (IsIdentifier cs) := inferInstanceAs (Decidable (_ ∧ _))

variable {w : List Char} {gs : List (List Char)}

lemma isNameChar_of_isNameStart (h : isNameStart c = true) : isNameChar c = true := by
  revert h
  simp only [isNameStart, isNameChar, Char.isAlphanum, Bool.or_eq_true]
  tauto

lemma spells_singleName : singleName.Spells w gs ↔ IsIdentifier w ∧ gs = [w] := by
  constructor
  · rintro ⟨_, ⟨_, _, u, _, rfl, rfl, ⟨⟨c, rfl, first⟩, rfl⟩, ⟨others, -⟩, rfl⟩, rfl⟩
    refine ⟨⟨by simpa using first, ?_⟩, rfl⟩
    simpa [isNameChar_of_isNameStart first] using others
  · rintro ⟨⟨first, all⟩, rfl⟩
    cases w with
    | nil => cases first
    | cons c u =>
      rw [all_cons, Bool.and_eq_true] at all
      exact ⟨[], ⟨[c], [], u, [], rfl, rfl, ⟨⟨c, rfl, by simpa using first⟩, rfl⟩,
        ⟨⟨by simpa using all.2, Nat.zero_le _⟩, rfl⟩⟩, rfl⟩

lemma spells_direct : (sequence [word n, blanks, char '(']).Spells w gs ↔
    ∃ g, Blank g ∧ w = n.toList ++ (g ++ ['(']) ∧ gs = [] := by
  simp only [Pattern.sequence, spells_seq_word, spells_seq_left groupless_blanks, spells_char, spells_blanks,
    and_true]
  constructor
  · rintro ⟨_, rfl, g, _, rfl, blank, rfl, rfl⟩
    exact ⟨g, blank, rfl, rfl⟩
  · rintro ⟨g, blank, rfl, rfl⟩
    exact ⟨_, rfl, g, _, rfl, blank, rfl, rfl⟩

lemma spells_method : (sequence [word n, char '.', singleName, blanks, char '(']).Spells w gs ↔
    ∃ m g, IsIdentifier m ∧ Blank g ∧ w = n.toList ++ '.' :: (m ++ (g ++ ['('])) ∧ gs = [m] := by
  simp only [Pattern.sequence, spells_seq_word, spells_seq_char, spells_singleName, spells_char,
    spells_seq_right (groupless_blanks.seq (groupless_char _)), spells_seq_left groupless_blanks, spells_blanks, and_true]
  constructor
  · rintro ⟨_, rfl, _, rfl, m, _, rfl, ⟨identifier, rfl⟩, g, _, rfl, blank, rfl⟩
    exact ⟨m, g, identifier, blank, rfl, rfl⟩
  · rintro ⟨m, g, identifier, blank, rfl, rfl⟩
    exact ⟨_, rfl, _, rfl, m, _, rfl, ⟨identifier, rfl⟩, g, _, rfl, blank, rfl⟩

/-! ### Found calls -/

lemma eq_of_first {a b r r' : List Char} (ha : c ∉ a) (hb : c ∉ b) (h : a ++ c :: r = b ++ c :: r') :
    a = b := by
  have keeps : ∀ {x y : List Char}, c ∉ x → (x ++ c :: y).takeWhile (· ≠ c) = x := fun hx =>
    (span_append (by grind) (by simp)).1
  rw [← keeps ha, h, keeps hb]

/-- The texts of a pattern end at their only parenthesis, and none is the end of another. -/
structure EndsAtParen (p : Pattern) : Prop where
  plain : p.isPlain = true
  ends : ∀ {w gs}, p.Spells w gs → ∃ u, w = u ++ ['('] ∧ '(' ∉ u
  suffixFree : ∀ {v w gs gs'}, p.Spells (v ++ w) gs → p.Spells w gs' → v = [] ∧ gs = gs'

lemma after_start (cs pre rest : List Char) :
    Place.after ⟨none, cs, 0⟩ pre rest = ⟨pre.getLast?, rest, pre.length⟩ := by
  have last : ∀ o, pre.foldl (fun _ c => some c) o = pre.getLast?.or o := by
    induction pre with
    | nil => exact fun o => rfl
    | cons c pre ih =>
      intro o
      rw [foldl_cons, ih, getLast?_cons]
      cases pre.getLast? <;> rfl
  simp [Place.after, last]

/-- Such texts are all found, where a condition on the characters around their start holds. -/
lemma EndsAtParen.exists_mem_findAll_iff {p cond : Pattern} (h : EndsAtParen p)
    (test : Option Char → Option Char → Bool) (guard : ∀ s, (seq cond p).matchAt s =
      if test s.last s.rest.head? then p.matchAt s else none) (line lead : List Char) (gs : List (List Char)) :
    (∃ m ∈ (seq cond p).findAll line, line.take m.start = lead ∧ m.groups = gs) ↔
      ∃ w post, p.Spells w gs ∧ line = lead ++ (w ++ post) ∧ test lead.getLast? (w ++ post).head? = true := by
  constructor
  · rintro ⟨m, hm, rfl, rfl⟩
    obtain ⟨pre, rest, rfl, found⟩ := exists_matchAt_of_mem hm
    have start := matchAt_start found
    rw [guard] at found
    split_ifs at found with holds
    rw [after_start] at found holds start
    obtain ⟨w, post, rfl, -, fits⟩ := matchAt_eq_some found
    rw [start, take_left]
    exact ⟨w, post, fits, rfl, holds⟩
  · rintro ⟨w, post, fits, rfl, holds⟩
    -- a text that starts earlier ends earlier, or at the same parenthesis
    have overlap : ∀ {v w' post' gs'}, p.Spells w' gs' → v ++ (w ++ post) = w' ++ post' →
        w'.length ≤ v.length ∨ v = [] ∧ gs' = gs := by
      intro v w' post' gs' fits' same
      obtain ⟨u, rfl, free⟩ := h.ends fits
      obtain ⟨u', rfl, free'⟩ := h.ends fits'
      simp only [append_assoc] at same
      by_cases paren : '(' ∈ v
      · obtain ⟨a, b, rfl, fresh⟩ := eq_append_cons_of_mem paren
        rw [append_assoc] at same
        obtain rfl := eq_of_first fresh free' same
        exact .inl (by simp)
      · rw [← append_assoc] at same
        obtain rfl := eq_of_first (by simp [paren, free]) free' same
        rw [append_assoc] at fits'
        exact .inr (h.suffixFree fits' fits)
    obtain ⟨m, found⟩ := exists_matchAt h.plain fits (s := ⟨lead.getLast?, w ++ post, lead.length⟩) rfl
    have start := matchAt_start found
    obtain ⟨w', post', same, -, fits'⟩ := matchAt_eq_some found
    refine ⟨m, mem_findFrom_of_matchAt ?_ (Nat.zero_le _) ?_, by rw [start, take_left], ?_⟩
    · rw [after_start, guard, if_pos holds, found]
    · rintro pre' v m' rfl found'
      rw [guard] at found'
      split_ifs at found'
      obtain ⟨w', post', same, length, fits'⟩ := matchAt_eq_some found'
      rw [length]
      exact (overlap fits' same).symm.imp_left And.left
    · rcases overlap (v := []) fits' same with empty | ⟨-, same⟩
      · obtain ⟨u, rfl, -⟩ := h.ends fits'
        simp at empty
      · exact same

/-! ### The two patterns -/

lemma IsIdentifier.not_mem (h : IsIdentifier cs) (other : isNameChar c = false) :
    c ∉ cs := fun member => by simpa [other] using all_eq_true.1 h.2 c member

lemma IsIdentifier.filter_opens {g : List Char} (h : IsIdentifier cs) (blank : Blank g) :
    (cs ++ (g ++ ['('])).filter isNameChar = cs := by
  have none : g.filter isNameChar = [] := filter_eq_nil_iff.2 fun c hc name => by
    simpa [isBlank_of_isNameChar name] using blank c hc
  rw [filter_append, filter_append, none, filter_eq_self.2 (all_eq_true.1 h.2)]
  simp [isNameChar]

lemma endsAtParen_direct (identifier : IsIdentifier n.toList) :
    EndsAtParen (sequence [word n, blanks, char '(']) where
  plain := isPlain_sequence (by simp [blanks, char, isPlain])
  ends := by
    intro w gs fits
    obtain ⟨g, blank, rfl, -⟩ := spells_direct.1 fits
    refine ⟨n.toList ++ g, by simp, ?_⟩
    simp [identifier.not_mem (c := '(') (by decide), blank.not_mem (c := '(') (by decide)]
  suffixFree := by
    intro v w gs gs' fits fits'
    obtain ⟨g, blank, whole, rfl⟩ := spells_direct.1 fits
    obtain ⟨g', blank', rfl, rfl⟩ := spells_direct.1 fits'
    refine ⟨?_, rfl⟩
    have names := congrArg (filter isNameChar) whole
    rw [identifier.filter_opens blank, filter_append, identifier.filter_opens blank'] at names
    cases v with
    | nil => rfl
    | cons c v =>
      obtain ⟨d, cs, start⟩ : ∃ d cs, n.toList = d :: cs := exists_cons_of_ne_nil fun empty => by
        simp [IsIdentifier, empty] at identifier
      rw [start, cons_append, cons_append] at whole
      obtain ⟨rfl, -⟩ := cons.inj whole
      exact absurd (all_eq_true.1 identifier.2 c (by simp [start]))
        (filter_eq_nil_iff.1 (append_left_eq_self.1 names) c mem_cons_self)

lemma endsAtParen_method (identifier : IsIdentifier n.toList) :
    EndsAtParen (sequence [word n, char '.', singleName, blanks, char '(']) where
  plain := isPlain_sequence (by simp [blanks, char, isPlain, singleName])
  ends := by
    intro w gs fits
    obtain ⟨m, g, isName, blank, rfl, -⟩ := spells_method.1 fits
    refine ⟨n.toList ++ '.' :: (m ++ g), by simp, ?_⟩
    simp [identifier.not_mem (c := '(') (by decide), isName.not_mem (c := '(') (by decide),
      blank.not_mem (c := '(') (by decide)]
  suffixFree := by
    intro v w gs gs' fits fits'
    obtain ⟨m, g, isName, blank, whole, rfl⟩ := spells_method.1 fits
    obtain ⟨m', g', isName', blank', rfl, rfl⟩ := spells_method.1 fits'
    have free := identifier.not_mem (c := '.') (by decide)
    have one : ∀ {m g : List Char}, IsIdentifier m → Blank g →
        (n.toList ++ '.' :: (m ++ (g ++ ['(']))).count '.' = 1 := by
      intro m g isName blank
      simp [count_eq_zero.2 free, count_eq_zero.2 (isName.not_mem (c := '.') (by decide)),
        count_eq_zero.2 (blank.not_mem (c := '.') (by decide))]
    have count := congrArg (count '.') whole
    rw [count_append, one isName blank, one isName' blank', add_eq_right, count_eq_zero] at count
    have whole' := whole
    rw [← append_assoc] at whole'
    have same := eq_of_first (by simp [count, free]) free whole'
    obtain rfl := append_left_eq_self.1 same
    refine ⟨rfl, ?_⟩
    have names := congrArg (filter isNameChar) (cons.inj (append_cancel_left whole)).2
    rw [isName.filter_opens blank, isName'.filter_opens blank'] at names
    rw [names]

/-! ### Calls of a line -/

/-- A text is called on a line behind some other: white space and an opening parenthesis follow it. -/
def CalledAfter (lead callee line : List Char) : Prop :=
  ∃ g post, Blank g ∧ line = lead ++ (callee ++ (g ++ '(' :: post))

lemma mem_callsOn_iff (identifier : IsIdentifier n.toList) {c : ScriptCall} :
    c ∈ callsOn n line ↔
      (∃ m, IsIdentifier m ∧ c.symbol = n ++ "." ++ .ofList m ∧
        CalledAfter c.lead (n.toList ++ '.' :: m) line ∧
        isWordEdge c.lead.getLast? n.toList.head? = true) ∨
      (c.symbol = n ∧ CalledAfter c.lead n.toList line ∧
        c.lead.getLast?.any (fun b => b == '.' || isWord b) = false) := by
  obtain ⟨symbol, lead⟩ := c
  have nonempty : n.toList ≠ [] := fun empty => by simp [IsIdentifier, empty] at identifier
  have method : ∀ gs, (∃ m ∈ (methodCall n).findAll line, line.take m.start = lead ∧ m.groups = gs) ↔ _ :=
    (endsAtParen_method identifier).exists_mem_findAll_iff isWordEdge (fun s => by simp [matchAt, run]) line lead
  have direct : ∀ gs, (∃ m ∈ (directCall n).findAll line, line.take m.start = lead ∧ m.groups = gs) ↔ _ :=
    (endsAtParen_direct identifier).exists_mem_findAll_iff (fun b _ => !b.any fun c => c == '.' || isWord c)
      (fun s => by cases h : s.last.any fun c => c == '.' || isWord c <;> simp [matchAt, run, h]) line lead
  simp only [spells_method, spells_direct] at method direct
  rw [callsOn, mem_append, mem_map, mem_map]
  refine or_congr ⟨?_, ?_⟩ ⟨?_, ?_⟩
  · rintro ⟨m, hm, same⟩
    obtain ⟨rfl, rfl⟩ := ScriptCall.mk.inj same
    obtain ⟨_, post, ⟨x, g, isName, blank, rfl, groups⟩, split, holds⟩ := (method _).1 ⟨m, hm, rfl, rfl⟩
    refine ⟨x, isName, by simp [groups, toString], ⟨g, post, blank, by simpa using split⟩, ?_⟩
    simpa [head?_append_of_ne_nil _ nonempty] using holds
  · rintro ⟨x, isName, rfl, ⟨g, post, blank, split⟩, holds⟩
    obtain ⟨m, hm, start, groups⟩ := (method _).2 ⟨_, post, ⟨x, g, isName, blank, rfl, rfl⟩, by simpa using split,
      by simpa [head?_append_of_ne_nil _ nonempty] using holds⟩
    exact ⟨m, hm, by simp [groups, start, toString]⟩
  · rintro ⟨m, hm, same⟩
    obtain ⟨rfl, rfl⟩ := ScriptCall.mk.inj same
    obtain ⟨_, post, ⟨g, blank, rfl, -⟩, split, holds⟩ := (direct _).1 ⟨m, hm, rfl, rfl⟩
    refine ⟨rfl, ⟨g, post, blank, by simpa using split⟩, by simpa using holds⟩
  · rintro ⟨rfl, ⟨g, post, blank, split⟩, holds⟩
    obtain ⟨m, hm, start, groups⟩ := (direct _).2 ⟨_, post, ⟨g, blank, rfl, rfl⟩, by simpa using split,
      by simpa using holds⟩
    exact ⟨m, hm, by simp [start]⟩

lemma symbol_of_mem_callsOn {name : String} {c : ScriptCall} (h : c ∈ callsOn name line) :
    c.symbol = name ∨ ∃ m, IsIdentifier m ∧ c.symbol = name ++ "." ++ .ofList m := by
  rw [callsOn, mem_append, mem_map, mem_map] at h
  rcases h with ⟨m, hm, rfl⟩ | ⟨m, -, rfl⟩
  · obtain ⟨-, _, -, -, _, _, _, _, rfl, groups, ⟨-, rfl⟩, fits⟩ := exists_of_mem_findFrom hm
    obtain ⟨x, -, isName, -, -, rfl⟩ := spells_method.1 fits
    exact .inr ⟨x, isName, by simp [groups, toString]⟩
  · exact .inl rfl

lemma mem_scriptSites_iff {s : ScriptSite} : s ∈ scriptSites source ↔ ∃ name i line,
    (name, s.target) ∈ scriptImports source ∧ (lines source)[i]? = some line ∧ s.line = i + 1 ∧
      s.call ∈ callsOn name line := by
  simp only [scriptSites, sitesOf, mem_flatMap, mem_map, Prod.exists,
    mk_mem_zipIdx_iff_le_and_getElem?_sub]
  constructor
  · rintro ⟨name, target, bound, line, i, ⟨first, here⟩, c, called, rfl⟩
    exact ⟨name, i - 1, line, bound, here, by dsimp only; omega, called⟩
  · rintro ⟨name, i, line, bound, here, number, called⟩
    exact ⟨name, s.target, bound, line, i + 1, ⟨by omega, here⟩, s.call, called, by rw [← number]⟩

/-- On some line inside a function a call stands behind some text. -/
def OnLineOf (symbols : List Value) (source : List Char) (caller : String)
    (stands : List Char → List Char → Prop) : Prop :=
  ∃ (i : Nat) (line lead : List Char), (lines source)[i]? = some line ∧
    enclosing symbols (i + 1 : Nat) = .ok caller ∧ stands lead line

/-- An edge of a symbol that only one name gives goes back to a call of this name. -/
lemma exists_script_edge_iff {file : String} {symbols : List Value} {edges : List CallEdge}
    (found : scriptCalls file (enclosing symbols) source = .ok edges) {target symbol : String}
    (bound : (n, target) ∈ scriptImports source) (caller : String)
    (only : ∀ name t line c, (name, t) ∈ scriptImports source → c ∈ callsOn name line → c.symbol = symbol → name = n) :
    (∃ e ∈ edges, e.key = (caller, target, symbol)) ↔
      OnLineOf symbols source caller fun lead line => ⟨symbol, lead⟩ ∈ callsOn n line := by
  obtain ⟨callerOf, known, rfl⟩ := exists_callers found
  simp only [CallEdge.exists_mem_mergeAll_iff, mem_map, exists_exists_and_eq_and]
  constructor
  · rintro ⟨s, hs, key⟩
    obtain ⟨name, i, line, bound', here, number, called⟩ := mem_scriptSites_iff.1 hs
    obtain ⟨rfl, rfl, rfl⟩ : callerOf s.line = caller ∧ s.target = target ∧ s.call.symbol = symbol := by
      simpa [CallEdge.key, ScriptSite.toEdge, ScriptCall.toEdge] using key
    obtain rfl := only name _ line s.call bound' called rfl
    exact ⟨i, line, s.call.lead, here, number ▸ known s hs, called⟩
  · rintro ⟨i, line, lead, here, inside, called⟩
    have hs : ⟨i + 1, target, ⟨symbol, lead⟩⟩ ∈ scriptSites source :=
      mem_scriptSites_iff.2 ⟨n, i, line, bound, here, rfl, called⟩
    obtain rfl : callerOf (i + 1 : Nat) = caller := Except.ok.inj ((known _ hs).symm.trans inside)
    exact ⟨_, hs, rfl⟩

/-- For every script whose edges are found, each imported name that is an identifier, and each function: it has an
edge to the name exactly if on some line of it the name is called with neither a point nor a word character before
it, and to a member of the name exactly if that is called at an edge of a word. A dollar sign is no word character:
a name that begins with one has no such edge before it, and one that stands before a name does not belong to it. -/
theorem edge_iff_called_at_word_edge {file : String} {symbols : List Value} {source : List Char}
    {edges : List CallEdge} (found : scriptCalls file (enclosing symbols) source = .ok edges) {n target : String}
    (bound : (n, target) ∈ scriptImports source) (identifier : IsIdentifier n.toList) (caller : String) :
    ((∃ e ∈ edges, e.key = (caller, target, n)) ↔ OnLineOf symbols source caller fun lead line =>
      CalledAfter lead n.toList line ∧ lead.getLast?.any (fun b => b == '.' || isWord b) = false) ∧
    ∀ m, IsIdentifier m → (∀ t, (n ++ "." ++ String.ofList m, t) ∉ scriptImports source) →
      ((∃ e ∈ edges, e.key = (caller, target, n ++ "." ++ String.ofList m)) ↔
        OnLineOf symbols source caller fun lead line =>
          CalledAfter lead (n.toList ++ '.' :: m) line ∧ isWordEdge lead.getLast? n.toList.head? = true) := by
  have undotted : ∀ a x, n ≠ a ++ "." ++ String.ofList x := fun a x same =>
    identifier.not_mem (c := '.') (by decide) (by simp [same])
  have dotted : ∀ {a b x y}, IsIdentifier x → IsIdentifier y →
      a ++ "." ++ String.ofList x = b ++ "." ++ String.ofList y → a = b ∧ x = y := by
    intro a b x y hx hy same
    have last : ∀ {a z}, IsIdentifier z → afterLast '.' (a ++ "." ++ String.ofList z).toList = z :=
      fun hz => by simpa using afterLast_append _ (hz.not_mem (c := '.') (by decide))
    obtain rfl : x = y := by rw [← last (a := a) hx, same, last hy]
    simpa using same
  refine ⟨?_, fun m isName fresh => ?_⟩
  · rw [exists_script_edge_iff found bound caller]
    · simp [mem_callsOn_iff identifier, undotted]
    · intro name t line c _ called symbol
      rcases symbol_of_mem_callsOn called with same | ⟨x, _, same⟩
      · rw [← same, symbol]
      · exact absurd (symbol.symm.trans same) (undotted name x)
  · rw [exists_script_edge_iff found bound caller]
    · simp [mem_callsOn_iff identifier, (undotted n m).symm, String.ofList_inj, isName]
    · intro name t line c bound' called symbol
      rcases symbol_of_mem_callsOn called with same | ⟨x, isName', same⟩
      · rw [← same, symbol] at bound'
        exact absurd bound' (fresh t)
      · exact (dotted isName' isName (same.symm.trans symbol)).1

theorem edge_iff_called_at_word_edge_member :
    ∃ e ∈ [CallEdge.mk "a.js" moduleLevel 2 "./m" "m.f" false false], e.key = (moduleLevel, "./m", "m.f") := by
  have found : scriptCalls "a.js" (enclosing []) "const m = require('./m')\nm.f()".toList =
      .ok [⟨"a.js", moduleLevel, 2, "./m", "m.f", false, false⟩] := toOption_eq_some_iff.1 (by decide +kernel)
  have imports : scriptImports "const m = require('./m')\nm.f()".toList = [("m", "./m")] := by decide +kernel
  refine ((edge_iff_called_at_word_edge found (n := "m") (by rw [imports]; decide) (by decide) moduleLevel).2 ['f']
    (by decide) (by rw [imports]; simp)).2 ⟨1, "m.f()".toList, [], by decide +kernel, rfl, ⟨[], [')'], ?_, rfl⟩, ?_⟩
  · simp [Blank]
  · decide

/-- A call of a name with a dollar sign is lost, and one of a longer name is found. -/
theorem dollar_sign_at_word_edge :
    scriptCalls "a.js" (enclosing []) "const $m = require('./m')\n$m.f()".toList = .ok [] ∧
    scriptCalls "a.js" (enclosing []) "const m = require('./m')\n$m.f()".toList =
      .ok [⟨"a.js", moduleLevel, 2, "./m", "m.f", false, false⟩] :=
  ⟨toOption_eq_some_iff.1 (by decide +kernel), toOption_eq_some_iff.1 (by decide +kernel)⟩

end Unbundle.Analysis
