import Unbundle.Proofs.Analysis.ScriptModules
import Unbundle.Proofs.Index.Origin

/-!
# Symbols of a script

A route is found twice: as an entry point wherever it stands in the text, and as a symbol where a line opens
it. The name of a symbol stands behind the last dot of its full name, unless it has dots of its own.
-/

open List Unbundle.Text

namespace Unbundle.Analysis

open Text (Pattern)
open Text.Pattern

variable {line : List Char} {p : Pattern}

/-! ### Lines that open a route -/

/-- A line that opens a route: white space, a router or an application, a method in small letters, and a
path in quotes behind a parenthesis. -/
structure RouteLine where
  lead : List Char
  object : List Char
  method : List Char
  gap : List Char
  inner : List Char
  opening : Char
  path : List Char
  closing : Char
  rest : List Char
  blank : Blank lead ∧ Blank gap ∧ Blank inner
  served : object ∈ ["router", "app"].map String.toList
  known : method ∈ (routeMethods ++ ["use"]).map String.toList
  quotes : isQuote opening = true ∧ isQuote closing = true
  path_ne_nil : path ≠ []
  path_unquoted : Unquoted path

namespace RouteLine

def front (r : RouteLine) : List Char :=
  r.lead ++ (r.object ++ '.' :: (r.method ++ (r.gap ++ '(' :: r.inner)))

def text (r : RouteLine) : List Char := r.front ++ r.opening :: (r.path ++ r.closing :: r.rest)

def name (r : RouteLine) : String := handlerName (String.ofList (upper r.method)) r.path

end RouteLine

/-- A route up to the end of its path. -/
def routeOpening : Pattern := sequence [
  blanks, either (word "router") (word "app"), char '.',
  group (choice ((routeMethods ++ ["use"]).map word)), blanks, char '(', blanks, quoted]

lemma exists_routeLine_of_spells {w : List Char} {gs : List (List Char)} (h : routeOpening.Spells w gs)
    (rest : List Char) : ∃ r : RouteLine, r.text = w ++ rest ∧ gs = [r.method, r.path] := by
  obtain ⟨lead, _, _, _, rfl, rfl, hl, object, _, _, _, rfl, rfl, ho, _, _, _, _, rfl, rfl, hd,
    method, _, _, _, rfl, rfl, ⟨_, hm, rfl⟩, gap, _, _, _, rfl, rfl, hg, _, _, _, _, rfl, rfl, hp,
    inner, _, _, _, rfl, rfl, hi, hq⟩ := h
  obtain ⟨lead_blank, rfl⟩ := spells_blanks.1 hl
  obtain ⟨served, rfl⟩ := (spells_choice (l := ["router", "app"])).1 ho
  obtain ⟨rfl, rfl⟩ := spells_char.1 hd
  obtain ⟨known, rfl⟩ := spells_choice.1 hm
  obtain ⟨gap_blank, rfl⟩ := spells_blanks.1 hg
  obtain ⟨rfl, rfl⟩ := spells_char.1 hp
  obtain ⟨inner_blank, rfl⟩ := spells_blanks.1 hi
  obtain ⟨q, path, q', rfl, rfl, opens, closes, unquoted, nonempty⟩ := spells_quoted.1 hq
  exact ⟨⟨lead, object, method, gap, inner, q, path, q', rest, ⟨lead_blank, gap_blank, inner_blank⟩, served,
    known, ⟨opens, closes⟩, nonempty, unquoted⟩, by simp [RouteLine.text, RouteLine.front], rfl⟩

lemma Blank.not_mem {cs : List Char} (h : Blank cs) {c : Char} (visible : isBlank c = false) : c ∉ cs :=
  fun member => absurd (h c member) (by simp [visible])

lemma plain_of_mem {w : List Char}
    (h : w ∈ (["router", "app"] ++ (routeMethods ++ ["use"])).map String.toList) :
    ∀ c ∈ w, isQuote c = false ∧ c ≠ '(' ∧ c ≠ '.' ∧ isBlank c = false := by
  have all : ((["router", "app"] ++ (routeMethods ++ ["use"])).map String.toList).all (fun w => w.all fun c =>
      !isQuote c && c != '(' && c != '.' && !Text.isBlank c) = true := by decide
  intro c hc
  simpa [and_assoc] using all_eq_true.1 (all_eq_true.1 all w h) c hc

namespace RouteLine

variable (r : RouteLine)

lemma spells : routeOpening.Spells (r.front ++ r.opening :: (r.path ++ [r.closing])) [r.method, r.path] := by
  have same : r.front ++ r.opening :: (r.path ++ [r.closing]) = r.lead ++ (r.object ++ (['.'] ++ (r.method ++
      (r.gap ++ (['('] ++ (r.inner ++ r.opening :: (r.path ++ [r.closing]))))))) := by simp [front]
  rw [same]
  exact ⟨r.lead, [], _, _, rfl, rfl, spells_blanks.2 ⟨r.blank.1, rfl⟩,
    r.object, [], _, _, rfl, rfl, (spells_choice (l := ["router", "app"])).2 ⟨r.served, rfl⟩,
    ['.'], [], _, _, rfl, rfl, spells_char.2 ⟨rfl, rfl⟩,
    r.method, [r.method], _, [r.path], rfl, rfl, ⟨[], spells_choice.2 ⟨r.known, rfl⟩, rfl⟩,
    r.gap, [], _, _, rfl, rfl, spells_blanks.2 ⟨r.blank.2.1, rfl⟩,
    ['('], [], _, _, rfl, rfl, spells_char.2 ⟨rfl, rfl⟩,
    r.inner, [], _, _, rfl, rfl, spells_blanks.2 ⟨r.blank.2.2, rfl⟩,
    spells_quoted.2 ⟨_, _, _, rfl, rfl, r.quotes.1, r.quotes.2, r.path_unquoted, r.path_ne_nil⟩⟩

lemma object_plain : ∀ c ∈ r.object, isQuote c = false ∧ c ≠ '(' ∧ c ≠ '.' ∧ isBlank c = false :=
  plain_of_mem (by rw [map_append]; exact mem_append_left _ r.served)

lemma method_plain : ∀ c ∈ r.method, isQuote c = false ∧ c ≠ '(' ∧ c ≠ '.' ∧ isBlank c = false :=
  plain_of_mem (by rw [map_append]; exact mem_append_right _ r.known)

lemma front_unquoted : Unquoted r.front := by
  have := r.blank.1.unquoted
  have := r.blank.2.1.unquoted
  have := r.blank.2.2.unquoted
  have : isQuote '.' = false ∧ isQuote '(' = false := by decide
  grind [Unquoted, front, object_plain, method_plain]

lemma path_eq : r.path = (r.text.dropWhile (!isQuote ·)).tail.takeWhile (!isQuote ·) := by
  rw [text, dropWhile_append_of_pos (by simpa [Unquoted] using r.front_unquoted),
    dropWhile_cons_of_neg (by simp [r.quotes.1]), tail_cons,
    takeWhile_append_of_pos (by simpa [Unquoted] using r.path_unquoted),
    takeWhile_cons_of_neg (by simp [r.quotes.2]), append_nil]

lemma method_eq :
    r.method = ((r.text.takeWhile (· ≠ '(')).dropWhile (· ≠ '.')).tail.filter (!Text.isBlank ·) := by
  have before : ∀ c ∈ r.lead ++ r.object, decide (c ≠ '.') = true := by
    have := r.blank.1.not_mem (c := '.') (by decide)
    have := r.object_plain
    grind
  have ahead : ∀ c ∈ r.lead ++ r.object ++ '.' :: (r.method ++ r.gap), decide (c ≠ '(') = true := by
    have := r.blank.1.not_mem (c := '(') (by decide)
    have := r.blank.2.1.not_mem (c := '(') (by decide)
    have := r.object_plain
    have := r.method_plain
    grind
  have cut : r.text = (r.lead ++ r.object ++ '.' :: (r.method ++ r.gap)) ++
      '(' :: (r.inner ++ r.opening :: (r.path ++ r.closing :: r.rest)) := by simp [text, front]
  rw [cut, takeWhile_append_of_pos ahead, takeWhile_cons_of_neg (by simp), append_nil,
    dropWhile_append_of_pos before, dropWhile_cons_of_neg (by simp), tail_cons,
    filter_append, filter_eq_self.2 (by simpa using fun c hc => (r.method_plain c hc).2.2.2),
    filter_eq_nil_iff.2 (by simpa [Blank] using r.blank.2.1), append_nil]

end RouteLine

/-! ### Lines that open something else -/

/-- The characters of a text that are not white space. -/
def ink (w : List Char) : List Char := w.filter (!Text.isBlank ·)

@[simp] lemma ink_append (v w : List Char) : ink (v ++ w) = ink v ++ ink w := filter_append v w

lemma Blank.ink_eq {g : List Char} (h : Blank g) : ink g = [] := filter_eq_nil_iff.2 fun c hc => by simp [h c hc]

/-- Every text of a pattern starts with one of these, apart from white space. -/
def Starts (p : Pattern) (l : List (List Char)) : Prop := ∀ ⦃w gs⦄, p.Spells w gs → ∃ s ∈ l, s <+: ink w

section Starts

variable {b : Pattern} {l : List (List Char)}

lemma starts_choice (l : List String) (solid : ∀ s ∈ l, ink s.toList = s.toList) :
    Starts (seq (choice (l.map word)) b) (l.map String.toList) := by
  rintro _ _ ⟨v, _, u, _, rfl, -, first, -⟩
  obtain ⟨s, hs, rfl⟩ := mem_map.1 (spells_choice.1 first).1
  exact ⟨_, mem_map_of_mem hs, by rw [ink_append, solid s hs]; exact prefix_append _ _⟩

lemma Starts.maybe {a : Pattern} {v : List Char} (h : Starts b l) (first : ∀ {w gs}, a.Spells w gs → ink w = v) :
    Starts (seq (maybe a) b) (l ++ l.map (v ++ ·)) := by
  rintro _ _ ⟨_, _, u, _, rfl, -, here | ⟨rfl, -⟩, later⟩
  all_goals obtain ⟨s, hs, begins⟩ := h later
  · exact ⟨v ++ s, by simp [hs], by rwa [ink_append, first here, prefix_append_right_inj]⟩
  · exact ⟨s, by simp [hs], begins⟩

lemma Starts.optionalWord (h : Starts b l) (s : String) (solid : ink s.toList = s.toList) :
    Starts (seq (optionalWord s) b) (l ++ l.map (s.toList ++ ·)) := h.maybe fun here => by
  obtain ⟨_, rfl, blank⟩ := spells_seq_word.1 here
  rw [ink_append, solid, (spells_gap.1 blank).1.1.ink_eq, append_nil]

lemma exists_spells_of_groupsOn {line : List Char} {gs : List (List Char)}
    (h : groupsOn (seq atStart p) line = some gs) : ∃ w rest, line = w ++ rest ∧ p.Spells w gs := by
  rw [groupsOn, find?_atStart, Option.map_eq_some_iff] at h
  obtain ⟨m, found, rfl⟩ := h
  obtain ⟨w, rest, split, -, fits⟩ := matchAt_eq_some found
  exact ⟨w, rest, split, fits⟩

lemma Starts.groupsOn_eq_none (h : Starts b l) {line t : List Char} (begins : t <+: ink line)
    (clash : ∀ s ∈ l, ¬ (s <+: t ∨ t <+: s)) : groupsOn (seq atStart (seq blanks b)) line = none := by
  refine Option.eq_none_iff_forall_ne_some.2 fun gs found => ?_
  obtain ⟨_, rest, rfl, fits⟩ := exists_spells_of_groupsOn found
  obtain ⟨lead, u, rfl, blank, fits⟩ := (spells_seq_left groupless_blanks).1 fits
  obtain ⟨s, hs, start⟩ := h fits
  rw [ink_append, ink_append, (spells_blanks.1 blank).1.ink_eq] at begins
  exact clash s hs ( prefix_or_prefix_of_prefix (start.trans (prefix_append _ _)) begins)

end Starts

/-- What functions, classes and constants start with. -/
def openings : List (List Char) :=
  ["function", "exportfunction", "asyncfunction", "asyncexportfunction", "class", "exportclass", "const", "let", "var",
    "exportconst", "exportlet", "exportvar"].map String.toList

lemma groupsOn_eq_none_of_clash {t : List Char} (begins : t <+: ink line)
    (clash : ∀ s ∈ openings, ¬ (s <+: t ∨ t <+: s)) : groupsOn functionPattern line = none ∧
      groupsOn classPattern line = none ∧ groupsOn constantPattern line = none := by
  have among : ∀ {l : List (List Char)}, (∀ s ∈ l, s ∈ openings) → ∀ s ∈ l, ¬ (s <+: t ∨ t <+: s) :=
    fun known s hs => clash s (known s hs)
  exact ⟨(((starts_choice ["function"] (by decide)).optionalWord "export" (by decide)).optionalWord "async"
      (by decide)).groupsOn_eq_none begins (among (by decide)),
    ((starts_choice ["class"] (by decide)).optionalWord "export" (by decide)).groupsOn_eq_none begins
      (among (by decide)),
    ((starts_choice ["const", "let", "var"] (by decide)).optionalWord "export" (by decide)).groupsOn_eq_none begins
      (among (by decide))⟩

lemma RouteLine.object_prefix (r : RouteLine) : r.object <+: ink r.text := by
  have solid : ∀ o ∈ ["router", "app"].map String.toList, ink o = o := by decide
  rw [text, front, ink_append, ink_append, ink_append, r.blank.1.ink_eq, solid r.object r.served]
  simp

/-! ### What a line defines -/

/-- What a pattern keeps of a line, where no two readings of the line differ in it. -/
lemma groupsOn_eq_some_iff {α : Type} {text : α → List Char} {kept : α → List (List Char)}
    (plain : p.isPlain = true) (sound : ∀ {w gs} rest, p.Spells w gs → ∃ r, text r = w ++ rest ∧ gs = kept r)
    (complete : ∀ r, ∃ w rest, text r = w ++ rest ∧ p.Spells w (kept r))
    (unique : ∀ r r', text r = text r' → kept r = kept r') {gs : List (List Char)} :
    groupsOn (seq atStart p) line = some gs ↔ ∃ r, text r = line ∧ gs = kept r := by
  have reads : ∀ {gs}, groupsOn (seq atStart p) line = some gs → ∃ r, text r = line ∧ gs = kept r := by
    intro gs h
    obtain ⟨w, rest, rfl, fits⟩ := exists_spells_of_groupsOn h
    exact sound rest fits
  refine ⟨reads, ?_⟩
  rintro ⟨r, rfl, rfl⟩
  obtain ⟨w, rest, split, fits⟩ := complete r
  obtain ⟨m, found⟩ := exists_matchAt plain fits (s := .start (text r)) split
  have matched : groupsOn (seq atStart p) (text r) = some m.groups := by
    rw [groupsOn, find?_atStart, found, Option.map_some]
  obtain ⟨r', same, groups⟩ := reads matched
  rw [matched, groups, unique r' r same]

lemma groupsOn_routeLinePattern {gs : List (List Char)} :
    groupsOn routeLinePattern line = some gs ↔
      ∃ r : RouteLine, r.text = line ∧ gs = [r.method, r.path] := by
  refine groupsOn_eq_some_iff (p := routeOpening) (by decide) (fun rest fits => exists_routeLine_of_spells fits rest)
    (fun r => ⟨_, r.rest, by simp [RouteLine.text], r.spells⟩) fun r r' same => ?_
  rw [r.method_eq, r.path_eq, same, ← r'.method_eq, ← r'.path_eq]

def IsScriptName (name : String) : Prop := name ≠ "" ∧ ∀ c ∈ name.toList, isNameChar c = true

lemma isScriptName_of_groupsOn {gs : List (List Char)} (kept : p.kept? = some [isNameChar])
    (h : groupsOn (seq atStart p) line = some gs) : IsScriptName (.ofList gs.flatten) := by
  obtain ⟨w, rest, -, fits⟩ := exists_spells_of_groupsOn h
  cases fits.kept kept with
  | cons first others =>
    cases others
    refine ⟨fun empty => first.1 ?_, by simpa using first.2⟩
    simpa using congrArg String.toList empty

/-- What a line defines: a route that it opens, a listener, or a function or class under a plain name. -/
lemma definition?_eq_some {name : String} {kind : SymbolKind} (h : definition? line = some (name, kind)) :
    (kind = .routeHandler ∧ ∃ r : RouteLine, r.text = line ∧ name = r.name) ∨
    (kind = .eventHandler ∧ ∃ object event, name = object ++ "_on_" ++ event) ∨
    ((kind = .function ∨ kind = .classDecl) ∧ IsScriptName name) := by
  have plain : ∀ {p gs k}, p.kept? = some [isNameChar] → groupsOn (seq atStart p) line = some gs →
      (k = .function ∨ k = .classDecl) → some (.ofList gs.flatten, k) = some (name, kind) →
      (kind = .function ∨ kind = .classDecl) ∧ IsScriptName name := by
    intro p gs k kept groups known same
    obtain ⟨rfl, rfl⟩ := Prod.mk.inj (Option.some.inj same)
    exact ⟨known, isScriptName_of_groupsOn kept groups⟩
  -- the patterns in the order in which they are tried
  unfold definition? at h
  split at h
  · next groups => exact .inr (.inr (plain rfl groups (.inl rfl) h))
  split at h
  · next groups => exact .inr (.inr (plain rfl groups (.inr rfl) h))
  split at h
  · next groups => exact .inr (.inr (plain rfl groups (.inl rfl) h))
  split at h
  · next groups =>
    obtain ⟨r, line, same⟩ := groupsOn_routeLinePattern.1 groups
    obtain ⟨rfl, rfl⟩ := cons.inj same
    obtain ⟨rfl, rfl⟩ := Prod.mk.inj (Option.some.inj h)
    exact .inl ⟨rfl, r, line, by simp [RouteLine.name]⟩
  · cases h
  split at h
  · obtain ⟨rfl, rfl⟩ := Prod.mk.inj (Option.some.inj h)
    exact .inr (.inl ⟨rfl, _, _, rfl⟩)
  · cases h
  split at h
  · next groups => exact .inr (.inr (plain rfl groups (.inl rfl) h))
  split at h
  · next groups =>
    dsimp only at h
    split_ifs at h
    exact .inr (.inr (plain rfl groups (.inl rfl) h))
  · cases h

/-- A line that opens a route defines its handler: it begins as nothing that comes first. -/
lemma definition?_routeLine (r : RouteLine) : definition? r.text = some (r.name, .routeHandler) := by
  have clash : ∀ o ∈ ["router", "app"].map String.toList, ∀ s ∈ openings, ¬ (s <+: o ∨ o <+: s) := by decide
  obtain ⟨function, class_, constant⟩ := groupsOn_eq_none_of_clash r.object_prefix (clash r.object r.served)
  have route := groupsOn_routeLinePattern.2 ⟨r, rfl, rfl⟩
  simp [definition?, function, class_, constant, route, RouteLine.name]

/-! ### Lines that declare a function -/

lemma isBlank_of_isNameChar {c : Char} (h : isNameChar c = true) : isBlank c = false := by
  change (decide (65 ≤ c.val ∧ c.val ≤ 90) || (decide (97 ≤ c.val) && decide (c.val ≤ 122)) ||
    (decide (48 ≤ c.val) && decide (c.val ≤ 57)) || c == '_' || c == '$') = true at h
  have range : 0x20 < c.toNat ∧ c.toNat < 0x85 := by
    simp only [Bool.or_eq_true, beq_iff_eq, UInt32.le_iff_toNat_le] at h
    rcases h with (((h | h) | h) | rfl) | rfl <;> simp_all <;> omega
  simp [isBlank]
  omega

/-- A keyword with white space behind it, or nothing. -/
def keyword (s : String) : Option (List Char) → List Char
  | none => []
  | some gap => s.toList ++ gap

/-- A line that declares a function: white space, two words that may be left out, the keyword and a name in front of a
parenthesis. -/
structure FunctionLine (s t : String) where
  lead : List Char
  first : Option (List Char)
  second : Option (List Char)
  gap : List Char
  name : List Char
  inner : List Char
  rest : List Char
  blank : Blank lead ∧ Blank inner
  first_gap : ∀ g ∈ first, Blank g ∧ g ≠ []
  second_gap : ∀ g ∈ second, Blank g ∧ g ≠ []
  apart : Blank gap ∧ gap ≠ []
  named : name ≠ [] ∧ ∀ c ∈ name, isNameChar c = true

namespace FunctionLine

variable {s t : String} (f : FunctionLine s t)

def front : List Char :=
  f.lead ++ (keyword s f.first ++ (keyword t f.second ++ ("function".toList ++ f.gap)))

def text : List Char := f.front ++ (f.name ++ (f.inner ++ '(' :: f.rest))

end FunctionLine

section Spelled

variable {w : List Char} {gs : List (List Char)}

lemma spells_optionalWord {s : String} : (optionalWord s).Spells w gs ↔
    (∃ o : Option (List Char), (∀ g ∈ o, Blank g ∧ g ≠ []) ∧ w = keyword s o) ∧ gs = [] := by
  constructor
  · rintro (⟨_, _, g, _, rfl, rfl, first, second⟩ | ⟨rfl, rfl⟩)
    · obtain ⟨rfl, rfl⟩ := spells_word.1 first
      obtain ⟨blank, rfl⟩ := spells_gap.1 second
      exact ⟨⟨some g, by simpa using blank, rfl⟩, rfl⟩
    · exact ⟨⟨none, by simp, rfl⟩, rfl⟩
  · rintro ⟨⟨o, blank, rfl⟩, rfl⟩
    cases o with
    | none => exact .inr ⟨rfl, rfl⟩
    | some g => exact .inl ⟨_, [], g, [], rfl, rfl, spells_word.2 ⟨rfl, rfl⟩, spells_gap.2 ⟨blank g rfl, rfl⟩⟩

lemma groupless_optionalWord (s : String) : (optionalWord s).Groupless := fun _ _ h => (spells_optionalWord.1 h).2

lemma spells_seq_nameGroup {b : Pattern} : (seq nameGroup b).Spells w gs ↔
    ∃ v u hs, w = v ++ u ∧ gs = v :: hs ∧ (v ≠ [] ∧ ∀ c ∈ v, isNameChar c = true) ∧ b.Spells u hs := by
  constructor
  · rintro ⟨v, _, u, hs, rfl, rfl, ⟨_, ⟨⟨all, enough⟩, rfl⟩, rfl⟩, later⟩
    exact ⟨v, u, hs, rfl, rfl, ⟨ne_nil_of_length_pos enough, all⟩, later⟩
  · rintro ⟨v, u, hs, rfl, rfl, ⟨nonempty, all⟩, later⟩
    exact ⟨v, [v], u, hs, rfl, rfl, ⟨[], ⟨⟨all, length_pos_of_ne_nil nonempty⟩, rfl⟩, rfl⟩, later⟩

lemma spells_seq_char {b : Pattern} {c : Char} :
    (seq (char c) b).Spells w gs ↔ ∃ u, w = c :: u ∧ b.Spells u gs := by
  simp [spells_seq_left (groupless_char c)]

def functionOpening : Pattern := sequence [
  blanks, optionalWord "async", optionalWord "export", word "function", gap, nameGroup, blanks, char '(']

lemma spells_functionOpening {rest : List Char} : functionOpening.Spells w gs ↔
    ∃ f : FunctionLine "async" "export", f.rest = rest ∧ f.text = w ++ rest ∧ gs = [f.name] := by
  simp only [functionOpening, Pattern.sequence, spells_seq_left groupless_blanks, spells_blanks, and_true,
    spells_seq_left (groupless_optionalWord _), spells_optionalWord, spells_seq_word, spells_seq_left groupless_gap,
    spells_gap, spells_seq_nameGroup, spells_char]
  constructor
  · rintro ⟨lead, _, rfl, blank, _, _, rfl, ⟨first, first_gap, rfl⟩, _, _, rfl, ⟨second, second_gap, rfl⟩, _, rfl,
      gap, _, rfl, apart, name, _, _, rfl, rfl, named, inner, _, rfl, blank', rfl, rfl⟩
    exact ⟨⟨lead, first, second, gap, name, inner, rest, ⟨blank, blank'⟩, first_gap, second_gap, apart, named⟩, rfl,
      by simp [FunctionLine.text, FunctionLine.front], rfl⟩
  · rintro ⟨f, rfl, same, rfl⟩
    refine ⟨f.lead, _, (append_left_inj f.rest).1 ?_, f.blank.1, _, _, rfl, ⟨f.first, f.first_gap, rfl⟩, _, _,
      rfl, ⟨f.second, f.second_gap, rfl⟩, _, rfl, f.gap, _, rfl, f.apart, f.name, _, _, rfl, rfl, f.named, f.inner, _,
      rfl, f.blank.2, rfl, rfl⟩
    simp [← same, FunctionLine.text, FunctionLine.front]

end Spelled

lemma span_append {α : Type} {p : α → Bool} {w rest : List α} (all : ∀ c ∈ w, p c = true)
    (stops : ∀ c ∈ rest.head?, p c = false) :
    (w ++ rest).takeWhile p = w ∧ (w ++ rest).dropWhile p = rest := by
  rw [takeWhile_append_of_pos all, dropWhile_append_of_pos all]
  cases rest with
  | nil => simp
  | cons c cs => simp [stops c rfl]

/-- The name in front of the first parenthesis of a line, behind what is visible before it. -/
def openName (line : List Char) : List Char × List Char :=
  let before := (line.takeWhile (· ≠ '(')).reverse.dropWhile isBlank
  (ink (before.dropWhile isNameChar).reverse, (before.takeWhile isNameChar).reverse)

lemma openName_eq {front name inner : List Char} (free : '(' ∉ front)
    (apart : ∀ c ∈ front.getLast?, isNameChar c = false) (named : name ≠ [] ∧ ∀ c ∈ name, isNameChar c = true)
    (blank : Blank inner) (rest : List Char) :
    openName (front ++ (name ++ (inner ++ '(' :: rest))) = (ink front, name) := by
  have ahead : ∀ c ∈ front ++ (name ++ inner), decide (c ≠ '(') = true := by
    have := blank.not_mem (c := '(') (by decide)
    have : isNameChar '(' = false := by decide
    grind
  have solid : ∀ c ∈ (name.reverse ++ front.reverse).head?, isBlank c = false := by
    intro c hc
    rw [head?_append_of_ne_nil _ (by simpa using named.1)] at hc
    exact isBlank_of_isNameChar (named.2 c (mem_reverse.1 (mem_of_head? hc)))
  have chars := span_append (w := name.reverse) (by simpa using named.2) (by rwa [head?_reverse])
  rw [openName, ← append_assoc name, ← append_assoc front, (span_append ahead (by simp)).1,
    reverse_append, reverse_append, append_assoc,
    (span_append (by simpa [Blank] using blank) solid).2, chars.1, chars.2, reverse_reverse, reverse_reverse]

lemma Blank.apart {g : List Char} (h : Blank g) (front : List Char) (nonempty : front = [] ∨ g ≠ []) :
    ∀ c ∈ (front ++ g).getLast?, isNameChar c = false := by
  intro c hc
  have last : c ∈ g := by
    rcases nonempty with rfl | nonempty
    · exact mem_of_getLast? hc
    · rw [getLast?_append_of_ne_nil _ nonempty] at hc
      exact mem_of_getLast? hc
  exact Bool.eq_false_iff.2 fun name => by simpa [isBlank_of_isNameChar name] using h c last

namespace FunctionLine

section

variable {s t : String} (f : FunctionLine s t) (solid : ink s.toList = s.toList ∧ ink t.toList = t.toList)

include solid

lemma ink_front : ink f.front = (if f.first.isSome then s.toList else []) ++
    ((if f.second.isSome then t.toList else []) ++ "function".toList) := by
  have keyword : ∀ {s o}, ink (String.toList s) = s.toList → (∀ g ∈ o, Blank g ∧ g ≠ []) →
      ink (keyword s o) = if o.isSome then s.toList else [] := by
    intro s o solid gaps
    cases o with
    | none => rfl
    | some g => simp [keyword, (gaps g rfl).1.ink_eq, solid]
  have function : ink "function".toList = "function".toList := by decide
  rw [front, ink_append, ink_append, ink_append, ink_append, f.blank.1.ink_eq, keyword solid.1 f.first_gap,
    keyword solid.2 f.second_gap, function, f.apart.1.ink_eq, append_nil, nil_append]

lemma openName_text (free : '(' ∉ s.toList ++ t.toList) : openName f.text = (ink f.front, f.name) := by
  refine openName_eq ?_ ?_ f.named f.blank.2 f.rest
  · intro member
    have shown : '(' ∈ ink f.front := mem_filter.2 ⟨member, by decide⟩
    rw [f.ink_front solid] at shown
    split at shown <;> split at shown <;> simp_all
  · rw [front, ← append_assoc, ← append_assoc, ← append_assoc]
    exact f.apart.1.apart _ (.inr f.apart.2)

end

lemma groupsOn_functionPattern {gs : List (List Char)} : groupsOn functionPattern line = some gs ↔
    ∃ f : FunctionLine "async" "export", f.text = line ∧ gs = [f.name] := by
  refine groupsOn_eq_some_iff (p := functionOpening) (by decide) (fun rest fits => ?_) (fun f => ?_) fun f f' same => ?_
  · obtain ⟨f, -, same⟩ := spells_functionOpening.1 fits
    exact ⟨f, same⟩
  · have split : f.text = (f.front ++ (f.name ++ (f.inner ++ ['(']))) ++ f.rest := by simp [text]
    exact ⟨_, f.rest, split, spells_functionOpening.2 ⟨f, rfl, split, rfl⟩⟩
  · have names := (same ▸ f.openName_text (by decide) (by decide)).symm.trans (f'.openName_text (by decide) (by decide))
    rw [(Prod.mk.inj names).2]

lemma exists_swap {s t : String} (f : FunctionLine s t) (h : ¬ (f.first.isSome ∧ f.second.isSome)) :
    ∃ f' : FunctionLine t s, f'.text = f.text ∧ f'.name = f.name := by
  refine ⟨⟨f.lead, f.second, f.first, f.gap, f.name, f.inner, f.rest, f.blank, f.second_gap, f.first_gap, f.apart,
    f.named⟩, ?_, rfl⟩
  simp only [text, front]
  cases first : f.first <;> cases second : f.second <;> simp_all [keyword]

section Both

variable (f : FunctionLine "export" "async") (both : f.first.isSome ∧ f.second.isSome)

include both

lemma ink_front_of_both : ink f.front = "exportasyncfunction".toList := by
  rw [f.ink_front (by decide), if_pos both.1, if_pos both.2]
  rfl

/-- However the line is read as a name in front of a parenthesis, the same words stand before the name. -/
lemma ink_eq_of_text_eq (front rest : List Char) {name inner : List Char} (free : '(' ∉ front)
    (apart : ∀ c ∈ front.getLast?, isNameChar c = false) (named : name ≠ [] ∧ ∀ c ∈ name, isNameChar c = true)
    (blank : Blank inner) (split : f.text = front ++ (name ++ (inner ++ '(' :: rest))) :
    ink front = "exportasyncfunction".toList := by
  have shown := split ▸ f.openName_text (by decide) (by decide)
  rw [openName_eq free apart named blank, f.ink_front_of_both both] at shown
  exact (Prod.mk.inj shown).1

lemma groupsOn_listenerPattern : groupsOn listenerPattern f.text = none := by
  refine Option.eq_none_iff_forall_ne_some.2 fun gs found => ?_
  obtain ⟨w, rest, split, fits⟩ := exists_spells_of_groupsOn found
  simp only [Pattern.sequence, spells_seq_left groupless_blanks, spells_blanks, and_true, spells_seq_nameGroup,
    spells_seq_word, spells_seq_char] at fits
  obtain ⟨lead, _, rfl, blank, name, _, _, rfl, -, named, _, rfl, inner, _, rfl, blank', u, rfl, -⟩ := fits
  have plain : '(' ∉ name := fun member => absurd (named.2 _ member) (by decide)
  have free : '(' ∉ lead ++ (name ++ ['.']) := by simp [plain, blank.not_mem (c := '(') (by decide)]
  have shown := f.ink_eq_of_text_eq both _ (u ++ rest) free (by simp; decide)
    (by simp [isNameChar] : ['o', 'n'] ≠ [] ∧ _) blank' (by simp [split])
  have dot : '.' ∈ ink (lead ++ (name ++ ['.'])) := mem_filter.2 ⟨by simp, by decide⟩
  simp [shown] at dot

lemma groupsOn_methodPattern : groupsOn methodPattern f.text = none := by
  refine Option.eq_none_iff_forall_ne_some.2 fun gs found => ?_
  obtain ⟨w, rest, split, fits⟩ := exists_spells_of_groupsOn found
  simp only [Pattern.sequence, spells_seq_left groupless_blanks, spells_seq_left (groupless_optionalWord _),
    spells_optionalWord, spells_blanks, spells_seq_nameGroup, spells_seq_char, and_true] at fits
  obtain ⟨lead, _, rfl, blank, _, _, rfl, ⟨o, gaps, rfl⟩, name, _, _, rfl, -, named, inner, _, rfl, blank', u, rfl,
    -⟩ := fits
  have free := blank.not_mem (c := '(') (by decide)
  cases o with
  | none =>
    have shown := f.ink_eq_of_text_eq both _ (u ++ rest) free (blank.apart [] (.inl rfl)) named blank'
      (by simp [split, keyword])
    simp [blank.ink_eq] at shown
  | some g =>
    obtain ⟨blank'', nonempty⟩ := gaps g rfl
    have shown := f.ink_eq_of_text_eq both (lead ++ "async".toList ++ g) (u ++ rest)
      (by simp [free, blank''.not_mem (c := '(') (by decide)]) (blank''.apart _ (.inr nonempty)) named blank'
      (by simp [split, keyword])
    rw [ink_append, ink_append, blank.ink_eq, blank''.ink_eq] at shown
    exact absurd shown (by decide)

/-- No pattern fits a line with both words: it starts in another way or has something else in front of its name. -/
lemma definition?_eq_none : definition? f.text = none := by
  have begins : "exportasyncfunction".toList <+: ink f.text := by
    rw [text, ink_append, f.ink_front_of_both both]
    exact prefix_append _ _
  obtain ⟨function, class_, constant⟩ := groupsOn_eq_none_of_clash begins (by decide)
  have route : groupsOn routeLinePattern f.text = none :=
    (starts_choice ["router", "app"] (by decide)).groupsOn_eq_none begins (by decide)
  have export_ : groupsOn exportPattern f.text = none :=
    ((starts_choice ["exports."] (by decide)).maybe (v := "module.".toList) fun here => by
      rw [(spells_word.1 here).1]; decide).groupsOn_eq_none begins (by decide)
  simp [definition?, function, class_, constant, route, export_, f.groupsOn_listenerPattern both,
    f.groupsOn_methodPattern both]

end Both

lemma definition?_text (f : FunctionLine "export" "async") : definition? f.text =
    if f.first.isSome ∧ f.second.isSome then none else some (.ofList f.name, .function) := by
  split_ifs with both
  · exact f.definition?_eq_none both
  · obtain ⟨f', same, name⟩ := f.exists_swap both
    simp [definition?, groupsOn_functionPattern.2 ⟨f', same, rfl⟩, name]

end FunctionLine

/-! ### Symbols -/

lemma exists_mem_lineSymbols_iff {o : Origin} {line : Nat} {ls : List (List Char)} {name : String}
    {kind : Option SymbolKind} :
    (∃ s ∈ lineSymbols o line ls, s.kind = kind ∧ s.id = o.moduleName ++ "." ++ name) ↔
      ∃ l ∈ ls, ∃ k, kind = some k ∧ definition? l = some (name, k) := by
  constructor
  · rintro ⟨s, hs, rfl, same⟩
    obtain ⟨i, l, ⟨n, k⟩, here, defined, rfl⟩ := mem_lineSymbols_iff.1 hs
    obtain rfl := (String.append_right_inj _).1 same
    exact ⟨l, mem_of_getElem? here, k, rfl, defined⟩
  · rintro ⟨l, hl, k, rfl, defined⟩
    obtain ⟨i, here⟩ := getElem?_of_mem hl
    exact ⟨_, mem_lineSymbols_iff.2 ⟨i, l, _, here, defined, rfl⟩, rfl, rfl⟩

lemma exists_mem_lineSymbols_at {o : Origin} {line i : Nat} {ls : List (List Char)} {l : List Char} {name : String}
    (here : ls[i]? = some l) :
    (∃ s ∈ lineSymbols o line ls, s.firstLine = line + i ∧ s.id = o.moduleName ++ "." ++ name) ↔
      ∃ k, definition? l = some (name, k) := by
  constructor
  · rintro ⟨s, hs, first, same⟩
    obtain ⟨j, l', ⟨n, k⟩, there, defined, rfl⟩ := mem_lineSymbols_iff.1 hs
    obtain rfl := (String.append_right_inj _).1 same
    obtain rfl : j = i := Nat.add_left_cancel first
    obtain rfl := Option.some.inj (here.symm.trans there)
    exact ⟨k, defined⟩
  · rintro ⟨k, defined⟩
    exact ⟨_, mem_lineSymbols_iff.2 ⟨i, l, _, here, defined, rfl⟩, rfl, rfl⟩

lemma mem_scriptEntries_handler {file : String} {source : List Char} {e : EntryPoint}
    (h : e ∈ scriptEntries file source) : e.handler = handlerName e.method e.path.toList := by
  obtain ⟨m, -, h⟩ := mem_filterMap.1 h
  split at h
  · obtain rfl := Option.some.inj h
    simp
  · cases h

/-- An entry point of a script has its symbol exactly if some line of the script opens a route of that name:
behind white space only, in small letters, and with its path on the same line. -/
theorem route_symbol_iff_line_opens {o : Origin} {source : List Char} {e : EntryPoint}
    (found : e ∈ (scriptFindings o source).entryPoints) :
    (∃ s ∈ (scriptFindings o source).symbols, s.kind = some .routeHandler ∧
      s.id = o.moduleName ++ "." ++ e.handler) ↔
    ∃ r : RouteLine, r.text ∈ lines source ∧ r.name = handlerName e.method e.path.toList := by
  rw [← mem_scriptEntries_handler found]
  refine exists_mem_lineSymbols_iff.trans ⟨?_, ?_⟩
  · rintro ⟨line, hl, k, same, defined⟩
    obtain rfl := Option.some.inj same
    rcases definition?_eq_some defined with ⟨-, r, rfl, name⟩ | ⟨other, -⟩ | ⟨other | other, -⟩
    · exact ⟨r, hl, name.symm⟩
    all_goals cases other
  · rintro ⟨r, hl, name⟩
    exact ⟨r.text, hl, _, rfl, name ▸ definition?_routeLine r⟩

theorem route_symbol_iff_line_opens_oneLine :
    ∃ e ∈ (scriptFindings ⟨"a.js", "a"⟩ "router.get('/a', h)".toList).entryPoints,
      ∃ s ∈ (scriptFindings ⟨"a.js", "a"⟩ "router.get('/a', h)".toList).symbols,
        s.kind = some .routeHandler ∧ s.id = "a" ++ "." ++ e.handler := by
  have found : ⟨"a.js", "GET", "/a", "GET__a"⟩ ∈
      (scriptFindings ⟨"a.js", "a"⟩ "router.get('/a', h)".toList).entryPoints := by decide +kernel
  let line : RouteLine := ⟨[], "router".toList, "get".toList, [], [], '\'', "/a".toList, '\'', ", h)".toList,
    by simp [Blank], by decide, by decide, by decide, by decide, by simp [Unquoted, isQuote]⟩
  exact ⟨_, found, (route_symbol_iff_line_opens found).2 ⟨line, by decide +kernel, by decide +kernel⟩⟩

/-- A route whose path stands on a line of its own is an entry point without a symbol. -/
theorem route_over_lines_has_no_symbol :
    (scriptFindings ⟨"a.js", "a"⟩ "router.post(\n  '/items',\n  createItem\n);\n".toList).entryPoints =
      [⟨"a.js", "POST", "/items", "POST__items"⟩] ∧
    (scriptFindings ⟨"a.js", "a"⟩ "router.post(\n  '/items',\n  createItem\n);\n".toList).symbols = [] := by
  decide +kernel

/-- A line that declares a function gives a symbol under its name exactly if it does not say both `export` and `async`:
in their order none of the patterns fits. -/
theorem function_symbol_iff_not_export_async {o : Origin} {source : List Char} {i : Nat}
    (f : FunctionLine "export" "async") (here : (lines source)[i]? = some f.text) :
    (∃ s ∈ (scriptFindings o source).symbols, s.firstLine = 1 + i ∧
      s.id = o.moduleName ++ "." ++ String.ofList f.name) ↔ ¬ (f.first.isSome ∧ f.second.isSome) := by
  refine (exists_mem_lineSymbols_at here).trans ?_
  rw [f.definition?_text]
  split_ifs with both <;> simp [both]

theorem function_symbol_iff_not_export_async_oneLine :
    ∃ s ∈ (scriptFindings ⟨"a.js", "a"⟩ "  async function $f (x)".toList).symbols, s.firstLine = 1 ∧
      s.id = "a" ++ "." ++ "$f" :=
  (function_symbol_iff_not_export_async (o := ⟨"a.js", "a"⟩) (i := 0)
    ⟨[' ', ' '], none, some [' '], [' '], ['$', 'f'], [' '], "x)".toList, by simp [Blank, isBlank], by simp,
      by simp [Blank, isBlank], by simp [Blank, isBlank], by simp [isNameChar]⟩ (by decide +kernel)).2 (by decide)

/-- An exported asynchronous function has no symbol. -/
theorem export_async_function_has_no_symbol :
    (scriptFindings ⟨"a.js", "a"⟩ "export async function process() \x7b\n\x7d\n".toList).symbols = [] := by
  decide +kernel

/-! ### Names read back -/

lemma lastName_eq_iff {s : Symbol} {before n : String} (id : s.id = before ++ "." ++ n) :
    s.lastName = n ↔ '.' ∉ n.toList := by
  have split : s.id.toList = before.toList ++ '.' :: n.toList := by simp [id]
  have cut : s.lastName = n ↔ afterLast '.' s.id.toList = n.toList := by
    rw [Symbol.lastName, ← String.toList_inj, String.toList_ofList]
  rw [cut]
  constructor
  · intro same
    rw [← same]
    exact (eq_append_afterLast (by simp [split])).1
  · intro free
    rw [split, afterLast_append _ free]

lemma ne_empty_of_definition? {n : String} {k : SymbolKind} (h : definition? line = some (n, k)) : n ≠ "" := by
  rcases definition?_eq_some h with ⟨-, r, -, rfl⟩ | ⟨-, object, event, rfl⟩ | ⟨-, name, -⟩
  · simp [RouteLine.name, handlerName, toString]
  · simp
  · exact name

/-- The name of a symbol of a script is read back from its full name exactly if it has no dot: as the name
of the function around a line, where the symbol is the tightest one, and as the name of its document.
Functions and classes always have such names. -/
theorem symbol_name_read_back_iff {o : Origin} {source : List Char} {s : Symbol} {n : String}
    (found : s ∈ (scriptFindings o source).symbols) (id : s.id = o.moduleName ++ "." ++ n) :
    (∀ line, tightest? (scriptFindings o source).symbols line = some s →
      (enclosing ((scriptFindings o source).symbols.map Symbol.toValue) line = .ok n ↔ '.' ∉ n.toList)) ∧
    (∀ lines file, ∃ d, Index.symbolDocument lines file s.toValue = .ok d ∧ (d.name = n ↔ '.' ∉ n.toList)) ∧
    (s.kind = some .function ∨ s.kind = some .classDecl → '.' ∉ n.toList) := by
  obtain ⟨l, -, k, kind, defined⟩ := exists_mem_lineSymbols_iff.1 ⟨s, found, rfl, id⟩
  have last := lastName_eq_iff id
  refine ⟨fun line tightest => ?_, fun lines file => ?_, fun plain dot => ?_⟩
  · rw [enclosing_toValue, tightest, Option.map_some, Except.ok.injEq]
    by_cases empty : s.lastName = ""
    · have dot : ¬ '.' ∉ n.toList := fun free =>
        ne_empty_of_definition? defined ((last.2 free).symm.trans empty)
      refine iff_of_false (fun outside => ?_) dot
      rw [empty] at outside
      exact dot (by rw [← outside]; decide)
    · rw [Option.filter_some, if_pos (by simpa using empty), Option.getD_some, last]
  · exact ⟨_, Index.symbolDocument_toValue lines file s, last⟩
  · rcases definition?_eq_some defined with ⟨rfl, -⟩ | ⟨rfl, -⟩ | ⟨-, -, name⟩
    · simp [kind] at plain
    · simp [kind] at plain
    · exact absurd (name '.' dot) (by decide)

theorem symbol_name_read_back_iff_oneFunction :
    enclosing ((scriptFindings ⟨"a.js", "a"⟩ "function f()".toList).symbols.map Symbol.toValue) 1 =
      .ok "f" := by
  have found : ⟨"a.f", "a.js", 1, 2, some .function⟩ ∈
      (scriptFindings ⟨"a.js", "a"⟩ "function f()".toList).symbols := by decide +kernel
  exact ((symbol_name_read_back_iff (n := "f") found (by decide)).1 1 (by decide +kernel)).2 (by decide)

/-- Calls in the route of a path with a dot, and its document, have the name of what follows the dot. -/
theorem dotted_route_not_read_back :
    (scriptFindings ⟨"a.js", "a"⟩ "app.get('/x.json', h)".toList).symbols =
      [⟨"a" ++ "." ++ "GET__x.json", "a.js", 1, 2, some .routeHandler⟩] ∧
    enclosing ((scriptFindings ⟨"a.js", "a"⟩ "app.get('/x.json', h)".toList).symbols.map Symbol.toValue) 1 =
      .ok "json" ∧
    ((scriptFindings ⟨"a.js", "a"⟩ "app.get('/x.json', h)".toList).symbols.map fun s =>
      (Index.symbolDocument [] "a.js" s.toValue).map Index.Document.name) = [.ok "json"] := by
  have only : (scriptFindings ⟨"a.js", "a"⟩ "app.get('/x.json', h)".toList).symbols =
      [⟨"a" ++ "." ++ "GET__x.json", "a.js", 1, 2, some .routeHandler⟩] := by decide +kernel
  rw [only, enclosing_toValue]
  exact ⟨rfl, by rfl, by rfl⟩

end Unbundle.Analysis
