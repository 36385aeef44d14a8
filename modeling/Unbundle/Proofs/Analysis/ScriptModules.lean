import Unbundle.Proofs.Analysis.Tables

/-!
# Modules named in a script

Dependencies and imported names are searched for with different patterns, and those for dependencies allow
less white space. A search goes on behind each match, so a module can also be missed because an earlier
match reaches over it.
-/

open List

namespace Unbundle.Analysis

open Text (Pattern)
open Text.Pattern

variable {a p : Pattern} {q q' : Char} {lead lead' behind v cs : List Char}

/-! ### Quoted modules -/

def Unquoted (cs : List Char) : Prop := ∀ c ∈ cs, isQuote c = false

lemma eq_of_first_quote {a b r r' : List Char} (ha : Unquoted a) (hb : Unquoted b)
    (hq : isQuote q = true) (hq' : isQuote q' = true) (h : a ++ q :: r = b ++ q' :: r') :
    a = b ∧ r = r' := by
  induction a generalizing b with
  | nil =>
    cases b with
    | nil => exact ⟨rfl, (cons.inj h).2⟩
    | cons d b =>
      obtain ⟨rfl, -⟩ := cons.inj h
      exact absurd hq (by simp [hb q mem_cons_self])
  | cons c a ih =>
    cases b with
    | nil =>
      obtain ⟨rfl, -⟩ := cons.inj h
      exact absurd hq' (by simp [ha c mem_cons_self])
    | cons d b =>
      obtain ⟨rfl, others⟩ := cons.inj h
      obtain ⟨rfl, rfl⟩ := ih (forall_mem_cons.1 ha).2 (forall_mem_cons.1 hb).2 others
      exact ⟨rfl, rfl⟩

/-- A text that ends with something in quotes, cut inside so that its second part again begins with a
lead and a quotation mark: then the whole lead was cut, or the lead is the end of what stands in the
quotes, or the second part lies behind the quotes. -/
lemma cases_of_overlap {quotation u rest post : List Char} {q₁ q₂ : Char}
    (hl : Unquoted lead) (hl' : Unquoted lead') (inside : Unquoted quotation)
    (hq : isQuote q = true) (hq₁ : isQuote q₁ = true) (hq₂ : isQuote q₂ = true)
    (whole : v ++ u = lead' ++ q₁ :: (quotation ++ q₂ :: behind))
    (second : lead ++ q :: rest = u ++ post) :
    lead' = v ++ lead ∨ (∃ before, quotation = before ++ lead ∧ rest = behind ++ post) ∨
      ∃ s, behind = s ++ u := by
  rcases append_eq_append_iff.1 whole with ⟨s, rfl, rfl⟩ | ⟨s, rfl, tail⟩
  · have hs : Unquoted s := fun c hc => hl' c (mem_append_right v hc)
    rw [append_assoc] at second
    exact .inl (by rw [(eq_of_first_quote hl hs hq hq₁ second).1])
  · cases s with
    | nil =>
      obtain rfl : _ = u := tail
      have cut := eq_of_first_quote hl (by simp [Unquoted]) hq hq₁ (b := []) second
      exact .inl (by simp [cut.1])
    | cons d s =>
      obtain ⟨rfl, inner⟩ := cons.inj tail
      rcases append_eq_append_iff.1 inner with ⟨s', rfl, behind'⟩ | ⟨s', rfl, rfl⟩
      · cases s' with
        | nil =>
          obtain rfl : _ = u := behind'
          have cut := eq_of_first_quote hl (by simp [Unquoted]) hq hq₂ (b := []) second
          exact .inr (.inl ⟨quotation, by simp [cut.1], cut.2⟩)
        | cons d s' =>
          obtain ⟨rfl, rfl⟩ := cons.inj behind'
          exact .inr (.inr ⟨s', rfl⟩)
      · have hs : Unquoted s' := fun c hc => inside c (mem_append_right s hc)
        rw [append_assoc] at second
        have cut := eq_of_first_quote hl hs hq hq₂ second
        exact .inr (.inl ⟨s, by rw [cut.1], cut.2⟩)

/-! ### Texts of the patterns -/

def IsRelative (t : List Char) : Prop := ∃ x, t = '.' :: x ∧ x ≠ [] ∧ Unquoted x

lemma IsRelative.unquoted {t : List Char} (h : IsRelative t) : Unquoted t := by
  obtain ⟨x, rfl, -, inside⟩ := h
  exact forall_mem_cons.2 ⟨by decide, inside⟩

lemma IsRelative.ne_nil {t : List Char} (h : IsRelative t) : t ≠ [] := by
  obtain ⟨x, rfl, -⟩ := h
  exact cons_ne_nil _ _

def Blank (cs : List Char) : Prop := ∀ c ∈ cs, Text.isBlank c = true

lemma Blank.unquoted (h : Blank cs) : Unquoted cs := by
  intro c hc
  by_contra quotes
  have marks : c = '\'' ∨ c = '"' := by simpa [isQuote, or_iff_not_imp_left] using quotes
  rcases marks with rfl | rfl
  · exact absurd (h _ hc) (by decide)
  · exact absurd (h _ hc) (by decide)

variable {w : List Char} {gs : List (List Char)}

lemma spells_blanks : blanks.Spells w gs ↔ Blank w ∧ gs = [] := by
  simp [blanks, Spells, Blank]

lemma spells_gap : gap.Spells w gs ↔ (Blank w ∧ w ≠ []) ∧ gs = [] := by
  simp [gap, Spells, Blank, Nat.one_le_iff_ne_zero]

lemma spells_quoted : quoted.Spells w gs ↔ ∃ q x q', w = q :: (x ++ [q']) ∧ gs = [x] ∧
    isQuote q = true ∧ isQuote q' = true ∧ Unquoted x ∧ x ≠ [] := by
  constructor
  · rintro ⟨_, _, _, _, rfl, rfl, ⟨⟨q, rfl, hq⟩, rfl⟩, x, _, _, _, rfl, rfl,
      ⟨_, ⟨⟨inside, nonempty⟩, rfl⟩, rfl⟩, ⟨q', rfl, hq'⟩, rfl⟩
    refine ⟨q, x, q', rfl, rfl, hq, hq', by simpa [Unquoted] using inside, ?_⟩
    exact ne_nil_of_length_pos nonempty
  · rintro ⟨q, x, q', rfl, rfl, hq, hq', inside, nonempty⟩
    refine ⟨[q], [], x ++ [q'], [x], rfl, rfl, ⟨⟨q, rfl, hq⟩, rfl⟩, x, [x], [q'], [], rfl, rfl, ?_,
      ⟨q', rfl, hq'⟩, rfl⟩
    exact ⟨[], ⟨⟨by simpa [Unquoted] using inside, length_pos_of_ne_nil nonempty⟩, rfl⟩, rfl⟩

lemma spells_relativeModule : relativeModule.Spells w gs ↔ ∃ q t q', w = q :: (t ++ [q']) ∧
    gs = [t] ∧ isQuote q = true ∧ isQuote q' = true ∧ IsRelative t := by
  constructor
  · rintro ⟨_, _, _, _, rfl, rfl, ⟨⟨q, rfl, hq⟩, rfl⟩, t, _, _, _, rfl, rfl, ⟨_, module, rfl⟩,
      ⟨q', rfl, hq'⟩, rfl⟩
    obtain ⟨_, _, x, _, rfl, rfl, first, ⟨inside, nonempty⟩, rfl⟩ := module
    obtain ⟨rfl, rfl⟩ := spells_char.1 first
    refine ⟨q, '.' :: x, q', rfl, rfl, hq, hq', x, rfl, ?_, by simpa [Unquoted] using inside⟩
    exact ne_nil_of_length_pos nonempty
  · rintro ⟨q, _, q', rfl, rfl, hq, hq', x, rfl, nonempty, inside⟩
    refine ⟨[q], [], '.' :: x ++ [q'], ['.' :: x], rfl, rfl, ⟨⟨q, rfl, hq⟩, rfl⟩, '.' :: x, ['.' :: x],
      [q'], [], rfl, rfl, ⟨[], ?_, rfl⟩, ⟨q', rfl, hq'⟩, rfl⟩
    refine ⟨['.'], [], x, [], rfl, rfl, spells_char.2 ⟨rfl, rfl⟩, ⟨?_, ?_⟩, rfl⟩
    · simpa [Unquoted] using inside
    · exact length_pos_of_ne_nil nonempty

lemma groupless_blanks : blanks.Groupless := groupless_many _ _

lemma groupless_gap : gap.Groupless := groupless_many _ _

lemma groupless_quote : quote.Groupless := fun _ _ h => h.2

lemma spells_require {b : Pattern} (ha : a.Groupless) (hb : b.Groupless) :
    (sequence [word "require(", a, p, b, char ')']).Spells w gs ↔ ∃ x m y,
      w = "require(".toList ++ (x ++ (m ++ (y ++ [')']))) ∧ a.Spells x [] ∧ p.Spells m gs ∧
        b.Spells y [] := by
  have last : ∀ u, (seq b (char ')')).Spells u [] ↔ ∃ y, u = y ++ [')'] ∧ b.Spells y [] := by
    simp [spells_seq_left hb]
  simp only [Pattern.sequence, spells_seq_word, spells_seq_left ha,
    spells_seq_right (hb.seq (groupless_char _)), last]
  constructor
  · rintro ⟨_, rfl, x, _, rfl, hx, m, _, rfl, hm, y, rfl, hy⟩
    exact ⟨x, m, y, rfl, hx, hm, hy⟩
  · rintro ⟨x, m, y, rfl, hx, hm, hy⟩
    exact ⟨_, rfl, x, _, rfl, hx, m, _, rfl, hm, y, rfl, hy⟩

lemma spells_from (ha : a.Groupless) :
    (sequence [word "from", a, p]).Spells w gs ↔ ∃ x m,
      w = "from".toList ++ (x ++ m) ∧ a.Spells x [] ∧ p.Spells m gs := by
  simp only [Pattern.sequence, spells_seq_word, spells_seq_left ha]
  constructor
  · rintro ⟨_, rfl, x, m, rfl, hx, hm⟩
    exact ⟨x, m, rfl, hx, hm⟩
  · rintro ⟨x, m, rfl, hx, hm⟩
    exact ⟨_, rfl, x, m, rfl, hx, hm⟩

/-! ### Found dependencies -/

lemma mem_scriptDependencies {source g : List Char} {m : Text.Match}
    (hp : p ∈ dependencyPatterns) (hm : m ∈ p.findAll source) (hg : g ∈ m.groups) :
    .ofList g ∈ scriptDependencies source := by
  rw [scriptDependencies, mem_sorted, mem_flatMap]
  exact ⟨m, mem_flatMap.2 ⟨p, hp, hm⟩, mem_map_of_mem hg⟩

/-- The pattern matches something in quotes behind one of some leads, and nothing else. -/
def QuotesAfter (d : Pattern) (IsLead : List Char → Prop) (behind : List Char) : Prop :=
  ∀ w gs, d.Spells w gs ↔ ∃ lead q x q', w = lead ++ q :: (x ++ q' :: behind) ∧ gs = [x] ∧
    IsLead lead ∧ isQuote q = true ∧ isQuote q' = true ∧ Unquoted x ∧ x ≠ []

/-- Something in quotes behind a lead is found, unless the search had a match earlier that reaches
over it. -/
lemma QuotesAfter.found_or_covered {d : Pattern} {IsLead : List Char → Prop}
    (form : QuotesAfter d IsLead behind) (plain : d.isPlain = true)
    (unquoted : ∀ l, IsLead l → Unquoted l) (pre post : List Char) {t : List Char}
    (hl : IsLead lead) (hq : isQuote q = true) (hq' : isQuote q' = true) (ht : Unquoted t)
    (nonempty : t ≠ []) :
    (∃ m ∈ d.findAll (pre ++ (lead ++ q :: (t ++ q' :: (behind ++ post)))), m.groups = [t]) ∨
    ∃ pre' v u lead' q₁ x q₂ post', pre = pre' ++ v ∧ v ≠ [] ∧ u ≠ [] ∧
      lead ++ q :: (t ++ q' :: (behind ++ post)) = u ++ post' ∧
      v ++ u = lead' ++ q₁ :: (x ++ q₂ :: behind) ∧ IsLead lead' ∧ isQuote q₁ = true ∧
      isQuote q₂ = true ∧ Unquoted x := by
  have here : lead ++ q :: (t ++ q' :: (behind ++ post)) =
      (lead ++ q :: (t ++ q' :: behind)) ++ post := by simp
  obtain ⟨m, found, ⟨v, post', split, fits⟩ | ⟨pre', v, u, post', hpre, split, hv, hu, fits⟩⟩ :=
    @exists_mem_findFrom none 0 0 _ pre _ post _ plain
      ((form _ _).2 ⟨lead, q, t, q', rfl, rfl, hl, hq, hq', ht, nonempty⟩) (Nat.zero_le _)
  · left
    refine ⟨m, by rw [here]; exact found, ?_⟩
    obtain ⟨lead', q₁, x, q₂, rfl, groups, hl', hq₁, hq₂, hx, -⟩ := (form _ _).1 fits
    simp only [append_assoc, cons_append] at split
    obtain ⟨-, inner⟩ := eq_of_first_quote (unquoted _ hl) (unquoted _ hl') hq hq₁ split
    rw [groups, (eq_of_first_quote ht hx hq' hq₂ inner).1]
  · right
    obtain ⟨lead', q₁, x, q₂, whole, -, hl', hq₁, hq₂, hx, -⟩ := (form _ _).1 fits
    exact ⟨pre', v, u, lead', q₁, x, q₂, post', hpre, hv, hu, by rw [here, split], whole, hl', hq₁,
      hq₂, hx⟩

lemma quotesAfter_require :
    QuotesAfter (sequence [word "require(", quoted, char ')']) (· = "require(".toList) [')'] := by
  intro w gs
  simp only [Pattern.sequence, spells_seq_word, spells_seq_right (groupless_char _), spells_char, and_true,
    spells_quoted]
  constructor
  · rintro ⟨_, rfl, _, _, rfl, ⟨q, x, q', rfl, rfl, hq, hq', hx, nonempty⟩, rfl⟩
    exact ⟨_, q, x, q', by simp, rfl, rfl, hq, hq', hx, nonempty⟩
  · rintro ⟨_, q, x, q', rfl, rfl, rfl, hq, hq', hx, nonempty⟩
    exact ⟨_, rfl, q :: (x ++ [q']), _, by simp, ⟨q, x, q', rfl, rfl, hq, hq', hx, nonempty⟩, rfl⟩

/-- The word `from` and white space after it. -/
def IsFrom (cs : List Char) : Prop := ∃ b, cs = "from".toList ++ b ∧ Blank b ∧ b ≠ []

lemma quotesAfter_from : QuotesAfter (sequence [word "from", gap, quoted]) IsFrom [] := by
  intro w gs
  simp only [spells_from groupless_gap, spells_gap, and_true, spells_quoted]
  constructor
  · rintro ⟨b, _, rfl, hb, q, x, q', rfl, rfl, hq, hq', hx, nonempty⟩
    exact ⟨"from".toList ++ b, q, x, q', by simp, rfl, ⟨b, rfl, hb⟩, hq, hq', hx, nonempty⟩
  · rintro ⟨_, q, x, q', rfl, rfl, ⟨b, rfl, hb⟩, hq, hq', hx, nonempty⟩
    exact ⟨b, q :: (x ++ [q']), by simp, hb, q, x, q', rfl, rfl, hq, hq', hx, nonempty⟩

lemma mem_scriptDependencies_of_require (pre post : List Char) {t : List Char}
    (hq : isQuote q = true) (hq' : isQuote q' = true) (ht : IsRelative t) :
    .ofList t ∈
      scriptDependencies (pre ++ ("require(".toList ++ q :: (t ++ q' :: ([')'] ++ post)))) := by
  have lead : Unquoted "require(".toList := by simp [Unquoted, isQuote]
  have plain : (sequence [word "require(", quoted, char ')']).isPlain = true :=
    isPlain_sequence (by simp [isPlain, quoted, Pattern.sequence, quote, unquoted, char])
  rcases quotesAfter_require.found_or_covered plain (by rintro _ rfl; exact lead) pre post rfl hq hq'
    ht.unquoted ht.ne_nil with ⟨m, found, groups⟩ |
      ⟨pre', v, u, _, q₁, x, q₂, post', -, hv, hu, split, whole, rfl, hq₁, hq₂, hx⟩
  · exact mem_scriptDependencies (by simp [dependencyPatterns]) found (by simp [groups])
  · exfalso
    rcases cases_of_overlap lead lead hx hq hq₁ hq₂ whole split with same | ⟨_, -, next⟩ | ⟨s, last⟩
    · exact hv (self_eq_append_left.1 same)
    · obtain ⟨y, rfl, -⟩ := ht
      exact absurd (cons.inj next).1 (by decide)
    · rcases append_eq_singleton_iff.1 last.symm with ⟨-, rfl⟩ | ⟨-, rfl⟩
      · exact absurd (cons.inj split).1 (by decide)
      · exact hu rfl

lemma IsFrom.unquoted (h : IsFrom cs) : Unquoted cs := by
  obtain ⟨b, rfl, blank, -⟩ := h
  exact forall_mem_append.2 ⟨by simp [isQuote], blank.unquoted⟩

lemma IsFrom.eq_nil_of_append (h : IsFrom cs) (h' : IsFrom (v ++ cs)) : v = [] := by
  obtain ⟨b, rfl, -⟩ := h
  obtain ⟨b', whole, blank, -⟩ := h'
  cases v with
  | nil => rfl
  | cons c v =>
    have tail : v ++ ("from".toList ++ b) = "rom".toList ++ b' := (cons.inj whole).2
    have later : 'f' ∈ "rom".toList ++ b' := by
      rw [← tail]
      exact mem_append_right v mem_cons_self
    rcases mem_append.1 later with inWord | inBlank
    · exact absurd inWord (by decide)
    · exact absurd (blank _ inBlank) (by decide)

/-- A relative module behind `from` and white space is a dependency, unless what stands in quotes behind
an earlier `from` ends with this one. -/
lemma mem_scriptDependencies_of_from (pre post : List Char) {t : List Char}
    (hl : IsFrom lead) (hq : isQuote q = true) (hq' : isQuote q' = true) (ht : IsRelative t) :
    .ofList t ∈ scriptDependencies (pre ++ (lead ++ q :: (t ++ q' :: post))) ∨
    ∃ pre' lead' q₁ x, IsFrom lead' ∧ isQuote q₁ = true ∧ Unquoted x ∧
      pre ++ lead = pre' ++ (lead' ++ q₁ :: (x ++ lead)) := by
  have plain : (sequence [word "from", gap, quoted]).isPlain = true :=
    isPlain_sequence (by simp [isPlain, gap, quoted, Pattern.sequence, quote, unquoted])
  rcases quotesAfter_from.found_or_covered plain (fun _ => IsFrom.unquoted) pre post hl hq hq'
    ht.unquoted ht.ne_nil with ⟨m, found, groups⟩ |
      ⟨pre', v, u, lead', q₁, x, q₂, post', rfl, hv, hu, split, whole, hl', hq₁, hq₂, hx⟩
  · exact .inl (mem_scriptDependencies (by simp [dependencyPatterns]) found (by simp [groups]))
  · rcases cases_of_overlap hl.unquoted hl'.unquoted hx hq hq₁ hq₂ whole split with
      rfl | ⟨before, rfl, next⟩ | ⟨s, last⟩
    · exact absurd (hl.eq_nil_of_append hl') hv
    · have ends : lead ++ [q] = u := by
        rw [next, ← singleton_append, ← append_assoc] at split
        exact append_cancel_right split
      have covered : v ++ lead = lead' ++ q₁ :: (before ++ lead) := by
        have last : (v ++ lead) ++ [q] = (lead' ++ q₁ :: (before ++ lead)) ++ [q₂] := by
          simpa [← ends] using whole
        exact (append_inj' last rfl).1
      exact .inr ⟨pre', lead', q₁, before, hl', hq₁, (forall_mem_append.1 hx).1,
        by rw [append_assoc, covered]⟩
    · exact absurd (append_eq_nil_iff.1 last.symm).2 hu

/-! ### Plainly written modules -/

/-- A relative module in a call of `require`, as imports are written. -/
def requireCall : Pattern := sequence [word "require(", blanks, relativeModule, blanks, char ')']

/-- A relative module behind `from`, as imports are written. -/
def fromModule : Pattern := sequence [word "from", blanks, relativeModule]

/-- Something in quotes behind `from` that ends with another `from`. -/
def fromInQuotes : Pattern := sequence [
  word "from", gap, quote, many (fun c => !isQuote c) 0, word "from", gap, quote]

/-- The ways to write a module that an import understands and a dependency does not: white space in the
parentheses of `require`, none behind `from`, and a `from` that already counts as a part of a name. -/
def looseModules : Pattern := choice [
  sequence [word "require(", gap, relativeModule, blanks, char ')'],
  sequence [word "require(", blanks, relativeModule, gap, char ')'],
  sequence [word "from", relativeModule],
  fromInQuotes]

/-- Whether a script writes none of its modules in such a way. -/
def writtenPlainly (source : List Char) : Bool := !looseModules.occurs source

lemma isPlain_looseModules : looseModules.isPlain = true := by
  simp [looseModules, choice, fromInQuotes, Pattern.sequence, isPlain, gap, blanks, relativeModule, quote, char]

lemma not_spells_of_writtenPlainly {pre w post : List Char}
    (plain : writtenPlainly (pre ++ (w ++ post)) = true) (gs : List (List Char)) :
    ¬ looseModules.Spells w gs := by
  intro fits
  rw [writtenPlainly, occurs_of_spells isPlain_looseModules fits] at plain
  cases plain

lemma spells_fromInQuotes {x : List Char} (hl : IsFrom lead)
    (hl' : IsFrom lead') (hq : isQuote q = true) (hq' : isQuote q' = true) (hx : Unquoted x) :
    fromInQuotes.Spells (lead' ++ q' :: (x ++ (lead ++ [q]))) [] := by
  obtain ⟨b, rfl, hb⟩ := hl
  obtain ⟨b', rfl, hb'⟩ := hl'
  simp only [fromInQuotes, Pattern.sequence, spells_seq_word, spells_seq_left groupless_gap,
    spells_seq_left groupless_quote, spells_seq_left (groupless_many _ _), spells_gap, and_true]
  refine ⟨_, append_assoc .., b', _, rfl, hb', [q'], _, rfl, ⟨⟨q', rfl, hq'⟩, rfl⟩, x, _, rfl, ?_,
    _, append_assoc .., b, [q], rfl, hb, ⟨q, rfl, hq⟩, rfl⟩
  exact ⟨⟨by simpa [Unquoted] using hx, Nat.zero_le _⟩, rfl⟩

variable {pre post t : List Char}

lemma mem_scriptDependencies_of_requireCall (plain : writtenPlainly (pre ++ (w ++ post)) = true)
    (h : requireCall.Spells w [t]) : .ofList t ∈ scriptDependencies (pre ++ (w ++ post)) := by
  obtain ⟨b, m, b', rfl, hb, hm, hb'⟩ := (spells_require groupless_blanks groupless_blanks).1 h
  obtain rfl : b = [] := by
    by_contra nonempty
    refine not_spells_of_writtenPlainly plain [t] (.inl ?_)
    refine (spells_require groupless_gap groupless_blanks).2 ⟨b, m, b', rfl, ?_, hm, hb'⟩
    exact spells_gap.2 ⟨⟨(spells_blanks.1 hb).1, nonempty⟩, rfl⟩
  obtain rfl : b' = [] := by
    by_contra nonempty
    refine not_spells_of_writtenPlainly plain [t] (.inr (.inl ?_))
    refine (spells_require groupless_blanks groupless_gap).2 ⟨[], m, b', rfl, hb, hm, ?_⟩
    exact spells_gap.2 ⟨⟨(spells_blanks.1 hb').1, nonempty⟩, rfl⟩
  obtain ⟨q, x, q', rfl, group, hq, hq', hx⟩ := spells_relativeModule.1 hm
  obtain ⟨rfl, -⟩ := cons.inj group
  simpa using mem_scriptDependencies_of_require pre post hq hq' hx

lemma mem_scriptDependencies_of_fromModule (plain : writtenPlainly (pre ++ (w ++ post)) = true)
    (h : fromModule.Spells w [t]) : .ofList t ∈ scriptDependencies (pre ++ (w ++ post)) := by
  obtain ⟨b, m, rfl, hb, hm⟩ := (spells_from groupless_blanks).1 h
  have nonempty : b ≠ [] := by
    rintro rfl
    refine not_spells_of_writtenPlainly plain [t] (.inr (.inr (.inl ?_)))
    exact spells_seq_word.2 ⟨m, rfl, hm⟩
  have lead : IsFrom ("from".toList ++ b) := ⟨b, rfl, (spells_blanks.1 hb).1, nonempty⟩
  obtain ⟨q, x, q', rfl, group, hq, hq', hx⟩ := spells_relativeModule.1 hm
  obtain ⟨rfl, -⟩ := cons.inj group
  rcases mem_scriptDependencies_of_from pre post lead hq hq' hx with
    found | ⟨pre', lead', q₁, y, hl', hq₁, hy, covered⟩
  · simpa using found
  · have source : pre ++ ("from".toList ++ (b ++ q :: (t ++ [q'])) ++ post) =
        pre' ++ ((lead' ++ q₁ :: (y ++ ("from".toList ++ b ++ [q]))) ++ (t ++ q' :: post)) :=
      calc pre ++ ("from".toList ++ (b ++ q :: (t ++ [q'])) ++ post)
        _ = pre ++ ("from".toList ++ b) ++ q :: (t ++ q' :: post) := by simp
        _ = pre' ++ (lead' ++ q₁ :: (y ++ ("from".toList ++ b))) ++ q :: (t ++ q' :: post) := by
          rw [covered]
        _ = _ := by simp
    rw [source] at plain
    have fits := spells_fromInQuotes lead hl' hq hq₁ hy
    exact absurd (.inr (.inr (.inr fits))) (not_spells_of_writtenPlainly plain [])

end Unbundle.Analysis
