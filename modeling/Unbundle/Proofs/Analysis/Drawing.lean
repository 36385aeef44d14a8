import Mathlib.Data.List.TakeWhile
import Unbundle.Proofs.Analysis.SourceFiles

/-!
# What a drawing shows

A drawing depends on the names in a project only, neither on the order in which they are listed nor on what
is in the files, and all visible names can be read back from it.
-/

open List

namespace Unbundle.Analysis

open Files

variable {es fs : List (String × Entry)} {e f : Entry} {indent name : String} {names : List String}
variable {p : String × Entry} {project : Location} {n : String}

/-! ### Sorted entries -/

lemma mem_of_mem_place (h : p ∈ Entry.place name e es) : p = (name, e) ∨ p ∈ es := by
  induction es with
  | nil => exact .inl (mem_singleton.1 h)
  | cons q es ih => grind [Entry.place]

lemma place_perm (e : Entry) (new : name ∉ es.map Prod.fst) :
    (Entry.place name e es).Perm ((name, e) :: es) := by
  induction es with
  | nil => exact .refl _
  | cons q es ih =>
    obtain ⟨other, new⟩ : name ≠ q.1 ∧ name ∉ es.map Prod.fst := by simpa using new
    rw [Entry.place, if_neg other]
    split_ifs
    · exact .refl _
    · exact ((ih new).cons q).trans (.swap _ _ _)

lemma pairwise_place (sorted : es.Pairwise fun p q => p.1 < q.1) :
    (Entry.place name e es).Pairwise fun p q => p.1 < q.1 := by
  induction es with
  | nil => exact pairwise_singleton ..
  | cons q es ih =>
    obtain ⟨first, sorted'⟩ := pairwise_cons.1 sorted
    rw [Entry.place]
    split_ifs with same before
    · exact pairwise_cons.2 ⟨first, sorted'⟩
    · refine pairwise_cons.2 ⟨forall_mem_cons.2 ⟨before, fun p hp => ?_⟩, sorted⟩
      exact String.lt_trans before (first p hp)
    · refine pairwise_cons.2 ⟨fun p hp => ?_, ih sorted'⟩
      rcases mem_of_mem_place hp with rfl | hp
      · by_contra later
        exact same (String.le_antisymm (String.not_lt.1 later) (String.not_lt.1 before))
      · exact first p hp

lemma pairwise_visibleEntries (es : List (String × Entry)) :
    (visibleEntries es).Pairwise fun p q => p.1 < q.1 := by
  induction es with
  | nil => simp [visibleEntries]
  | cons p es ih =>
    rw [visibleEntries]
    split_ifs
    · exact pairwise_place ih
    · exact ih

lemma visibleEntries_perm (distinct : (es.map Prod.fst).Nodup) :
    (visibleEntries es).Perm ((es.filter fun p => isVisible p.1).map fun p => (p.1, visible p.2)) := by
  induction es with
  | nil => simp [visibleEntries]
  | cons p es ih =>
    obtain ⟨new, distinct⟩ := nodup_cons.1 distinct
    rw [visibleEntries, filter_cons]
    split_ifs
    · refine (place_perm _ fun listed => new ?_).trans ((ih distinct).cons _)
      have listed := ((ih distinct).map Prod.fst).mem_iff.1 listed
      rw [map_map] at listed
      exact (filter_sublist.map Prod.fst).mem listed
    · exact ih distinct

/-! ### Entries that look the same -/

/-- The lines drawn below two entries are the same. -/
def LooksLike (e f : Entry) : Prop := ∀ indent, drawInside indent e = drawInside indent f

def entriesOf : Entry → List (String × Entry)
  | .file _ => []
  | .folder es => es

/-- How the line of an entry begins behind its indent, and how those below it do, by the entries after it. -/
def branch (others : List (String × Entry)) : String × String :=
  if others = [] then ("└── ", "    ") else ("├── ", "│   ")

lemma drawInside_eq (indent : String) (e : Entry) :
    drawInside indent e = drawEntries indent (entriesOf e) := by
  cases e <;> simp [drawInside, entriesOf, drawEntries]

lemma drawEntries_cons (indent : String) (p : String × Entry) (es : List (String × Entry)) :
    drawEntries indent (p :: es) = (indent ++ (branch es).1 ++ p.1) ::
      (drawInside (indent ++ (branch es).2) p.2 ++ drawEntries indent es) := by
  cases es with
  | nil => simp [drawEntries, branch, toString]
  | cons q es => simp [drawEntries, branch, toString]

lemma drawEntries_eq (h : Forall₂ (fun p q => p.1 = q.1 ∧ LooksLike p.2 q.2) es fs) (indent : String) :
    drawEntries indent es = drawEntries indent fs := by
  induction h with
  | nil => rfl
  | @cons p q es fs first others ih =>
    have last : branch es = branch fs := by cases others <;> simp [branch]
    rw [drawEntries_cons, drawEntries_cons, last, first.1, first.2, ih]

lemma drawEntries_visibleEntries_eq
    (names : ((es.map Prod.fst).filter isVisible).Perm ((fs.map Prod.fst).filter isVisible))
    (distinct : (es.map Prod.fst).Nodup) (distinct' : (fs.map Prod.fst).Nodup)
    (entries : ∀ p ∈ es, ∀ q ∈ fs, isVisible p.1 → p.1 = q.1 → LooksLike (visible p.2) (visible q.2))
    (indent : String) : drawEntries indent (visibleEntries es) = drawEntries indent (visibleEntries fs) := by
  have shown {gs : List (String × Entry)} (distinct : (gs.map Prod.fst).Nodup) :
      ((visibleEntries gs).map Prod.fst).Perm ((gs.map Prod.fst).filter isVisible) := by
    refine ((visibleEntries_perm distinct).map Prod.fst).trans (.of_eq ?_)
    rw [map_map, filter_map]
    rfl
  have same : (visibleEntries es).map Prod.fst = (visibleEntries fs).map Prod.fst :=
    ((shown distinct).trans (names.trans (shown distinct').symm)).eq_of_pairwise
      (fun a b _ _ before after => absurd (String.lt_trans before after) (String.lt_irrefl a))
      (pairwise_map.2 (pairwise_visibleEntries es)) (pairwise_map.2 (pairwise_visibleEntries fs))
  refine drawEntries_eq (Entry.forall₂_of_names_eq same fun p hp q hq named => ⟨named, ?_⟩) indent
  obtain ⟨p, listed, rfl⟩ := mem_map.1 ((visibleEntries_perm distinct).mem_iff.1 hp)
  obtain ⟨q, listed', rfl⟩ := mem_map.1 ((visibleEntries_perm distinct').mem_iff.1 hq)
  obtain ⟨here, shows⟩ := mem_filter.1 listed
  exact entries p here q (mem_filter.1 listed').1 shows named

/-! ### Alike projects -/

variable {same : List String → List UInt8 → List UInt8 → Prop}

lemma looksLike_visible (tree : e.WellFormed) (h : Entry.Alike Perm same e f) :
    LooksLike (visible e) (visible f) := by
  induction h with
  | file related =>
    intro indent
    rw [visible, visible, drawInside, drawInside]
  | folder names _ ih =>
    cases tree with
    | folder distinct _ inside =>
      intro indent
      refine drawEntries_visibleEntries_eq (names.filter _) distinct (names.nodup_iff.1 distinct) ?_ indent
      rintro ⟨name, e⟩ he ⟨_, f⟩ hf - rfl
      exact ih name e f he hf (inside _ he)

lemma drawing_eq {project' : Location} (valid : project.WellFormed)
    (h : project.Alike Perm same project') : drawing project = drawing project' := by
  rw [drawing, drawing, Location.entries, Location.entries, h.path]
  match entry : project.entry, project'.entry, h.entry with
  | none, none, .none => rfl
  | some (.file _), some (.file _), .some (.file _) => rfl
  | some (.folder es), some (.folder fs), .some alike =>
    have lines : drawEntries "" (visibleEntries es) = drawEntries "" (visibleEntries fs) := by
      simpa [visible, drawInside] using looksLike_visible (valid.tree _ entry) alike ""
    exact congrArg (fun ls => Except.ok (String.intercalate "\n" (_ :: ls))) lines

/-! ### Reading a drawing -/

lemma holds_cons : e.Holds (n :: names) f ↔ ∃ g, (n, g) ∈ entriesOf e ∧ g.Holds names f := by
  cases e <;> simp [entriesOf]

/-- Two entries have something under the same names. -/
def SamePaths (e f : Entry) : Prop := ∀ names, (∃ g, e.Holds names g) ↔ ∃ g, f.Holds names g

lemma samePaths_of_forall₂
    (h : Forall₂ (fun p q => p.1 = q.1 ∧ SamePaths p.2 q.2) (entriesOf e) (entriesOf f)) :
    SamePaths e f := by
  intro names
  cases names with
  | nil => simp
  | cons n names =>
    simp only [holds_cons]
    constructor
    · rintro ⟨g, e', he, inside⟩
      obtain ⟨⟨_, f'⟩, hf, rfl, alike⟩ := exists_right_of_forall₂ h he
      obtain ⟨g', inside⟩ := (alike names).1 ⟨g, inside⟩
      exact ⟨g', f', hf, inside⟩
    · rintro ⟨g, f', hf, inside⟩
      obtain ⟨⟨_, e'⟩, he, rfl, alike⟩ := exists_left_of_forall₂ h hf
      obtain ⟨g', inside⟩ := (alike names).2 ⟨g, inside⟩
      exact ⟨g', e', he, inside⟩

/-- A name somewhere in a tree has a line break. -/
def HasBreak (e : Entry) : Prop := ∃ names f, e.Holds names f ∧ ∃ n ∈ names, '\n' ∈ n.toList

lemma hasBreak_iff : HasBreak e ↔ ∃ p ∈ entriesOf e, '\n' ∈ p.1.toList ∨ HasBreak p.2 := by
  constructor
  · rintro ⟨_ | ⟨n, names⟩, f, holds, m, hm, broken⟩
    · cases hm
    · obtain ⟨g, hg, holds⟩ := holds_cons.1 holds
      rcases mem_cons.1 hm with rfl | hm
      · exact ⟨(m, g), hg, .inl broken⟩
      · exact ⟨(n, g), hg, .inr ⟨names, f, holds, m, hm, broken⟩⟩
  · rintro ⟨⟨n, g⟩, hg, here | ⟨names, f, holds, m, hm, broken⟩⟩
    · exact ⟨[n], g, holds_cons.2 ⟨g, hg, .here g⟩, n, mem_singleton_self n, here⟩
    · exact ⟨n :: names, f, holds_cons.2 ⟨g, hg, holds⟩, m, mem_cons_of_mem n hm, broken⟩

lemma no_break_branch (es : List (String × Entry)) :
    '\n' ∉ (branch es).1.toList ∧ '\n' ∉ (branch es).2.toList := by
  rw [branch]
  split_ifs <;> decide

/-- A line begins with its indent, and a break in the rest of it comes from a name. -/
lemma exists_of_mem_drawInside {line : String} (h : line ∈ drawInside indent e) :
    ∃ rest, line = indent ++ rest ∧ ('\n' ∈ rest.toList → HasBreak e) := by
  induction e using Entry.induction generalizing indent line with
  | file content => simp [drawInside] at h
  | folder es ih =>
    rw [drawInside] at h
    have listed : ∃ rest, line = indent ++ rest ∧
        ('\n' ∈ rest.toList → ∃ p ∈ es, '\n' ∈ p.1.toList ∨ HasBreak p.2) := by
      induction es with
      | nil => simp [drawEntries] at h
      | cons p es others =>
        obtain ⟨here, later⟩ := forall_mem_cons.1 ih
        obtain ⟨plain, plain'⟩ := no_break_branch es
        rw [drawEntries_cons, mem_cons, mem_append] at h
        rcases h with rfl | below | after
        · exact ⟨(branch es).1 ++ p.1, String.append_assoc .., by simp; tauto⟩
        · obtain ⟨rest, rfl, broken⟩ := here below
          exact ⟨(branch es).2 ++ rest, String.append_assoc .., by simp; tauto⟩
        · obtain ⟨rest, rfl, broken⟩ := others later after
          exact ⟨rest, rfl, fun h => (broken h).imp fun q => .imp_left (mem_cons_of_mem p)⟩
    obtain ⟨rest, rfl, broken⟩ := listed
    exact ⟨rest, rfl, fun h => hasBreak_iff.2 (broken h)⟩

lemma not_below (indent name : String) (es others : List (String × Entry)) :
    ¬ (indent ++ (branch others).2).toList <+: (indent ++ (branch es).1 ++ name).toList := by
  rw [branch, branch]
  split_ifs <;> simp

lemma branch_inj {name' : String} (h : indent ++ (branch es).1 ++ name = indent ++ (branch fs).1 ++ name') :
    branch es = branch fs ∧ name = name' := by
  rw [← String.toList_inj] at h ⊢
  rw [branch, branch] at h ⊢
  split_ifs at h ⊢ <;> simp_all

/-- The lines of an entry end where those of the next one begin. -/
lemma drawEntries_append_inj {others : List (String × Entry)}
    (h : drawInside (indent ++ (branch others).2) e ++ drawEntries indent es =
      drawInside (indent ++ (branch others).2) f ++ drawEntries indent fs) :
    drawInside (indent ++ (branch others).2) e = drawInside (indent ++ (branch others).2) f ∧
      drawEntries indent es = drawEntries indent fs := by
  let below (line : String) : Bool := (indent ++ (branch others).2).toList.isPrefixOf line.toList
  have cut e (es : List (String × Entry)) :
      (drawInside (indent ++ (branch others).2) e ++ drawEntries indent es).takeWhile below =
        drawInside (indent ++ (branch others).2) e := by
    rw [takeWhile_append_of_pos]
    · cases es with
      | nil => simp [drawEntries]
      | cons p es =>
        rw [drawEntries_cons, takeWhile_cons_of_neg, append_nil]
        simpa [below] using not_below indent p.1 es others
    · intro line drawn
      obtain ⟨rest, rfl, -⟩ := exists_of_mem_drawInside drawn
      simp [below]
  have inside := congrArg (takeWhile below) h
  rw [cut, cut] at inside
  rw [inside] at h
  exact ⟨inside, append_cancel_left h⟩

lemma forall₂_of_drawEntries_eq
    (each : ∀ p ∈ es, ∀ f indent, drawInside indent p.2 = drawInside indent f → SamePaths p.2 f)
    (h : drawEntries indent es = drawEntries indent fs) :
    Forall₂ (fun p q => p.1 = q.1 ∧ SamePaths p.2 q.2) es fs := by
  induction es generalizing fs with
  | nil =>
    cases fs with
    | nil => exact .nil
    | cons q fs =>
      rw [drawEntries_cons] at h
      cases h
  | cons p es ih =>
    cases fs with
    | nil =>
      rw [drawEntries_cons] at h
      cases h
    | cons q fs =>
      obtain ⟨first, others⟩ := forall_mem_cons.1 each
      rw [drawEntries_cons, drawEntries_cons, cons.injEq] at h
      obtain ⟨last, name⟩ := branch_inj h.1
      obtain ⟨inside, rest⟩ := drawEntries_append_inj (last ▸ h.2)
      exact .cons ⟨name, first _ _ inside⟩ (ih others rest)

@[elab_as_elim]
lemma entriesOf_induction {motive : Entry → Prop} (step : ∀ e, (∀ p ∈ entriesOf e, motive p.2) → motive e)
    (e : Entry) : motive e := by
  induction e using Entry.induction with
  | file content => exact step _ (by simp [entriesOf])
  | folder es ih => exact step _ ih

/-- What is drawn below an entry tells which paths it has. -/
lemma samePaths_of_drawInside_eq (h : drawInside indent e = drawInside indent f) : SamePaths e f := by
  induction e using entriesOf_induction generalizing f indent with
  | step e ih =>
    rw [drawInside_eq, drawInside_eq] at h
    exact samePaths_of_forall₂ (forall₂_of_drawEntries_eq (fun p hp f indent => ih p hp) h)

lemma lines_inj {ls ms : List String} (plain : ∀ l ∈ ls, '\n' ∉ l.toList) (plain' : ∀ l ∈ ms, '\n' ∉ l.toList)
    (some_ : ls ≠ []) (some' : ms ≠ [])
    (h : .intercalate "\n" ls = String.intercalate "\n" ms) : ls = ms := by
  have split {ls : List String} (plain : ∀ l ∈ ls, '\n' ∉ l.toList) (some_ : ls ≠ []) :
      (String.intercalate "\n" ls).toList.splitOn '\n' = ls.map String.toList := by
    rw [String.toList_intercalate]
    exact splitOn_intercalate '\n' (by simpa using plain) (by simpa using some_)
  rw [← map_inj_right (fun _ _ => String.toList_inj.1), ← split plain some_, ← split plain' some', h]

/-! ### Paths that are shown -/

/-- There is something under some names, and all of them are visible. -/
def Shows (e : Entry) (names : List String) : Prop :=
  (∃ f, e.Holds names f) ∧ ∀ n ∈ names, isVisible n = true

lemma shows_cons :
    Shows e (n :: names) ↔ isVisible n = true ∧ ∃ f, (n, f) ∈ entriesOf e ∧ Shows f names := by
  simp only [Shows, holds_cons, forall_mem_cons]
  tauto

lemma entriesOf_wellFormed (tree : e.WellFormed) :
    ((entriesOf e).map Prod.fst).Nodup ∧ ∀ p ∈ entriesOf e, p.2.WellFormed := by
  cases tree with
  | file content => simp [entriesOf]
  | folder distinct _ entries => exact ⟨distinct, entries⟩

lemma entriesOf_visible (e : Entry) : entriesOf (visible e) = visibleEntries (entriesOf e) := by
  cases e <;> simp [visible, entriesOf, visibleEntries]

lemma exists_holds_visible_iff (tree : e.WellFormed) : (∃ g, (visible e).Holds names g) ↔ Shows e names := by
  induction names generalizing e with
  | nil => simp [Shows]
  | cons n names ih =>
    obtain ⟨distinct, entries⟩ := entriesOf_wellFormed tree
    simp only [holds_cons, shows_cons, entriesOf_visible, (visibleEntries_perm distinct).mem_iff]
    constructor
    · rintro ⟨g, _, member, inside⟩
      obtain ⟨⟨_, f⟩, listed, ⟨⟩⟩ := mem_map.1 member
      obtain ⟨here, shown⟩ := mem_filter.1 listed
      exact ⟨shown, f, here, (ih (entries _ here)).1 ⟨g, inside⟩⟩
    · rintro ⟨shown, f, here, below⟩
      obtain ⟨g, inside⟩ := (ih (entries _ here)).2 below
      exact ⟨g, visible f, mem_map.2 ⟨(n, f), mem_filter.2 ⟨here, shown⟩, rfl⟩, inside⟩

lemma shows_cons_of_mem (tree : e.WellFormed) (hp : p ∈ entriesOf e) :
    Shows e (p.1 :: names) ↔ isVisible p.1 = true ∧ Shows p.2 names := by
  refine shows_cons.trans (and_congr_right fun _ => ⟨fun ⟨f, hf, below⟩ => ?_, fun below => ⟨p.2, hp, below⟩⟩)
  have same : (p.1, f) = p := inj_on_of_nodup_map (entriesOf_wellFormed tree).1 hf hp rfl
  rwa [← same]

lemma looksLike_of_shows (tree : e.WellFormed) (tree' : f.WellFormed)
    (h : ∀ names, Shows e names ↔ Shows f names) : LooksLike (visible e) (visible f) := by
  induction e using entriesOf_induction generalizing f with
  | step e ih =>
    obtain ⟨distinct, entries⟩ := entriesOf_wellFormed tree
    obtain ⟨distinct', entries'⟩ := entriesOf_wellFormed tree'
    intro indent
    rw [drawInside_eq, drawInside_eq, entriesOf_visible, entriesOf_visible]
    refine drawEntries_visibleEntries_eq ?_ distinct distinct' ?_ indent
    · refine (perm_ext_iff_of_nodup (distinct.filter _) (distinct'.filter _)).2 fun n => ?_
      simpa [Shows, holds_cons] using h [n]
    · intro p hp q hq shown named
      refine ih p hp (entries p hp) (entries' q hq) fun names => ?_
      have longer := h (p.1 :: names)
      rw [shows_cons_of_mem tree hp, named, shows_cons_of_mem tree' hq, ← named] at longer
      simpa [shown] using longer

lemma shows_of_mem_sources {root : Entry} (entry : project.entry = some root)
    {f : SourceFile} (h : f ∈ sources project) : Shows root f.names := by
  obtain ⟨_, same, h⟩ := mem_sources.1 h
  obtain rfl := Option.some.inj (entry.symm.trans same)
  obtain ⟨folders, name, content, language, holds, shown, open_, known, rfl⟩ := mem_sourcesBelow.1 h
  have source : name ∉ ignoredNames := by
    intro ignored
    have none : ∀ n ∈ ignoredNames, language? n = none := by decide
    simp [none name ignored] at known
  rw [nil_append]
  refine ⟨⟨_, holds⟩, forall_mem_append.2 ⟨shown, forall_mem_singleton.2 ?_⟩⟩
  exact isVisible_iff.2 ⟨open_, source⟩

lemma drawing_folder (root : Path) (es : List (String × Entry)) : drawing ⟨root, some (.folder es)⟩ =
    .ok (.intercalate "\n" ((root.name ++ "/") :: drawInside "" (visible (.folder es)))) := by
  rfl

end Unbundle.Analysis
