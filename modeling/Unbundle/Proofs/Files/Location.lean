import Mathlib.Data.List.Nodup
import Mathlib.Data.List.Perm.Basic
import Mathlib.Tactic.Common
import Unbundle.Files.Store
import Unbundle.Proofs.Outcome
import Unbundle.Proofs.Text.Pattern

/-!
# Paths as texts

A path that is written down as its names with slashes in between is read back as these names, and leads
from a location to what lies under them.
-/

open List

namespace Unbundle.Files

/-! ### Trees of files -/

variable {names : List String} {e f : Entry}

namespace Entry

variable {name : String} {es : List (String × Entry)}

@[elab_as_elim]
lemma induction {motive : Entry → Prop} (file : ∀ content, motive (.file content))
    (folder : ∀ es, (∀ p ∈ es, motive p.2) → motive (.folder es)) (e : Entry) : motive e :=
  match e with
  | .file content => file content
  | .folder es => folder es fun p _ => induction file folder p.2
decreasing_by
  have := sizeOf_lt_of_mem ‹p ∈ es›
  cases p
  simp only [Prod.mk.sizeOf_spec, Entry.folder.sizeOf_spec] at *
  omega

/-- An entry lies below another one under the names on the way to it. -/
inductive Holds : Entry → List String → Entry → Prop
  | here (e : Entry) : Holds e [] e
  | step {es : List (String × Entry)} {name : String} {e f : Entry} {names : List String} :
      (name, e) ∈ es → Holds e names f → Holds (.folder es) (name :: names) f

@[simp] lemma holds_nil : e.Holds [] f ↔ f = e := by
  constructor
  · rintro ⟨⟩
    rfl
  · rintro rfl
    exact .here f

@[simp] lemma not_file_holds_cons {content : List UInt8} : ¬ (file content).Holds (name :: names) f := by
  rintro ⟨⟩

@[simp] lemma folder_holds_cons :
    (folder es).Holds (name :: names) f ↔ ∃ e, (name, e) ∈ es ∧ e.Holds names f := by
  constructor
  · rintro (_ | ⟨member, inside⟩)
    exact ⟨_, member, inside⟩
  · rintro ⟨e, member, inside⟩
    exact .step member inside

/-! ### Well formed trees -/

lemma mem_of_lookup (h : lookup name es = some e) : (name, e) ∈ es := by
  induction es with
  | nil => simp [lookup] at h
  | cons p es ih =>
    obtain ⟨n, f⟩ := p
    rw [lookup] at h
    split_ifs at h with eq
    · obtain rfl : f = e := by simpa using h
      simp [eq]
    · exact mem_cons_of_mem _ (ih h)

lemma lookup_of_mem (distinct : (es.map Prod.fst).Nodup) (h : (name, e) ∈ es) : lookup name es = some e := by
  induction es with
  | nil => simp at h
  | cons p es ih =>
    obtain ⟨n, f⟩ := p
    simp only [map_cons, nodup_cons] at distinct
    rw [lookup]
    rcases mem_cons.1 h with here | later
    · simp_all
    · have : n ≠ name := fun eq => distinct.1 (eq ▸ mem_map_of_mem later)
      rw [if_neg this]
      exact ih distinct.2 later

lemma find?_cons_of_eq_none (h : e.find? [name] = none) (names : List String) :
    e.find? (name :: names) = none := by
  cases e with
  | file content => rfl
  | folder es =>
    have absent : lookup name es = none := by simpa [find?] using h
    simp [find?, absent]

end Entry

/-- A name that an entry of a folder can have. -/
structure IsName (s : String) : Prop where
  ne_empty : s ≠ ""
  ne_here : s ≠ "."
  ne_above : s ≠ ".."
  no_slash : '/' ∉ s.toList
  no_null : '\x00' ∉ s.toList

instance (s : String) : Decidable (IsName s) :=
  decidable_of_iff (s ≠ "" ∧ s ≠ "." ∧ s ≠ ".." ∧ '/' ∉ s.toList ∧ '\x00' ∉ s.toList)
    ⟨fun ⟨a, b, c, d, e⟩ => ⟨a, b, c, d, e⟩, fun ⟨a, b, c, d, e⟩ => ⟨a, b, c, d, e⟩⟩

namespace Entry

/-- The entries of each folder have different names, and these are names that entries can have. -/
inductive WellFormed : Entry → Prop
  | file (content : List UInt8) : WellFormed (.file content)
  | folder {es : List (String × Entry)} (distinct : (es.map Prod.fst).Nodup)
      (names : ∀ p ∈ es, IsName p.1) (entries : ∀ p ∈ es, WellFormed p.2) : WellFormed (.folder es)

namespace WellFormed

lemma find?_eq_some_iff (tree : e.WellFormed) : e.find? names = some f ↔ e.Holds names f := by
  induction names generalizing e with
  | nil => simp [find?, eq_comm]
  | cons name names ih =>
    cases tree with
    | file content => simp [find?]
    | @folder es distinct _ entries =>
      simp only [find?, Option.bind_eq_some_iff, folder_holds_cons]
      refine exists_congr fun e => ⟨fun ⟨found, rest⟩ => ?_, fun ⟨member, rest⟩ => ?_⟩
      · have member := mem_of_lookup found
        exact ⟨member, (ih (entries _ member)).1 rest⟩
      · exact ⟨lookup_of_mem distinct member, (ih (entries _ member)).2 rest⟩

lemma of_holds (tree : e.WellFormed) (h : e.Holds names f) : f.WellFormed := by
  induction h with
  | here => exact tree
  | step member _ ih =>
    cases tree with
    | folder _ _ entries => exact ih (entries _ member)

lemma isName_of_holds (tree : e.WellFormed) (h : e.Holds names f) : ∀ n ∈ names, IsName n := by
  induction h with
  | here => simp
  | step member _ ih =>
    cases tree with
    | folder _ valid entries =>
      intro n hn
      rcases mem_cons.1 hn with rfl | hn
      · exact valid _ member
      · exact ih (entries _ member) n hn

end WellFormed

/-- Where no names lead back, following them is looking them up. -/
lemma follow_eq_ok {up : List Entry} {found : Option Entry} (down : ∀ n ∈ names, n ≠ "..")
    (h : follow (e :: up) names = .ok found) : found = e.find? names := by
  induction names generalizing e up with
  | nil =>
    cases e <;> simp_all [follow, find?]
  | cons name names ih =>
    cases e with
    | file content => simp_all [follow, find?]
    | folder es =>
      rw [follow, if_neg (down name mem_cons_self)] at h
      split_ifs at h
      rw [find?]
      cases entry : lookup name es with
      | none =>
        rw [entry] at h
        simpa using h.symm
      | some e =>
        rw [entry] at h
        exact ih (fun n hn => down n (mem_cons_of_mem _ hn)) h

end Entry

end Unbundle.Files

open List String

namespace Unbundle.Files

/-! ### Paths as texts -/

variable {names : List String}

/-! ### Reading a path back -/

lemma rootOf_eq_empty {cs : List Char} (h : cs.head? ≠ some '/') : Path.rootOf cs = "" := by
  cases cs with
  | nil => rfl
  | cons c cs =>
    have : (c == '/') = false := by simpa using h
    simp [Path.rootOf, this]

lemma head?_intercalate (valid : ∀ n ∈ names, IsName n) :
    (intercalate "/" names).toList.head? ≠ some '/' := by
  cases names with
  | nil => simp
  | cons n names =>
    have first := valid n mem_cons_self
    obtain ⟨rest, text⟩ : ∃ rest, intercalate "/" (n :: names) = n ++ rest := by
      cases names with
      | nil => exact ⟨"", by simp⟩
      | cons m names => exact ⟨"/" ++ intercalate "/" (m :: names), by simp [String.append_assoc]⟩
    have nonempty : n.toList ≠ [] := by simpa using first.ne_empty
    rw [text, toList_append, head?_append_of_ne_nil _ nonempty]
    exact fun h => first.no_slash (mem_of_mem_head? h)

lemma ofText_intercalate (valid : ∀ n ∈ names, IsName n) :
    Path.ofText (intercalate "/" names) = ⟨"", names⟩ := by
  have parts : Path.partsOf (intercalate "/" names).toList = names := by
    cases names with
    | nil => rfl
    | cons n names =>
      have free : ∀ cs ∈ (n :: names).map toList, '/' ∉ cs := by
        intro cs hcs
        obtain ⟨m, hm, rfl⟩ := mem_map.1 hcs
        exact (valid m hm).no_slash
      have kept : ∀ m ∈ n :: names, (m != "" && m != ".") = true := by
        intro m hm
        simp [(valid m hm).ne_empty, (valid m hm).ne_here]
      rw [Path.partsOf, Text.splitOn_eq, toList_intercalate]
      change ((splitOn '/' (['/'].intercalate _)).map _).filter _ = _
      rw [splitOn_intercalate '/' free (by simp)]
      simpa using kept
  rw [Path.ofText, rootOf_eq_empty (head?_intercalate valid), parts]

/-! ### Looking from a location -/

namespace Location

variable {l : Location}

/-- The tree of a location is well formed, its own name is empty or can be that of an entry, and no null
character stands in its path. -/
structure WellFormed (l : Location) : Prop where
  name : l.path.name = "" ∨ IsName l.path.name
  no_null : '\x00' ∉ l.path.root.toList ∧ ∀ n ∈ l.path.parts, '\x00' ∉ n.toList
  tree : ∀ e, l.entry = some e → e.WellFormed

lemma mem_intercalate {c : Char} (h : c ∈ (intercalate "/" names).toList) :
    c = '/' ∨ ∃ n ∈ names, c ∈ n.toList := by
  induction names with
  | nil => simp at h
  | cons n names ih =>
    cases names with
    | nil => exact .inr ⟨n, mem_cons_self, by simpa using h⟩
    | cons m names =>
      rw [String.intercalate_cons_cons, toList_append, toList_append,
        mem_append, mem_append] at h
      rcases h with (h | h) | h
      · exact .inr ⟨n, mem_cons_self, h⟩
      · exact .inl (by simpa using h)
      · exact (ih h).imp_right fun ⟨k, hk, hc⟩ => ⟨k, mem_cons_of_mem n hk, hc⟩

lemma WellFormed.no_null_below (valid : l.WellFormed) (names_valid : ∀ n ∈ names, IsName n) :
    '\x00' ∉ (l.path.join ⟨"", names⟩).toText.toList := by
  rw [Path.join, if_pos rfl, Path.toText]
  split_ifs
  · decide
  · rw [Path.plain, toList_append, mem_append]
    rintro (h | h)
    · exact valid.no_null.1 h
    · rcases mem_intercalate h with h | ⟨n, hn, h⟩
      · exact absurd h (by decide)
      · rcases mem_append.1 hn with hn | hn
        · exact valid.no_null.2 n hn h
        · exact (names_valid n hn).no_null h

lemma find?_cons_of_eq_none {name : String} (h : l.find? [name] = none) (names : List String) :
    l.find? (name :: names) = none := by
  cases entry : l.entry with
  | none => simp [find?, entry]
  | some e =>
    simp only [find?, entry] at h ⊢
    exact Entry.find?_cons_of_eq_none h names

lemma WellFormed.look_eq_ok (valid : l.WellFormed) (names_valid : ∀ n ∈ names, IsName n) {found : Option Entry}
    (h : l.look ⟨"", names⟩ = .ok found) : found = l.find? names := by
  have plain := valid.no_null_below names_valid
  rw [look, if_neg (by simpa using plain)] at h
  split_ifs at h
  cases entry : l.entry with
  | none =>
    simpa [find?, entry, Except.mapError] using h.symm
  | some e =>
    rw [entry] at h
    cases followed : Entry.follow [e, .folder [(l.path.name, e)]] names with
    | error cause => simp [followed, Except.mapError] at h
    | ok below =>
      obtain rfl : below = found := by simpa [followed, Except.mapError] using h
      simpa [find?, entry] using
        Entry.follow_eq_ok (fun n hn => (names_valid n hn).ne_above) followed

/-! ### Folders without folders -/

def ofFiles (files : List (String × List UInt8)) : Location where
  path := ⟨"/", ["app"]⟩
  entry := some (.folder (files.map fun p => (p.1, .file p.2)))

lemma wellFormed_ofFiles {files : List (String × List UInt8)} (distinct : (files.map Prod.fst).Nodup)
    (names : ∀ n ∈ files.map Prod.fst, IsName n) : (ofFiles files).WellFormed where
  name := .inr (by decide : IsName "app")
  no_null := (by decide : '\x00' ∉ "/".toList ∧ ∀ n ∈ ["app"], '\x00' ∉ n.toList)
  tree := by
    rintro _ ⟨⟩
    refine .folder (by rwa [List.map_map]) ?_ ?_
    · rw [forall_mem_map]
      exact fun p hp => names p.1 (mem_map_of_mem hp)
    · rw [forall_mem_map]
      exact fun p _ => .file p.2

end Location

/-! ## Trees with the same paths -/

namespace Entry

/-- Two files whose contents are related by `same`, or two folders: the names in them are listed in orders
related by `listed`, and entries of one name are alike. How contents are related depends on the names that
lead to them. -/
inductive Alike (listed : List String → List String → Prop) :
    (List String → List UInt8 → List UInt8 → Prop) → Entry → Entry → Prop
  | file {same : List String → List UInt8 → List UInt8 → Prop} {content content' : List UInt8} :
      same [] content content' → Alike listed same (.file content) (.file content')
  | folder {same : List String → List UInt8 → List UInt8 → Prop} {es fs : List (String × Entry)} :
      listed (es.map Prod.fst) (fs.map Prod.fst) →
      (∀ name e f, (name, e) ∈ es → (name, f) ∈ fs →
        Alike listed (fun path => same (name :: path)) e f) →
      Alike listed same (.folder es) (.folder fs)

variable {listed listed' : List String → List String → Prop}
  {same same' : List String → List UInt8 → List UInt8 → Prop} {e f : Entry}

lemma Alike.mono (h : Alike listed same e f) (orders : ∀ xs ys, listed xs ys → listed' xs ys)
    (contents : ∀ path c c', same path c c' → same' path c c') : Alike listed' same' e f := by
  induction h generalizing same' with
  | file related => exact .file (contents [] _ _ related)
  | folder names _ ih =>
    refine .folder (orders _ _ names) fun name e f he hf => ?_
    exact ih name e f he hf fun path => contents (name :: path)

/-! ### Entries side by side -/

section

variable {R : String × Entry → String × Entry → Prop} {es fs : List (String × Entry)}

lemma forall₂_of_names_eq (names : es.map Prod.fst = fs.map Prod.fst)
    (entries : ∀ p ∈ es, ∀ q ∈ fs, p.1 = q.1 → R p q) : Forall₂ R es fs := by
  induction es generalizing fs with
  | nil =>
    obtain rfl : fs = [] := by simpa using names.symm
    exact .nil
  | cons p es ih =>
    cases fs with
    | nil => cases names
    | cons q fs =>
      obtain ⟨first, others⟩ : p.1 = q.1 ∧ es.map Prod.fst = fs.map Prod.fst := by simpa using names
      refine .cons (entries p mem_cons_self q mem_cons_self first) (ih others ?_)
      exact fun a ha b hb => entries a (mem_cons_of_mem p ha) b (mem_cons_of_mem q hb)

/-- The entries of one of two folders with the same names can be put into the order of the other. -/
lemma exists_forall₂_of_names_perm (names : (es.map Prod.fst).Perm (fs.map Prod.fst))
    (entries : ∀ p ∈ es, ∀ q ∈ fs, p.1 = q.1 → R p q) : ∃ gs, Forall₂ R es gs ∧ gs.Perm fs := by
  have named : Forall₂ (fun name p => name = p.1) (fs.map Prod.fst) fs := by
    rw [forall₂_map_left_iff, forall₂_same]
    exact fun p _ => rfl
  obtain ⟨gs, ordered, perm⟩ := perm_comp_forall₂ names named
  have sameNames : es.map Prod.fst = gs.map Prod.fst := by
    rw [← forall₂_eq_eq_eq, forall₂_map_right_iff]
    exact ordered
  refine ⟨gs, forall₂_of_names_eq sameNames fun p hp q hq => ?_, perm⟩
  exact entries p hp q (perm.mem_iff.1 hq)

end

/-! ### Looking up -/

lemma lookup_eq_none_iff {name : String} {es : List (String × Entry)} :
    lookup name es = none ↔ name ∉ es.map Prod.fst := by
  induction es with
  | nil => simp [lookup]
  | cons p es ih =>
    rw [lookup, map_cons, mem_cons, not_or, ← ih]
    split_ifs with here
    · simp [here]
    · simp [Ne.symm here]

lemma rel_lookup {R : Entry → Entry → Prop} {name : String} {es fs : List (String × Entry)}
    (names : (es.map Prod.fst).Perm (fs.map Prod.fst))
    (entries : ∀ e f, (name, e) ∈ es → (name, f) ∈ fs → R e f) :
    Option.Rel R (lookup name es) (lookup name fs) := by
  have missing : lookup name es = none ↔ lookup name fs = none := by
    rw [lookup_eq_none_iff, lookup_eq_none_iff, names.mem_iff]
  cases here : lookup name es with
  | none =>
    rw [missing.1 here]
    exact .none
  | some e =>
    cases there : lookup name fs with
    | none => simp [missing.2 there] at here
    | some f => exact .some (entries e f (mem_of_lookup here) (mem_of_lookup there))

lemma Alike.find? (h : Alike Perm same e f) (names : List String) :
    Option.Rel (Alike Perm fun path => same (names ++ path)) (e.find? names) (f.find? names) := by
  induction names generalizing e f same with
  | nil =>
    exact .some h
  | cons name names ih =>
    cases h with
    | file related => exact .none
    | @folder _ es fs listed entries =>
      rw [find?, find?]
      have found := rel_lookup listed (entries name)
      generalize lookup name es = here at found ⊢
      generalize lookup name fs = there at found ⊢
      cases found with
      | none => exact .none
      | some inside => exact ih inside

lemma agree_follow {R : List UInt8 → List UInt8 → Prop} {up up' : List Entry}
    (h : Forall₂ (Alike Perm fun _ => R) up up') (names : List String) :
    Agree (Option.Rel (Alike Perm fun _ => R)) (follow up names) (follow up' names) := by
  induction names generalizing up up' with
  | nil =>
    cases h with
    | nil =>
      exact .ok (.some (.folder (.refl _) (by simp)))
    | @cons e f up up' first others =>
      exact .ok (.some first)
  | cons name names ih =>
    cases h with
    | nil =>
      rw [follow]
      split_ifs
      · exact ih .nil
      · exact .error _
      · exact .ok .none
    | cons first others =>
      cases first with
      | file related =>
        exact .ok .none
      | @folder _ es fs listed entries =>
        rw [follow, follow]
        split_ifs
        · exact ih others
        · exact .error _
        · have found := rel_lookup listed (entries name)
          generalize lookup name es = here at found ⊢
          generalize lookup name fs = there at found ⊢
          cases found with
          | none => exact .ok .none
          | some inside => exact ih (.cons inside (.cons (.folder listed entries) others))

lemma alike_system {R : List UInt8 → List UInt8 → Prop} :
    Alike Perm (fun _ => R) system system := by
  refine .folder (.refl _) fun name e f he hf => ?_
  obtain ⟨_, -, he⟩ := mem_map.1 he
  obtain ⟨_, -, hf⟩ := mem_map.1 hf
  obtain ⟨-, rfl⟩ := Prod.mk.inj he
  obtain ⟨-, rfl⟩ := Prod.mk.inj hf
  exact .folder (.refl _) (by simp)

lemma Alike.inFolder {R : List UInt8 → List UInt8 → Prop} (h : Alike Perm (fun _ => R) e f)
    (name : String) : Alike Perm (fun _ => R) (.folder [(name, e)]) (.folder [(name, f)]) := by
  refine .folder (.refl _) fun n a b ha hb => ?_
  obtain ⟨rfl, rfl⟩ := Prod.mk.inj (mem_singleton.1 ha)
  obtain ⟨-, rfl⟩ := Prod.mk.inj (mem_singleton.1 hb)
  exact h

end Entry

namespace Location

/-- Two locations of one path whose entries are alike, or both missing. -/
structure Alike (listed : List String → List String → Prop)
    (same : List String → List UInt8 → List UInt8 → Prop) (l l' : Location) : Prop where
  path : l.path = l'.path
  entry : Option.Rel (Entry.Alike listed same) l.entry l'.entry

variable {l l' : Location} {same : List String → List UInt8 → List UInt8 → Prop}

lemma Alike.mono {listed listed' : List String → List String → Prop}
    {same' : List String → List UInt8 → List UInt8 → Prop} (h : l.Alike listed same l')
    (orders : ∀ xs ys, listed xs ys → listed' xs ys)
    (contents : ∀ path c c', same path c c' → same' path c c') : l.Alike listed' same' l' where
  path := h.path
  entry := by
    match l.entry, l'.entry, h.entry with
    | some e, some f, .some inside => exact .some (inside.mono orders contents)
    | none, none, .none => exact .none

lemma Alike.listed (h : l.Alike Eq same l') : l.Alike Perm same l' :=
  h.mono (fun _ _ => .of_eq) fun _ _ _ related => related

lemma Alike.paths {listed : List String → List String → Prop} (h : l.Alike listed same l') :
    l.Alike listed (fun _ _ _ => True) l' :=
  h.mono (fun _ _ names => names) fun _ _ _ _ => trivial

lemma Alike.find? (h : l.Alike Perm same l') (names : List String) :
    Option.Rel (Entry.Alike Perm fun path => same (names ++ path))
      (l.find? names) (l'.find? names) := by
  rw [Location.find?, Location.find?]
  have entries := h.entry
  generalize l.entry = here at entries ⊢
  generalize l'.entry = there at entries ⊢
  cases entries with
  | none => exact .none
  | some inside => exact inside.find? names

lemma Alike.look {R : List UInt8 → List UInt8 → Prop} (h : l.Alike Perm (fun _ => R) l')
    (p : Path) : Agree (Option.Rel (Entry.Alike Perm fun _ => R)) (l.look p) (l'.look p) := by
  rw [Location.look, Location.look, h.path]
  split_ifs
  · exact .ok .none
  · exact .error _
  · apply Agree.mapError
    by_cases relative : p.root = ""
    · rw [relative]
      have entries := h.entry
      generalize l.entry = here at entries ⊢
      generalize l'.entry = there at entries ⊢
      cases entries with
      | none => exact .ok .none
      | some inside => exact Entry.agree_follow (.cons inside (.cons (inside.inFolder _) .nil)) p.parts
    · split
      · exact absurd ‹_› relative
      · exact absurd ‹_› relative
      · split
        · exact absurd ‹_› relative
        · exact absurd ‹_› relative
        · exact Entry.agree_follow (.cons Entry.alike_system .nil) p.parts

lemma alike_ofFiles {listed : List String → List String → Prop} {files files' : List (String × List UInt8)}
    (names : listed (files.map Prod.fst) (files'.map Prod.fst))
    (contents : ∀ p ∈ files, ∀ q ∈ files', p.1 = q.1 → same [p.1] p.2 q.2) :
    (ofFiles files).Alike listed same (ofFiles files') := by
  refine ⟨rfl, .some (.folder (by simpa [Function.comp_def] using names) ?_)⟩
  intro name e f he hf
  obtain ⟨p, hp, he⟩ := mem_map.1 he
  obtain ⟨q, hq, hf⟩ := mem_map.1 hf
  obtain ⟨rfl, rfl⟩ := Prod.mk.inj he
  obtain ⟨named, rfl⟩ := Prod.mk.inj hf
  exact .file (contents p hp q hq named.symm)

end Location

end Unbundle.Files
