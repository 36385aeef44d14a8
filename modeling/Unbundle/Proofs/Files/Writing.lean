import Mathlib.Data.List.Infix
import Mathlib.Tactic.Common
import Unbundle.Files.Store

/-!
# What a write changes

A store is seen place by place: nothing, a folder, or a file with its bytes. A write turns places where
nothing was into folders, all of them on the way to one place, and if it succeeds it then sets one file.
-/

open List

namespace Unbundle.Files

variable {names : List String}

/-- What a place shows from outside. -/
inductive Surface where
  | file (content : List UInt8)
  | folder
  deriving DecidableEq, Repr

namespace Entry

/-- An entry from outside. -/
def surface : Entry → Surface
  | file content => .file content
  | folder _ => .folder

/-- What there is to be seen under some names. -/
def view (e : Entry) (names : List String) : Option Surface := (e.find? names).map surface

@[simp] lemma view_nil (e : Entry) : e.view [] = some e.surface := by
  cases e <;> rfl

@[simp] lemma view_file_cons (content : List UInt8) (name : String) (names : List String) :
    (file content).view (name :: names) = none := rfl

lemma view_folder_cons (es : List (String × Entry)) (name : String) (names : List String) :
    (folder es).view (name :: names) = (lookup name es).bind fun e => e.view names := by
  rw [view, find?]
  cases lookup name es <;> rfl

lemma view_append_of_ne_folder {e : Entry} {rest : List String} (h : e.view names ≠ some .folder)
    (ne : rest ≠ []) : e.view (names ++ rest) = none := by
  induction names generalizing e with
  | nil =>
    cases e with
    | file content =>
      obtain ⟨name, rest, rfl⟩ := exists_cons_of_ne_nil ne
      rfl
    | folder es => exact absurd (view_nil _) h
  | cons name names ih =>
    cases e with
    | file content => rfl
    | folder es =>
      rw [view_folder_cons] at h
      rw [cons_append, view_folder_cons]
      cases found : lookup name es with
      | none => rfl
      | some f =>
        rw [found] at h
        exact ih h

lemma lookup_place (name other : String) (e : Entry) (es : List (String × Entry)) :
    lookup other (place name e es) = if name = other then some e else lookup other es := by
  induction es with
  | nil => rfl
  | cons p es ih =>
    rw [place]
    split_ifs with here before <;> grind [lookup]

/-- Putting an entry into a folder that is there changes what is seen from its place on and nothing
else. -/
lemma view_put {e : Entry} {es : List (String × Entry)} (ne : names ≠ [])
    (above : (folder es).view names.dropLast = some .folder) (other : List String) :
    (folder (put e names es)).view other =
      if names <+: other then e.view (other.drop names.length) else (folder es).view other := by
  induction names generalizing es other with
  | nil => exact absurd rfl ne
  | cons name names ih =>
    cases other with
    | nil => simp [surface]
    | cons first others =>
      simp only [view_folder_cons, cons_prefix_cons]
      cases names with
      | nil =>
        simp only [put, lookup_place, nil_prefix, and_true]
        split_ifs <;> rfl
      | cons second names =>
        -- The first name leads to a folder already, or the place above could not be one.
        rw [dropLast_cons_cons, view_folder_cons] at above
        obtain ⟨f, found, above⟩ := Option.bind_eq_some_iff.1 above
        cases f with
        | file content => cases names <;> simp [surface] at above
        | folder inner =>
          rw [put, found]
          · simp only [lookup_place]
            by_cases same : name = first
            · subst same
              simpa [found] using ih (by simp) above others
            · simp [same]
          · simp

end Entry

namespace Store

variable {content : List UInt8} {append : Bool} {path : String}
variable {s t : Store} {e : Fault}

/-- What a store shows at the end of some names. -/
def view (s : Store) (names : List String) : Option Surface := (Entry.folder s.entries).view names

def fileAt? (s : Store) (names : List String) : Option (List UInt8) :=
  match s.view names with
  | some (.file content) => some content
  | _ => none

/-- The place that a path leads to, if it is known. -/
def place? (s : Store) (path : String) : Option (List String) := (s.resolve path).toOption.join

/-- Names that can be looked for. -/
structure InReach (s : Store) (names : List String) : Prop where
  near : s.isFar names = false
  short : ∀ n ∈ names, isTooLong n = false

@[simp] lemma view_nil (s : Store) : s.view [] = some .folder := Entry.view_nil _

lemma view_eq (s : Store) (names : List String) : s.view names = (s.at? names).map Entry.surface := rfl

lemma fileAt?_eq_some_iff :
    s.fileAt? names = some content ↔ s.view names = some (.file content) := by
  rw [fileAt?]
  split <;> simp_all

lemma fileAt?_eq_none_iff :
    s.fileAt? names = none ↔ ∀ content, s.view names ≠ some (.file content) := by
  rw [fileAt?]
  split <;> simp_all

lemma at?_eq_file_iff : s.at? names = some (.file content) ↔ s.fileAt? names = some content := by
  rw [fileAt?_eq_some_iff, view_eq]
  cases s.at? names with
  | none => simp
  | some e => cases e <;> simp [Entry.surface]

lemma place?_eq_some_iff : s.place? path = some names ↔ s.resolve path = .ok (some names) := by
  rw [place?]
  cases s.resolve path with
  | error e => simp [Except.toOption]
  | ok found => simp [Except.toOption]

/-! ### Stores in the same place -/

/-- Two stores with the same base and the same home. -/
structure SamePlace (s t : Store) : Prop where
  base : t.base = s.base
  home : t.home = s.home

namespace SamePlace

variable {s t u : Store}

lemma refl (s : Store) : SamePlace s s := ⟨rfl, rfl⟩

lemma symm (h : SamePlace s t) : SamePlace t s := ⟨h.base.symm, h.home.symm⟩

lemma trans (h : SamePlace s t) (h' : SamePlace t u) : SamePlace s u :=
  ⟨h'.base.trans h.base, h'.home.trans h.home⟩

lemma put (s : Store) (names : List String) (e : Entry) : SamePlace s (s.put names e) := ⟨rfl, rfl⟩

lemma pathText (h : SamePlace s t) (names : List String) : t.pathText names = s.pathText names := by
  rw [Store.pathText, Store.pathText, h.base]

lemma isFar (h : SamePlace s t) (names : List String) : t.isFar names = s.isFar names := by
  rw [Store.isFar, Store.isFar, h.pathText]

lemma resolve (h : SamePlace s t) (path : String) : t.resolve path = s.resolve path := by
  rw [Store.resolve, Store.resolve, target, target, h.base, h.home]

lemma place? (h : SamePlace s t) (path : String) : t.place? path = s.place? path := by
  rw [Store.place?, Store.place?, h.resolve]

lemma inReach (h : SamePlace s t) (reach : s.InReach names) : t.InReach names :=
  ⟨(h.isFar names).trans reach.near, reach.short⟩

end SamePlace

/-! ### Making folders -/

/-- A store in which folders were made where nothing was, all of them on the way to one place. -/
structure Grown (s t : Store) (way : List String) : Prop extends SamePlace s t where
  view : ∀ other, t.view other = s.view other ∨
    s.view other = none ∧ t.view other = some .folder ∧ other <+: way

namespace Grown

variable {s t u : Store} {way way' : List String}

lemma refl (s : Store) (way : List String) : Grown s s way := ⟨.refl s, fun _ => .inl rfl⟩

lemma trans (h : Grown s t way) (h' : Grown t u way) : Grown s u way := by
  refine ⟨h.toSamePlace.trans h'.toSamePlace, fun other => ?_⟩
  rcases h.view other with same | ⟨empty, folder, lead⟩
  · rw [← same]
    exact h'.view other
  · refine .inr ⟨empty, ?_, lead⟩
    rcases h'.view other with same | ⟨empty', -, -⟩
    · rw [same, folder]
    · rw [folder] at empty'
      cases empty'

lemma mono (h : Grown s t way) (le : way <+: way') : Grown s t way' :=
  ⟨h.toSamePlace, fun other => (h.view other).imp_right fun ⟨empty, folder, lead⟩ =>
    ⟨empty, folder, lead.trans le⟩⟩

lemma fileAt? (h : Grown s t way) (names : List String) : t.fileAt? names = s.fileAt? names := by
  rcases h.view names with same | ⟨empty, folder, -⟩
  · rw [Store.fileAt?, Store.fileAt?, same]
  · rw [Store.fileAt?, Store.fileAt?, empty, folder]

end Grown

lemma view_put_folder (ne : names ≠ []) (above : s.view names.dropLast = some .folder)
    (empty : s.view names = none) (other : List String) :
    (s.put names (.folder [])).view other = if other = names then some .folder else s.view other := by
  rw [view, put, Entry.view_put ne above]
  by_cases lead : names <+: other
  · obtain ⟨rest, rfl⟩ := lead
    rw [if_pos (prefix_append _ _), drop_left]
    cases rest with
    | nil => simp [Entry.surface]
    | cons n rest =>
      have nothing : s.view (names ++ n :: rest) = none :=
        Entry.view_append_of_ne_folder (by rw [← view, empty]; simp) (by simp)
      rw [if_neg (by simp), nothing]
      rfl
  · rw [if_neg lead, if_neg (by rintro rfl; exact lead (prefix_refl _))]
    rfl

lemma grown_put (ne : names ≠ []) (above : s.view names.dropLast = some .folder)
    (empty : s.view names = none) : Grown s (s.put names (.folder [])) names := by
  refine ⟨.put s names _, fun other => ?_⟩
  rw [view_put_folder ne above empty]
  by_cases here : other = names
  · subst here
    exact .inr ⟨empty, if_pos rfl, prefix_refl _⟩
  · exact .inl (if_neg here)

/-- The store that is there after a change, whether it succeeded or not. -/
def left : Except (Fault × Store) Store → Store
  | .ok t => t
  | .error (_, t) => t

lemma grown_makeFolders {asked done : List String} (above : s.view done = some .folder) :
    Grown s (left (makeFolders asked done names s)) (done ++ names) ∧
      ∀ t, makeFolders asked done names s = .ok t →
        t.view (done ++ names) = some .folder ∧ ∀ n ∈ names, isTooLong n = false := by
  induction names generalizing asked done s with
  | nil =>
    refine ⟨.refl s _, ?_⟩
    rintro t ⟨⟩
    exact ⟨by simpa using above, by simp⟩
  | cons name names ih =>
    have way : done ++ name :: names = done ++ [name] ++ names := by simp
    rw [makeFolders]
    by_cases short : isTooLong name = true
    · simp only [short]
      exact ⟨.refl s _, fun t h => by cases h⟩
    · simp only [short]
      have long : ∀ P, (P ∧ ∀ n ∈ names, isTooLong n = false) →
          P ∧ ∀ n ∈ name :: names, isTooLong n = false := fun P h =>
        ⟨h.1, forall_mem_cons.2 ⟨by simpa using short, h.2⟩⟩
      cases found : s.at? (done ++ [name]) with
      | none =>
        have empty : s.view (done ++ [name]) = none := by rw [view_eq, found]; rfl
        have above' : s.view (done ++ [name]).dropLast = some .folder := by simpa using above
        have made := grown_put (by simp) above' empty
        have there : (s.put (done ++ [name]) (.folder [])).view (done ++ [name]) = some .folder := by
          rw [view_put_folder (by simp) above' empty, if_pos rfl]
        obtain ⟨rest, all⟩ := @ih _ (done ++ [name]) (done ++ [name]) there
        rw [way]
        exact ⟨(made.mono (prefix_append _ _)).trans rest, fun t h => long _ (all t h)⟩
      | some e =>
        cases e with
        | file content =>
          by_cases last : names.isEmpty = true
          · simp only [last]
            exact ⟨.refl s _, fun t h => by cases h⟩
          · simp only [last]
            exact ⟨.refl s _, fun t h => by cases h⟩
        | folder es =>
          have there : s.view (done ++ [name]) = some .folder := by rw [view_eq, found]; rfl
          rw [way]
          obtain ⟨rest, all⟩ := ih there
          exact ⟨rest, fun t h => long _ (all t h)⟩

/-! ### Writing a file -/

/-- A store in which one file was set where no folder was, and folders were made on the way to it. -/
structure Written (s t : Store) (names : List String) (content : List UInt8) : Prop
    extends SamePlace s t where
  free : s.view names ≠ some .folder
  here : t.view names = some (.file content)
  elsewhere : ∀ other ≠ names, t.view other = s.view other ∨
    s.view other = none ∧ t.view other = some .folder ∧ other <+: names

lemma written_put (ne : names ≠ []) (above : s.view names.dropLast = some .folder)
    (free : s.view names ≠ some .folder) : Written s (s.put names (.file content)) names content := by
  have seen : ∀ other, (s.put names (.file content)).view other =
      if names <+: other then (Entry.file content).view (other.drop names.length) else s.view other :=
    Entry.view_put ne above
  refine ⟨.put s names _, free, ?_, fun other ne' => .inl ?_⟩
  · rw [seen, if_pos (prefix_refl _), drop_length]
    rfl
  · rw [seen]
    split_ifs with lead
    · obtain ⟨rest, rfl⟩ := lead
      have below : rest ≠ [] := by
        rintro rfl
        exact ne' (append_nil names)
      have nothing : s.view (names ++ rest) = none := Entry.view_append_of_ne_folder free below
      obtain ⟨n, rest, rfl⟩ := exists_cons_of_ne_nil below
      rw [drop_left, nothing, Entry.view_file_cons]
    · rfl

lemma Written.of_grown {m : Store} {above : List String} (made : Grown s m above) (lead : above <+: names)
    (h : Written m t names content) : Written s t names content := by
  refine ⟨made.toSamePlace.trans h.toSamePlace, ?_, h.here, fun other ne => ?_⟩
  · intro folder
    rcases made.view names with same | ⟨empty, -, -⟩
    · exact h.free (same.trans folder)
    · rw [folder] at empty
      cases empty
  rcases h.elsewhere other ne with same | ⟨empty, folder, before⟩
  · rw [same]
    exact (made.mono lead).view other
  · rcases made.view other with same | ⟨_, folder', _⟩
    · exact .inr ⟨by rw [← same, empty], folder, before⟩
    · rw [folder'] at empty
      cases empty

lemma Written.fileAt?_self (h : Written s t names content) : t.fileAt? names = some content :=
  fileAt?_eq_some_iff.2 h.here

lemma Written.fileAt?_of_ne {other : List String} (h : Written s t names content)
    (ne : other ≠ names) : t.fileAt? other = s.fileAt? other := by
  rcases h.elsewhere other ne with same | ⟨empty, folder, -⟩
  · rw [fileAt?, fileAt?, same]
  · rw [fileAt?, fileAt?, empty, folder]

/-- What a file holds after a write: the new bytes, behind the old ones if they are added. -/
def bytesAfter (s : Store) (names : List String) (content : List UInt8) (append : Bool) : List UInt8 :=
  if append then (s.fileAt? names).getD [] ++ content else content

/-- The steps of a write: the place above is looked at, the folders on the way are made, and the file is
set if it can be looked for and is no folder. -/
lemma writeAt_eq (s : Store) (names : List String) (content : List UInt8) (append : Bool) :
    s.writeAt names content append =
      if s.isFar names.dropLast then
        .error (.file .nameTooLong (s.pathText names.dropLast), s)
      else
        (makeFolders names.dropLast [] names.dropLast s).bind fun m =>
          if m.isFar names || isTooLong (names.getLastD "") then
            .error (.file .nameTooLong (m.pathText names), m)
          else if m.view names = some .folder then .error (.file .isDirectory (m.pathText names), m)
          else .ok (m.put names (.file (m.bytesAfter names content append))) := by
  rw [writeAt]
  by_cases far : s.isFar names.dropLast = true
  · simp only [far, if_true]
    rfl
  · simp only [far]
    refine congrArg (bind _) (funext fun m => ?_)
    by_cases long : (m.isFar names || isTooLong (names.getLastD "")) = true
    · simp only [long, if_true]
    · cases found : m.at? names with
      | none => simp [view_eq, bytesAfter, fileAt?, found, pure, Except.pure]
      | some e =>
        cases e with
        | file old => simp [view_eq, bytesAfter, fileAt?, found, Entry.surface, pure, Except.pure]
        | folder es => simp [view_eq, found, Entry.surface]

lemma writeAt_eq_ok (h : s.writeAt names content append = .ok t) :
    s.InReach names ∧ Written s t names (s.bytesAfter names content append) := by
  rw [writeAt_eq] at h
  split_ifs at h with far
  cases made : makeFolders names.dropLast [] names.dropLast s with
  | error e => simp [made, Except.bind] at h
  | ok m =>
    rw [made, Except.bind] at h
    split_ifs at h with long folder
    obtain rfl := Except.ok.inj h
    obtain ⟨grown, all⟩ := @grown_makeFolders names.dropLast s names.dropLast [] s.view_nil
    obtain ⟨above, short⟩ := all m made
    rw [made, left] at grown
    have ne : names ≠ [] := by
      rintro rfl
      exact folder m.view_nil
    have same : m.bytesAfter names content append = s.bytesAfter names content append := by
      rw [bytesAfter, bytesAfter, grown.fileAt?]
    rw [same]
    refine ⟨⟨?_, ?_⟩, .of_grown grown ( dropLast_prefix names) (written_put ne above folder)⟩
    · rw [← grown.isFar]
      simp_all
    · intro n hn
      rw [← dropLast_append_getLast ne] at hn
      rcases mem_append.1 hn with hn | hn
      · exact short n hn
      · simp_all [getLast?_eq_some_getLast]

lemma writeAt_eq_error (h : s.writeAt names content append = .error (e, t)) :
    Grown s t names := by
  rw [writeAt_eq] at h
  split_ifs at h with far
  · obtain ⟨-, rfl⟩ := Prod.mk.inj (Except.error.inj h)
    exact .refl s names
  · obtain ⟨grown, -⟩ := @grown_makeFolders names.dropLast s names.dropLast [] s.view_nil
    replace grown := grown.mono ( dropLast_prefix names)
    cases made : makeFolders names.dropLast [] names.dropLast s with
    | error e =>
      rw [made] at h grown
      obtain rfl := Except.error.inj h
      exact grown
    | ok m =>
      rw [made] at h grown
      rw [Except.bind] at h
      split_ifs at h <;>
      · obtain ⟨-, rfl⟩ := Prod.mk.inj (Except.error.inj h)
        exact grown

/-! ### Writing by a path -/

lemma change_eq_ok {content : String} (h : s.change path content append = .ok t) :
    ∃ names, s.place? path = some names ∧ s.InReach names ∧
      Written s t names (s.bytesAfter names (Text.encode content.toList) append) := by
  rw [change] at h
  cases found : s.resolve path with
  | error e => simp [found] at h
  | ok place =>
    cases place with
    | none => simp [found] at h
    | some names =>
      rw [found] at h
      exact ⟨names, place?_eq_some_iff.2 found, writeAt_eq_ok h⟩

lemma change_eq_error {content : String}
    (h : s.change path content append = .error (e, t)) :
    t = s ∨ ∃ names, s.place? path = some names ∧ Grown s t names := by
  rw [change] at h
  cases found : s.resolve path with
  | error e =>
    rw [found] at h
    exact .inl (Prod.mk.inj (Except.error.inj h)).2.symm
  | ok place =>
    rw [found] at h
    cases place with
    | none => exact .inl (Prod.mk.inj (Except.error.inj h)).2.symm
    | some names => exact .inr ⟨names, place?_eq_some_iff.2 found, writeAt_eq_error h⟩

lemma write_snd (s : Store) (path content : String) (append : Bool) :
    (s.write path content append).2 = left (s.change path content append) := by
  rw [write]
  cases s.change path content append with
  | ok t => rfl
  | error e => rfl

end Store

end Unbundle.Files
