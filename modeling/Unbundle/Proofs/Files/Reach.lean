import Mathlib.Data.List.TakeWhile
import Unbundle.Proofs.Files.Location
import Unbundle.Proofs.Files.Writing
import Unbundle.Proofs.Text.Utf8

/-!
# How far paths reach

Nothing keeps a path inside the home folder: an absolute path starts at the root of the system, and two dots
lead out. What is read, listed or written is what the path leads to.
-/

open List

namespace Unbundle.Files

/-! ### A file after a history of writes -/

variable {names : List String} {s : Store}

/-! ### One write -/

/-- A write that is asked for. -/
structure Write where
  path : String
  content : String
  append : Bool

namespace Write

variable {w : Write}

def answer (w : Write) (s : Store) : String := (s.write w.path w.content w.append).1

def on (w : Write) (s : Store) : Store := (s.write w.path w.content w.append).2

def confirmation (w : Write) : String :=
  let action := if w.append then "appended to" else "wrote to"
  s!"Successfully {action} {w.path}"

/-- A write says that it succeeded. -/
def Succeeds (w : Write) (s : Store) : Prop := w.answer s = w.confirmation

instance (w : Write) (s : Store) : Decidable (w.Succeeds s) := inferInstanceAs (Decidable (_ = _))

def bytes (w : Write) : List UInt8 := Text.encode w.content.toList

lemma succeeds_of_change {t : Store} (h : s.change w.path w.content w.append = .ok t) : w.Succeeds s := by
  rw [Succeeds, answer, Store.write, h]
  rfl

lemma not_succeeds_of_change {e : Fault × Store} (h : s.change w.path w.content w.append = .error e) :
    ¬ w.Succeeds s := by
  intro success
  rw [Succeeds, answer, Store.write, h] at success
  delta confirmation at success
  have first := congrArg (fun text : String => text.toList.head?) success
  simp [toString] at first

lemma samePlace_on (w : Write) (s : Store) : Store.SamePlace s (w.on s) := by
  rw [on, Store.write_snd]
  cases h : s.change w.path w.content w.append with
  | ok t =>
    obtain ⟨names, -, -, written⟩ := Store.change_eq_ok h
    exact written.toSamePlace
  | error e =>
    rcases Store.change_eq_error h with same | ⟨names, -, grown⟩
    · rw [Store.left, same]
      exact .refl s
    · exact grown.toSamePlace

lemma fileAt?_on_of_not_succeeds (h : ¬ w.Succeeds s) (names : List String) :
    (w.on s).fileAt? names = s.fileAt? names := by
  rw [on, Store.write_snd]
  cases outcome : s.change w.path w.content w.append with
  | ok t => exact absurd (succeeds_of_change outcome) h
  | error e =>
    rcases Store.change_eq_error outcome with same | ⟨way, -, grown⟩
    · rw [Store.left, same]
    · exact grown.fileAt? names

lemma fileAt?_on_of_place?_ne (h : s.place? w.path ≠ some names) :
    (w.on s).fileAt? names = s.fileAt? names := by
  by_cases success : w.Succeeds s
  · rw [on, Store.write_snd]
    cases outcome : s.change w.path w.content w.append with
    | ok t =>
      obtain ⟨way, leads, -, written⟩ := Store.change_eq_ok outcome
      exact written.fileAt?_of_ne fun same => h (same ▸ leads)
    | error e => exact absurd success (not_succeeds_of_change outcome)
  · exact fileAt?_on_of_not_succeeds success names

/-- A write that succeeds sets the file that it leads to, which can be looked for. -/
lemma fileAt?_on_of_succeeds (success : w.Succeeds s) (leads : s.place? w.path = some names) :
    s.InReach names ∧ (w.on s).fileAt? names = some (s.bytesAfter names w.bytes w.append) := by
  rw [on, Store.write_snd]
  cases outcome : s.change w.path w.content w.append with
  | ok t =>
    obtain ⟨way, leads', reach, written⟩ := Store.change_eq_ok outcome
    obtain rfl : way = names := by simpa [leads'] using leads
    exact ⟨reach, written.fileAt?_self⟩
  | error e => exact absurd success (not_succeeds_of_change outcome)

end Write

/-! ### Many writes -/

namespace Store

def after (s : Store) (ws : List Write) : Store := ws.foldl (fun s w => w.on s) s

/-- Those of some writes, made one after the other, that succeed and lead to a place. -/
def writesTo (names : List String) (s : Store) : List Write → List Write
  | [] => []
  | w :: ws =>
    (if w.Succeeds s ∧ s.place? w.path = some names then [w] else []) ++ writesTo names (w.on s) ws

lemma samePlace_after (s : Store) (ws : List Write) : SamePlace s (s.after ws) := by
  induction ws generalizing s with
  | nil => exact .refl s
  | cons w ws ih => exact (w.samePlace_on s).trans (ih (w.on s))

/-- What a file holds after one more write to it. -/
def extend (old : Option (List UInt8)) (w : Write) : Option (List UInt8) :=
  some (if w.append then old.getD [] ++ w.bytes else w.bytes)

/-- What a file holds after some writes is what the writes to it make of what it held before. -/
lemma fileAt?_after (names : List String) (s : Store) (ws : List Write) :
    (s.after ws).fileAt? names = (writesTo names s ws).foldl extend (s.fileAt? names) := by
  induction ws generalizing s with
  | nil => rfl
  | cons w ws ih =>
    change ((w.on s).after ws).fileAt? names = _
    rw [ih, writesTo, foldl_append]
    congr 1
    split_ifs with here
    · exact (Write.fileAt?_on_of_succeeds here.1 here.2).2
    · by_cases success : w.Succeeds s
      · exact Write.fileAt?_on_of_place?_ne fun leads => here ⟨success, leads⟩
      · exact Write.fileAt?_on_of_not_succeeds success names

variable {ws : List Write}

lemma inReach_of_writesTo (h : writesTo names s ws ≠ []) : s.InReach names := by
  induction ws generalizing s with
  | nil => exact absurd rfl h
  | cons w ws ih =>
    rw [writesTo] at h
    by_cases here : w.Succeeds s ∧ s.place? w.path = some names
    · exact (Write.fileAt?_on_of_succeeds here.1 here.2).1
    · rw [if_neg here] at h
      exact (w.samePlace_on s).symm.inReach (ih h)

end Store

/-- The last of some writes that write a file anew, and those after it; all of them if there is none. -/
def sinceOverwrite : List Write → List Write
  | [] => []
  | w :: ws => if ws.all (·.append) then w :: ws else sinceOverwrite ws

lemma sinceOverwrite_of_all (h : ws.all (·.append) = true) : sinceOverwrite ws = ws := by
  cases ws with
  | nil => rfl
  | cons w ws =>
    rw [all_cons, Bool.and_eq_true] at h
    rw [sinceOverwrite, if_pos h.2]

lemma foldl_extend (old : Option (List UInt8)) (ne : ws ≠ []) :
    ws.foldl Store.extend old = some
      ((if ws.all (·.append) then old.getD [] else []) ++ (sinceOverwrite ws).flatMap Write.bytes) := by
  induction ws generalizing old with
  | nil => exact absurd rfl ne
  | cons w ws ih =>
    rw [foldl_cons]
    by_cases last : ws = []
    · subst last
      cases append : w.append <;> simp [Store.extend, sinceOverwrite, append]
    · rw [ih _ last, sinceOverwrite]
      by_cases all : ws.all (·.append) = true
      · rw [sinceOverwrite_of_all all]
        cases append : w.append <;> simp [Store.extend, append, all]
      · simp [all]

lemma flatMap_bytes (ws : List Write) :
    ws.flatMap Write.bytes = Text.encode (ws.flatMap fun w => w.content.toList) := by
  rw [Text.encode, flatMap_assoc]
  rfl

lemma Entry.find?_append (e : Entry) (names rest : List String) :
    e.find? (names ++ rest) = (e.find? names).bind fun f => f.find? rest := by
  induction names generalizing e with
  | nil => simp [find?]
  | cons name names ih =>
    cases e with
    | file content => rfl
    | folder es =>
      rw [cons_append, find?, find?]
      cases lookup name es with
      | none => rfl
      | some f => exact ih f

namespace Store

/-! ### Reading -/

lemma lookAt_of_at? {path : String} {e : Entry} (leads : s.place? path = some names) (reach : s.InReach names)
    (here : s.at? names = some e) : s.lookAt path = .ok (some (names, e)) := by
  have short : names.findIdx? isTooLong = none := findIdx?_eq_none_iff.2 reach.short
  have found : s.look names = .ok (some e) := by
    rw [look, reach.near, short, here]
    rfl
  rw [lookAt, place?_eq_some_iff.1 leads]
  simp only [ok_bind, found]
  rfl

lemma read_of_fileAt? {path : String} {content : List UInt8} (leads : s.place? path = some names)
    (reach : s.InReach names) (file : s.fileAt? names = some content) :
    s.read path = .ofList (lenientText content) := by
  rw [read, lookAt_of_at? leads reach (at?_eq_file_iff.2 file)]
  rfl

lemma fileAt?_of_empty_home (empty : s.at? s.home = some (.folder [])) (inside : s.home <+: names) :
    s.fileAt? names = none := by
  obtain ⟨rest, rfl⟩ := inside
  rw [fileAt?_eq_none_iff, view_eq, at?, Entry.find?_append]
  rw [at?] at empty
  rw [empty]
  cases rest with
  | nil => simp [Entry.find?, Entry.surface]
  | cons name rest => simp [Entry.find?, Entry.lookup]

def emptyWork : Store := ⟨⟨"/", []⟩, ["work"], [("work", .folder [])]⟩

/-- Writes to one file under three paths, one below it that fails, and one to another file. -/
def aliasedWrites : List Write :=
  [⟨"a", "old", false⟩, ⟨"./n/../a", "x\r", false⟩, ⟨"a/b", "lost", false⟩, ⟨"/work/a", "\ny", true⟩,
    ⟨"b", "z", false⟩]

end Store

/-! ### How far paths reach -/

namespace Store

variable {other : List String} {t : Store} {path : String}
variable {content : String} {append : Bool}

/-- A home folder whose own names lead down, and can be looked for. -/
structure WellPlaced (s : Store) : Prop where
  base : ".." ∉ s.base.parts
  home : ".." ∉ s.home
  short : ∀ n ∈ s.home, isTooLong n = false

/-! ### Where a path leads -/

lemma normalize_of_not_mem {taken : List String} (down : ".." ∉ names) :
    normalize taken names = taken.reverse ++ names := by
  induction names generalizing taken with
  | nil => simp [normalize]
  | cons name names ih =>
    rw [mem_cons, not_or] at down
    rw [normalize, if_neg (Ne.symm down.1), ih down.2]
    simp

lemma place?_of_relative (placed : s.WellPlaced) (no_null : '\x00' ∉ path.toList)
    (relative : (Path.ofText path).root = "") (down : ".." ∉ (Path.ofText path).parts) :
    s.place? path = some (s.home ++ (Path.ofText path).parts) := by
  have all : ".." ∉ s.base.parts ++ s.home ++ (Path.ofText path).parts := by
    simp [placed.base, placed.home, down]
  have full : s.target (.ofText path) =
      ⟨s.base.root, s.base.parts ++ s.home ++ (Path.ofText path).parts⟩ := by
    rw [target, Path.join, if_pos relative, Path.join, if_pos rfl]
    rw [normalize_of_not_mem all]
    rfl
  have lead : s.base.parts <+: s.base.parts ++ s.home ++ (Path.ofText path).parts := by
    rw [append_assoc]
    exact prefix_append _ _
  rw [place?_eq_some_iff, resolve, if_neg (by simpa using no_null), full]
  dsimp only
  rw [if_pos ⟨rfl, lead⟩, append_assoc, drop_left]

/-! ### Writing -/

lemma view_above_folder (folder : s.view names = some .folder) (lead : other <+: names) :
    s.view other = some .folder := by
  obtain ⟨rest, rfl⟩ := lead
  by_contra h
  cases rest with
  | nil => exact h (by rwa [append_nil] at folder)
  | cons name rest =>
    have nothing : s.view (other ++ name :: rest) = none :=
      Entry.view_append_of_ne_folder h (by simp)
    rw [folder] at nothing
    cases nothing

/-- A place that a write changes is the one that its path leads to, or lies on the way to it and was
empty. In neither case it was a folder. -/
lemma view_write_ne
    (h : (s.write path content append).2.view other ≠ s.view other) :
    s.view other ≠ some .folder ∧ ∃ names, s.place? path = some names ∧ other <+: names := by
  rw [write_snd] at h
  cases outcome : s.change path content append with
  | ok t =>
    rw [outcome] at h
    obtain ⟨names, leads, -, written⟩ := change_eq_ok outcome
    by_cases here : other = names
    · subst here
      exact ⟨written.free, other, leads, prefix_refl _⟩
    · rcases written.elsewhere other here with same | ⟨empty, -, lead⟩
      · exact absurd same h
      · exact ⟨by simp [empty], names, leads, lead⟩
  | error e =>
    rw [outcome] at h
    rcases change_eq_error outcome with same | ⟨names, leads, grown⟩
    · exact absurd (by rw [left, same]) h
    · rcases grown.view other with same | ⟨empty, -, lead⟩
      · exact absurd same h
      · exact ⟨by simp [empty], names, leads, lead⟩

lemma below_home_of_view_write_ne (leads : s.place? path = some names)
    (inside : s.home <+: names) (folder : s.view s.home = some .folder)
    (h : (s.write path content append).2.view other ≠ s.view other) : s.home <+: other ∧ other ≠ s.home := by
  obtain ⟨free, names', leads', lead⟩ := view_write_ne h
  obtain rfl : names' = names := by simpa [leads'] using leads
  -- The two are on one way; above the home folder there are only folders.
  have above : ¬ other <+: s.home := fun above => free (view_above_folder folder above)
  refine ⟨?_, fun same => above (same ▸ prefix_refl _)⟩
  rcases prefix_or_prefix_of_prefix inside lead with below | leading
  · exact below
  · exact absurd leading above

/-! ### Reading and listing -/

lemma at?_of_home (same : t.at? s.home = s.at? s.home) (inside : s.home <+: names) :
    t.at? names = s.at? names := by
  obtain ⟨rest, rfl⟩ := inside
  rw [at?, at?, Entry.find?_append, Entry.find?_append]
  rw [at?, at?] at same
  rw [same]

lemma look_of_home (placed : s.WellPlaced) (place : SamePlace s t) (same : t.at? s.home = s.at? s.home)
    (inside : s.home <+: names) : t.look names = s.look names := by
  rw [look, look, place.isFar, place.pathText, at?_of_home same inside]
  cases long : names.findIdx? isTooLong with
  | none => rfl
  | some i =>
    -- The first name that is too long is not one of the names of the home folder.
    have later : s.home <+: names.take i := by
      obtain ⟨rest, rfl⟩ := inside
      rw [findIdx?_append, findIdx?_eq_none_iff.2 placed.short, Option.none_or,
        Option.map_eq_some_iff] at long
      obtain ⟨j, -, rfl⟩ := long
      rw [Nat.add_comm, take_length_add_append]
      exact prefix_append _ _
    dsimp only
    rw [at?_of_home same later]

lemma lookAt_of_home (placed : s.WellPlaced) (place : SamePlace s t) (same : t.at? s.home = s.at? s.home)
    (leads : s.place? path = some names) (inside : s.home <+: names) : t.lookAt path = s.lookAt path := by
  rw [lookAt, lookAt, place.resolve, place?_eq_some_iff.1 leads]
  dsimp only [bind, Except.bind]
  rw [look_of_home placed place same inside]

/-- Reading and listing use nothing of a store but what a path finds and how places are written. -/
lemma read_of_lookAt (place : SamePlace s t) (same : t.lookAt path = s.lookAt path) :
    t.read path = s.read path := by
  have text : t.pathText = s.pathText := funext place.pathText
  rw [read, read, same, text]

lemma list_of_lookAt (same : t.lookAt path = s.lookAt path) (recursive : Bool) :
    t.list path recursive = s.list path recursive := by
  rw [list, list, same]

/-! ### The reach of a path -/

def workBesideFile : Store :=
  ⟨⟨"/", []⟩, ["work"], [("work", .folder []), ("x", .file (Text.encode "out".toList))]⟩

end Store

end Unbundle.Files

namespace Unbundle.Files.Store

/-! ## Listings of a folder -/

variable {s : Store} {x name : String} {e : Entry} {es : List (String × Entry)} {names : List String}

/-! ### Files below an entry -/

/-- The paths of the files that an entry of a folder is or holds. -/
def filesAt : String × Entry → List String
  | (name, .file _) => [name]
  | (name, .folder es) => (filesAmong "" es).map (name ++ "/" ++ ·)

lemma filesAmong_eq (above : String) (es : List (String × Entry)) :
    filesAmong above es = (es.flatMap filesAt).map (above ++ ·) := by
  suffices ∀ (e : Entry) es, e = .folder es → ∀ above, filesAmong above es = (es.flatMap filesAt).map (above ++ ·) from
    this _ es rfl above
  intro e
  induction e using Entry.induction with
  | file content => nofun
  | folder es ih =>
    rintro _ ⟨⟩ above
    induction es with
    | nil => simp [filesAmong]
    | cons p es ih' =>
      rw [filesAmong, ih' fun q hq => ih q (mem_cons_of_mem p hq)]
      obtain ⟨name, content | inner⟩ := p
      · rfl
      · have below := ih _ mem_cons_self inner rfl
        simp [Entry.isFolder, filesBelow, filesAt, below, String.append_assoc]

lemma mem_filesAmong_iff : x ∈ filesAmong "" es ↔ ∃ p ∈ es, x ∈ filesAt p := by
  simp [filesAmong_eq]

lemma mem_filesAt_iff : x ∈ filesAt (name, e) ↔ ∃ rest content,
    e.Holds rest (.file content) ∧ x = .intercalate "/" (name :: rest) := by
  induction e using Entry.induction generalizing x name with
  | file content =>
    constructor
    · intro h
      exact ⟨[], content, .here _, by simpa [filesAt] using h⟩
    · rintro ⟨_, _, ⟨⟩, rfl⟩
      simp [filesAt]
  | folder es ih =>
    simp only [filesAt, mem_map, mem_filesAmong_iff]
    constructor
    · rintro ⟨y, ⟨p, member, h⟩, rfl⟩
      obtain ⟨rest, content, holds, rfl⟩ := (ih p member).1 h
      exact ⟨p.1 :: rest, content, .step member holds, by simp⟩
    · rintro ⟨_, content, _ | ⟨member, holds⟩, rfl⟩
      exact ⟨_, ⟨_, member, (ih _ member).2 ⟨_, content, holds, rfl⟩⟩, by simp⟩

lemma takeWhile_of_mem_filesAt (valid : IsName name) (h : x ∈ filesAt (name, e)) :
    x.toList.takeWhile (· != '/') = name.toList := by
  have plain : ∀ c ∈ name.toList, (c != '/') = true := fun c hc => bne_iff_ne.2 fun same => valid.no_slash (same ▸ hc)
  cases e with
  | file content =>
    obtain rfl : x = name := by simpa [filesAt] using h
    exact takeWhile_eq_self_iff.2 plain
  | folder es =>
    obtain ⟨y, -, rfl⟩ := mem_map.1 h
    rw [String.append_assoc, String.toList_append, takeWhile_append_of_pos plain]
    simp

lemma nodup_filesAmong (tree : (Entry.folder es).WellFormed) : (filesAmong "" es).Nodup := by
  suffices ∀ (e : Entry) es, e = .folder es → e.WellFormed → (filesAmong "" es).Nodup from this _ es rfl tree
  intro e
  induction e using Entry.induction with
  | file content => nofun
  | folder es ih =>
    rintro _ ⟨⟩ (_ | ⟨distinct, valid, entries⟩)
    simp only [filesAmong_eq, String.empty_append, map_id']
    refine nodup_flatMap.2 ⟨?_, (pairwise_map.1 distinct).imp_of_mem ?_⟩
    · rintro ⟨name, content | inner⟩ member
      · exact nodup_singleton _
      · exact (ih _ member inner rfl (entries _ member)).map fun a b => (String.append_right_inj _).1
    · rintro ⟨n, e⟩ ⟨m, f⟩ member member' ne x hx hx'
      have same := (takeWhile_of_mem_filesAt (valid _ member) hx).symm.trans
        (takeWhile_of_mem_filesAt (valid _ member') hx')
      exact ne (String.toList_inj.1 same)

/-! ### The two listings -/

lemma mem_names_iff (valid : ∀ p ∈ es, IsName p.1) :
    x ∈ Store.names es ∧ x.toList.getLast? ≠ some '/' ↔ ∃ content, (x, .file content) ∈ es := by
  rw [Store.names, mem_map]
  constructor
  · rintro ⟨⟨⟨name, content | inner⟩, member, rfl⟩, plain⟩
    · exact ⟨content, member⟩
    · simp [Entry.isFolder] at plain
  · rintro ⟨content, member⟩
    exact ⟨⟨_, member, rfl⟩, fun last => (valid _ member).no_slash (mem_of_getLast? last)⟩

lemma slash_mem_names_iff (valid : ∀ p ∈ es, IsName p.1) :
    name ++ "/" ∈ Store.names es ↔ ∃ inner, (name, .folder inner) ∈ es := by
  rw [Store.names, mem_map]
  constructor
  · rintro ⟨⟨n, content | inner⟩, member, same⟩
    · obtain rfl : n = name ++ "/" := same
      exact absurd (by simp) (valid _ member).no_slash
    · exact ⟨inner, (String.append_left_inj _).1 same ▸ member⟩
  · rintro ⟨inner, member⟩
    exact ⟨_, member, rfl⟩

lemma place?_intercalate (placed : s.WellPlaced) (valid : ∀ n ∈ names, IsName n) :
    s.place? (.intercalate "/" names) = some (s.home ++ names) := by
  have read := ofText_intercalate valid
  have no_null : '\x00' ∉ (String.intercalate "/" names).toList := by
    intro h
    rcases Location.mem_intercalate h with h | ⟨n, hn, h⟩
    · exact absurd h (by decide)
    · exact (valid n hn).no_null h
  have leads := place?_of_relative placed no_null (congrArg Path.root read) (by
    rw [read]
    exact fun h => (valid _ h).ne_above rfl)
  rwa [read] at leads

/-- A store on a well formed tree, all of whose entries can be looked for. -/
structure WellFormed (s : Store) : Prop extends s.WellPlaced where
  tree : (Entry.folder s.entries).WellFormed
  reach : ∀ names e, s.at? names = some e → s.InReach names

lemma list_of_folder (valid : s.WellFormed) (folder : s.at? (s.home ++ names) = some (.folder es)) (all : Bool) :
    s.list (.intercalate "/" names) all =
      .ok ((if all then filesAmong "" es else Store.names es).mergeSort fun a b => decide (a ≤ b)) := by
  have isName := valid.tree.isName_of_holds (valid.tree.find?_eq_some_iff.1 folder)
  have leads := place?_intercalate valid.toWellPlaced fun n hn => isName n (mem_append_right _ hn)
  rw [list, lookAt_of_at? leads (valid.reach _ _ folder) folder]
  rfl

/-- A folder with a file in it, beside a file whose name goes on where that of the folder ends. -/
def dashed : Store := ⟨⟨"/", []⟩, [], [("a", .folder [("x", .file [])]), ("a-b", .file [])]⟩

lemma dashed_wellFormed : dashed.WellFormed := by
  have tree : (Entry.folder dashed.entries).WellFormed :=
    .folder (by decide) (by decide) (by
      simp only [dashed, forall_mem_cons]
      exact ⟨.folder (by decide) (by decide) (by simp [Entry.WellFormed.file]), .file _, by simp⟩)
  refine ⟨⟨by decide, by decide, by decide⟩, tree, fun names e here => ?_⟩
  rcases tree.find?_eq_some_iff.1 here with _ | ⟨member, holds⟩
  · exact ⟨by decide, by simp⟩
  · simp only [dashed, mem_cons, not_mem_nil, or_false] at member
    rcases member with ⟨rfl, rfl⟩ | ⟨rfl, rfl⟩
    · rcases holds with _ | ⟨member, holds⟩
      · exact ⟨by decide, by decide⟩
      · obtain ⟨rfl, rfl⟩ := Prod.mk.inj (mem_singleton.1 member)
        cases holds
        exact ⟨by decide, by decide⟩
    · cases holds
      exact ⟨by decide, by decide⟩

end Unbundle.Files.Store
