import Mathlib.Data.List.Nodup
import Mathlib.Tactic.Common
import Unbundle.Json.Write
import Unbundle.Proofs.Outcome

/-!
# Conversions

A conversion goes through lists and maps and leaves their shape as it is: only what is plain is changed.
-/

open List

namespace Unbundle.Value

/-! ## Fields of maps -/

variable {fs : List (String × Value)} {v w : Value} {k : String}

/-! ### Looking up -/

lemma mem_of_lookup (found : lookup k fs = some v) : (k, v) ∈ fs := by
  induction fs with
  | nil => cases found
  | cons f fs ih =>
    rw [lookup] at found
    split_ifs at found with same
    · obtain rfl := Option.some.inj found
      exact same ▸ mem_cons_self
    · exact mem_cons_of_mem f (ih found)

lemma lookup_of_mem (distinct : (fs.map Prod.fst).Nodup) (mem : (k, v) ∈ fs) : lookup k fs = some v := by
  induction fs with
  | nil => cases mem
  | cons f fs ih =>
    obtain ⟨fresh, distinct⟩ := nodup_cons.1 distinct
    rw [lookup]
    rcases mem_cons.1 mem with rfl | mem
    · exact if_pos rfl
    · have other : f.1 ≠ k := fun same => fresh (same ▸ mem_map_of_mem mem)
      rw [if_neg other, ih distinct mem]

lemma field_eq_ok (h : v.field k = .ok w) : ∃ fs, v = .map fs ∧ lookup k fs = some w := by
  cases v with
  | map fs =>
    change (lookup k fs).elim (.error (Fault.missingKey (.text k))) Except.ok = _ at h
    cases found : lookup k fs with
    | none =>
      rw [found] at h
      cases h
    | some x =>
      rw [found] at h
      exact ⟨fs, rfl, by rw [found, Except.ok.inj h]⟩
  | _ => cases h

lemma field_of_lookup (found : lookup k fs = some v) : (map fs).field k = .ok v := by
  change (lookup k fs).elim (.error (Fault.missingKey (.text k))) Except.ok = _
  rw [found]
  rfl

lemma field_of_getD {default : Value} (found : v.getD k default = .ok w) (other : w ≠ default) :
    v.field k = .ok w := by
  cases v with
  | map fs =>
    have found : (lookup k fs).getD default = w := Except.ok.inj found
    cases there : lookup k fs with
    | none =>
      rw [there] at found
      exact absurd found.symm other
    | some x =>
      rw [there, Option.getD_some] at found
      rw [field_of_lookup there, found]
  | _ => cases found

lemma getD_of_field {default : Value} (found : v.field k = .ok w) : v.getD k default = .ok w := by
  obtain ⟨fs, rfl, there⟩ := field_eq_ok found
  rw [getD, there]
  rfl

lemma fields_eq_ok (h : v.fields = .ok fs) : v = .map fs := by
  cases v with
  | map gs => rw [Except.ok.inj h]
  | _ => cases h

/-! ### Setting -/

lemma put_of_not_mem (fresh : k ∉ fs.map Prod.fst) : put k v fs = fs ++ [(k, v)] := by
  induction fs with
  | nil => rfl
  | cons f fs ih =>
    rw [map_cons, mem_cons, not_or] at fresh
    rw [put, if_neg (Ne.symm fresh.1), ih fresh.2, cons_append]

lemma mem_put {f : String × Value} (h : f ∈ put k v fs) : f = (k, v) ∨ f ∈ fs := by
  induction fs with
  | nil => exact .inl (mem_singleton.1 h)
  | cons g fs ih =>
    rw [put] at h
    split_ifs at h with same
    all_goals rcases mem_cons.1 h with rfl | h
    · exact .inl (by rw [same])
    · exact .inr (mem_cons_of_mem _ h)
    · exact .inr mem_cons_self
    · exact (ih h).imp_right (mem_cons_of_mem _)

@[simp] lemma lookup_put_self : lookup k (put k v fs) = some v := by
  induction fs with
  | nil => simp [put, lookup]
  | cons g fs ih =>
    rw [put]
    split_ifs with same
    · rw [lookup, if_pos same]
    · rw [lookup, if_neg same, ih]

lemma lookup_put_of_ne {name : String} (other : name ≠ k) : lookup name (put k v fs) = lookup name fs := by
  induction fs with
  | nil => simp [put, lookup, other.symm]
  | cons g fs ih =>
    rw [put]
    split_ifs with same
    · rw [lookup, lookup, if_neg (same ▸ other.symm), if_neg (same ▸ other.symm)]
    · rw [lookup, lookup, ih]

lemma nodup_put (distinct : (fs.map Prod.fst).Nodup) : ((put k v fs).map Prod.fst).Nodup := by
  induction fs with
  | nil => exact nodup_singleton k
  | cons g fs ih =>
    obtain ⟨fresh, distinct⟩ := nodup_cons.1 distinct
    rw [put]
    split_ifs with same
    · exact nodup_cons.2 ⟨fresh, distinct⟩
    · refine nodup_cons.2 ⟨fun mem => ?_, ih distinct⟩
      obtain ⟨f, hf, name⟩ := mem_map.1 mem
      rcases mem_put hf with rfl | hf
      · exact same name.symm
      · exact fresh (mem_map.2 ⟨f, hf, name⟩)

/-! ### Whole numbers -/

lemma related_int (r : Relation) (m n : Int) :
    (int m).related r (.int n) = .ok (r.holds (compare m n)) := by
  have sizes : Numeric.compare? (.finite (m < 0) ⟨m.natAbs, 1⟩) (.finite (n < 0) ⟨n.natAbs, 1⟩) =
      some (compare m n) := by
    by_cases hm : m < 0 <;> by_cases hn : n < 0 <;>
      simp only [Numeric.compare?, Numeric.compareSize, hm, hn, decide_true, decide_false,
        Int.compare_eq_ite_lt, Nat.compare_eq_ite_lt, Nat.mul_one] <;> grind
  simp only [related, numeric?, sizes]

lemma related_le (m n : Int) : (int m).related .le (.int n) = .ok (decide (m ≤ n)) := by
  rw [related_int, Relation.holds, Int.compare_eq_ite_lt]
  congr 1
  grind

lemma related_lt (m n : Int) : (int m).related .lt (.int n) = .ok (decide (m < n)) := by
  rw [related_int, Relation.holds, Int.compare_eq_ite_lt]
  congr 1
  grind

/-! ### What is inside a value -/

variable {P Q : Value → Prop}
variable {xs : List Value}

def IsPlain (v : Value) : Prop := (∀ xs, v ≠ .list xs) ∧ ∀ fs, v ≠ .map fs

/-- A property holds of a value and of all values in its lists and maps. -/
inductive Every (P : Value → Prop) : Value → Prop
  | list {xs : List Value} (here : P (.list xs)) (items : ∀ x ∈ xs, Every P x) : Every P (.list xs)
  | map {fs : List (String × Value)} (here : P (.map fs)) (fields : ∀ f ∈ fs, Every P f.2) :
      Every P (.map fs)
  | plain {v : Value} (here : P v) (plain : v.IsPlain) : Every P v

@[simp] lemma every_list :
    (list xs).Every P ↔ P (.list xs) ∧ ∀ x ∈ xs, x.Every P := by
  constructor
  · rintro (⟨here, items⟩ | _ | ⟨_, plain⟩)
    · exact ⟨here, items⟩
    · exact absurd rfl (plain.1 xs)
  · rintro ⟨here, items⟩
    exact .list here items

@[simp] lemma every_map :
    (map fs).Every P ↔ P (.map fs) ∧ ∀ f ∈ fs, f.2.Every P := by
  constructor
  · rintro (_ | ⟨here, fields⟩ | ⟨_, plain⟩)
    · exact ⟨here, fields⟩
    · exact absurd rfl (plain.2 fs)
  · rintro ⟨here, fields⟩
    exact .map here fields

lemma every_of_isPlain (plain : v.IsPlain) : v.Every P ↔ P v := by
  constructor
  · intro h
    cases h with
    | list here _ => exact here
    | map here _ => exact here
    | plain here _ => exact here
  · exact fun here => .plain here plain

@[simp] lemma every_text {s : String} : (text s).Every P ↔ P (.text s) :=
  every_of_isPlain ⟨by simp, by simp⟩

@[simp] lemma every_int {n : Int} : (int n).Every P ↔ P (.int n) :=
  every_of_isPlain ⟨by simp, by simp⟩

@[simp] lemma every_bool {b : Bool} : (bool b).Every P ↔ P (.bool b) :=
  every_of_isPlain ⟨by simp, by simp⟩

@[simp] lemma every_null : null.Every P ↔ P .null :=
  every_of_isPlain ⟨by simp, by simp⟩

lemma Every.and (p : v.Every P) (q : v.Every Q) : v.Every fun w => P w ∧ Q w := by
  induction p with
  | list here items ih =>
    rw [every_list] at q ⊢
    exact ⟨⟨here, q.1⟩, fun x hx => ih x hx (q.2 x hx)⟩
  | map here fields ih =>
    rw [every_map] at q ⊢
    exact ⟨⟨here, q.1⟩, fun f hf => ih f hf (q.2 f hf)⟩
  | plain here plain =>
    rw [every_of_isPlain plain] at q ⊢
    exact ⟨here, q⟩

/-- A property of texts, whole numbers, flags, nothing, lists and maps of distinct fields. -/
structure Ordinary (P : Value → Prop) : Prop where
  text : ∀ s, P (.text s)
  int : ∀ n, P (.int n)
  bool : ∀ b, P (.bool b)
  null : P .null
  list : ∀ xs, P (.list xs)
  map : ∀ {fs}, (fs.map Prod.fst).Nodup → P (.map fs)

/-- No floating-point number is inside a value. -/
def FloatFree (v : Value) : Prop := v.Every fun w => ∀ x, w ≠ .float x

lemma ordinary_floatFree : Ordinary fun w => ∀ x, w ≠ .float x := by
  constructor <;> simp

/-- The fields of each map inside a value have different names. -/
def DistinctFields (v : Value) : Prop :=
  v.Every fun w => ∀ fs, w = .map fs → (fs.map Prod.fst).Nodup

lemma ordinary_distinctFields :
    Ordinary fun w => ∀ fs, w = .map fs → (fs.map Prod.fst).Nodup := by
  constructor <;> simp

lemma distinctFields_list :
    (list xs).DistinctFields ↔ ∀ x ∈ xs, x.DistinctFields := by
  simp [DistinctFields]

lemma distinctFields_map :
    (map fs).DistinctFields ↔ (fs.map Prod.fst).Nodup ∧ ∀ f ∈ fs, f.2.DistinctFields := by
  simp [DistinctFields]

lemma distinctFields_of_isPlain (plain : v.IsPlain) : v.DistinctFields :=
  (every_of_isPlain plain).2 fun fs h => absurd h (plain.2 fs)

/-! ### Depth -/

mutual

/-- How many lists and maps are inside one another. -/
def depth : Value → Nat
  | .list xs => depthItems xs + 1
  | .map fs => depthFields fs + 1
  | _ => 0

def depthItems : List Value → Nat
  | [] => 0
  | x :: xs => max (depth x) (depthItems xs)

def depthFields : List (String × Value) → Nat
  | [] => 0
  | (_, x) :: fs => max (depth x) (depthFields fs)

end

lemma depth_of_isPlain (plain : v.IsPlain) : v.depth = 0 := by
  cases v <;> simp_all [depth, IsPlain]

/-! ## Conversions -/

variable {R : Value → Value → Prop} {f : Value → Except Fault Value} {gs : List (String × Value)}

/-- Maps of the same fields in the same order, each related to its counterpart. -/
def Fieldwise (R : Value → Value → Prop) : List (String × Value) → List (String × Value) → Prop :=
  List.Forall₂ fun p q => p.1 = q.1 ∧ R p.2 q.2

lemma Fieldwise.flip (each : Fieldwise R fs gs) : Fieldwise (fun x y => R y x) gs fs :=
  Forall₂.flip (each.imp fun _ _ h => ⟨h.1.symm, h.2⟩)

lemma Fieldwise.map_fst (each : Fieldwise R fs gs) : gs.map Prod.fst = fs.map Prod.fst := by
  induction each with
  | nil => rfl
  | cons here _ ih => rw [map_cons, map_cons, here.1, ih]

lemma Fieldwise.lookup (each : Fieldwise R fs gs) (found : lookup k fs = some v) :
    ∃ w, R v w ∧ Value.lookup k gs = some w := by
  induction each with
  | nil => cases found
  | @cons p q _ _ here _ ih =>
    rw [Value.lookup] at found ⊢
    rw [← here.1]
    split_ifs at found ⊢ with same
    · cases found
      exact ⟨q.2, here.2, rfl⟩
    · exact ih found

lemma Fieldwise.erase (each : Fieldwise R fs gs) : Fieldwise R (erase k fs) (erase k gs) :=
  rel_filter (fun _ _ h => by simp [h.1]) each

lemma exists_fieldwise_iff : (∃ gs, Fieldwise R fs gs) ↔ ∀ p ∈ fs, ∃ w, R p.2 w := by
  refine exists_forall₂_iff.trans (forall₂_congr fun p _ => ?_)
  exact ⟨fun h => h.imp' Prod.snd fun _ => And.right, fun h => h.imp' (.mk p.1) fun _ => .intro rfl⟩

/-- A computation on values that goes through lists and maps, and makes nothing plain into one of these. -/
structure IsConversion (f : Value → Except Fault Value) : Prop where
  list : ∀ xs, f (.list xs) = do return .list (← xs.mapM f)
  map : ∀ fs, f (.map fs) = do return .map (← fs.mapM fun p => do return (p.1, ← f p.2))
  plain : ∀ {v w}, v.IsPlain → f v = .ok w → w.IsPlain

lemma mapM_fields_eq_ok_iff : (fs.mapM fun p => do return (p.1, ← f p.2)) = .ok gs ↔
    Fieldwise (fun x y => f x = .ok y) fs gs := by
  have one (p q : String × Value) : (do return (p.1, ← f p.2)) = .ok q ↔ p.1 = q.1 ∧ f p.2 = .ok q.2 := by
    rw [bind_eq_ok_iff]
    constructor
    · rintro ⟨y, converted, ⟨⟩⟩
      exact ⟨rfl, converted⟩
    · rintro ⟨same, converted⟩
      exact ⟨q.2, converted, pure_eq_ok_iff.2 (Prod.ext same rfl)⟩
  simp only [mapM_eq_ok_iff, one, Fieldwise]

lemma exists_bind_pure_iff {ε α β : Type} {x : Except ε α} {f : α → β} :
    (∃ b, (x >>= fun a => pure (f a)) = .ok b) ↔ ∃ a, x = .ok a := by
  cases x with
  | error e => simp [bind, Except.bind]
  | ok a => simp [bind, Except.bind, pure, Except.pure]

namespace IsConversion

lemma list_eq_ok_iff (c : IsConversion f) :
    f (.list xs) = .ok w ↔ ∃ ys, Forall₂ (fun x y => f x = .ok y) xs ys ∧ .list ys = w := by
  simp only [c.list, bind_eq_ok_iff, mapM_eq_ok_iff, pure_eq_ok_iff]

lemma map_eq_ok_iff (c : IsConversion f) :
    f (.map fs) = .ok w ↔ ∃ gs, Fieldwise (fun x y => f x = .ok y) fs gs ∧ .map gs = w := by
  simp only [c.map, bind_eq_ok_iff, mapM_fields_eq_ok_iff, pure_eq_ok_iff]

/-- What holds of plain values and what they are converted to, and passes from the parts to lists and maps, holds
of every value that is converted. -/
lemma induction {motive : Value → Value → Prop} (c : IsConversion f)
    (list : ∀ {xs ys}, P (.list xs) → Forall₂ motive xs ys → motive (.list xs) (.list ys))
    (map : ∀ {fs gs}, P (.map fs) → Fieldwise motive fs gs → motive (.map fs) (.map gs))
    (plain : ∀ {v w}, P v → v.IsPlain → f v = .ok w → motive v w)
    (every : v.Every P) (converted : f v = .ok w) : motive v w := by
  induction every generalizing w with
  | list here _ ih =>
    obtain ⟨ys, each, rfl⟩ := c.list_eq_ok_iff.1 converted
    exact list here (((forall₂_and_left _ _).2 ⟨fun x mem w => @ih x mem w, each⟩).imp fun _ y h => h.1 y h.2)
  | map here _ ih =>
    obtain ⟨gs, each, rfl⟩ := c.map_eq_ok_iff.1 converted
    exact map here (((forall₂_and_left _ _).2 ⟨fun p mem w => @ih p mem w, each⟩).imp
      fun _ q h => ⟨h.2.1, h.1 q.2 h.2.2⟩)
  | plain here isPlain => exact plain here isPlain converted

lemma depth_eq (c : IsConversion f) (every : v.Every P) (converted : f v = .ok w) : w.depth = v.depth := by
  refine c.induction (motive := fun v w => w.depth = v.depth) (fun _ each => ?_) (fun _ each => ?_)
    (fun _ isPlain converted => ?_) every converted
  · suffices ∀ {xs ys : List Value}, Forall₂ (fun x y => y.depth = x.depth) xs ys → depthItems ys = depthItems xs from
      congrArg (· + 1) (this each)
    intro xs ys each
    induction each with
    | nil => rfl
    | cons here _ ih => rw [depthItems, depthItems, here, ih]
  · suffices ∀ {fs gs}, Fieldwise (fun x y => y.depth = x.depth) fs gs → depthFields gs = depthFields fs from
      congrArg (· + 1) (this each)
    intro fs gs each
    induction each with
    | nil => rfl
    | cons here _ ih => rw [depthFields, depthFields, here.2, ih]
  · rw [depth_of_isPlain isPlain, depth_of_isPlain (c.plain isPlain converted)]

/-- A property of values that becomes another one of what they are converted to. -/
lemma every (c : IsConversion f) (list : ∀ ys, Q (.list ys))
    (map : ∀ {fs gs}, P (.map fs) → gs.map Prod.fst = fs.map Prod.fst → Q (.map gs))
    (plain : ∀ {v w}, P v → v.IsPlain → f v = .ok w → Q w) (every : v.Every P) (converted : f v = .ok w) : w.Every Q := by
  refine c.induction (motive := fun _ w => w.Every Q) (fun _ each => ?_) (fun here each => ?_)
    (fun here isPlain converted => ?_) every converted
  · refine .list (list _) fun y mem => ?_
    obtain ⟨x, -, holds⟩ := exists_left_of_forall₂ each mem
    exact holds
  · refine .map (map here each.map_fst) fun q mem => ?_
    obtain ⟨p, -, holds⟩ := exists_left_of_forall₂ each mem
    exact holds.2
  · exact .plain (plain here isPlain converted) (c.plain isPlain converted)

lemma exists_list_iff (c : IsConversion f) : (∃ w, f (.list xs) = .ok w) ↔ ∀ x ∈ xs, ∃ w, f x = .ok w := by
  rw [c.list]
  exact exists_bind_pure_iff.trans exists_mapM_iff

lemma exists_map_iff (c : IsConversion f) : (∃ w, f (.map fs) = .ok w) ↔ ∀ p ∈ fs, ∃ w, f p.2 = .ok w := by
  rw [c.map]
  refine exists_bind_pure_iff.trans (exists_mapM_iff.trans ?_)
  exact forall₂_congr fun p _ => exists_bind_pure_iff

/-- A value is converted if all that is plain in it is. -/
lemma exists_ok (c : IsConversion f) (every : v.Every P) (plain : ∀ {v}, P v → v.IsPlain → ∃ w, f v = .ok w) :
    ∃ w, f v = .ok w := by
  induction every with
  | list _ _ ih => exact c.exists_list_iff.2 ih
  | map _ _ ih => exact c.exists_map_iff.2 ih
  | plain here isPlain => exact plain here isPlain

/-- A value is converted to one that is related to it, if so is all that is plain in it. -/
lemma exists_iff (c : IsConversion f)
    (list : ∀ {xs ys}, Forall₂ (fun x y => f x = .ok y) xs ys → (R (.list xs) (.list ys) ↔ Forall₂ R xs ys))
    (map : ∀ {fs gs}, Fieldwise (fun x y => f x = .ok y) fs gs → (R (.map fs) (.map gs) ↔ Fieldwise R fs gs))
    (open_list : ∀ xs, Q (.list xs)) (open_map : ∀ {fs}, P (.map fs) → Q (.map fs))
    (plain : ∀ {v}, P v → v.IsPlain → ((∃ w, f v = .ok w ∧ R v w) ↔ Q v)) (every : v.Every P) :
    (∃ w, f v = .ok w ∧ R v w) ↔ v.Every Q := by
  induction every with
  | @list xs _ _ ih =>
    have parts : (∃ w, f (.list xs) = .ok w ∧ R (.list xs) w) ↔
        ∃ ys, Forall₂ (fun x y => f x = .ok y ∧ R x y) xs ys := by
      constructor
      · rintro ⟨w, converted, holds⟩
        obtain ⟨ys, each, rfl⟩ := c.list_eq_ok_iff.1 converted
        exact ⟨ys, .mp (fun _ _ => .intro) each ((list each).1 holds)⟩
      · rintro ⟨ys, both⟩
        have each := both.imp fun _ _ => And.left
        exact ⟨_, c.list_eq_ok_iff.2 ⟨ys, each, rfl⟩, (list each).2 (both.imp fun _ _ => And.right)⟩
    rw [parts, exists_forall₂_iff, every_list, and_iff_right (open_list xs)]
    exact forall₂_congr ih
  | @map fs here _ ih =>
    have parts : (∃ w, f (.map fs) = .ok w ∧ R (.map fs) w) ↔
        ∃ gs, Fieldwise (fun x y => f x = .ok y ∧ R x y) fs gs := by
      constructor
      · rintro ⟨w, converted, holds⟩
        obtain ⟨gs, each, rfl⟩ := c.map_eq_ok_iff.1 converted
        exact ⟨gs, .mp (fun _ _ a b => ⟨a.1, a.2, b.2⟩) each ((map each).1 holds)⟩
      · rintro ⟨gs, both⟩
        have each : Fieldwise (fun x y => f x = .ok y) fs gs := both.imp fun _ _ h => ⟨h.1, h.2.1⟩
        exact ⟨_, c.map_eq_ok_iff.2 ⟨gs, each, rfl⟩, (map each).2 (both.imp fun _ _ h => ⟨h.1, h.2.2⟩)⟩
    rw [parts, exists_fieldwise_iff, every_map, and_iff_right (open_map here)]
    exact forall₂_congr ih
  | plain here isPlain => rw [plain here isPlain, every_of_isPlain isPlain]

lemma exists_every_iff {S : Value → Prop} (c : IsConversion f) (list : ∀ xs, S (.list xs) ∧ Q (.list xs))
    (map : ∀ fs, S (.map fs) ∧ Q (.map fs)) (plain : ∀ {v}, P v → v.IsPlain → ((∃ w, f v = .ok w ∧ S w) ↔ Q v))
    (every : v.Every P) : (∃ w, f v = .ok w ∧ w.Every S) ↔ v.Every Q := by
  refine c.exists_iff (R := fun _ w => w.Every S) (fun each => ?_) (fun each => ?_) (fun xs => (list xs).2)
    (fun _ => (map _).2) (fun here isPlain => ?_) every
  · rw [every_list, and_iff_right (list _).1]
    induction each with
    | nil => simp
    | cons _ _ ih => rw [forall_mem_cons, forall₂_cons, ih]
  · rw [every_map, and_iff_right (map _).1]
    induction each with
    | nil => simp [Fieldwise]
    | cons here _ ih => rw [forall_mem_cons, Fieldwise, forall₂_cons, ih, and_iff_right here.1, Fieldwise]
  · rw [← plain here isPlain]
    exact exists_congr fun w => and_congr_right fun converted => every_of_isPlain (c.plain isPlain converted)

end IsConversion

/-! ### Plain and stored forms -/

lemma ofDecimal_eq_ok {d : Number.Decimal} (h : ofDecimal d = .ok w) : (∃ n, w = .int n) ∨ ∃ x, w = .float x := by
  rw [ofDecimal] at h
  split at h
  · cases h
  · exact .inl ⟨_, (Except.ok.inj h).symm⟩
  · split at h
    · exact .inr ⟨_, (Except.ok.inj h).symm⟩
    · cases h

lemma items_eq_mapM {items : List Value → Except Fault (List Value)} (nil : items [] = .ok [])
    (cons : ∀ x xs, items (x :: xs) = do return (← f x) :: (← items xs)) (xs : List Value) : items xs = xs.mapM f := by
  induction xs with
  | nil => exact nil
  | cons x xs ih => rw [cons, mapM_cons, ih]

lemma fields_eq_mapM {fields : List (String × Value) → Except Fault (List (String × Value))} (nil : fields [] = .ok [])
    (cons : ∀ p fs, fields (p :: fs) = do return (p.1, ← f p.2) :: (← fields fs)) (fs : List (String × Value)) :
    fields fs = fs.mapM fun p => do return (p.1, ← f p.2) := by
  induction fs with
  | nil => exact nil
  | cons p fs ih =>
    rw [cons, mapM_cons, ih]
    simp only [bind_assoc, pure_bind]

lemma plainFields_eq_mapM : plainFields = List.mapM fun p => do return (p.1, ← plain p.2) :=
  funext (fields_eq_mapM rfl fun _ _ => rfl)

lemma isConversion_plain : IsConversion plain where
  list xs := by rw [plain, show plainItems = mapM plain from funext (items_eq_mapM rfl fun _ _ => rfl)]
  map fs := by rw [plain, plainFields_eq_mapM]
  plain {v w} isPlain converted := by
    cases v with
    | list _ | map _ => simp [IsPlain] at isPlain
    | decimal d =>
      obtain ⟨n, rfl⟩ | ⟨x, rfl⟩ := ofDecimal_eq_ok converted <;> simp [IsPlain]
    | _ =>
      cases converted
      exact isPlain

lemma storableFields_eq_mapM : storableFields = List.mapM fun p => do return (p.1, ← storable p.2) :=
  funext (fields_eq_mapM rfl fun _ _ => rfl)

lemma isConversion_storable : IsConversion storable where
  list xs := by rw [storable, show storableItems = mapM storable from funext (items_eq_mapM rfl fun _ _ => rfl)]
  map fs := by rw [storable, storableFields_eq_mapM]
  plain {v w} isPlain converted := by
    cases v with
    | list _ | map _ => simp [IsPlain] at isPlain
    | float x =>
      obtain ⟨d, -, ⟨⟩⟩ := bind_eq_ok_iff.1 converted
      simp [IsPlain]
    | _ =>
      cases converted
      exact isPlain

end Unbundle.Value
