import Mathlib.Data.List.TakeDrop
import Mathlib.Data.List.TakeWhile
import Mathlib.Data.Nat.Digits.Defs
import Unbundle.Proofs.Value.Conversion

/-!
# Values that can be written

Only a whole number of too many digits has no JSON form, and such a number is not read either: each value
that was read can be written.
-/

open Unbundle.Value

namespace Unbundle

/-! ## Fields of values that were read -/

variable {v : Value}

namespace Value

lemma DistinctFields.put {k : String} {fs : List (String × Value)} (old : (map fs).DistinctFields)
    (new : v.DistinctFields) : (map (put k v fs)).DistinctFields := by
  rw [distinctFields_map] at old ⊢
  refine ⟨nodup_put old.1, fun f hf => ?_⟩
  rcases mem_put hf with rfl | hf
  · exact new
  · exact old.2 f hf

end Value

namespace Json

variable {cs : List Char} {offset : Nat} {after : Rest}

lemma isPlain_of_mem_names : ∀ p ∈ names, p.2.IsPlain := by
  simp [names, IsPlain]

lemma isPlain_of_readPlain (h : readPlain cs offset = .ok (v, after)) : v.IsPlain := by
  rw [readPlain] at h
  split at h
  · rename_i found named
    obtain rfl := Except.ok.inj h
    obtain ⟨p, mem, same⟩ := List.exists_of_findSome?_eq_some named
    obtain ⟨rest, -, eq⟩ := Option.map_eq_some_iff.1 same
    obtain ⟨rfl, -⟩ := Prod.mk.inj eq
    exact isPlain_of_mem_names p mem
  · split at h
    · cases h
    · split_ifs at h
      obtain ⟨rfl, -⟩ := Prod.mk.inj (Except.ok.inj h)
      rw [Numeral.value]
      split_ifs <;> simp [IsPlain]

/-- A property that a value has if it is read and the values inside it have the property. -/
structure Inherited (P : Value → Prop) : Prop where
  text : ∀ s, P (.text s)
  plain : ∀ {cs offset v after}, readPlain cs offset = .ok (v, after) → P v
  list : ∀ {xs}, (∀ x ∈ xs, P x) → P (.list xs)
  noFields : P (.map [])
  put : ∀ {k v fs}, P (.map fs) → P v → P (.map (put k v fs))

/-- With so much fuel, all values that are read have a property. -/
structure Reads (P : Value → Prop) (fuel : Nat) : Prop where
  value : ∀ {levels cs offset v after}, readValue fuel levels cs offset = .ok (v, after) → P v
  items : ∀ {levels cs offset acc v after}, readItems fuel levels cs offset acc = .ok (v, after) →
    (∀ x ∈ acc, P x) → P v
  fields : ∀ {levels cs offset acc v after}, readFields fuel levels cs offset acc = .ok (v, after) →
    P (.map acc) → P v

section

variable {P : Value → Prop} (inherited : Inherited P) {fuel : Nat}
variable {levels : Nat}

include inherited

lemma Reads.value_succ (ih : Reads P fuel) (h : readValue (fuel + 1) levels cs offset = .ok (v, after)) :
    P v := by
  unfold readValue at h
  split at h
  · split at h
    · obtain ⟨rfl, -⟩ := Prod.mk.inj (Except.ok.inj h)
      exact inherited.text _
    · cases h
  · cases h
  · dsimp only at h
    split at h
    · obtain ⟨rfl, -⟩ := Prod.mk.inj (Except.ok.inj h)
      exact inherited.noFields
    · exact ih.fields h inherited.noFields
  · cases h
  · dsimp only at h
    split at h
    · obtain ⟨rfl, -⟩ := Prod.mk.inj (Except.ok.inj h)
      exact inherited.list (by simp)
    · exact ih.items h (by simp)
  · exact inherited.plain h

lemma Reads.items_succ (ih : Reads P fuel) {acc : List Value}
    (h : readItems (fuel + 1) levels cs offset acc = .ok (v, after)) (old : ∀ x ∈ acc, P x) : P v := by
  unfold readItems at h
  split at h
  · cases h
  · rename_i item rest read
    have all : ∀ x ∈ item :: acc, P x := List.forall_mem_cons.2 ⟨ih.value read, old⟩
    dsimp only at h
    split at h
    · obtain ⟨rfl, -⟩ := Prod.mk.inj (Except.ok.inj h)
      exact inherited.list fun x hx => all x (List.mem_reverse.1 hx)
    · exact ih.items h all
    · cases h

lemma Reads.fields_succ (ih : Reads P fuel) {acc : List (String × Value)}
    (h : readFields (fuel + 1) levels cs offset acc = .ok (v, after)) (old : P (.map acc)) : P v := by
  unfold readFields at h
  split at h
  · split at h
    · cases h
    · rename_i name rest read
      dsimp only at h
      split at h
      · split at h
        · cases h
        · rename_i item rest read
          have set : P (.map (put (.ofList name) item acc)) :=
            inherited.put old (ih.value read)
          split at h
          · obtain ⟨rfl, -⟩ := Prod.mk.inj (Except.ok.inj h)
            exact set
          · exact ih.fields h set
          · cases h
      · cases h
  · cases h

lemma Inherited.reads (fuel : Nat) : Reads P fuel := by
  induction fuel with
  | zero =>
    constructor
    · intro levels cs offset v after h
      rw [readValue] at h
      cases h
    · intro levels cs offset acc v after h
      rw [readItems] at h
      cases h
    · intro levels cs offset acc v after h
      rw [readFields] at h
      cases h
  | succ fuel ih =>
    exact ⟨ih.value_succ inherited, ih.items_succ inherited, ih.fields_succ inherited⟩

lemma Inherited.of_read (h : read cs = .ok v) : P v := by
  unfold read at h
  split at h
  · cases h
  · dsimp only at h
    split at h
    · cases h
    · rename_i item rest read
      split at h
      · obtain rfl := Except.ok.inj h
        exact (inherited.reads _).value read
      · cases h

end

lemma inherited_distinctFields : Inherited DistinctFields where
  text s := distinctFields_of_isPlain ⟨by simp, by simp⟩
  plain h := distinctFields_of_isPlain (isPlain_of_readPlain h)
  list := distinctFields_list.2
  noFields := by simp [distinctFields_map]
  put := .put

/-- In a value that was read, the fields of each map have different names. -/
theorem distinctFields_of_read (h : read cs = .ok v) : v.DistinctFields :=
  inherited_distinctFields.of_read h

end Json

end Unbundle

open List Unbundle.Value

namespace Unbundle

/-! ## Values that can be written -/

variable {v : Value} {fs : List (String × Value)}

namespace Value

/-- Whether a value has a JSON form, if all that is inside it has one. -/
def hasForm : Value → Bool
  | null | bool _ | float _ | text _ | list _ | map _ => true
  | int n => (Number.digits n.natAbs).length ≤ Json.maxDigits
  | _ => false

/-- A value that can be written. -/
def IsWritable (v : Value) : Prop := v.Every fun w => w.hasForm = true

lemma isWritable_list {xs : List Value} : (list xs).IsWritable ↔ ∀ x ∈ xs, x.IsWritable := by
  simp [IsWritable, hasForm]

lemma isWritable_map : (map fs).IsWritable ↔ ∀ f ∈ fs, f.2.IsWritable := by
  simp [IsWritable, hasForm]

@[simp] lemma isWritable_text (s : String) : (text s).IsWritable := by
  simp [IsWritable, hasForm]

@[simp] lemma isWritable_null : null.IsWritable := by
  simp [IsWritable, hasForm]

lemma IsWritable.of_lookup {k : String} (writable : (map fs).IsWritable) (found : lookup k fs = some v) :
    v.IsWritable :=
  isWritable_map.1 writable _ (mem_of_lookup found)

lemma IsWritable.getD {k : String} {default : Value} (writable : (map fs).IsWritable) (other : default.IsWritable) :
    ((lookup k fs).getD default).IsWritable := by
  cases found : lookup k fs with
  | none => exact other
  | some v => exact writable.of_lookup found

lemma IsWritable.of_get {w : Value} {k : String} (writable : v.IsWritable) (found : v.get k = .ok w) :
    w.IsWritable := by
  cases v with
  | map fs => exact Except.ok.inj found ▸ writable.getD isWritable_null
  | _ => cases found

end Value

namespace Json

variable {l : Layout}
variable {cs : List Char}

/-! ### Writing -/

lemma exists_writeItems (level : Nat) {xs : List Value}
    (each : ∀ x ∈ xs, ∀ level, ∃ cs, writeAt l level x = .ok cs) :
    ∃ cs, writeItems l level xs = .ok cs := by
  induction xs with
  | nil => exact ⟨[], rfl⟩
  | cons x xs ih =>
    obtain ⟨first, written⟩ := each x mem_cons_self level
    cases xs with
    | nil => exact ⟨first, written⟩
    | cons y ys =>
      obtain ⟨others, rest⟩ := ih fun z hz => each z (mem_cons_of_mem x hz)
      refine ⟨first ++ l.comma level ++ others, ?_⟩
      rw [writeItems, written, rest]
      · rfl
      · simp

lemma exists_writeFields (level : Nat) (each : ∀ f ∈ fs, ∀ level, ∃ cs, writeAt l level f.2 = .ok cs) :
    ∃ cs, writeFields l level fs = .ok cs := by
  induction fs with
  | nil => exact ⟨[], rfl⟩
  | cons f fs ih =>
    obtain ⟨k, x⟩ := f
    obtain ⟨first, written⟩ := each (k, x) mem_cons_self level
    cases fs with
    | nil => exact ⟨_, by rw [writeFields, written]; rfl⟩
    | cons g gs =>
      obtain ⟨others, rest⟩ := ih fun z hz => each z (mem_cons_of_mem (k, x) hz)
      refine ⟨writeString l.ascii k.toList ++ ':' :: ' ' :: first ++ l.comma level ++ others, ?_⟩
      rw [writeFields, written, rest]
      · rfl
      · simp

/-- A value that can be written is written in every layout. -/
lemma exists_writeAt (writable : v.IsWritable) (level : Nat) : ∃ cs, writeAt l level v = .ok cs := by
  induction writable generalizing level with
  | @list xs _ _ ih =>
    cases xs with
    | nil => exact ⟨_, rfl⟩
    | cons x xs =>
      obtain ⟨cs, items⟩ := exists_writeItems (level + 1) ih
      exact ⟨_, by rw [writeAt, items]; rfl⟩
  | @map fs _ _ ih =>
    cases fs with
    | nil => exact ⟨_, rfl⟩
    | cons f fs =>
      obtain ⟨cs, fields⟩ := exists_writeFields (level + 1) ih
      exact ⟨_, by rw [writeAt, fields]; rfl⟩
  | @plain v here plain =>
    cases v with
    | int n =>
      have short : ¬ maxDigits < (Number.digits n.natAbs).length := by simpa [hasForm] using here
      exact ⟨_, by rw [writeAt, writeInt, if_neg short]⟩
    | list _ | map _ => simp [IsPlain] at plain
    | null | bool | float | text => exact ⟨_, rfl⟩
    | _ => cases here

/-! ### Reading -/

lemma natOfDigits_lt {ds : List Char} (digits : ∀ c ∈ ds, c.isDigit = true) :
    natOfDigits ds < 10 ^ ds.length := by
  have step : ∀ (ds : List Char) n, (∀ c ∈ ds, c.isDigit = true) →
      ds.foldl (fun n c => n * 10 + (c.toNat - '0'.toNat)) n < (n + 1) * 10 ^ ds.length := by
    intro ds
    induction ds with
    | nil => simp
    | cons c ds ih =>
      intro n digits
      obtain ⟨digit, digits⟩ := forall_mem_cons.1 digits
      have small : c.toNat - '0'.toNat < 10 := by
        simp only [Char.isDigit, Bool.and_eq_true, decide_eq_true_eq] at digit
        have high : c.toNat ≤ '9'.toNat := digit.2
        have nine : '9'.toNat = 57 := rfl
        have zero : '0'.toNat = 48 := rfl
        omega
      calc foldl _ (n * 10 + (c.toNat - '0'.toNat)) ds
          < (n * 10 + (c.toNat - '0'.toNat) + 1) * 10 ^ ds.length := ih _ digits
        _ ≤ (n + 1) * 10 * 10 ^ ds.length := Nat.mul_le_mul_right _ (by omega)
        _ = (n + 1) * 10 ^ (c :: ds).length := by rw [length_cons]; ring
  simpa [natOfDigits] using step ds 0 digits

lemma isDigit_of_wholePart? {whole rest : List Char} (h : wholePart? cs = some (whole, rest)) :
    whole ≠ [] ∧ ∀ c ∈ whole, c.isDigit = true := by
  rw [wholePart?.eq_def] at h
  split at h
  · obtain ⟨rfl, -⟩ := Prod.mk.inj (Option.some.inj h)
    exact ⟨by simp, by simp⟩
  · split_ifs at h with digit
    rw [spanDigits, span_eq_takeWhile_dropWhile] at h
    obtain ⟨rfl, -⟩ := Prod.mk.inj (Option.some.inj h)
    exact ⟨by simp [digit], fun d hd => mem_takeWhile_imp hd⟩
  · cases h

lemma whole_of_numeral? {rest : List Char} {n : Numeral} (h : numeral? cs = some (n, rest)) :
    n.whole ≠ [] ∧ ∀ c ∈ n.whole, c.isDigit = true := by
  rw [numeral?.eq_def] at h
  dsimp only at h
  split at h
  · cases h
  · rename_i whole rest' part
    split at h
    all_goals
      obtain ⟨rfl, -⟩ := Prod.mk.inj (Option.some.inj h)
      exact isDigit_of_wholePart? part

lemma hasForm_of_mem_names : ∀ p ∈ names, p.2.hasForm = true := by
  simp [names, hasForm]

lemma isWritable_of_readPlain {offset : Nat} {after : Rest} (h : readPlain cs offset = .ok (v, after)) :
    v.IsWritable := by
  rw [IsWritable, every_of_isPlain (isPlain_of_readPlain h)]
  rw [readPlain] at h
  split at h
  · rename_i found named
    obtain rfl := Except.ok.inj h
    obtain ⟨p, mem, same⟩ := exists_of_findSome?_eq_some named
    obtain ⟨rest, -, eq⟩ := Option.map_eq_some_iff.1 same
    obtain ⟨rfl, -⟩ := Prod.mk.inj eq
    exact hasForm_of_mem_names p mem
  · split at h
    · cases h
    · rename_i n rest number
      split_ifs at h with long
      obtain ⟨rfl, -⟩ := Prod.mk.inj (Except.ok.inj h)
      obtain ⟨some, digits⟩ := whole_of_numeral? number
      rw [Numeral.value]
      by_cases whole : n.isWhole = true
      · rw [if_pos whole]
        have short : n.whole.length ≤ maxDigits := Nat.le_of_not_lt fun more => long ⟨whole, more⟩
        have size : (if n.negative then -(natOfDigits n.whole : Int) else natOfDigits n.whole).natAbs =
            natOfDigits n.whole := by
          split_ifs <;> simp
        have fits := Nat.toDigits_length 10 (natOfDigits n.whole) n.whole.length
          (length_pos_iff.2 some) (natOfDigits_lt digits)
        simpa [hasForm, size, Number.digits] using fits.trans short
      · rw [if_neg whole]
        rfl

lemma inherited_isWritable : Inherited IsWritable where
  text := isWritable_text
  plain := isWritable_of_readPlain
  list := isWritable_list.2
  noFields := by simp [isWritable_map]
  put old new := by
    rw [isWritable_map] at old ⊢
    intro f hf
    rcases mem_put hf with rfl | hf
    · exact new
    · exact old f hf

end Json

namespace Value

lemma isWritable_of_parsed {w : Value} (h : v.parsed = .ok w) : w.IsWritable := by
  have read : ∃ cs, Json.read cs = .ok w := by
    cases v with
    | text s =>
      rw [parsed] at h
      cases read : Json.read s.toList with
      | error e =>
        rw [read] at h
        cases h
      | ok x =>
        rw [read] at h
        exact ⟨_, Except.ok.inj h ▸ read⟩
    | bytes bs =>
      rw [parsed.eq_def] at h
      dsimp only at h
      split at h
      · rename_i cs _
        cases read : Json.read cs with
        | error e =>
          rw [read] at h
          cases h
        | ok x =>
          rw [read] at h
          exact ⟨_, Except.ok.inj h ▸ read⟩
      · cases h
    | _ => cases h
  obtain ⟨cs, read⟩ := read
  exact Json.inherited_isWritable.of_read read

lemma IsWritable.exists_toJson (writable : v.IsWritable) : ∃ json, v.toJson = .ok json := by
  obtain ⟨cs, written⟩ := Json.exists_writeAt (l := .compact) writable 0
  exact ⟨_, by rw [toJson, Json.write, written]; rfl⟩

lemma IsWritable.exists_storedToJson (writable : v.IsWritable) : ∃ json, v.storedToJson = .ok json := by
  obtain ⟨cs, written⟩ := Json.exists_writeAt writable 0
  refine ⟨.text (.ofList cs), ?_⟩
  rw [storedToJson, Json.write, written]
  rfl

lemma IsWritable.exists_plain (writable : v.IsWritable) : ∃ p, v.plain = .ok p := by
  refine isConversion_plain.exists_ok writable fun {v} here isPlain => ?_
  cases v with
  | decimal d => cases here
  | list _ | map _ => simp [IsPlain] at isPlain
  | _ => exact ⟨_, rfl⟩

end Value

end Unbundle
