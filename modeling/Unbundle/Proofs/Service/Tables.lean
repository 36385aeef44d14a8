import Mathlib.Algebra.Order.Field.Power
import Mathlib.Algebra.Order.Ring.Rat
import Mathlib.Data.Rat.Cast.Defs
import Mathlib.Logic.Function.Basic
import Mathlib.Tactic.FieldSimp
import Mathlib.Tactic.NormNum
import Mathlib.Tactic.Positivity
import Mathlib.Tactic.Ring
import Unbundle.Proofs.Service.Runs
import Unbundle.Proofs.Value.Conversion

/-!
# Tables that serve several clients

Getting an item and changing it under a condition each happen at one moment. Clients are flows that run side
by side, and at any time any one of them may take its next step. Of a stored number only its value counts,
and a call may fail at any time and has then done nothing.
-/

open Unbundle.Value Unbundle.Number

namespace Unbundle

variable {v w : Value} {q : ℚ}

/-! ### Numbers -/

/-- The value of a finite decimal. -/
def Number.Decimal.toRat? : Decimal → Option ℚ
  | .finite negative n e => some ((if negative then -1 else 1) * (n * 10 ^ e))
  | _ => none

lemma Number.Decimal.toRat?_of_isWhole {d : Decimal} (whole : d.isWhole = true) :
    d.toRat? = some ((d.truncate?.getD 0 : ℤ) : ℚ) := by
  cases d with
  | infinite _ => simp [isWhole] at whole
  | nan _ => simp [isWhole] at whole
  | finite negative n e =>
    have part : n * 10 ^ e =
        ((if 0 ≤ e then n * 10 ^ e.toNat else (n / 10 ^ (-e).toNat : ℕ) : ℤ) : ℚ) := by
      by_cases up : 0 ≤ e
      · obtain ⟨k, rfl⟩ := Int.eq_ofNat_of_zero_le up
        simp
      · obtain ⟨k, rfl⟩ : ∃ k : ℕ, e = -k := ⟨(-e).toNat, by omega⟩
        simp only [isWhole, up, decide_false, Bool.false_or, beq_iff_eq] at whole
        obtain ⟨m, rfl⟩ := Nat.dvd_of_mod_eq_zero whole
        simp only [up, neg_neg, Int.toNat_natCast, zpow_neg, zpow_natCast]
        rw [Nat.mul_div_cancel_left m (Nat.pow_pos (by decide))]
        push_cast
        field_simp
    rw [toRat?, truncate?, part]
    cases negative
    · simp
    · rw [if_pos rfl, if_pos rfl, Option.getD_some, Int.cast_neg, neg_one_mul]

lemma Number.Decimal.isWhole_of_whole? {d : Decimal} {whole : Bool} (ok : d.whole? = .ok whole) :
    d.isWhole = whole := by
  cases d with
  | infinite _ => cases ok
  | nan signalling => cases signalling <;> cases ok; rfl
  | finite negative n e =>
    rw [whole?] at ok
    split_ifs at ok
    exact Except.ok.inj ok

namespace Value

/-- The value of a number that can be stored. -/
def number? : Value → Option ℚ
  | int n => some n
  | decimal d => d.toRat?
  | _ => none

lemma number?_of_ofDecimal {d : Decimal} (h : ofDecimal d = .ok v) (hq : v.number? = some q) :
    d.toRat? = some q := by
  rw [ofDecimal] at h
  cases whole : d.whole? with
  | error signal =>
    rw [whole] at h
    cases h
  | ok isWhole =>
    rw [whole] at h
    cases isWhole with
    | true =>
      cases h
      rw [Decimal.toRat?_of_isWhole (Decimal.isWhole_of_whole? whole)]
      exact hq
    | false =>
      cases float : d.toFloat? with
      | none =>
        rw [float] at h
        cases h
      | some x =>
        rw [float] at h
        cases h
        cases hq

lemma number?_of_plain (h : v.plain = .ok w) (hq : w.number? = some q) : v.number? = some q := by
  cases v with
  | decimal d =>
    exact number?_of_ofDecimal h hq
  | list xs =>
    obtain ⟨ys, -, h⟩ := bind_eq_ok_iff.1 h
    cases h
    cases hq
  | map fs =>
    obtain ⟨gs, -, h⟩ := bind_eq_ok_iff.1 h
    cases h
    cases hq
  | _ =>
    cases h
    exact hq

lemma lookup_of_plainFields {fs gs : List (String × Value)} {name : String} (h : plainFields fs = .ok gs)
    (found : lookup name gs = some w) : ∃ v, v.plain = .ok w ∧ lookup name fs = some v := by
  rw [plainFields_eq_mapM, mapM_fields_eq_ok_iff] at h
  exact h.flip.lookup found

end Value

namespace Service

/-- The value of a field that is a number. -/
def numberAt (item : Fields) (name : String) : Option ℚ := (lookup name item).bind number?

lemma numberAt_of_plain {item : Fields} {name : String} (h : (map item).plain = .ok v)
    (read : v.field name = .ok w) (hq : w.number? = some q) : numberAt item name = some q := by
  obtain ⟨gs, fields, h⟩ := bind_eq_ok_iff.1 h
  cases h
  obtain ⟨_, same, found⟩ := field_eq_ok read
  cases same
  obtain ⟨x, plain, found⟩ := lookup_of_plainFields fields found
  rw [numberAt, found]
  exact number?_of_plain plain hq

/-! ### Conditions and changes -/

/-- Whether a condition holds of an item. Only numbers are compared. -/
def Condition.Holds (item : Fields) : Condition → Prop
  | present field => lookup field item ≠ none
  | absent field => lookup field item = none
  | more field s => ∃ a b, numberAt item field = some a ∧ s.value.number? = some b ∧ b < a
  | less field s => ∃ a b, numberAt item field = some a ∧ s.value.number? = some b ∧ a < b
  | both a b => a.Holds item ∧ b.Holds item

/-- What may come back for a value that was stored: the value, with each number in it in any form. -/
inductive Kept : Value → Value → Prop
  | same (v : Value) : Kept v v
  | number {v w : Value} {q : ℚ} : v.number? = some q → w.number? = some q → Kept v w
  | list {v w : Value} {vs ws : List Value} :
      Kept v w → Kept (.list vs) (.list ws) → Kept (.list (v :: vs)) (.list (w :: ws))
  | map {name : String} {v w : Value} {fs gs : Fields} :
      Kept v w → Kept (.map fs) (.map gs) → Kept (.map ((name, v) :: fs)) (.map ((name, w) :: gs))

/-- What a field may hold that is set to an operand. -/
def Operand.Gives (item : Fields) (v : Value) : Operand → Prop
  | value s => Kept s.value v
  | plus field s =>
    ∃ a b, numberAt item field = some a ∧ s.value.number? = some b ∧ v.number? = some (a + b)
  | minus field s =>
    ∃ a b, numberAt item field = some a ∧ s.value.number? = some b ∧ v.number? = some (a - b)
  | unlessSet field s => (lookup field item).elim (Kept s.value v) (v = ·)

/-- The fields that a change is about. -/
def Change.fields (c : Change) : List String :=
  c.additions.map (·.1) ++ c.assignments.map (·.field)

/-- What a change may make of an item. Adding to a field that is not there adds to zero; all other fields
stay. -/
structure Change.Turns (c : Change) (before after : Fields) : Prop where
  added : ∀ addition ∈ c.additions, ∃ a b v,
    (lookup addition.1 before = none ∧ a = 0 ∨ numberAt before addition.1 = some a) ∧
      addition.2.value.number? = some b ∧
      lookup addition.1 after = some v ∧ v.number? = some (a + b)
  assigned : ∀ assignment ∈ c.assignments, ∃ v,
    lookup assignment.field after = some v ∧ assignment.operand.Gives before v
  others : ∀ name ∉ c.fields, lookup name after = lookup name before

/-! ### Serving -/

def Call.isGet : Call → Bool
  | .table _ (.get _) => true
  | _ => false

lemma Call.eq_of_isGet {c : Call} (h : c.isGet = true) : ∃ name key, c = .table name (.get key) := by
  cases c with
  | table name request =>
    cases request with
    | get key => exact ⟨name, key, rfl⟩
    | _ => cases h
  | _ => cases h

def Call.isUpdate : Call → Bool
  | .table _ (.update ..) => true
  | _ => false

/-- Items by their places. -/
abbrev Tables (κ : Type) := κ → Option Fields

section

variable {κ : Type} [DecidableEq κ] (locate : String → Fields → Option κ)
variable {tables tables' : Tables κ} {table : String} {key : Fields} {reply : Except Fault Value}

/-- How tables may answer a call, and what they are then. The place of an item is given by its table and
its key; more than one key may mean the same place. Of calls that neither get nor update nothing is
known. -/
inductive Serves : Tables κ → Call → Except Fault Value → Tables κ → Prop
  | get {tables : Tables κ} {table : String} {key reply : Fields} {place : κ} :
      locate table key = some place →
      lookup "Item" reply = (tables place).map map →
      Serves tables (.table table (.get key)) (.ok (.map reply)) tables
  | update {tables : Tables κ} {table : String} {key after : Fields} {change : Change}
      {condition : Option Condition} {returning : Returning} {place : κ} {reply : Value} :
      locate table key = some place →
      (∀ c ∈ condition, c.Holds ((tables place).getD [])) →
      change.Turns ((tables place).getD key) after →
      Serves tables (.table table (.update key change condition returning)) (.ok reply)
        (Function.update tables place (some after))
  | fault {tables : Tables κ} {call : Call} {e : Fault} : Serves tables call (.error e) tables
  | other {tables tables' : Tables κ} {call : Call} {reply : Except Fault Value} :
      call.isGet = false → call.isUpdate = false → Serves tables call reply tables'

variable {locate}

lemma Serves.of_get
    (served : Serves locate tables (.table table (.get key)) reply tables') :
    tables' = tables ∧ ∀ v, reply = .ok v → ∃ fs place, v = .map fs ∧ locate table key = some place ∧
      lookup "Item" fs = (tables place).map map := by
  cases served with
  | get located found =>
    refine ⟨rfl, fun v same => ?_⟩
    cases same
    exact ⟨_, _, rfl, located, found⟩
  | fault =>
    refine ⟨rfl, fun v same => ?_⟩
    cases same
  | other isGet _ => cases isGet

lemma Serves.of_update {change : Change}
    {condition : Option Condition} {returning : Returning}
    (served :
      Serves locate tables (.table table (.update key change condition returning)) reply tables') :
    (reply.isOk = false ∧ tables' = tables) ∨
      (reply.isOk = true ∧ ∃ place after, locate table key = some place ∧
        (∀ c ∈ condition, c.Holds ((tables place).getD [])) ∧
        change.Turns ((tables place).getD key) after ∧
        tables' = Function.update tables place (some after)) := by
  cases served with
  | update located holds turns => exact .inr ⟨rfl, _, _, located, holds, turns, rfl⟩
  | fault => exact .inl ⟨rfl, rfl⟩
  | other _ isUpdate => cases isUpdate

variable (locate)

/-! ### Clients side by side -/

/-- A call that a client made, and its answer. -/
structure Event where
  client : ℕ
  call : Call
  reply : Except Fault Value

/-- Whether an item was changed by an event. -/
def Event.isChange (e : Event) : Bool := e.call.isUpdate && e.reply.isOk

/-- The place of the item that a call wants to change. -/
def Call.updated? : Call → Option κ
  | .table name (.update key ..) => locate name key
  | _ => none

/-- Tables, and clients with what is left of their work. -/
structure System (κ : Type) where
  tables : Tables κ
  flows : List (Flow Value)

/-- One client takes one step. -/
inductive System.Step : System κ → List Event → System κ → Prop
  | call {s : System κ} {i : ℕ} {c : Call} {next : Except Fault Value → Flow Value}
      {reply : Except Fault Value} {tables : Tables κ} :
      s.flows[i]? = some (.call c next) → Serves locate s.tables c reply tables →
      Step s [⟨i, c, reply⟩] ⟨tables, s.flows.set i (next reply)⟩
  | note {s : System κ} {i : ℕ} {n : Note} {next : Flow Value} :
      s.flows[i]? = some (.note n next) → Step s [] ⟨s.tables, s.flows.set i next⟩
  | fresh {s : System κ} {i : ℕ} {w : Secret} {next : String → Flow Value} (x : String) :
      s.flows[i]? = some (.fresh w next) → Step s [] ⟨s.tables, s.flows.set i (next x)⟩
  | once {s : System κ} {i : ℕ} {mark : String} {next : Bool → Flow Value} (first : Bool) :
      s.flows[i]? = some (.once mark next) → Step s [] ⟨s.tables, s.flows.set i (next first)⟩

/-- Clients take steps one after another, in any order. -/
inductive System.Run : System κ → List Event → System κ → Prop
  | start (s : System κ) : Run s [] s
  | step {s t u : System κ} {events more : List Event} :
      Run s events t → Step locate t more u → Run s (events ++ more) u

end

end Service

end Unbundle

namespace Unbundle.Service

/-! ## A data store behind a flow -/

/-- The place of an item: its table, and the text under which it is kept there. -/
abbrev Place := String × String

/-- The place that a key or an item names. -/
def place? (table : String) (fields : Fields) : Option Place :=
  match lookup "id" fields with
  | some (.text id) => some (table, id)
  | _ => none

/-- A request that a store can do: to give the item of a key, or to make a change whose condition holds. -/
inductive Feasible (tables : Tables Place) (table : String) : Request → Prop
  | get {key : Fields} {place : Place} : place? table key = some place → Feasible tables table (.get key)
  | update {key after : Fields} {change : Change} {condition : Option Condition} {returning : Returning}
      {place : Place} :
      place? table key = some place →
      (∀ c ∈ condition, c.Holds ((tables place).getD [])) →
      change.Turns ((tables place).getD key) after →
      Feasible tables table (.update key change condition returning)

/-- How a store may answer, and what it keeps then. An identifier that is made is not in use. -/
inductive Stores (reliable : Bool) : Tables Place → Exchange → Tables Place → Prop
  | get {tables : Tables Place} {table : String} {key reply : Fields} {place : Place} :
      place? table key = some place →
      lookup "Item" reply = (tables place).map map →
      Stores reliable tables (.called (.table table (.get key)) (.ok (.map reply))) tables
  | put {tables : Tables Place} {table : String} {item kept : Fields} {condition : Option Condition}
      {place : Place} {reply : Value} :
      place? table item = some place →
      (∀ c ∈ condition, c.Holds ((tables place).getD [])) →
      Kept (.map item) (.map kept) →
      Stores reliable tables (.called (.table table (.put item condition)) (.ok reply))
        (Function.update tables place (some kept))
  | update {tables : Tables Place} {table : String} {key after : Fields} {change : Change}
      {condition : Option Condition} {returning : Returning} {place : Place} {reply : Value} :
      place? table key = some place →
      (∀ c ∈ condition, c.Holds ((tables place).getD [])) →
      change.Turns ((tables place).getD key) after →
      (after.map Prod.fst).Nodup →
      (returning = .allNew → reply.field "Attributes" = .ok (.map after)) →
      Stores reliable tables (.called (.table table (.update key change condition returning)) (.ok reply))
        (Function.update tables place (some after))
  | refused {tables : Tables Place} {table : String} {request : Request} {e : Fault} :
      (reliable = true → ¬ Feasible tables table request) →
      Stores reliable tables (.called (.table table request) (.error e)) tables
  | client {tables : Tables Place} {service method : String} {args : List Value} {options : Fields}
      {reply : Except Fault Value} :
      Stores reliable tables (.called (.client service method args options) reply) tables
  | made {tables : Tables Place} {secret : Secret} {text : String} :
      (secret = .identifier → ∀ table, tables (table, text) = none) →
      Stores reliable tables (.made secret text) tables
  | marked {tables : Tables Place} {mark : String} {first : Bool} :
      Stores reliable tables (.marked mark first) tables

/-! ### Reading -/

section

variable {reliable : Bool} {tables tables' : Tables Place}
variable {condition : Option Condition} {key : Fields}
variable {change : Change} {returning : Returning}

lemma Stores.eq_of_isReading {x : Exchange} (stores : Stores reliable tables x tables')
    (reading : x.IsReading) : tables' = tables := by
  cases stores with
  | put => exact reading.elim
  | update => exact reading.elim
  | _ => rfl

lemma Stores.of_update {table : String} {reply : Except Fault Value}
    (stores : Stores reliable tables
      (.called (.table table (.update key change condition returning)) reply) tables') :
    tables' = tables ∨ ∃ place after, place? table key = some place ∧
      change.Turns ((tables place).getD key) after ∧ tables' = Function.update tables place (some after) := by
  cases stores with
  | update located _ turns _ _ => exact .inr ⟨_, _, located, turns, rfl⟩
  | refused => exact .inl rfl

/-! ### Rules -/

lemma ensures_of_reading {α : Type} {flow : Flow α} {I : Tables Place → Prop}
    (reads : flow.Within Exchange.IsReading) (holds : I tables) :
    flow.Ensures (Stores reliable) tables (fun _ after => I after) fun _ after => I after :=
  reads.ensures (fun reading stores holds => stores.eq_of_isReading reading ▸ holds) holds

variable {table : String} {result : Value → Tables Place → Prop}
  {fault : Fault → Tables Place → Prop}

lemma ensures_get (ok : ∀ reply place, place? table key = some place →
      lookup "Item" reply = (tables place).map map → result (.map reply) tables)
    (error : ∀ e, (reliable = true → place? table key = none) → fault e tables) :
    (Flow.ask table (.get key)).Ensures (Stores reliable) tables result fault := by
  refine ensures_invoke ?_ ?_
  · rintro v after (⟨located, found⟩ | _)
    exact ok _ _ located found
  · rintro e after (_ | _ | _ | ⟨refused⟩)
    refine error e fun sure => Option.eq_none_iff_forall_ne_some.2 fun place located => ?_
    exact refused sure (.get located)

lemma ensures_put {item : Fields} (ok : ∀ reply place kept, place? table item = some place →
      Kept (.map item) (.map kept) → result reply (Function.update tables place (some kept)))
    (error : ∀ e, fault e tables) :
    (Flow.ask table (.put item condition)).Ensures (Stores reliable) tables result fault := by
  refine ensures_invoke ?_ ?_
  · rintro v after (_ | ⟨located, _, kept⟩)
    exact ok _ _ _ located kept
  · rintro e after (_ | _ | _ | _)
    exact error e

lemma ensures_update
    (ok : ∀ reply place after, place? table key = some place →
      (∀ c ∈ condition, c.Holds ((tables place).getD [])) → change.Turns ((tables place).getD key) after →
      (after.map Prod.fst).Nodup → (returning = .allNew → reply.field "Attributes" = .ok (.map after)) →
      result reply (Function.update tables place (some after)))
    (error : ∀ e, (reliable = true → ¬ Feasible tables table (.update key change condition returning)) →
      fault e tables) :
    (Flow.ask table (.update key change condition returning)).Ensures (Stores reliable) tables result fault := by
  refine ensures_invoke ?_ ?_
  · rintro v after (_ | _ | ⟨located, holds, turns, distinct, attributes⟩)
    exact ok _ _ _ located holds turns distinct attributes
  · rintro e after (_ | _ | _ | ⟨refused⟩)
    exact error e refused

end

end Unbundle.Service

open Unbundle.Value

namespace Unbundle

/-! ### Values that can be read back -/

variable {v w : Value} {k : String}

/-! ### Numbers -/

namespace Number.Decimal

variable {d : Decimal}
variable {e : ℤ} {q : ℚ}

lemma abs_of_toRat? {negative : Bool} {n : ℕ} (value : (finite negative n e).toRat? = some q) :
    |q| = n * 10 ^ e := by
  obtain rfl := Option.some.inj value
  have sign : |(if negative then -1 else 1 : ℚ)| = 1 := by cases negative <;> simp
  have positive : (0 : ℚ) ≤ n * 10 ^ e := by positivity
  rw [abs_mul, sign, one_mul, abs_of_nonneg positive]

/-- The digits before the point tell how large a number is. -/
lemma lt_pow_iff {n p : ℕ} (nonzero : n ≠ 0) :
    (n : ℚ) * 10 ^ e < 10 ^ p ↔ (digits n).length + e ≤ p := by
  obtain ⟨k, length⟩ : ∃ k, (digits n).length = k + 1 := Nat.exists_eq_add_one.2 Nat.length_toDigits_pos
  have power (m : ℕ) : (10 : ℚ) ^ m * 10 ^ e = 10 ^ (m + e) := by rw [zpow_add₀ (by norm_num), zpow_natCast]
  rw [length]
  constructor
  · intro size
    have large : 10 ^ k ≤ n := by
      rcases eq_zero_or_pos k with rfl | positive
      · exact Nat.one_le_iff_ne_zero.2 nonzero
      · refine not_lt.1 fun less => ?_
        have short := (Nat.length_toDigits_le_iff (by decide) positive).2 less
        rw [digits] at length
        omega
    have less : (10 : ℚ) ^ (k + e) < 10 ^ (p : ℤ) := by
      rw [← power]
      refine lt_of_le_of_lt ?_ size
      gcongr
      exact_mod_cast large
    have := (zpow_lt_zpow_iff_right₀ (by norm_num)).1 less
    omega
  · intro short
    have less : n < 10 ^ (k + 1) := (Nat.length_toDigits_le_iff (by decide) k.succ_pos).1 length.le
    calc (n : ℚ) * 10 ^ e < 10 ^ (k + 1) * 10 ^ e := by
          gcongr
          exact_mod_cast less
      _ = 10 ^ (((k + 1 : ℕ) : ℤ) + e) := power (k + 1)
      _ ≤ 10 ^ p := zpow_le_zpow_right₀ (by norm_num) short

lemma exists_whole?_iff (value : d.toRat? = some q) :
    (∃ whole, d.whole? = .ok whole) ↔ |q| < 10 ^ precision := by
  cases d with
  | infinite _ => cases value
  | nan _ => cases value
  | finite negative n e =>
    rw [abs_of_toRat? value, whole?]
    by_cases nonzero : n ≠ 0
    · rw [lt_pow_iff nonzero]
      split_ifs with long
      · exact iff_of_false (by simp) (not_le.2 long.2)
      · exact iff_of_true ⟨_, rfl⟩ (not_lt.1 fun less => long ⟨nonzero, less⟩)
    · simp [not_ne_iff.1 nonzero]

lemma whole?_of_small (value : d.toRat? = some q) (small : |q| < 10 ^ precision) :
    d.whole? = .ok d.isWhole := by
  obtain ⟨whole, ok⟩ := (exists_whole?_iff value).2 small
  rw [ok, isWhole_of_whole? ok]

lemma isWhole_of_toRat? {m : ℤ} (value : d.toRat? = some (m : ℚ)) : d.isWhole = true := by
  cases d with
  | infinite _ => cases value
  | nan _ => cases value
  | finite negative n e =>
    rw [isWhole, Bool.or_eq_true, decide_eq_true_iff, beq_iff_eq]
    by_cases up : 0 ≤ e
    · exact .inl up
    · obtain ⟨k, rfl⟩ : ∃ k : ℕ, e = -k := ⟨(-e).toNat, by omega⟩
      rw [neg_neg]
      refine .inr (Nat.mod_eq_zero_of_dvd ?_)
      have scaled : n = |(m : ℚ)| * 10 ^ k := by
        rw [abs_of_toRat? value, zpow_neg, zpow_natCast]
        field_simp
      have natural : (n : ℤ) = m.natAbs * 10 ^ k := by
        rw [← Int.abs_eq_natAbs]
        exact_mod_cast scaled
      exact ⟨m.natAbs, by rw [mul_comm]; exact_mod_cast natural⟩

end Number.Decimal

namespace Value

variable {fs : List (String × Value)}
variable {m : ℤ} {gs : List (String × Value)}

lemma exists_plain_of_number? {q : ℚ} (value : v.number? = some q) (small : |q| < 10 ^ Decimal.precision) :
    ∃ p, v.plain = .ok p := by
  cases v with
  | int n => exact ⟨_, rfl⟩
  | decimal d =>
    rw [plain, ofDecimal, Decimal.whole?_of_small value small]
    cases d.isWhole with
    | true => exact ⟨_, rfl⟩
    | false =>
      cases d with
      | finite negative n e => exact ⟨_, rfl⟩
      | infinite _ => cases value
      | nan _ => cases value
  | _ => cases value

lemma plain_of_number? (value : v.number? = some (m : ℚ))
    (small : |(m : ℚ)| < 10 ^ Decimal.precision) : v.plain = .ok (.int m) := by
  cases v with
  | int n =>
    obtain rfl : n = m := by exact_mod_cast Option.some.inj value
    rfl
  | decimal d =>
    have whole := Decimal.isWhole_of_toRat? value
    have same := Decimal.toRat?_of_isWhole whole
    rw [show d.toRat? = some (m : ℚ) from value, Option.some.injEq, Int.cast_inj] at same
    rw [plain, ofDecimal, Decimal.whole?_of_small value small, whole, same]
  | _ => cases value

lemma ofDecimal_eq_int_iff {d : Decimal} : ofDecimal d = .ok (.int m) ↔
    d.toRat? = some (m : ℚ) ∧ |(m : ℚ)| < 10 ^ Decimal.precision := by
  constructor
  · intro h
    have value := number?_of_ofDecimal h rfl
    refine ⟨value, (Decimal.exists_whole?_iff value).1 (exists_ok_of_ne_error fun e failed => ?_)⟩
    rw [ofDecimal, failed] at h
    cases h
  · rintro ⟨value, small⟩
    have read := plain_of_number? (v := .decimal d) value small
    rwa [plain] at read

/-! ### Lists and maps -/

lemma exists_plain_of_lookup (distinct : (fs.map Prod.fst).Nodup)
    (each : ∀ k v, lookup k fs = some v → ∃ p, v.plain = .ok p) : ∃ p, (map fs).plain = .ok p :=
  isConversion_plain.exists_map_iff.2 fun f mem => each f.1 f.2 (lookup_of_mem distinct mem)

lemma field_of_plain (read : (map fs).plain = .ok w) (found : lookup k fs = some v) :
    ∃ p, v.plain = .ok p ∧ w.field k = .ok p := by
  obtain ⟨gs, each, rfl⟩ := isConversion_plain.map_eq_ok_iff.1 read
  obtain ⟨p, plain, found⟩ := each.lookup found
  exact ⟨p, plain, field_of_lookup found⟩

lemma plain_of_get (read : (map fs).plain = .ok w) (found : w.get k = .ok v) :
    ((lookup k fs).getD .null).plain = .ok v := by
  cases here : lookup k fs with
  | some x =>
    obtain ⟨p, plain, field⟩ := field_of_plain read here
    rw [Option.getD_some, plain, ← getD_of_field field]
    exact found
  | none =>
    obtain ⟨gs, fields, ⟨⟩⟩ := bind_eq_ok_iff.1 read
    have found : (lookup k gs).getD .null = v := Except.ok.inj found
    cases there : lookup k gs with
    | none =>
      rw [there] at found
      rw [← found]
      rfl
    | some y =>
      obtain ⟨x, -, here'⟩ := lookup_of_plainFields fields there
      rw [here] at here'
      cases here'

/-- A number that is not too large, or no number. -/
def IsSmall : Value → Prop
  | int n => |(n : ℚ)| < 10 ^ Decimal.precision
  | decimal d => ∃ q, d.toRat? = some q ∧ |q| < 10 ^ Decimal.precision
  | _ => True

lemma exists_plain_of_isSmall (small : v.Every IsSmall) : ∃ p, v.plain = .ok p := by
  refine isConversion_plain.exists_ok small fun {v} here isPlain => ?_
  cases v with
  | decimal d =>
    obtain ⟨q, value, bound⟩ := here
    exact exists_plain_of_number? value bound
  | list _ | map _ => simp [IsPlain] at isPlain
  | _ => exact ⟨_, rfl⟩

/-- A value whose stored form, if it has one, has no number that is too large. -/
def IsModest (v : Value) : Prop := ∀ stored, v.storable = .ok stored → stored.Every IsSmall

@[simp] lemma isModest_text (s : String) : (text s).IsModest := by
  rintro _ ⟨⟩
  exact every_text.2 trivial

@[simp] lemma isModest_bool (b : Bool) : (bool b).IsModest := by
  rintro _ ⟨⟩
  exact every_bool.2 trivial

@[simp] lemma isModest_null : null.IsModest := by
  rintro _ ⟨⟩
  exact every_null.2 trivial

lemma lookup_of_storableFields (stored : storableFields fs = .ok gs)
    (found : lookup k fs = some v) : ∃ w, v.storable = .ok w ∧ lookup k gs = some w := by
  rw [storableFields_eq_mapM, mapM_fields_eq_ok_iff] at stored
  exact stored.lookup found

lemma every_isSmall_of_storableFields (stored : storableFields fs = .ok gs)
    (modest : ∀ f ∈ fs, f.2.IsModest) : (map gs).Every IsSmall := by
  rw [storableFields_eq_mapM, mapM_fields_eq_ok_iff] at stored
  refine every_map.2 ⟨trivial, fun q mem => ?_⟩
  obtain ⟨p, hp, -, here⟩ := exists_left_of_forall₂ stored mem
  exact modest p hp q.2 here

end Value

namespace Service

lemma Kept.exists_lookup {fs gs : Fields} (kept : Kept (.map fs) (.map gs)) (found : lookup k fs = some v) :
    ∃ w, Kept v w ∧ lookup k gs = some w := by
  induction fs generalizing gs with
  | nil => cases found
  | cons f fs ih =>
    cases kept with
    | same => exact ⟨v, .same v, found⟩
    | number value => cases value
    | map first rest =>
      rw [lookup] at found ⊢
      split_ifs at found ⊢ with same
      · cases found
        exact ⟨_, first, rfl⟩
      · exact ih rest found

lemma Kept.exists_plain (kept : Kept v w) (small : v.Every IsSmall) : ∃ p, w.plain = .ok p := by
  induction kept with
  | same v => exact exists_plain_of_isSmall small
  | @number v w q stored read =>
    refine exists_plain_of_number? read ?_
    cases v with
    | int n =>
      obtain rfl := Option.some.inj stored
      exact every_int.1 small
    | decimal d =>
      obtain ⟨_, value, bound⟩ := (every_of_isPlain ⟨by simp, by simp⟩).1 small
      rwa [Option.some.inj (stored.symm.trans value)]
    | _ => cases stored
  | list _ _ first rest =>
    rw [every_list, List.forall_mem_cons] at small
    rw [isConversion_plain.exists_list_iff, List.forall_mem_cons]
    exact ⟨first small.2.1, isConversion_plain.exists_list_iff.1 (rest (every_list.2 ⟨trivial, small.2.2⟩))⟩
  | map _ _ first rest =>
    rw [every_map, List.forall_mem_cons] at small
    rw [isConversion_plain.exists_map_iff, List.forall_mem_cons]
    exact ⟨first small.2.1, isConversion_plain.exists_map_iff.1 (rest (every_map.2 ⟨trivial, small.2.2⟩))⟩

end Service

end Unbundle
