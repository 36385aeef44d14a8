import Unbundle.Cart.Traced.Handlers
import Unbundle.Proofs.Cart.Shelf
import Unbundle.Proofs.Json.RoundTrip

/-!
# Setting a quantity

A product in a cart is set to a quantity, and its total follows. A line that is set to nothing is deleted, and only then
is looked up what it held.
-/

open List Function Unbundle.Value

namespace Unbundle

lemma Text.trim_of_free {cs : List Char} (free : ∀ c ∈ cs, isBlank c = false) : trim cs = cs := by
  have start : cs.dropWhile isBlank = cs := by cases cs <;> simp_all
  rw [trim, trimBy, start]
  induction cs with
  | nil => rfl
  | cons c cs ih =>
    rw [dropEndWhile]
    cases cs <;> simp_all

namespace Number.Decimal

lemma spanNumber_digits {ds : List Char} (digits : ∀ c ∈ ds, c.isDigit = true) (n count : Nat) :
    spanNumber n count ds = (.ofDigitChars 10 ds n, count + ds.length, []) := by
  induction ds generalizing n count with
  | nil => rfl
  | cons c ds ih =>
    obtain ⟨digit, digits⟩ := forall_mem_cons.1 digits
    have small : c.toNat < 128 := (Char.isDigit_iff_toNat.1 digit).2.trans_lt (by decide)
    have value : Text.digitValue? c = some (c.toNat - '0'.toNat) := by rw [Text.digitValue?, if_pos small, if_pos digit]
    rw [spanNumber, value]
    dsimp only
    rw [ih digits, Nat.ofDigitChars_cons, mul_comm, length_cons]
    congr 2
    omega

lemma ofBody?_digits {c : Char} {ds : List Char} (digits : ∀ d ∈ c :: ds, d.isDigit = true) (negative : Bool) :
    ofBody? negative (c :: ds) = some (.finite negative (.ofDigitChars 10 (c :: ds) 0) 0) := by
  have first : c.toLower.isDigit = true := by
    have digit := digits c mem_cons_self
    have small : c.toNat ≤ 57 := (Char.isDigit_iff_toNat.1 digit).2
    have same : c.toLower = c := by
      refine dif_neg ?_
      rintro ⟨large, -⟩
      have large : 65 ≤ c.toNat := large
      omega
    rwa [same]
  have other (word : String) (h : word.toList.head?.any Char.isDigit = false) :
      .ofList (smallLetters (c :: ds)) ≠ word := by
    rintro rfl
    simp [smallLetters, first] at h
  simp [ofBody?, other "inf" (by decide), other "infinity" (by decide), other "nan" (by decide), other "snan" (by decide),
    spanNumber_digits digits]

lemma ofText?_ofInt (n : Int) : ofText? (Number.ofInt n) = some (.ofInt n) := by
  have digits : ∀ c ∈ digits n.natAbs, c.isDigit = true := fun c => Json.isDigit_of_mem_digits
  have plain : ∀ c ∈ Number.ofInt n, Text.isBlank c = false ∧ (c != '_') = true := by
    intro c hc
    have range : 45 ≤ c.toNat ∧ c.toNat ≤ 57 := by
      rw [Number.ofInt] at hc
      split_ifs at hc
      · rcases mem_cons.1 hc with rfl | hc
        · decide
        · have := Char.isDigit_iff_toNat.1 (digits c hc)
          exact ⟨le_trans (by decide) this.1, this.2⟩
      · have := Char.isDigit_iff_toNat.1 (digits c hc)
        exact ⟨le_trans (by decide) this.1, this.2⟩
    refine ⟨by simp [Text.isBlank]; omega, bne_iff_ne.2 ?_⟩
    rintro rfl
    exact absurd range (by decide)
  obtain ⟨c, ds, shown⟩ : ∃ c ds, Number.digits n.natAbs = c :: ds := exists_cons_of_ne_nil Nat.toDigits_ne_nil
  rw [shown] at digits
  have value : .ofDigitChars 10 (c :: ds) 0 = n.natAbs := by rw [← shown]; exact Nat.ofDigitChars_ten_toDigits
  rw [ofText?, Text.trim_of_free fun c hc => (plain c hc).1, filter_eq_self.2 fun c hc => (plain c hc).2, Number.ofInt,
    shown, ofInt]
  by_cases negative : n < 0
  · simp [negative, ofBody?_digits digits, value]
  · have digit := digits c mem_cons_self
    rw [if_neg negative]
    split
    · exact absurd digit (by simp_all)
    · exact absurd digit (by simp_all)
    · simp_all [ofBody?_digits digits]

end Number.Decimal

namespace Cart.Traced

open Service

/-- Where an item is: its table, its cart if it is a line of one, and its product. -/
abbrev Position := String × Option String × String

def position? (table : String) (fields : Fields) : Option Position :=
  match Value.lookup "cart_id" fields, Value.lookup "product_id" fields with
  | none, some (.text id) => some (table, none, id)
  | some (.text cart), some (.text id) => some (table, some cart, id)
  | _, _ => none

/-- How tables answer that do all that they are asked, and what they hold then. -/
inductive Complies : Tables Position → Exchange → Tables Position → Prop
  | get {tables : Tables Position} {table : String} {key reply : Fields} {position : Position} :
      position? table key = some position → Value.lookup "Item" reply = (tables position).map Value.map →
      Complies tables (.called (.table table (.get key)) (.ok (.map reply))) tables
  | put {tables : Tables Position} {table : String} {item kept : Fields} {position : Position} {reply : Value} :
      position? table item = some position → Kept (.map item) (.map kept) →
      Complies tables (.called (.table table (.put item none)) (.ok reply)) (Function.update tables position (some kept))
  | update {tables : Tables Position} {table : String} {key after : Fields} {change : Change} {returning : Returning}
      {position : Position} {reply : Value} :
      position? table key = some position → change.Turns ((tables position).getD key) after →
      Complies tables (.called (.table table (.update key change none returning)) (.ok reply))
        (Function.update tables position (some after))
  | delete {tables : Tables Position} {table : String} {key : Fields} {position : Position} {reply : Value} :
      position? table key = some position →
      Complies tables (.called (.table table (.delete key)) (.ok reply)) (Function.update tables position none)

def lineIn (table cart product : String) : Position := (table, some cart, productLead ++ product)

def totalIn (table product : String) (tables : Tables Position) : ℚ :=
  Cart.amount "total_quantity" (tables (table, none, product))

/-- A line that is not there, or that has no quantity, has none of its product. -/
def HasQuantity (line : Option Fields) (n : ℤ) : Prop :=
  (line.bind (Value.lookup "quantity")).elim (n = 0) fun v => v.number? = some (n : ℚ)

section

variable {s : Setting} {carts products cart product : String} {tables : Tables Position} {m n : ℤ}
  {fault : Fault → Tables Position → Prop}

lemma amount_int (n : ℤ) : amount (.int n) = .ok (.decimal (.ofInt n)) := by
  have shown : (int n).display = Number.ofInt n := rfl
  rw [amount, asDecimal, shown, Number.Decimal.ofText?_ofInt]
  rfl

lemma number?_ofInt (n : ℤ) : (decimal (.ofInt n)).number? = some (n : ℚ) := by
  rw [number?, Number.Decimal.ofInt, Number.Decimal.toRat?]
  by_cases negative : n < 0
  · simp [negative, abs_of_neg]
  · simp [negative, abs_of_nonneg (not_lt.1 negative)]

lemma plainNumber_of_number? {v : Value} (value : v.number? = some (m : ℚ))
    (small : |(m : ℚ)| < 10 ^ Number.Decimal.precision) : plainNumber v = .ok (.int m) := by
  have plain := plain_of_number? value small
  cases v with
  | int k => exact plain
  | decimal d => rwa [Value.plain] at plain
  | _ => cases value

lemma totalIn_update_line {line : Option Fields} :
    totalIn products product (Function.update tables (lineIn carts cart product) line) =
      totalIn products product tables := by
  rw [totalIn, update_of_ne (by simp [lineIn]), totalIn]

lemma position?_slotKey (more : Fields) : position? carts (slotKey (.text cart) (.text product) ++ more) =
    some (lineIn carts cart product) := by
  have bare : (text product).str = product := String.ofList_toList
  rw [slotKey, bare]
  rfl

lemma ensures_quantityOf (given : s.given? "CARTS_TABLE" = some carts)
    (has : HasQuantity (tables (lineIn carts cart product)) m) (small : |(m : ℚ)| < 10 ^ Number.Decimal.precision) :
    (quantityOf s (.text cart) (.text product)).Ensures Complies tables (fun v after => v = .int m ∧ tables = after)
      fault := by
  have found : (Flow.ask carts (.get (slotKey (.text cart) (.text product)))).Ensures Complies tables
      (fun v after => tables = after ∧ ∃ reply, v = .map reply ∧
        Value.lookup "Item" reply = (tables (lineIn carts cart product)).map .map) fun _ _ => False := by
    refine ensures_invoke ?_ fun _ _ => nofun
    rintro v after (⟨located, found⟩ | _)
    cases (position?_slotKey []).symm.trans located
    exact ⟨rfl, _, rfl, found⟩
  rw [quantityOf, given]
  refine (found.bind ?_).orLog (fun _ _ => False.elim) fun _ _ => False.elim
  rintro _ _ ⟨rfl, reply, rfl, found⟩
  have held : (Value.map reply).holdsName "Item" = .ok (Value.lookup "Item" reply).isSome := rfl
  cases line : tables (lineIn carts cart product) with
  | none =>
    rw [line] at has found
    rw [found] at held
    exact ensures_ok_bind held (ensures_done ⟨congrArg int has.symm, rfl⟩)
  | some item =>
    rw [line] at has found
    rw [found] at held
    have plain : plainNumber ((Value.lookup "quantity" item).getD (.int 0)) = .ok (.int m) := by
      cases quantity : Value.lookup "quantity" item with
      | none =>
        rw [HasQuantity, Option.bind_some, quantity] at has
        rw [show m = 0 from has]
        rfl
      | some v =>
        rw [HasQuantity, Option.bind_some, quantity] at has
        exact plainNumber_of_number? has small
    refine ensures_ok_bind held (ensures_ok_bind (field_of_lookup found) (ensures_ok_bind rfl ?_))
    rw [plain]
    exact ensures_done ⟨rfl, rfl⟩

lemma ensures_changeTotal (given : s.given? "PRODUCTS_TABLE" = some products) :
    (changeTotal s (.text product) (.int n)).Ensures Complies tables
      (fun _ after => totalIn products product after = totalIn products product tables + n) fault := by
  rw [changeTotal, given]
  refine .orLog (show Flow.Ensures _ _ _ _ fun _ _ => False from ?_) (fun _ _ => False.elim)
    fun _ _ => False.elim
  refine ensures_ok_bind (amount_int n) (.bind (ensures_invoke ?_ fun _ _ => nofun)
    fun _ _ holds => ensures_done holds)
  rintro v after (_ | _ | ⟨⟨⟩, turns⟩)
  rw [totalIn, update_self, totalIn]
  have sum := numberAt_of_turns turns mem_cons_self (number?_ofInt n)
  rw [amount_of_numberAt sum, amount_getD rfl]

/-- A line that was deleted has no quantity to be taken off the total. -/
lemma ensures_removeLine (given : s.given? "CARTS_TABLE" = some carts) :
    (removeLine s carts (.text cart) (.text product)).Ensures Complies tables
      (fun _ after => after = Function.update tables (lineIn carts cart product) none) fault := by
  have deleted : (Flow.ask carts (.delete (slotKey (.text cart) (.text product)))).Ensures Complies tables
      (fun _ after => after = Function.update tables (lineIn carts cart product) none) fault := by
    refine ensures_invoke ?_ fun _ _ => nofun
    rintro v after (_ | _ | _ | ⟨located⟩)
    cases (position?_slotKey []).symm.trans located
    rfl
  refine deleted.bind ?_
  rintro _ _ rfl
  have none : HasQuantity (Function.update tables (lineIn carts cart product) none (lineIn carts cart product)) 0 := by
    rw [update_self]
    rfl
  refine (ensures_quantityOf given none (by simp)).bind ?_
  rintro _ _ ⟨rfl, rfl⟩
  exact ensures_ok_bind (a := false) rfl (ensures_done rfl)

/-- A line that is set to a quantity changes the total by the difference. -/
lemma ensures_replaceLine {detail expires : Value} {authenticated : Bool} (given : s.given? "CARTS_TABLE" = some carts)
    (given' : s.given? "PRODUCTS_TABLE" = some products) (has : HasQuantity (tables (lineIn carts cart product)) m)
    (small : |(m : ℚ)| < 10 ^ Number.Decimal.precision) :
    (replaceLine s carts (.text cart) (.text product) (.int n) detail expires authenticated).Ensures Complies tables
      (fun _ after => totalIn products product after = totalIn products product tables + (n - m)) fun _ _ => True := by
  rw [replaceLine]
  refine ensures_ok_bind (amount_int n) (ensures_given fun detail _ => ?_)
  refine ensures_given fun owner _ => ?_
  refine (ensures_quantityOf given has small).bind ?_
  rintro _ _ ⟨rfl, rfl⟩
  have stored item : (Flow.ask carts (.put (slotKey (.text cart) (.text product) ++ item) none)).Ensures
      Complies tables (fun _ after => ∃ line, after = Function.update tables (lineIn carts cart product) line)
      fun _ _ => True := by
    refine ensures_invoke ?_ fun _ _ => nofun
    rintro v after (_ | ⟨located, _⟩)
    cases (position?_slotKey _).symm.trans located
    exact ⟨_, rfl⟩
  refine (stored _).bind ?_
  rintro _ _ ⟨line, rfl⟩
  refine ensures_ok_bind (a := .int (n - m)) rfl ?_
  split_ifs with changes
  · simpa only [totalIn_update_line, Int.cast_sub] using
      @ensures_changeTotal s products product (Function.update tables (lineIn carts cart product) line) (n - m) _ given'
  · have same : n - m = 0 := by simpa [same_zero] using changes
    refine ensures_done ?_
    rw [totalIn_update_line, ← Int.cast_sub, same, Int.cast_zero, add_zero]

/-- In tables that do all that they are asked, setting a line to a quantity changes the total of its product by the
difference. Setting it to nothing does not change the total, whatever the line held. -/
theorem set_quantity_changes_total {detail : Value} {authenticated : Bool} {before after : Tables Position}
    (given : s.given? "CARTS_TABLE" = some carts) (given' : s.given? "PRODUCTS_TABLE" = some products) (nonneg : 0 ≤ n)
    (has : HasQuantity (before (lineIn carts cart product)) m) (small : |(m : ℚ)| < 10 ^ Number.Decimal.precision)
    (run : (setLine s (.text cart) (.text product) (.int n) detail authenticated).Runs Complies before (.ok true) after) :
    totalIn products product after = totalIn products product before + (if n = 0 then 0 else (n : ℚ) - m) ∧
    (totalIn products product after = totalIn products product before + (n - m) ↔ 0 < n ∨ m = 0) := by
  have body : (setLine s (.text cart) (.text product) (.int n) detail authenticated).Ensures Complies before
      (fun done after => done = true → totalIn products product after =
        totalIn products product before + (if n = 0 then 0 else (n : ℚ) - m)) fun _ _ => True := by
    rw [setLine, given]
    refine Flow.Ensures.orLog (show Flow.Ensures _ _ _ _ fun _ _ => True from ?_) (fun _ _ _ _ => nofun)
      fun _ _ _ _ => trivial
    refine ensures_given fun expires _ => ensures_ok_bind (related_le n 0) ?_
    by_cases none : n = 0
    · subst none
      refine (ensures_removeLine given).bind ?_
      rintro _ _ rfl
      exact ensures_done fun _ => by rw [totalIn_update_line, if_pos rfl, add_zero]
    · rw [decide_eq_false (by omega), if_neg none]
      exact (ensures_replaceLine given given' has small).bind fun _ _ changed => ensures_done fun _ => changed
  have sum := body.result run rfl
  refine ⟨sum, ?_⟩
  rw [sum, add_right_inj]
  by_cases none : n = 0
  · simp [none, eq_comm]
  · simp [none, show 0 < n by omega]

end

def twoTables : Setting := ⟨[("CARTS_TABLE", "carts"), ("PRODUCTS_TABLE", "products")], default, []⟩

def oneLineHeld : Tables Position :=
  Function.update (fun _ => none) (lineIn "carts" "c" "p") (some [("quantity", .int 1)])

lemma hasQuantity_oneLineHeld : HasQuantity (oneLineHeld (lineIn "carts" "c" "p")) 1 := by
  rw [oneLineHeld]
  simp [HasQuantity, Value.lookup, Value.number?]

lemma turns_stock (stamp : Value) :
    Change.Turns ⟨[("total_quantity", ⟨"change", .decimal (.ofInt 2)⟩)], [.set "updated_at" "now" stamp]⟩
      (stockKey (.text "p")) ([("total_quantity", .int 2), ("updated_at", stamp)] ++ stockKey (.text "p")) := by
  refine ⟨?_, ?_, fun name other => ?_⟩
  · rintro _ (_ | ⟨_, ⟨⟩⟩)
    exact ⟨0, 2, .int 2, .inl ⟨rfl, rfl⟩, number?_ofInt 2, rfl, by simp [number?]⟩
  · rintro _ (_ | ⟨_, ⟨⟩⟩)
    exact ⟨stamp, rfl, .same stamp⟩
  · have other : name ≠ "total_quantity" ∧ name ≠ "updated_at" := by simpa [Change.fields, Assignment.set] using other
    simp [Value.lookup, stockKey, other.1.symm, other.2.symm]

lemma exists_runs_setLine_three : ∃ after,
    (setLine twoTables (.text "c") (.text "p") (.int 3) .null false).Runs Complies oneLineHeld (.ok true) after := by
  let found : Value := .map [("Item", .map [("quantity", .int 1)])]
  obtain ⟨item, stamp, told⟩ : ∃ item stamp, (setLine twoTables (.text "c") (.text "p") (.int 3) .null false).told
      [.reply (.ok found), .reply (.ok .null), .reply (.ok .null)] = some (.ok true,
        [.called (.table "carts" (.get (slotKey (.text "c") (.text "p")))) (.ok found),
          .called (.table "carts" (.put (slotKey (.text "c") (.text "p") ++ item) none)) (.ok .null),
          .called (.table "products" (.update (stockKey (.text "p"))
            ⟨[("total_quantity", ⟨"change", .decimal (.ofInt 2)⟩)], [.set "updated_at" "now" stamp]⟩ none .nothing))
            (.ok .null)]) := ⟨_, _, rfl⟩
  let total : Fields := [("total_quantity", .int 2), ("updated_at", stamp)] ++ stockKey (.text "p")
  refine ⟨_, .of_told told (.cons (.get (position?_slotKey []) ?_) (.cons (.put (position?_slotKey item) (.same _))
    (.cons (@Complies.update _ _ _ total _ _ ("products", none, "p") _ rfl ?_) (.nil _))))⟩
  · rfl
  · exact turns_stock stamp

theorem set_quantity_changes_total_three : ∃ after,
    (setLine twoTables (.text "c") (.text "p") (.int 3) .null false).Runs Complies oneLineHeld (.ok true) after ∧
    totalIn "products" "p" after = totalIn "products" "p" oneLineHeld + (3 - 1) := by
  obtain ⟨after, run⟩ := exists_runs_setLine_three
  have changed := (set_quantity_changes_total rfl rfl (by decide) hasQuantity_oneLineHeld
    (by norm_num [Number.Decimal.precision]) run).2.2 (.inl (by decide))
  exact ⟨after, run, mod_cast changed⟩

lemma runs_setLine_zero : (setLine twoTables (.text "c") (.text "p") (.int 0) .null false).Runs Complies oneLineHeld
    (.ok true) (Function.update oneLineHeld (lineIn "carts" "c" "p") none) := by
  have told : (setLine twoTables (.text "c") (.text "p") (.int 0) .null false).told
      [.reply (.ok (.map [])), .reply (.ok (.map []))] = some (.ok true,
        [.called (.table "carts" (.delete (slotKey (.text "c") (.text "p")))) (.ok (.map [])),
          .called (.table "carts" (.get (slotKey (.text "c") (.text "p")))) (.ok (.map []))]) := rfl
  refine .of_told told (.cons (.delete (position?_slotKey [])) (.cons (.get (position?_slotKey []) ?_) (.nil _)))
  rfl

theorem set_to_nothing_keeps_total : ∃ before after, HasQuantity (before (lineIn "carts" "c" "p")) 1 ∧
    (setLine twoTables (.text "c") (.text "p") (.int 0) .null false).Runs Complies before (.ok true) after ∧
    totalIn "products" "p" after ≠ totalIn "products" "p" before + (0 - 1) := by
  refine ⟨_, _, hasQuantity_oneLineHeld, runs_setLine_zero, ?_⟩
  rw [totalIn_update_line]
  simp

end Cart.Traced

end Unbundle
