import Unbundle.Cart.Direct.Handlers
import Unbundle.Proofs.Service.Tables

/-!
# What a migration keeps

The lines of the visitor's cart are deleted after all of them were gone through: a line whose call failed is
deleted with those that were written to the user's cart.
-/

open List Unbundle.Service.Flow

namespace Unbundle

variable {q : ℚ} {v : Value}

/-! ### Quantities -/

lemma Numeric.compare?_zero {negative : Bool} {size : Number.Ratio} (positive : 0 ≤ q)
    (zero : size.num = 0 ↔ q = 0) :
    (finite negative size).compare? (.finite false ⟨0, 1⟩) =
      some (compare ((if negative then -1 else 1) * q) 0) := by
  by_cases none : size.num = 0
  · simp [compare?, none, zero.1 none]
  · have more : 0 < q := lt_of_le_of_ne positive fun same => none (zero.2 same.symm)
    cases negative with
    | true => simp [compare?, none, compare_lt_iff_lt.2 (neg_lt_zero.2 more)]
    | false =>
      simp [compare?, compareSize, none, Nat.compare_eq_gt.2 (pos_of_ne_zero none), compare_gt_iff_gt.2 more]

lemma Value.exists_compare?_zero (value : v.number? = some q) :
    ∃ a, v.numeric? = some a ∧ a.compare? (.finite false ⟨0, 1⟩) = some (compare q 0) := by
  cases v with
  | int n =>
    refine ⟨_, rfl, (Numeric.compare?_zero (abs_nonneg (n : ℚ)) (by simp)).trans ?_⟩
    obtain rfl := Option.some.inj value
    by_cases low : n < 0
    · have low' : (n : ℚ) < 0 := by exact_mod_cast low
      simp [low, abs_of_neg low']
    · have high : (0 : ℚ) ≤ n := by exact_mod_cast not_lt.1 low
      simp [low, abs_of_nonneg high]
  | decimal d =>
    cases d with
    | finite negative n e =>
      obtain rfl := Option.some.inj value
      refine ⟨_, rfl, Numeric.compare?_zero (by positivity) ?_⟩
      have power : (10 : ℚ) ^ e ≠ 0 := by positivity
      by_cases up : 0 ≤ e <;> simp [Number.Ratio.shift, up, power]
    | _ => cases value
  | _ => cases value

lemma Value.related_zero (value : v.number? = some q) (r : Relation) :
    v.related r (.int 0) = .ok (r.holds (compare q 0)) := by
  obtain ⟨a, numeric, compared⟩ := exists_compare?_zero value
  have zero : (int 0).numeric? = some (.finite false ⟨0, 1⟩) := rfl
  cases v with
  | int n => simp [related, numeric, zero, compared]
  | decimal d => simp [related, numeric, zero, compared]
  | _ => cases value

namespace Cart

open Service

lemma shownQuantity_of_number? {v : Value} {n : ℤ} (value : v.number? = some (n : ℚ)) :
    shownQuantity v = .ok (.int n) := by
  cases v with
  | int m =>
    obtain rfl : m = n := by exact_mod_cast Option.some.inj value
    rfl
  | decimal d =>
    have same := Number.Decimal.toRat?_of_isWhole (Number.Decimal.isWhole_of_toRat? value)
    rw [show d.toRat? = some (n : ℚ) from value, Option.some.injEq, Int.cast_inj] at same
    cases d with
    | finite negative m e => rw [same]; rfl
    | _ => cases value
  | _ => cases value

lemma same_zero (n : ℤ) : (Value.int n).same (.int 0) = decide (n = 0) := by
  obtain ⟨a, numeric, compared⟩ := Value.exists_compare?_zero (show (Value.int n).number? = some n from rfl)
  have zero : (Value.int 0).numeric? = some (.finite false ⟨0, 1⟩) := rfl
  rw [Bool.eq_iff_iff]
  simp [Value.same, numeric, zero, compared]

/-! ### What is asked about a line -/

/-- How the visitor's cart is cleared after a migration. -/
inductive Clearing where
  /-- The lines that were moved are deleted. -/
  | moved
  /-- The cart is looked at again, and the lines that are found then are deleted. -/
  | found
  deriving DecidableEq, Repr

def Clearing.clear (s : Setting) (visitor : Value) : Clearing → String → List Value → Flow Unit
  | moved => deleteAll
  | found => fun _ _ => Direct.clearCart s visitor

/-- A request that writes a quantity to a line of a cart. -/
inductive Writes (cart sk quantity : Value) : Request → Prop
  | put (detail expires now : Value) : Writes cart sk quantity (.put (storedLine cart sk quantity detail expires now) none)
  | add (detail expires now : Value) :
      Writes cart sk quantity (.update (key cart sk) (lineAddition quantity detail expires now) none .nothing)

/-- A call on a line of a cart that fails: it is not known whether the line is there, or it is not written. -/
inductive Fails (cart sk : Value) : Request → Except Fault Value → Prop
  | unknown {reply : Except Fault Value} :
      (∀ held, (do (← reply).holdsName "Item") ≠ .ok held) → Fails cart sk (.get (key cart sk)) reply
  | unwritten {quantity : Value} {request : Request} (e : Fault) :
      Writes cart sk quantity request → Fails cart sk request (.error e)

/-- A quantity was written to a line of a cart, or a call on the line failed. -/
def WrittenOrFailed (table : String) (cart sk quantity : Value) (record : List Exchange) : Prop :=
  ∃ request reply, .called (.table table request) reply ∈ record ∧
    (Writes cart sk quantity request ∧ (∃ v, reply = .ok v) ∨ Fails cart sk request reply)

/-- A line with a whole positive quantity was written to another cart, unless a call failed. -/
def Settled (table : String) (cart line : Value) (record : List Exchange) : Prop :=
  ∀ sk v (n : ℤ), line.field "sk" = .ok sk → line.field "quantity" = .ok v → v.number? = some (n : ℚ) → 0 < n →
    WrittenOrFailed table cart sk (.int n) record

def listed (listing : Value) : Except Fault (List Value) := do (← listing.field "Items").items

def HasKey (line : Value) (k : Fields) : Prop :=
  ∃ pk sk, line.field "pk" = .ok pk ∧ line.field "sk" = .ok sk ∧ k = key pk sk

section

variable {s : Setting} {table : String} {cart line quantity sk detail expires now visitor : Value}
  {record record' : List Exchange}

lemma WrittenOrFailed.mono (written : WrittenOrFailed table cart sk quantity record) (grown : record <+: record') :
    WrittenOrFailed table cart sk quantity record' :=
  let ⟨request, reply, mem, how⟩ := written
  ⟨request, reply, grown.subset mem, how⟩

lemma Settled.mono (settled : Settled table cart line record) (grown : record <+: record') :
    Settled table cart line record' :=
  fun sk v n named given value positive => (settled sk v n named given value positive).mono grown

lemma ensures_mergeLine :
    (mergeLine table cart sk quantity detail expires now).Ensures Recorded record
      (fun _ after => WrittenOrFailed table cart sk quantity after)
      (fun _ after => WrittenOrFailed table cart sk quantity after) := by
  have write : ∀ {request before}, Writes cart sk quantity request → (ask table request).Ensures Recorded before
      (fun _ after => WrittenOrFailed table cart sk quantity after)
      (fun _ after => WrittenOrFailed table cart sk quantity after) := by
    intro request before writes
    refine ensures_invoke ?_ ?_
    · rintro v _ rfl
      exact ⟨request, .ok v, by simp, .inl ⟨writes, v, rfl⟩⟩
    · rintro e _ rfl
      exact ⟨request, .error e, by simp, .inr (.unwritten e writes)⟩
  have asked : (ask table (.get (key cart sk))).Ensures Recorded record
      (fun v after => .called (.table table (.get (key cart sk))) (.ok v) ∈ after)
      (fun _ after => WrittenOrFailed table cart sk quantity after) := by
    refine ensures_invoke ?_ ?_
    · rintro v _ rfl
      simp
    · rintro e _ rfl
      exact ⟨_, .error e, by simp, .inr (.unknown fun _ => nofun)⟩
  refine asked.bind fun v after mem => ensures_lift_bind (fun held _ => ?_) fun e failed => ?_
  · split_ifs
    · exact (write (.add _ _ _)).bind fun _ _ written => ensures_done written
    · exact (write (.put _ _ _)).bind fun _ _ written => ensures_done written
  · refine ⟨_, .ok v, mem, .inr (.unknown fun held told => ?_)⟩
    have told : v.holdsName "Item" = .ok held := told
    rw [failed] at told
    cases told

lemma ensures_moveLine :
    (moveLine s table cart line).Ensures Recorded record (fun _ after => Settled table cart line after)
      fun _ _ => True := by
  refine ensures_given fun sk named => ?_
  refine ensures_given fun given looked => ?_
  refine ensures_given fun quantity shown => ?_
  -- A whole number is moved as it is.
  have whole : ∀ v (n : ℤ), line.field "quantity" = .ok v → v.number? = some n → quantity = .int n := by
    intro v n field value
    obtain rfl := Except.ok.inj (looked.symm.trans (Value.getD_of_field field))
    exact Except.ok.inj (shown.symm.trans (shownQuantity_of_number? value))
  refine ensures_given fun detail _ => ?_
  refine ensures_given fun nothing compared => ?_
  split_ifs with empty
  · refine ensures_done fun _ v n _ field value positive => ?_
    rw [whole v n field value, Value.related_zero (q := n) rfl, empty, compare_gt_iff_gt.2 (by exact_mod_cast positive)] at compared
    cases compared
  · refine ensures_given fun until_ _ => ?_
    have settled : ∀ {after}, WrittenOrFailed table cart sk quantity after → Settled table cart line after := by
      intro after written sk' v n named' field value _
      obtain rfl := Except.ok.inj (named.symm.trans named')
      exact whole v n field value ▸ written
    refine .orPrint (ensures_mergeLine.bind fun _ _ written => ensures_done (settled written))
      (fun _ _ written _ => settled written) fun _ _ _ _ => trivial

lemma ensures_grown {α : Type} {flow : Flow α} :
    flow.Ensures Recorded record (fun _ after => record <+: after) fun _ after => record <+: after := by
  constructor <;>
  · intro _ after run
    obtain ⟨more, rfl, -⟩ := run.exists_append
    exact prefix_append _ _

lemma ensures_moveLines (lines : List Value) :
    (moveLines s table cart lines).Ensures Recorded record
      (fun _ after => ∀ line ∈ lines, Settled table cart line after) fun _ _ => True := by
  induction lines generalizing record with
  | nil => exact ensures_done (by simp)
  | cons line lines ih =>
    refine ensures_moveLine.bind fun moved middle settled => ?_
    refine ((ih.and ensures_grown).mono (fun _ _ h => h) fun _ _ _ => trivial).bind fun others after holds => ?_
    exact ensures_done (forall_mem_cons.2 ⟨settled.mono holds.2, holds.1⟩)

/-! ### Deletions -/

/-- Each deletion of a record has a property, together with what came before it. -/
def EachDeletion (P : List Exchange → String → Fields → Prop) (record : List Exchange) : Prop :=
  ∀ before after table k reply, record = before ++ .called (.batch table (.delete k)) reply :: after → P before table k

lemma EachDeletion.append {P : List Exchange → String → Fields → Prop} {x : Exchange} (each : EachDeletion P record)
    (here : ∀ table k reply, x = .called (.batch table (.delete k)) reply → P record table k) :
    EachDeletion P (record ++ [x]) := by
  intro before after table k reply split
  rcases eq_nil_or_concat after with rfl | ⟨init, last, rfl⟩
  · obtain ⟨rfl, same⟩ := append_inj' split rfl
    exact here table k reply (singleton_inj.1 same)
  · rw [concat_eq_append, ← cons_append, ← append_assoc] at split
    exact each before init table k reply (append_inj' split rfl).1

def IsNoDeletion (x : Exchange) : Prop := ∀ table k reply, x ≠ .called (.batch table (.delete k)) reply

lemma isNoDeletion_table (request : Request) (reply : Except Fault Value) :
    IsNoDeletion (.called (.table table request) reply) := fun _ _ _ => nofun

lemma within_moveLines (lines : List Value) : (moveLines s table cart lines).Within IsNoDeletion := by
  have asked : ∀ request, (ask table request).Within IsNoDeletion := fun request =>
    within_invoke fun _ => isNoDeletion_table _ _
  induction lines with
  | nil => trivial
  | cons line lines ih =>
    refine .bind ?_ fun _ => ih.bind fun _ => trivial
    refine within_lift_bind fun _ _ => within_lift_bind fun _ _ => within_lift_bind fun _ _ =>
      within_lift_bind fun _ _ => within_lift_bind fun _ _ => ?_
    split_ifs
    · trivial
    refine within_lift_bind fun _ _ => .orPrint (.bind ?_ fun _ => trivial)
    refine (asked _).bind fun _ => within_lift_bind fun _ _ => ?_
    split_ifs <;> exact (asked _).bind fun _ => trivial

lemma within_deleteAll {P : Exchange → Prop} (lines : List Value)
    (allowed : ∀ line ∈ lines, ∀ k reply, HasKey line k → P (.called (.batch table (.delete k)) reply)) :
    (deleteAll table lines).Within P := by
  induction lines with
  | nil => trivial
  | cons line lines ih =>
    obtain ⟨here, allowed⟩ := forall_mem_cons.1 allowed
    refine within_lift_bind fun pk first => within_lift_bind fun sk second => ?_
    exact (within_invoke fun reply => here _ reply ⟨pk, sk, first, second, rfl⟩).bind fun _ => ih allowed

/-- An exchange of the end of a migration: it deletes a line, or it is no deletion. -/
def Clears (clearing : Clearing) (table : String) (lines : List Value) (x : Exchange) : Prop :=
  IsNoDeletion x ∨ ∃ k reply, x = .called (.batch table (.delete k)) reply ∧
    (clearing = .moved → ∃ line ∈ lines, HasKey line k)

lemma within_clear (clearing : Clearing) (named : tableOf s = .ok table) (lines : List Value) :
    (clearing.clear s visitor table lines).Within (Clears clearing table lines) := by
  cases clearing with
  | moved => exact within_deleteAll lines fun line mem k reply has => .inr ⟨k, reply, rfl, fun _ => ⟨line, mem, has⟩⟩
  | found =>
    refine .bind (within_lift_bind fun table' named' => ?_) fun _ => trivial
    obtain rfl := Except.ok.inj (named.symm.trans named')
    refine .attempt ?_ fun _ => trivial
    refine (within_invoke fun _ => .inl (isNoDeletion_table _ _)).bind fun _ => ?_
    refine within_lift_bind fun _ _ => within_lift_bind fun lines' _ => ?_
    refine .bind (within_deleteAll lines' fun _ _ k reply _ => .inr ⟨k, reply, rfl, nofun⟩) fun _ => ?_
    exact within_lift _

/-- What has happened when a line of the visitor's cart is deleted: the cart was listed first, and all lines that were
shown then are settled. -/
def Cleared (clearing : Clearing) (visitor cart : Value) (before : List Exchange) (table : String) (k : Fields) :
    Prop :=
  ∃ listing lines, before.head? = some (.called (.table table (linesOf visitor)) (.ok listing)) ∧
    listed listing = .ok lines ∧ (∀ line ∈ lines, Settled table cart line before) ∧
    (clearing = .moved → ∃ line ∈ lines, HasKey line k)

lemma ensures_migrate (clearing : Clearing) :
    (migrate s visitor cart (clearing.clear s visitor)).Ensures Recorded []
      (fun _ after => EachDeletion (Cleared clearing visitor cart) after)
      fun _ after => EachDeletion (Cleared clearing visitor cart) after := by
  have start : EachDeletion (Cleared clearing visitor cart) [] := by
    intro before _ _ _ _ split
    cases before <;> cases split
  refine ensures_lift_bind (fun table named => ?_) fun _ _ => start
  refine .attempt ?_ (fun _ _ safe _ => safe) fun e after safe _ =>
    ensures_note_bind (ensures_fail safe)
  have keeps : ∀ {before x after}, IsNoDeletion x → Recorded before x after →
      EachDeletion (Cleared clearing visitor cart) before → EachDeletion (Cleared clearing visitor cart) after := by
    rintro before x _ none rfl safe
    exact safe.append fun table k reply same => absurd same (none table k reply)
  have asked : (ask table (linesOf visitor)).Ensures Recorded []
      (fun v after => after = [.called (.table table (linesOf visitor)) (.ok v)] ∧
        EachDeletion (Cleared clearing visitor cart) after)
      (fun _ after => EachDeletion (Cleared clearing visitor cart) after) :=
    ensures_invoke (fun v _ same => ⟨same, keeps (isNoDeletion_table _ _) same start⟩) fun e _ same =>
      keeps (isNoDeletion_table _ _) same start
  refine asked.bind ?_
  rintro listing _ ⟨rfl, safe⟩
  refine ensures_lift_bind (fun shown field => ?_) fun _ _ => safe
  refine ensures_lift_bind (fun lines items => ?_) fun _ _ => safe
  refine ((((ensures_moveLines lines).and ensures_grown).and ((within_moveLines lines).ensures keeps safe)).mono
    (fun _ _ h => h) fun _ _ h => h.2).bind ?_
  rintro _ middle ⟨⟨settled, first⟩, safe⟩
  -- All that is deleted is deleted after this point.
  have cleared : (clearing.clear s visitor table lines).Ensures Recorded middle
      (fun _ after => EachDeletion (Cleared clearing visitor cart) after ∧ middle <+: after)
      (fun _ after => EachDeletion (Cleared clearing visitor cart) after ∧ middle <+: after) := by
    refine (within_clear clearing named lines).ensures ?_ ⟨safe, prefix_rfl⟩
    rintro before x _ clears rfl ⟨safe, grown⟩
    refine ⟨safe.append fun table' k reply same => ?_, grown.trans (prefix_append _ _)⟩
    rcases clears with none | ⟨k', reply', rfl, has⟩
    · exact absurd same (none table' k reply)
    · cases same
      refine ⟨listing, lines, ?_, ?_, fun line mem => (settled line mem).mono grown, has⟩
      · obtain ⟨more, rfl⟩ := first.trans grown
        rfl
      · rw [listed, field, ok_bind, items]
  exact (cleared.mono (fun _ _ h => h.1) fun _ _ h => h.1).bind fun _ _ safe => ensures_done safe

end

/-- A line of the visitor's cart is deleted only after all lines of the cart were gone through, so that each of
them was written to the user's cart with its quantity, or a call on it failed. -/
theorem deleted_lines_were_written_or_failed {clearing : Clearing} {s : Setting} {visitor cart : Value}
    {outcome : Except Fault (List Value)} {record before after : List Exchange} {table : String} {k : Fields}
    {reply : Except Fault Value}
    (run : Runs Recorded (migrate s visitor cart (clearing.clear s visitor)) [] outcome record)
    (deleted : record = before ++ .called (.batch table (.delete k)) reply :: after) :
    Cleared clearing visitor cart before table k := by
  have each : EachDeletion (Cleared clearing visitor cart) record := by
    cases outcome with
    | ok moved => exact (ensures_migrate clearing).result run
    | error e => exact (ensures_migrate clearing).fault run
  exact each before after table k reply deleted

def shelfSetting : Setting := ⟨[("DYNAMODB_TABLE_NAME", "shelf")], default, []⟩

def oneLine : Answer :=
  .reply (.ok (.map [("Items", .list [.map [("pk", .text "cart#v"), ("sk", .text "product#p"),
    ("quantity", .decimal (.finite false 2 0)), ("product_detail", .text "d")]])]))

def oneMigration (clearing : Clearing) : Flow (List Value) :=
  migrate shelfSetting (.text "cart#v") (.text "user#u") (clearing.clear shelfSetting (.text "cart#v"))

/-- What is answered after the line was gone through: where the cart is looked at again, it is as before. -/
def Clearing.answers : Clearing → List Answer
  | moved => [.reply (.ok .null)]
  | found => [oneLine, .reply (.ok .null)]

/-- The line is new in the user's cart and is put there. -/
theorem deleted_lines_were_written_or_failed_new : ∃ outcome before,
    Runs Recorded (oneMigration .found) [] outcome
      (before ++ [.called (.batch "shelf" (.delete (key (.text "cart#v") (.text "product#p")))) (.ok .null)]) ∧
    Cleared .found (.text "cart#v") (.text "user#u") before "shelf" (key (.text "cart#v") (.text "product#p")) := by
  obtain ⟨outcome, before, told⟩ : ∃ outcome before, (oneMigration .found).told
      ([oneLine, .reply (.ok (.map [])), .reply (.ok .null)] ++ Clearing.found.answers) = some (outcome, before ++
        [.called (.batch "shelf" (.delete (key (.text "cart#v") (.text "product#p")))) (.ok .null)]) :=
    ⟨_, [_, _, _, _], rfl⟩
  have run := Runs.of_told told (along_recorded [] _)
  exact ⟨outcome, before, run, deleted_lines_were_written_or_failed run rfl⟩

/-- The line can be deleted although no call that came back has written it to the user's cart. -/
def Clearing.MayLose (clearing : Clearing) : Prop :=
  ∃ outcome before,
    Runs Recorded (oneMigration clearing) [] outcome
      (before ++ [.called (.batch "shelf" (.delete (key (.text "cart#v") (.text "product#p")))) (.ok .null)]) ∧
    ∀ request v, .called (.table "shelf" request) (.ok v) ∈ before →
      ¬ Writes (.text "user#u") (.text "product#p") (.int 2) request

lemma Clearing.mayLose_of_told {clearing : Clearing} {outcome : Except Fault (List Value)} {before : List Exchange}
    (told : (oneMigration clearing).told
      ([oneLine, .reply (.ok (.map [])), .reply (.error (.refused "slow down"))] ++ clearing.answers) =
        some (outcome, before ++
          [.called (.batch "shelf" (.delete (key (.text "cart#v") (.text "product#p")))) (.ok .null)]))
    (unwritten : ∀ request v, .called (.table "shelf" request) (.ok v) ∈ before →
      ¬ Writes (.text "user#u") (.text "product#p") (.int 2) request) : clearing.MayLose :=
  ⟨outcome, before, .of_told told (along_recorded [] _), unwritten⟩

/-- A line that could not be put into the user's cart is deleted all the same, however the cart is cleared. -/
theorem unwritten_line_is_deleted : Clearing.moved.MayLose ∧ Clearing.found.MayLose := by
  constructor
  · refine @Clearing.mayLose_of_told _ _ [_, _, _] rfl fun request v mem => ?_
    rcases mem with _ | ⟨_, _ | ⟨_, _ | ⟨_, ⟨⟩⟩⟩⟩ <;> nofun
  · refine @Clearing.mayLose_of_told _ _ [_, _, _, _] rfl fun request v mem => ?_
    rcases mem with _ | ⟨_, _ | ⟨_, _ | ⟨_, _ | ⟨_, ⟨⟩⟩⟩⟩⟩ <;> nofun

end Cart

end Unbundle
