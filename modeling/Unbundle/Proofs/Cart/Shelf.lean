import Mathlib.Algebra.BigOperators.Finprod
import Unbundle.Proofs.Cart.Migration

/-!
# A shelf that is kept

The table of the shop as a store that does what it is asked. Each write of a line changes the difference
between what the carts hold and the total in one way, and each write of a total in the other.
-/

open Unbundle.Value Function

namespace Unbundle.Cart

open Service

/-- Where an item of the shelf is. -/
abbrev Spot := String × String

/-- The spot that a key or an item names. -/
def spot? (fields : Fields) : Option Spot :=
  match Value.lookup "pk" fields, Value.lookup "sk" fields with
  | some (.text pk), some (.text sk) => some (pk, sk)
  | _, _ => none

def lineSpot (cart id : String) : Spot := (cart, productLead ++ id)

def totalSpot (id : String) : Spot := ("PRODUCT#" ++ id, "TOTAL")

def detailSpot (id : String) : Spot := ("PRODUCT#" ++ id, "DETAIL")

/-- The lines of a cart by product, in any order. -/
structure Lists (shelf : Tables Spot) (cart : String) (lines : List (String × Fields)) : Prop where
  distinct : (lines.map Prod.fst).Nodup
  mem_iff : ∀ id item, (id, item) ∈ lines ↔ shelf (lineSpot cart id) = some item

/-- How a shelf answers that does all that it is asked, and what it keeps then. -/
inductive Shelves (table : String) : Tables Spot → Exchange → Tables Spot → Prop
  | get {shelf : Tables Spot} {key reply : Fields} {spot : Spot} :
      spot? key = some spot → Value.lookup "Item" reply = (shelf spot).map Value.map →
      Shelves table shelf (.called (.table table (.get key)) (.ok (.map reply))) shelf
  | put {shelf : Tables Spot} {item kept : Fields} {spot : Spot} {reply : Value} :
      spot? item = some spot → Kept (.map item) (.map kept) →
      Shelves table shelf (.called (.table table (.put item none)) (.ok reply)) (Function.update shelf spot (some kept))
  | update {shelf : Tables Spot} {key after : Fields} {change : Change} {returning : Returning} {spot : Spot}
      {reply : Value} :
      spot? key = some spot → change.Turns ((shelf spot).getD key) after →
      (returning = .allNew → reply.field "Attributes" = .ok (.map after)) →
      Shelves table shelf (.called (.table table (.update key change none returning)) (.ok reply))
        (Function.update shelf spot (some after))
  | delete {shelf : Tables Spot} {key : Fields} {spot : Spot} {reply : Value} :
      spot? key = some spot →
      Shelves table shelf (.called (.table table (.delete key)) (.ok reply)) (Function.update shelf spot none)
  | deleteBatch {shelf : Tables Spot} {key : Fields} {spot : Spot} {reply : Value} :
      spot? key = some spot →
      Shelves table shelf (.called (.batch table (.delete key)) (.ok reply)) (Function.update shelf spot none)
  | lines {shelf : Tables Spot} {cart : String} {lines : List (String × Fields)} {reply : Value} :
      Lists shelf cart lines → reply.field "Items" = .ok (.list (lines.map fun line => .map line.2)) →
      Shelves table shelf (.called (.table table (linesOf (.text cart))) (.ok reply)) shelf
  | made {shelf : Tables Spot} {secret : Secret} {text : String} :
      Shelves table shelf (.made secret text) shelf

section

variable {table table' cart id pk sk : String} {shelf : Tables Spot} {fault : Fault → Tables Spot → Prop}

lemma ensures_item : (Flow.ask table' (.get (key (.text pk) (.text sk)))).Ensures (Shelves table) shelf
    (fun v after => after = shelf ∧ ∃ reply, v = .map reply ∧
      lookup "Item" reply = (shelf (pk, sk)).map map) fault := by
  refine ensures_invoke ?_ fun _ _ => nofun
  rintro v after (⟨⟨⟩, found⟩ | _)
  exact ⟨rfl, _, rfl, found⟩

lemma ensures_lines : (Flow.ask table' (linesOf (.text cart))).Ensures (Shelves table) shelf
    (fun v after => after = shelf ∧ ∃ lines, Lists shelf cart lines ∧
      v.field "Items" = .ok (.list (lines.map fun line => .map line.2))) fault := by
  refine ensures_invoke ?_ fun _ _ => nofun
  rintro v after (_ | _ | _ | _ | _ | ⟨lists, shown⟩)
  exact ⟨rfl, _, lists, shown⟩

lemma ensures_change {change : Change} {returning : Returning} :
    (Flow.ask table' (.update (key (.text pk) (.text sk)) change none returning)).Ensures (Shelves table) shelf
      (fun v after => ∃ item, after = update shelf (pk, sk) (some item) ∧
        change.Turns ((shelf (pk, sk)).getD (key (.text pk) (.text sk))) item ∧
        (returning = .allNew → v.field "Attributes" = .ok (.map item))) fault := by
  refine ensures_invoke ?_ fun _ _ => nofun
  rintro v after (_ | _ | ⟨⟨⟩, turns, attributes⟩ | _)
  exact ⟨_, rfl, turns, attributes⟩

lemma ensures_stored {item : Fields} (located : spot? item = some (pk, sk)) :
    (Flow.ask table' (.put item none)).Ensures (Shelves table) shelf
      (fun _ after => ∃ kept, after = update shelf (pk, sk) (some kept) ∧ Kept (.map item) (.map kept))
      fault := by
  refine ensures_invoke ?_ fun _ _ => nofun
  rintro v after (_ | ⟨located', kept⟩)
  rw [located] at located'
  cases located'
  exact ⟨_, rfl, kept⟩

lemma ensures_deleted : (Flow.ask table' (.delete (key (.text pk) (.text sk)))).Ensures (Shelves table) shelf
    (fun _ after => after = update shelf (pk, sk) none) fault := by
  refine ensures_invoke ?_ fun _ _ => nofun
  rintro v after (_ | _ | _ | ⟨⟨⟩⟩)
  rfl

lemma ensures_deletedBatch : (Flow.send table' (.delete (key (.text pk) (.text sk)))).Ensures (Shelves table) shelf
    (fun _ after => after = update shelf (pk, sk) none) fault := by
  refine ensures_invoke ?_ fun _ _ => nofun
  rintro v after (_ | _ | _ | _ | ⟨⟨⟩⟩)
  rfl

end

/-! ### Amounts -/

/-- The number in a field of an item; zero if there is none. -/
def amount (field : String) (item : Option Fields) : ℚ := (item.bind (numberAt · field)).getD 0

def held (shelf : Tables Spot) (cart id : String) : ℚ := amount "quantity" (shelf (lineSpot cart id))

noncomputable def inCarts (shelf : Tables Spot) (id : String) : ℚ := ∑ᶠ cart, held shelf cart id

def total (shelf : Tables Spot) (id : String) : ℚ := amount "total_quantity" (shelf (totalSpot id))

/-- What is missing in the total of each product. -/
noncomputable def debt (shelf : Tables Spot) : String → ℚ := inCarts shelf - total shelf

section

variable {cart cart' id id' : String} {shelf : Tables Spot} {item : Option Fields} {field : String}

lemma amount_of_numberAt {fields : Fields} {q : ℚ} (number : numberAt fields field = some q) :
    amount field (some fields) = q := by
  rw [amount, Option.bind_some, number, Option.getD_some]

lemma amount_getD {fields : Fields} (missing : lookup field fields = none) :
    amount field (some (item.getD fields)) = amount field item := by
  cases item with
  | none => simp [amount, numberAt, missing]
  | some other => rfl

lemma numberAt_of_turns {change : Change} {before after : Fields} {slot : Slot} {q : ℚ}
    (turns : change.Turns before after) (mem : (field, slot) ∈ change.additions) (number : slot.value.number? = some q) :
    numberAt after field = some (amount field (some before) + q) := by
  obtain ⟨a, b, v, old, given, found, sum⟩ := turns.added _ mem
  obtain rfl := Option.some.inj (number.symm.trans given)
  have start : amount field (some before) = a := by
    rcases old with ⟨none, rfl⟩ | there
    · simp [amount, numberAt, none]
    · exact amount_of_numberAt there
  rw [numberAt, found, start]
  exact sum

lemma lineSpot_inj : lineSpot cart id = lineSpot cart' id' ↔ cart = cart' ∧ id = id' := by
  simp [lineSpot]

lemma lineSpot_ne_totalSpot : lineSpot cart id ≠ totalSpot id' := by
  intro same
  have letters := congrArg String.toList (congrArg Prod.snd same)
  simp [lineSpot, totalSpot, productLead] at letters

lemma lineSpot_ne_detailSpot : lineSpot cart id ≠ detailSpot id' := by
  intro same
  have letters := congrArg String.toList (congrArg Prod.snd same)
  simp [lineSpot, detailSpot, productLead] at letters

lemma totalSpot_ne_detailSpot : totalSpot id ≠ detailSpot id' := by
  simp [totalSpot, detailSpot]

lemma totalSpot_inj : totalSpot id = totalSpot id' ↔ id = id' := by
  simp [totalSpot]

lemma held_update_line : held (update shelf (lineSpot cart id) item) cart' id' =
    if cart' = cart ∧ id' = id then amount "quantity" item else held shelf cart' id' := by
  rw [held, update_apply]
  simp only [lineSpot_inj, apply_ite (amount "quantity"), held]

lemma held_update_total : held (update shelf (totalSpot id) item) = held shelf := by
  ext cart' id'
  rw [held, update_of_ne lineSpot_ne_totalSpot, held]

lemma total_update_line : total (update shelf (lineSpot cart id) item) = total shelf := by
  ext id'
  rw [total, update_of_ne lineSpot_ne_totalSpot.symm, total]

lemma total_update_total : total (update shelf (totalSpot id) item) =
    update (total shelf) id (amount "total_quantity" item) := by
  ext id'
  by_cases same : id' = id
  · subst same
    simp [total]
  · rw [total, update_of_ne (fun h => same (totalSpot_inj.1 h)), update_of_ne same, total]

lemma finsum_update {α : Type} [DecidableEq α] {f : α → ℚ} (finite : f.support.Finite) (a : α) (q : ℚ) :
    ∑ᶠ x, update f a q x = ∑ᶠ x, f x + (q - f a) := by
  have split : update f a q = fun x => f x + Pi.single (M := fun _ => ℚ) a (q - f a) x := by
    ext x
    by_cases same : x = a
    · subst same
      simp
    · simp [same]
  have single : ∑ᶠ x, Pi.single (M := fun _ => ℚ) a (q - f a) x = q - f a := by
    rw [finsum_eq_single _ a fun x other => Pi.single_eq_of_ne other _, Pi.single_eq_same]
  rw [split, finsum_add_distrib finite ((Set.finite_singleton a).subset Pi.support_single_subset), single]

lemma finite_held (finite : {spot | shelf spot ≠ none}.Finite) (id : String) :
    (fun cart => held shelf cart id).support.Finite := by
  refine (finite.image Prod.fst).subset fun cart some => ⟨lineSpot cart id, fun none => some ?_, rfl⟩
  simp [held, none, amount]

lemma debt_update_line (finite : {spot | shelf spot ≠ none}.Finite) :
    debt (update shelf (lineSpot cart id) item) =
      debt shelf + Pi.single id (amount "quantity" item - held shelf cart id) := by
  ext id'
  rw [debt, total_update_line, debt, Pi.sub_apply, Pi.add_apply, Pi.sub_apply, inCarts, inCarts]
  by_cases same : id' = id
  · subst same
    have changed : (fun c => held (update shelf (lineSpot cart id') item) c id') =
        update (fun c => held shelf c id') cart (amount "quantity" item) := by
      ext c
      rw [held_update_line, update_apply]
      simp
    rw [changed, finsum_update (finite_held finite id'), Pi.single_eq_same]
    ring
  · simp only [held_update_line, same, and_false, if_false, Pi.single_eq_of_ne same, add_zero]

lemma debt_update_total : debt (update shelf (totalSpot id) item) =
    debt shelf - Pi.single id (amount "total_quantity" item - total shelf id) := by
  have same : inCarts (update shelf (totalSpot id) item) = inCarts shelf := by
    ext id'
    simp only [inCarts, held_update_total]
  rw [debt, same, total_update_total, debt]
  ext id'
  by_cases here : id' = id
  · subst here
    simp
  · simp [here]

end

/-! ### Lines and products -/

/-- A text from which the lead of a product can be told. -/
def IsBare (id : String) : Prop := ¬ productLead.toList <:+: id.toList

/-- JSON that can be read. -/
def IsLegible (json : Value) : Prop := ∃ s v p, json = .text s ∧ json.parsed = .ok v ∧ v.plain = .ok p

/-- A line of a cart. -/
structure IsLine (cart id : String) (item : Fields) : Prop where
  bare : IsBare id
  pk : Value.lookup "pk" item = some (.text cart)
  sk : Value.lookup "sk" item = some (.text (productLead ++ id))
  quantity : ∃ n : ℤ, 0 < n ∧ numberAt item "quantity" = some n
  detail : ∃ json, Value.lookup "product_detail" item = some json ∧ IsLegible json

/-- A product: its name does not hold the lead of a line, and its detail is not nested too deeply. -/
structure IsProduct (id : String) (item : Fields) : Prop where
  bare : IsBare id
  shallow : ∀ detail, plainProduct (.map item) = .ok detail →
    detail.DistinctFields ∧ detail.depth ≤ Json.maxNesting

/-- A shelf of finitely many items, on which lines and products are what they should be. -/
structure Sound (shelf : Tables Spot) : Prop where
  finite : {spot | shelf spot ≠ none}.Finite
  line : ∀ {cart id item}, shelf (lineSpot cart id) = some item → IsLine cart id item
  product : ∀ {id item}, shelf (detailSpot id) = some item → IsProduct id item

/-- A sound shelf and what is missing in its totals. -/
structure Owes (shelf : Tables Spot) (missing : String → ℚ) : Prop where
  sound : Sound shelf
  debt_eq : debt shelf = missing

/-- A line of a cart was written or deleted and has some quantity now. -/
def WritesLine (shelf : Tables Spot) (cart id : String) (q : ℚ) (after : Tables Spot) : Prop :=
  ∃ item, after = Function.update shelf (lineSpot cart id) item ∧
    (∀ fields, item = some fields → IsLine cart id fields) ∧ amount "quantity" item = q

/-- The total of a product was written. -/
def WritesTotal (shelf : Tables Spot) (id : String) (q : ℚ) (after : Tables Spot) : Prop :=
  ∃ item, after = Function.update shelf (totalSpot id) item ∧ amount "total_quantity" item = q

section

variable {cart id : String} {shelf after : Tables Spot} {d : String → ℚ} {q : ℚ}

lemma finite_update {spot : Spot} {item : Option Fields} (finite : {spot | shelf spot ≠ none}.Finite) :
    {s | update shelf spot item s ≠ none}.Finite := by
  refine (finite.insert spot).subset fun s there => ?_
  by_cases same : s = spot
  · exact .inl same
  · exact .inr fun none => there ((update_of_ne same item shelf).trans none)

lemma Owes.writesLine (owes : Owes shelf d) (written : WritesLine shelf cart id q after) :
    Owes after (d + Pi.single id (q - held shelf cart id)) := by
  obtain ⟨item, rfl, line, rfl⟩ := written
  refine ⟨⟨finite_update owes.sound.finite, ?_, ?_⟩, ?_⟩
  · intro cart' id' fields there
    by_cases same : lineSpot cart' id' = lineSpot cart id
    · obtain ⟨rfl, rfl⟩ := lineSpot_inj.1 same
      rw [update_self] at there
      exact line fields there
    · rw [update_of_ne same] at there
      exact owes.sound.line there
  · intro id' fields there
    rw [update_of_ne lineSpot_ne_detailSpot.symm] at there
    exact owes.sound.product there
  · rw [debt_update_line owes.sound.finite, owes.debt_eq]

lemma Owes.writesTotal (owes : Owes shelf d) (written : WritesTotal shelf id q after) :
    Owes after (d - Pi.single id (q - total shelf id)) := by
  obtain ⟨item, rfl, rfl⟩ := written
  refine ⟨⟨finite_update owes.sound.finite, ?_, ?_⟩, ?_⟩
  · intro cart' id' fields there
    rw [update_of_ne lineSpot_ne_totalSpot] at there
    exact owes.sound.line there
  · intro id' fields there
    rw [update_of_ne totalSpot_ne_detailSpot.symm] at there
    exact owes.sound.product there
  · rw [debt_update_total, owes.debt_eq]

lemma Sound.exists_held (sound : Sound shelf) (cart id : String) : ∃ n : ℤ, 0 ≤ n ∧ held shelf cart id = n := by
  cases there : shelf (lineSpot cart id) with
  | none => exact ⟨0, le_rfl, by simp [held, there, amount]⟩
  | some item =>
    obtain ⟨n, positive, number⟩ := (sound.line there).quantity
    exact ⟨n, positive.le, by rw [held, there, amount_of_numberAt number]⟩

lemma Owes.held_le_total (owes : Owes shelf 0) (cart id : String) : held shelf cart id ≤ total shelf id := by
  have same : inCarts shelf id = total shelf id := sub_eq_zero.1 (congrFun owes.debt_eq id)
  rw [← same]
  refine single_le_finsum cart (finite_held owes.sound.finite id) fun c => ?_
  obtain ⟨n, positive, number⟩ := owes.sound.exists_held c id
  rw [number]
  exact_mod_cast positive

end

/-! ### Writing -/

section

variable {s : Setting} {table table' cart id : String} {shelf : Tables Spot} {n : ℤ}
  {json seconds now product detail expires : Value} {fault : Fault → Tables Spot → Prop}
variable {v : Value} {q : ℚ} {item : Fields}

lemma Kept.eq_text {s : String} (kept : Kept (.text s) v) : v = .text s := by
  cases kept with
  | same => rfl
  | number value => cases value

lemma Kept.number {w : Value} (kept : Kept v w) (number : v.number? = some q) : w.number? = some q := by
  cases kept with
  | same => exact number
  | number value value' => exact (value'.trans (value.symm.trans number))
  | _ => cases number

lemma related_le_zero (value : v.number? = some q) :
    v.related .le (.int 0) = .ok (decide (q ≤ 0)) := by
  rw [related_zero value]
  rcases lt_trichotomy q 0 with low | rfl | high
  · simp [compare_lt_iff_lt.2 low, low.le, Relation.holds]
  · simp [Relation.holds]
  · simp [compare_gt_iff_gt.2 high, high, Relation.holds]

lemma writesLine_of_kept (bare : IsBare id) (legible : IsLegible json) (positive : 0 < n)
    (kept : Kept (.map (storedLine (.text cart) (.text (productLead ++ id)) (.int n) json seconds now)) (.map item)) :
    WritesLine shelf cart id n (update shelf (lineSpot cart id) (some item)) := by
  obtain ⟨s, v, p, rfl, read, plain⟩ := legible
  obtain ⟨pk, keptPk, foundPk⟩ := kept.exists_lookup (k := "pk") rfl
  obtain ⟨sk, keptSk, foundSk⟩ := kept.exists_lookup (k := "sk") rfl
  obtain ⟨w, keptQuantity, foundQuantity⟩ := kept.exists_lookup (k := "quantity") rfl
  obtain ⟨w', keptDetail, foundDetail⟩ := kept.exists_lookup (k := "product_detail") rfl
  have number : numberAt item "quantity" = some n := by
    rw [numberAt, foundQuantity]
    exact Kept.number keptQuantity rfl
  refine ⟨_, rfl, ?_, amount_of_numberAt number⟩
  rintro _ ⟨⟩
  exact ⟨bare, foundPk.trans (by rw [Kept.eq_text keptPk]), foundSk.trans (by rw [Kept.eq_text keptSk]),
    ⟨n, positive, number⟩, _, foundDetail.trans (by rw [Kept.eq_text keptDetail]), s, v, p, rfl, read, plain⟩

lemma Sound.lookup_line (sound : Sound shelf) (cart id : String) :
    lookup "pk" ((shelf (lineSpot cart id)).getD (key (.text cart) (.text (productLead ++ id)))) =
        some (.text cart) ∧
      lookup "sk" ((shelf (lineSpot cart id)).getD (key (.text cart) (.text (productLead ++ id)))) =
        some (.text (productLead ++ id)) := by
  cases there : shelf (lineSpot cart id) with
  | none => exact ⟨rfl, rfl⟩
  | some fields => exact ⟨(sound.line there).pk, (sound.line there).sk⟩

lemma isLine_of_turns (sound : Sound shelf) (bare : IsBare id) (legible : IsLegible json)
    (turns : (lineAddition (.int n) json seconds now).Turns
      ((shelf (lineSpot cart id)).getD (key (.text cart) (.text (productLead ++ id)))) item) :
    numberAt item "quantity" = some (held shelf cart id + n) ∧
      (0 < held shelf cart id + n → IsLine cart id item) := by
  obtain ⟨s, v, p, rfl, read, plain⟩ := legible
  have number : numberAt item "quantity" = some (held shelf cart id + n) := by
    rw [numberAt_of_turns (q := n) turns (List.mem_singleton_self _) rfl, amount_getD rfl, held]
  obtain ⟨pk, sk⟩ := sound.lookup_line cart id
  refine ⟨number, fun positive => ⟨bare, ?_, ?_, ?_, ?_⟩⟩
  · exact (turns.others "pk" (by simp [Change.fields, lineAddition, Assignment.set])).trans pk
  · exact (turns.others "sk" (by simp [Change.fields, lineAddition, Assignment.set])).trans sk
  · obtain ⟨m, -, held⟩ := sound.exists_held cart id
    rw [held] at number positive
    exact ⟨m + n, by exact_mod_cast positive, by rw [number]; norm_cast⟩
  · obtain ⟨w, found, kept⟩ := turns.assigned _ List.mem_cons_self
    exact ⟨_, found.trans (by rw [Kept.eq_text kept]), s, v, p, rfl, read, plain⟩

lemma writes_addLine (sound : Sound shelf) (bare : IsBare product.str)
    (legible : ∀ stored json, detail.storable = .ok stored → stored.toJson = .ok json → IsLegible json)
    (enough : 0 ≤ held shelf cart product.str + n) :
    (addLine s (.text cart) product (.int n) detail expires).Ensures (Shelves table) shelf
      (fun _ after => WritesLine shelf cart product.str (held shelf cart product.str + n) after)
      fun _ _ => True := by
  refine ensures_given fun table' _ => ?_
  refine ensures_given fun seconds _ => ?_
  refine ensures_given fun stored isStored => ?_
  refine ensures_given fun json written => ?_
  refine .noting (ensures_change.bind ?_)
  rintro reply _ ⟨item, rfl, turns, attributes⟩
  obtain ⟨number, line⟩ := isLine_of_turns sound bare (legible stored json isStored written) turns
  obtain ⟨v, found, value⟩ := Option.bind_eq_some_iff.1 number
  refine ensures_ok_bind (attributes rfl) (ensures_ok_bind
    (getD_of_field (field_of_lookup found)) (ensures_ok_bind (related_le_zero value) ?_))
  split_ifs with none
  · refine ensures_deleted.bind ?_
    rintro _ _ rfl
    refine ensures_done ⟨.none, update_idem .., nofun, ?_⟩
    exact le_antisymm enough (of_decide_eq_true none)
  · refine ensures_done ⟨some item, rfl, ?_, amount_of_numberAt number⟩
    rintro _ ⟨⟩
    exact line (not_le.1 fun low => none (decide_eq_true low))

lemma writes_setLine (bare : IsBare product.str)
    (legible : ∀ stored json, detail.storable = .ok stored → stored.toJson = .ok json → IsLegible json)
    (positive : 0 ≤ n) :
    (setLine s (.text cart) product (.int n) detail expires).Ensures (Shelves table) shelf
      (fun _ after => WritesLine shelf cart product.str n after) fun _ _ => True := by
  refine ensures_given fun table' _ => ?_
  refine ensures_given fun seconds _ => ?_
  refine ensures_given fun stored isStored => ?_
  refine ensures_given fun json written => ?_
  refine .noting (ensures_ok_bind (related_le_zero rfl) ?_)
  split_ifs with none
  · refine ensures_deleted.bind ?_
    rintro _ _ rfl
    refine ensures_done ⟨.none, rfl, nofun, ?_⟩
    exact le_antisymm (Int.cast_nonneg positive) (of_decide_eq_true none)
  · refine (ensures_stored rfl).bind ?_
    rintro _ _ ⟨kept, rfl, keeps⟩
    refine ensures_done (writesLine_of_kept bare (legible stored json isStored written) ?_ keeps)
    exact_mod_cast not_le.1 fun low => none (decide_eq_true low)

lemma writes_mergeLine (sound : Sound shelf) (bare : IsBare id) (legible : IsLegible json) (positive : 0 < n) :
    (mergeLine table' (.text cart) (.text (productLead ++ id)) (.int n) json seconds now).Ensures (Shelves table) shelf
      (fun _ after => WritesLine shelf cart id (held shelf cart id + n) after) fault := by
  obtain ⟨m, low, old⟩ := sound.exists_held cart id
  refine ensures_item.bind ?_
  rintro _ after ⟨same, reply, rfl, found⟩
  subst after
  have known : (map reply).holdsName "Item" = .ok (lookup "Item" reply).isSome := rfl
  rw [found] at known
  refine ensures_ok_bind known ?_
  cases there : shelf (cart, productLead ++ id) with
  | none =>
    refine (ensures_stored rfl).bind ?_
    rintro _ _ ⟨kept, rfl, keeps⟩
    have zero : held shelf cart id = 0 := by simp [held, lineSpot, there, amount]
    rw [zero, zero_add]
    exact ensures_done (writesLine_of_kept bare legible positive keeps)
  | some item =>
    refine ensures_change.bind ?_
    rintro _ _ ⟨item', rfl, turns, -⟩
    obtain ⟨number, line⟩ := isLine_of_turns sound bare legible turns
    refine ensures_done ⟨_, rfl, ?_, amount_of_numberAt number⟩
    rintro _ ⟨⟩
    refine line ?_
    rw [old]
    exact_mod_cast add_pos_of_nonneg_of_pos low positive

lemma writes_changeTotal (enough : 0 ≤ total shelf product.str + n) :
    (Direct.changeTotal s product (.int n)).Ensures (Shelves table) shelf
      (fun _ after => WritesTotal shelf product.str (total shelf product.str + n) after) fun _ _ => True := by
  refine ensures_given fun table' _ => ?_
  refine .attempt (show Flow.Ensures _ _ _ _ fun _ _ => False from ?_) (fun _ _ _ _ => trivial)
    fun _ _ never _ => never.elim
  refine ensures_change.bind ?_
  rintro reply _ ⟨item, rfl, turns, attributes⟩
  have number : numberAt item "total_quantity" = some (total shelf product.str + n) := by
    rw [numberAt_of_turns (q := n) turns (List.mem_singleton_self _) rfl, amount_getD rfl]
    rfl
  obtain ⟨v, found, value⟩ := Option.bind_eq_some_iff.1 number
  have high : Relation.lt.holds (compare (total shelf product.str + n) 0) = false :=
    beq_eq_false_iff_ne.2 fun low => (compare_lt_iff_lt.1 low).not_ge enough
  refine ensures_ok_bind (attributes rfl) (ensures_ok_bind
    (getD_of_field (field_of_lookup found)) (ensures_ok_bind (related_zero value .lt) ?_))
  rw [high]
  exact ensures_done ⟨_, rfl, amount_of_numberAt number⟩

end

end Unbundle.Cart
