import Unbundle.Proofs.Cart.Shelf
import Unbundle.Proofs.Json.RoundTrip
import Unbundle.Proofs.Json.Writable

/-!
# Totals and carts

Every request that is answered keeps the total of each product equal to what all carts hold of it, as long as no
request takes more out of a cart than there is.
-/

open List Unbundle.Value Function Unbundle.Service.Flow

namespace Unbundle.Cart

open Service

variable {shelf : Tables Spot} {n m : ℤ} {name : String} {fs gs : Fields}

/-! ### Lines together -/

/-- How much lines hold of each product. -/
def load (lines : List (String × Fields)) : String → ℚ :=
  (lines.map fun line => Pi.single line.1 (amount "quantity" (some line.2))).sum

section

variable {s : Setting} {table table' cart user visitor id : String} {shelf after : Tables Spot} {d : String → ℚ}
  {lines : List (String × Fields)} {product : Value}

lemma load_cons (line : String × Fields) : load (line :: lines) =
    Pi.single line.1 (amount "quantity" (some line.2)) + load lines := by
  rw [load, map_cons, sum_cons, load]

lemma load_apply {item : Option Fields} (distinct : (lines.map Prod.fst).Nodup)
    (mem_iff : ∀ fields, (id, fields) ∈ lines ↔ item = some fields) : load lines id = amount "quantity" item := by
  induction lines generalizing item with
  | nil =>
    cases item with
    | none => rfl
    | some fields => cases (mem_iff fields).2 rfl
  | cons line lines ih =>
    obtain ⟨new, distinct⟩ := nodup_cons.1 distinct
    rw [load_cons, Pi.add_apply]
    by_cases same : id = line.1
    · subst same
      have others : load lines line.1 = amount "quantity" none := ih distinct fun fields =>
        ⟨fun mem => absurd (mem_map_of_mem mem) new, nofun⟩
      rw [(mem_iff line.2).1 mem_cons_self, others, Pi.single_eq_same]
      exact add_zero _
    · rw [Pi.single_eq_of_ne same, zero_add]
      refine ih distinct fun fields => (mem_iff fields).symm.trans ?_ |>.symm
      simp [Prod.ext_iff, same]

lemma load_eq (lists : Lists shelf cart lines) : load lines = held shelf cart := by
  ext id
  exact load_apply lists.distinct fun fields => lists.mem_iff id fields

lemma writes_moveLine {item : Fields} (sound : Sound shelf) (line : IsLine visitor id item) :
    (moveLine s table' (.text user) (.map item)).Ensures (Shelves table) shelf
      (fun _ after => WritesLine shelf user id (held shelf user id + amount "quantity" (some item)) after)
      fun _ _ => True := by
  obtain ⟨n, positive, number⟩ := line.quantity
  obtain ⟨json, detail, legible⟩ := line.detail
  obtain ⟨v, found, value⟩ := Option.bind_eq_some_iff.1 number
  refine ensures_ok_bind (field_of_lookup line.sk) (ensures_ok_bind
    (getD_of_field (field_of_lookup found)) (ensures_ok_bind (shownQuantity_of_number? value)
      (ensures_ok_bind (getD_of_field (field_of_lookup detail))
        (ensures_ok_bind (related_le_zero (q := n) rfl) ?_))))
  rw [decide_eq_false (by exact_mod_cast positive.not_ge)]
  refine ensures_given fun _ _ => ?_
  refine .orPrint (show Ensures _ _ _ _ fun _ _ => False from ?_) (fun _ _ never _ => never.elim)
    fun _ _ _ _ => trivial
  rw [amount_of_numberAt number]
  exact (writes_mergeLine sound line.bare legible positive).bind fun _ _ written => ensures_done written

lemma writes_moveLines (each : ∀ line ∈ lines, IsLine visitor line.1 line.2) (owes : Owes shelf d) :
    (moveLines s table' (.text user) (lines.map fun line => .map line.2)).Ensures (Shelves table) shelf
      (fun _ after => Owes after (d + load lines) ∧ ∀ cart, cart ≠ user → held after cart = held shelf cart)
      fun _ _ => True := by
  induction lines generalizing shelf d with
  | nil => exact ensures_done ⟨by simpa [load] using owes, fun _ _ => rfl⟩
  | cons line lines ih =>
    obtain ⟨here, each⟩ := forall_mem_cons.1 each
    refine (writes_moveLine owes.sound here).bind fun _ middle written => ?_
    have moved := owes.writesLine written
    rw [add_sub_cancel_left] at moved
    refine (ih each moved).bind ?_
    rintro _ after ⟨owes, same⟩
    refine ensures_done ⟨by rwa [load_cons, ← add_assoc], fun cart other => (same cart other).trans ?_⟩
    obtain ⟨item, rfl, -⟩ := written
    ext id
    rw [held_update_line, if_neg fun both => other both.1]

lemma ensures_deleteAll (each : ∀ line ∈ lines, shelf (lineSpot cart line.1) = some line.2)
    (distinct : (lines.map Prod.fst).Nodup) (owes : Owes shelf d) :
    (deleteAll table' (lines.map fun line => .map line.2)).Ensures (Shelves table) shelf
      (fun _ after => Owes after (d - load lines)) fun _ _ => True := by
  induction lines generalizing shelf d with
  | nil => exact ensures_done (by simpa [load] using owes)
  | cons line lines ih =>
    obtain ⟨here, each⟩ := forall_mem_cons.1 each
    obtain ⟨new, distinct⟩ := nodup_cons.1 distinct
    have known := owes.sound.line here
    refine ensures_ok_bind (field_of_lookup known.pk) (ensures_ok_bind
      (field_of_lookup known.sk) (ensures_deletedBatch.bind ?_))
    rintro _ _ rfl
    have deleted : WritesLine shelf cart line.1 0 (update shelf (lineSpot cart line.1) none) :=
      ⟨none, rfl, nofun, rfl⟩
    have owes := owes.writesLine deleted
    rw [held, here, zero_sub, Pi.single_neg, ← sub_eq_add_neg] at owes
    refine (ih (fun other mem => ?_) distinct owes).mono (fun _ _ owes => ?_) fun _ _ h => h
    · refine (update_of_ne (fun same => new ?_) _ _).trans (each other mem)
      exact (lineSpot_inj.1 same).2 ▸ mem_map_of_mem mem
    · rwa [load_cons, ← sub_sub]

lemma ensures_clearCart (owes : Owes shelf d) :
    (Direct.clearCart s (.text cart)).Ensures (Shelves table) shelf (fun _ after => Owes after (d - held shelf cart))
      fun _ _ => True := by
  refine .bind (ensures_lift_bind (fun table' _ => .noting (ensures_lines.bind ?_))
    fun _ _ => trivial) fun _ _ owes => ensures_done owes
  rintro listing _ ⟨rfl, lines, lists, shown⟩
  refine ensures_ok_bind shown (ensures_ok_bind rfl ?_)
  refine (ensures_deleteAll (fun line mem => (lists.mem_iff _ _).1 mem) lists.distinct owes).bind ?_
  intro _ after owes
  rw [load_eq lists] at owes
  exact ensures_lift (fun _ _ => owes) fun _ _ => trivial

/-! ### Selling -/

/-- A value that shows a line. -/
def Shows (line : String × Fields) (v : Value) : Prop :=
  ∃ n : ℤ, v.field "sk" = .ok (.text (productLead ++ line.1)) ∧ v.field "quantity" = .ok (.int n) ∧
    amount "quantity" (some line.2) = n ∧ IsBare line.1

lemma exists_cartLine {line : String × Fields} (known : IsLine cart line.1 line.2) :
    ∃ v, cartLine none (.map line.2) = .ok (some v) ∧ Shows line v := by
  obtain ⟨n, positive, number⟩ := known.quantity
  obtain ⟨v, found, value⟩ := Option.bind_eq_some_iff.1 number
  obtain ⟨json, detail, text, w, p, rfl, read, plain⟩ := known.detail
  have shownDetail : ∃ w p, detailOf (.map line.2) = .ok w ∧ w.plain = .ok p := by
    have given : (map line.2).get "product_detail" = .ok (.text text) :=
      getD_of_field (field_of_lookup detail)
    rw [detailOf, given, ok_bind]
    dsimp only
    split_ifs
    · exact ⟨_, _, rfl, rfl⟩
    · exact ⟨w, p, read, plain⟩
  obtain ⟨w, p, shown, plain⟩ := shownDetail
  refine ⟨.map [("sk", .text (productLead ++ line.1)), ("quantity", .int n), ("productDetail", p)], ?_,
    n, rfl, rfl, amount_of_numberAt number, known.bare⟩
  have positive : decide ((n : ℚ) ≤ 0) = false := decide_eq_false (by exact_mod_cast positive.not_ge)
  rw [cartLine, getD_of_field (field_of_lookup found), ok_bind, related_le_zero value, positive]
  rw [shown, field_of_lookup known.sk, shownQuantity_of_number? value]
  simp only [ok_bind, plain]
  rfl

lemma exists_cartLines (each : ∀ line ∈ lines, IsLine cart line.1 line.2) :
    ∃ shown, cartLines none (lines.map fun line => .map line.2) = .ok shown ∧ Forall₂ Shows lines shown := by
  induction lines with
  | nil => exact ⟨[], rfl, .nil⟩
  | cons line lines ih =>
    obtain ⟨here, each⟩ := forall_mem_cons.1 each
    obtain ⟨v, first, shows⟩ := exists_cartLine here
    obtain ⟨vs, others, all⟩ := ih each
    refine ⟨v :: vs, ?_, .cons shows all⟩
    rw [map_cons, cartLines, first, others]
    rfl

lemma Lists.isLine (lists : Lists shelf cart lines) (sound : Sound shelf) : ∀ line ∈ lines, IsLine cart line.1 line.2 :=
  fun _ mem => sound.line ((lists.mem_iff _ _).1 mem)

lemma ensures_cartItems (sound : Sound shelf) :
    (cartItems s none (.text cart)).Ensures (Shelves table) shelf
      (fun shown after => after = shelf ∧ ∃ lines, Lists shelf cart lines ∧ Forall₂ Shows lines shown)
      fun _ _ => True := by
  refine ensures_given fun table' _ => ?_
  refine .orPrint (show Ensures _ _ _ _ fun _ _ => False from ?_) (fun _ _ never _ => never.elim)
    fun _ _ _ _ => trivial
  refine ensures_lines.bind ?_
  rintro listing _ ⟨rfl, lines, lists, shown⟩
  obtain ⟨vs, shownLines, shows⟩ := exists_cartLines (lists.isLine sound)
  refine ensures_ok_bind shown (ensures_ok_bind rfl ?_)
  rw [shownLines]
  exact ensures_done ⟨rfl, lines, lists, shows⟩

lemma replaceFrom_of_not_infix {old new cs : List Char} (absent : ¬ old <:+: cs) :
    Text.replaceFrom old new 0 cs = cs := by
  induction cs with
  | nil => rfl
  | cons c cs ih =>
    have first : old.isPrefixOf (c :: cs) = false :=
      Bool.eq_false_iff.2 fun starts => absent ( isPrefixOf_iff_prefix.1 starts).isInfix
    rw [Text.replaceFrom, first, if_neg (by simp), ih fun inside => absent (inside.trans (infix_cons infix_rfl))]

lemma without_lead (bare : IsBare id) : (text (productLead ++ id)).without productLead = .ok (.text id) := by
  have rest : Text.replaceAll productLead.toList [] (productLead ++ id).toList = id.toList := by
    rw [String.toList_append, Text.replaceAll]
    exact replaceFrom_of_not_infix bare
  change Except.ok (ofChars (Text.replaceAll productLead.toList [] (productLead ++ id).toList)) = _
  rw [rest, ofChars, String.ofList_toList]

@[simp] lemma str_text (text : String) : (Value.text text).str = text := String.ofList_toList

lemma ensures_takeSold {shown : List Value} (shows : Forall₂ Shows lines shown)
    (distinct : (lines.map Prod.fst).Nodup)
    (enough : ∀ line ∈ lines, amount "quantity" (some line.2) ≤ total shelf line.1) (owes : Owes shelf d) :
    (Direct.takeSold s shown).Ensures (Shelves table) shelf
      (fun _ after => Owes after (d + load lines) ∧ held after = held shelf) fun _ _ => True := by
  induction shows generalizing shelf d with
  | nil => exact ensures_done ⟨by simpa [load] using owes, rfl⟩
  | @cons line v lines shown here _ ih =>
    obtain ⟨n, sk, quantity, number, bare⟩ := here
    obtain ⟨new, distinct⟩ := nodup_cons.1 distinct
    obtain ⟨enoughHere, enough⟩ := forall_mem_cons.1 enough
    rw [number] at enoughHere
    refine ensures_ok_bind sk (ensures_ok_bind (without_lead bare) (ensures_ok_bind quantity
      (ensures_ok_bind rfl ((writes_changeTotal ?_).bind fun _ middle written => ?_))))
    · rw [str_text, Int.cast_neg, ← sub_eq_add_neg]
      exact sub_nonneg.2 enoughHere
    have taken := owes.writesTotal written
    rw [str_text, add_sub_cancel_left, Int.cast_neg, Pi.single_neg, sub_neg_eq_add] at taken
    obtain ⟨item, rfl, -⟩ := written
    refine (ih distinct (fun other mem => ?_) taken).mono (fun _ _ ⟨owes, same⟩ => ⟨?_, ?_⟩) fun _ _ h => h
    · rw [total_update_total, str_text, update_of_ne]
      · exact enough other mem
      · exact fun same => new (same ▸ mem_map_of_mem mem)
    · rwa [load_cons, number, ← add_assoc]
    · rw [same, held_update_total]

end

/-! ### Requests -/

/-- An answer to a request that was served. -/
def IsServed (answer : Value) : Prop := answer.field "statusCode" = .ok (.int 200)

/-- A flow that leaves right totals, if the request is served. -/
def Settles (table : String) (shelf : Tables Spot) (flow : Flow Value) : Prop :=
  flow.Ensures (Shelves table) shelf (fun answer after => IsServed answer → Owes after 0) fun _ _ => True

section

variable {s : Setting} {table cart : String} {shelf : Tables Spot} {event product : Value} {flow : Flow Value}

lemma settles_respond {status : Int} {body : Value} {more : Fields} (right : status = 200 → Owes shelf 0) :
    Settles table shelf (Direct.respond status body more) := by
  refine ensures_given fun json _ => ensures_done fun served => right ?_
  exact int.inj (Except.ok.inj served)

lemma excuse_ne (x : Direct.Excuse) (e : Fault) : (x.of e).1 ≠ 200 := by
  obtain ⟨missing, malformed, _⟩ := x
  cases e with
  | missingKey key => cases missing <;> simp [Direct.Excuse.of]
  | json e => cases malformed <;> simp [Direct.Excuse.of]
  | _ => simp [Direct.Excuse.of]

lemma settles_answered (x : Direct.Excuse) (settles : Settles table shelf flow) :
    Settles table shelf (Direct.answered x flow) :=
  .attempt settles (fun _ _ _ _ => trivial) fun e _ _ _ =>
    settles_respond fun same => absurd same (excuse_ne x e)

lemma settles_withUser {next : Value → Flow Value} (settles : ∀ user, Settles table shelf (next user)) :
    Settles table shelf (Direct.withUser event next) := by
  refine ensures_given fun authorized _ => ?_
  split_ifs
  · exact ensures_given fun user _ => settles user
  · exact settles_respond nofun

lemma ensures_findProduct : (findProduct s product).Ensures (Shelves table) shelf
    (fun v after => after = shelf ∧ (v.truthy = true → ∃ item, shelf (detailSpot product.str) = some item ∧
      plainProduct (.map item) = .ok v)) fun _ _ => True := by
  refine ensures_given fun table' _ => ?_
  refine .orPrint (show Ensures _ _ _ _ fun _ after => after = shelf from ?_)
    (fun _ _ same _ => ⟨same, nofun⟩) fun _ _ _ _ => trivial
  refine ensures_item.bind ?_
  rintro _ after ⟨same, reply, rfl, found⟩
  subst after
  have given : (map reply).get "Item" = .ok ((Value.lookup "Item" reply).getD .null) := rfl
  rw [found] at given
  refine ensures_ok_bind given ?_
  cases there : shelf (detailSpot product.str) with
  | none =>
    rw [show shelf (toString "PRODUCT#" ++ toString product.str, "DETAIL") = none from there]
    exact ensures_done ⟨rfl, nofun⟩
  | some item =>
    rw [show shelf (toString "PRODUCT#" ++ toString product.str, "DETAIL") = some item from there]
    split_ifs
    · exact ensures_lift (fun v read => ⟨rfl, fun _ => ⟨item, rfl, read⟩⟩) fun _ _ => rfl
    · exact ensures_done ⟨rfl, nofun⟩

lemma IsProduct.isLegible {id : String} {item : Fields} {detail : Value} (known : IsProduct id item)
    (read : plainProduct (.map item) = .ok detail) (stored json : Value) (isStored : detail.storable = .ok stored)
    (written : stored.toJson = .ok json) : IsLegible json := by
  obtain ⟨distinct, shallow⟩ := known.shallow detail read
  have parsed := distinct.parsed_of_storable shallow isStored written
  obtain ⟨p, plain⟩ := (isWritable_of_parsed parsed).exists_plain
  obtain ⟨text, -, ⟨⟩⟩ := bind_eq_ok_iff.1 written
  exact ⟨text, stored, p, rfl, parsed, plain⟩

lemma ensures_shopperOf : (Direct.shopperOf event).Ensures (Shelves table) shelf
    (fun shopper after => after = shelf ∧ Runs (Shelves table) (Direct.shopperOf event) shelf (.ok shopper) shelf)
    fun _ _ => True := by
  have same : (Direct.shopperOf event).Ensures (Shelves table) shelf (fun _ after => after = shelf) fun _ _ => True := by
    refine ensures_given fun authorized _ => ?_
    split_ifs
    · exact ensures_given fun _ _ => ensures_done rfl
    refine ensures_given fun _ _ => ensures_given fun _ _ => ?_
    split_ifs
    · exact ensures_done rfl
    · have made : identifier.Ensures (Shelves table) shelf (fun _ after => after = shelf) fun _ _ => True := by
        refine ensures_fresh ?_
        rintro _ _ ⟨⟩
        rfl
      exact made.bind fun _ _ same => ensures_done same
  refine ⟨fun run => ?_, fun _ => trivial⟩
  have same := same.result run
  exact ⟨same, same ▸ run⟩

lemma exists_cart (shopper : Shopper) : ∃ cart, shopper.cart = .text cart := by
  cases shopper <;> exact ⟨_, rfl⟩

def Orders (event product quantity : Value) : Prop :=
  ∃ text body, event.field "body" = .ok text ∧ text.parsed = .ok body ∧ body.get "productId" = .ok product ∧
    body.getD "quantity" (.int 1) = .ok quantity

/-- A request to add a whole number to a cart, or to take no more than that out of it that is there. -/
def IsCovered (table : String) (shelf : Tables Spot) (event : Value) : Prop :=
  ∀ product quantity, Orders event product quantity → ∃ n : ℤ, quantity = .int n ∧
    ∀ shopper cart, Runs (Shelves table) (Direct.shopperOf event) shelf (.ok shopper) shelf →
      shopper.cart = .text cart → 0 ≤ held shelf cart product.str + n

lemma settles_shop {next : Shopper → Value → Value → Flow Value} (sound : Sound shelf)
    (settles : ∀ shopper cart detail expires,
      Runs (Shelves table) (Direct.shopperOf event) shelf (.ok shopper) shelf → shopper.cart = .text cart →
      IsBare product.str →
      (∀ stored json, detail.storable = .ok stored → stored.toJson = .ok json → IsLegible json) →
      Settles table shelf (next shopper detail expires)) :
    Settles table shelf (do
      let detail ← findProduct s product
      if !detail.truthy then Direct.respond 404 (note "Product not found") []
      else do
        let shopper ← Direct.shopperOf event
        let expires ← expiry s shopper.isUser
        next shopper detail expires) := by
  refine ensures_findProduct.bind ?_
  rintro detail after ⟨same, found⟩
  subst after
  split_ifs with missing
  · exact settles_respond nofun
  obtain ⟨item, there, read⟩ := found (by simpa using missing)
  have known := sound.product there
  refine ensures_shopperOf.bind ?_
  rintro shopper after ⟨same, run⟩
  subst after
  obtain ⟨cart, named⟩ := exists_cart shopper
  exact ensures_given fun expires _ => settles shopper cart detail expires run named known.bare (known.isLegible read)

lemma settles_add (owes : Owes shelf 0) (covered : IsCovered table shelf event) :
    Settles table shelf (Direct.add s event) := by
  refine settles_answered _ ?_
  refine ensures_given fun text first => ?_
  refine ensures_given fun body second => ?_
  refine ensures_given fun product third => ?_
  refine ensures_given fun quantity fourth => ?_
  obtain ⟨n, rfl, enough⟩ := covered product quantity ⟨text, body, first, second, third, fourth⟩
  split_ifs
  · exact settles_respond nofun
  refine settles_shop owes.sound fun shopper cart detail expires run named bare legible => ?_
  have enough := enough shopper cart run named
  rw [named]
  refine (writes_addLine owes.sound bare legible enough).bind fun _ middle written => ?_
  have owing := owes.writesLine written
  rw [add_sub_cancel_left] at owing
  have same : total middle = total shelf := by
    obtain ⟨item, rfl, -⟩ := written
    exact total_update_line
  have covers : 0 ≤ total middle product.str + n := by
    rw [same]
    linarith [owes.held_le_total cart product.str]
  refine (writes_changeTotal covers).bind fun _ after written => settles_respond fun _ => ?_
  have settled := owing.writesTotal written
  rwa [add_sub_cancel_left, add_sub_cancel_right] at settled

lemma exists_quantityIn {lines : List (String × Fields)} {item : Option Fields}
    (each : ∀ line ∈ lines, IsLine cart line.1 line.2)
    (mem_iff : ∀ fields, (product.str, fields) ∈ lines ↔ item = some fields) :
    ∃ n, Direct.quantityIn product (lines.map fun line => .map line.2) = .ok (.int n) ∧
      amount "quantity" item = n := by
  induction lines with
  | nil =>
    cases item with
    | none => exact ⟨0, rfl, rfl⟩
    | some fields => cases (mem_iff fields).2 rfl
  | cons line lines ih =>
    obtain ⟨here, each⟩ := forall_mem_cons.1 each
    rw [map_cons, Direct.quantityIn, field_of_lookup here.sk, ok_bind]
    by_cases same : product.str = line.1
    · obtain ⟨n, -, number⟩ := here.quantity
      obtain ⟨v, found, value⟩ := Option.bind_eq_some_iff.1 number
      refine ⟨n, ?_, ?_⟩
      · have isSame : (text (productLead ++ line.1)).same (.text (productLead ++ product.str)) = true := by
          simp [Value.same, same]
        rw [isSame, if_pos rfl, getD_of_field (field_of_lookup found), ok_bind,
          shownQuantity_of_number? value]
      · rw [(mem_iff line.2).1 (same ▸ mem_cons_self), amount_of_numberAt number]
    · have differs : (text (productLead ++ line.1)).same (.text (productLead ++ product.str)) = false := by
        simp [Value.same, Ne.symm same]
      rw [differs]
      refine ih each fun fields => (mem_iff fields).symm.trans ?_ |>.symm
      simp [Prod.ext_iff, same]

lemma ensures_storedLines : (Direct.storedLines s (.text cart)).Ensures (Shelves table) shelf
    (fun v after => after = shelf ∧ ∃ lines, Lists shelf cart lines ∧ v = .list (lines.map fun line => .map line.2))
    fun _ _ => True := by
  refine ensures_given fun table' _ => ?_
  refine .orPrint (show Ensures _ _ _ _ fun _ _ => False from ?_) (fun _ _ never _ => never.elim)
    fun _ _ _ _ => trivial
  refine ensures_lines.bind ?_
  rintro listing _ ⟨rfl, lines, lists, shown⟩
  rw [shown]
  exact ensures_done ⟨rfl, lines, lists, rfl⟩

lemma settles_update (owes : Owes shelf 0) : Settles table shelf (Direct.update s event) := by
  refine settles_answered _ ?_
  refine ensures_given fun product _ => ?_
  refine ensures_given fun text _ => ?_
  refine ensures_given fun body _ => ?_
  refine ensures_given fun given _ => ?_
  refine ensures_given fun n _ => ?_
  split_ifs with low
  · exact settles_respond nofun
  refine settles_shop owes.sound fun shopper cart detail expires run named bare legible => ?_
  rw [named]
  refine ensures_storedLines.bind ?_
  rintro _ after ⟨same, lines, lists, rfl⟩
  subst after
  obtain ⟨m, found, held⟩ := exists_quantityIn (lists.isLine owes.sound) fun fields => lists.mem_iff product.str fields
  refine ensures_ok_bind rfl (ensures_ok_bind found ?_)
  refine (writes_setLine bare legible (not_lt.1 low)).bind fun _ middle written => ?_
  have owing := owes.writesLine written
  rw [show Cart.held shelf cart product.str = m from held, zero_add] at owing
  refine ensures_ok_bind (show (int n).sub (.int m) = .ok (.int (n - m)) from rfl) ?_
  rw [same_zero]
  by_cases none : n - m = 0
  · rw [decide_eq_true none]
    refine settles_respond fun _ => ?_
    rwa [← Int.cast_sub, none, Int.cast_zero, Pi.single_zero] at owing
  rw [decide_eq_false none]
  have same : total middle = total shelf := by
    obtain ⟨item, rfl, -⟩ := written
    exact total_update_line
  have covers : 0 ≤ total middle product.str + (n - m : ℤ) := by
    rw [same, Int.cast_sub]
    have enough := owes.held_le_total cart product.str
    rw [show Cart.held shelf cart product.str = m from held] at enough
    have positive : (0 : ℚ) ≤ n := by exact_mod_cast not_lt.1 low
    linarith
  refine (writes_changeTotal covers).bind fun _ after written => settles_respond fun _ => ?_
  have settled := owing.writesTotal written
  rwa [add_sub_cancel_left, Int.cast_sub, sub_self] at settled

lemma ensures_cartItems_same {now : Option Moment} : (cartItems s now (.text cart)).Ensures (Shelves table) shelf
    (fun _ after => after = shelf) fun _ _ => True := by
  refine ensures_given fun table' _ => ?_
  refine .orPrint (show Ensures _ _ _ _ fun _ after => after = shelf from ?_)
    (fun _ _ same _ => same) fun _ _ _ _ => trivial
  refine ensures_lines.bind ?_
  rintro listing after ⟨same, -⟩
  exact ensures_lift_bind (fun _ _ => ensures_lift_bind (fun _ _ =>
    ensures_lift (fun _ _ => same) fun _ _ => same) fun _ _ => same) fun _ _ => same

lemma visitor_ne_user (id user : Value) : s!"cart#{id.str}" ≠ s!"user#{user.str}" := by
  intro same
  have letters : ("cart#" ++ id.str).toList = ("user#" ++ user.str).toList := congrArg String.toList same
  simp at letters

lemma settles_migrateCart (owes : Owes shelf 0) : Settles table shelf (Direct.migrateCart s event) := by
  refine settles_answered _ (settles_withUser fun user => ?_)
  refine ensures_given fun headers _ => ?_
  refine ensures_given fun id _ => ?_
  split_ifs
  · exact settles_respond nofun
  have migrated : (migrate s (visitorCart id) (userCart user) fun _ _ => Direct.clearCart s (visitorCart id)).Ensures
      (Shelves table) shelf (fun _ after => Owes after 0) fun _ _ => True := by
    refine ensures_given fun table' _ => .noting (ensures_lines.bind ?_)
    rintro listing after ⟨same, lines, lists, shown⟩
    subst after
    refine ensures_ok_bind shown (ensures_ok_bind rfl ?_)
    refine (writes_moveLines (lists.isLine owes.sound) owes).bind ?_
    rintro _ middle ⟨owing, same⟩
    refine (ensures_clearCart owing).bind fun _ after settled => ensures_done ?_
    rwa [same _ (visitor_ne_user id user), load_eq lists, zero_add, sub_self] at settled
  refine migrated.bind fun _ middle owes => ?_
  refine ensures_cartItems_same.bind fun _ after same => ?_
  exact ensures_given fun _ _ => settles_respond fun _ => same ▸ owes

lemma settles_checkout (owes : Owes shelf 0) : Settles table shelf (Direct.checkout s event) := by
  refine settles_answered _ (settles_withUser fun user => ?_)
  refine (ensures_cartItems owes.sound).bind ?_
  rintro shown after ⟨same, lines, lists, shows⟩
  subst after
  refine (ensures_takeSold shows lists.distinct (fun line mem => ?_) owes).bind ?_
  · have held := owes.held_le_total s!"user#{user.str}" line.1
    rwa [Cart.held, (lists.mem_iff _ _).1 mem] at held
  rintro _ middle ⟨owing, same⟩
  refine (ensures_clearCart owing).bind fun _ after settled => settles_respond fun _ => ?_
  rwa [same, load_eq lists, zero_add, sub_self] at settled

end

/-! ### Sequences of requests -/

/-- The requests of shoppers that change carts. -/
inductive ShopFunction where
  | add
  | update
  | migrateCart
  | checkout
  deriving DecidableEq, Repr

/-- What handles a request. -/
def ShopFunction.handle : ShopFunction → Setting → Value → Flow Value
  | add => Direct.add
  | update => Direct.update
  | migrateCart => Direct.migrateCart
  | checkout => Direct.checkout

/-- Requests one after another, each of them served. -/
inductive Shopping (table : String) (start : Tables Spot) : Tables Spot → Prop
  | start : Shopping table start start
  | request {shelf after : Tables Spot} {function : ShopFunction} {s : Setting} {event answer : Value} :
      Shopping table start shelf → (function = .add → IsCovered table shelf event) →
      Runs (Shelves table) (function.handle s event) shelf (.ok answer) after → IsServed answer →
      Shopping table start after

/-- A shelf with products and nothing else. -/
structure Stocked (shelf : Tables Spot) : Prop where
  finite : {spot | shelf spot ≠ none}.Finite
  product : ∀ {spot item}, shelf spot = some item → ∃ id, spot = detailSpot id ∧ IsProduct id item

lemma Stocked.owes (stocked : Stocked shelf) : Owes shelf 0 := by
  have noLine : ∀ cart id, shelf (lineSpot cart id) = none := fun cart id =>
    Option.eq_none_iff_forall_ne_some.2 fun item there =>
      let ⟨_, same, _⟩ := stocked.product there
      lineSpot_ne_detailSpot same
  have noTotal : ∀ id, shelf (totalSpot id) = none := fun id =>
    Option.eq_none_iff_forall_ne_some.2 fun item there =>
      let ⟨_, same, _⟩ := stocked.product there
      totalSpot_ne_detailSpot same
  refine ⟨⟨stocked.finite, fun there => ?_, fun there => ?_⟩, ?_⟩
  · rw [noLine] at there
    cases there
  · obtain ⟨id', same, known⟩ := stocked.product there
    obtain rfl : _ = id' := by simpa [detailSpot] using same
    exact known
  · ext id
    simp [debt, inCarts, held, total, noLine, noTotal, amount]

lemma Shopping.owes {table : String} {start after : Tables Spot} (stocked : Stocked start)
    (shopping : Shopping table start after) : Owes after 0 := by
  induction shopping with
  | start => exact stocked.owes
  | @request _ _ function _ _ _ _ covered run served ih =>
    cases function with
    | add => exact (settles_add ih (covered rfl)).result run served
    | update => exact (settles_update ih).result run served
    | migrateCart => exact (settles_migrateCart ih).result run served
    | checkout => exact (settles_checkout ih).result run served

/-! ### A shop with one product -/

def oneProduct : Fields := [("pk", .text "PRODUCT#p"), ("sk", .text "DETAIL"), ("name", .text "P")]

def oneProductShelf : Tables Spot := Function.update (fun _ => none) (detailSpot "p") (some oneProduct)

def order (n : ℤ) : Value := .map [("productId", .text "p"), ("quantity", .int n)]

def addition (cart : String) (body : Value) : Value :=
  .map [("headers", .map [("x-cart-id", .text cart)]), ("body", body)]

lemma parsed_order {body : Value} (written : (order n).toJson = .ok body) : body.parsed = .ok (order n) := by
  refine parsed_of_toJson ?_ ?_ ?_ written
  · simp [FloatFree, order]
  · simp [DistinctFields, order]
  · simp [depth, depthFields, Json.maxNesting, order]

def totalItem (n : ℤ) : Fields :=
  productKey (.text "p") "TOTAL" ++ [("total_quantity", .int n), ("updated_at", shelfSetting.stamp)]

lemma stocked_oneProductShelf : Stocked oneProductShelf := by
  have only : ∀ {spot item}, oneProductShelf spot = some item → spot = detailSpot "p" ∧ item = oneProduct := by
    intro spot item there
    by_cases same : spot = detailSpot "p"
    · subst same
      exact ⟨rfl, (Option.some.inj there).symm⟩
    · rw [oneProductShelf, update_of_ne same] at there
      cases there
  constructor
  · refine (Set.finite_singleton (detailSpot "p")).subset fun spot there => ?_
    obtain ⟨item, there⟩ := Option.ne_none_iff_exists'.1 there
    exact (only there).1
  · intro spot item there
    obtain ⟨rfl, rfl⟩ := only there
    refine ⟨"p", rfl, fun inside => absurd inside.length_le (by decide), ?_⟩
    rintro _ ⟨⟩
    simp [DistinctFields, depth, depthFields, Json.maxNesting, erase]

lemma lookup_append_congr {hs : Fields} (same : Value.lookup name gs = Value.lookup name hs) :
    Value.lookup name (fs ++ gs) = Value.lookup name (fs ++ hs) := by
  induction fs with
  | nil => exact same
  | cons f fs ih => simp [Value.lookup, ih]

lemma lookup_append_of_ne (other : name ∉ gs.map Prod.fst) :
    Value.lookup name (fs ++ gs) = Value.lookup name fs := by
  have absent : Value.lookup name gs = Value.lookup name [] := by
    induction gs with
    | nil => rfl
    | cons g gs ih =>
      obtain ⟨here, other⟩ := not_or.1 (mem_cons.not.1 other)
      exact (if_neg (Ne.symm here)).trans (ih other)
  rw [lookup_append_congr absent, append_nil]

lemma turns_new_line {cart sk json seconds now : Value} :
    (lineAddition (.int n) json seconds now).Turns (key cart sk) (storedLine cart sk (.int n) json seconds now) := by
  constructor
  · rintro _ (_ | ⟨_, ⟨⟩⟩)
    exact ⟨0, n, .int n, .inl ⟨rfl, rfl⟩, rfl, rfl, by rw [zero_add]; rfl⟩
  · rintro _ (_ | ⟨_, _ | ⟨_, _ | ⟨_, ⟨⟩⟩⟩⟩) <;> exact ⟨_, rfl, .same _⟩
  · exact fun name other => lookup_append_of_ne other

lemma turns_total {before : Fields}
    (start : before = productKey (.text "p") "TOTAL" ∧ m = 0 ∨ before = totalItem m) :
    (totalAddition (.int n) shelfSetting.stamp).Turns before (totalItem (m + n)) := by
  constructor
  · rintro _ (_ | ⟨_, ⟨⟩⟩)
    refine ⟨m, n, .int (m + n), ?_, rfl, rfl, by rw [← Int.cast_add]; rfl⟩
    rcases start with ⟨rfl, rfl⟩ | rfl
    · exact .inl ⟨rfl, Int.cast_zero⟩
    · exact .inr rfl
  · rintro _ (_ | ⟨_, ⟨⟩⟩)
    exact ⟨_, rfl, .same _⟩
  · intro name other
    rcases start with ⟨rfl, rfl⟩ | rfl
    · exact lookup_append_of_ne other
    · exact (lookup_append_of_ne other).trans (lookup_append_of_ne other).symm

lemma turns_zero : Change.Turns ⟨[], [.set "total_quantity" "zero" (.int 0)]⟩ (totalItem m) (totalItem 0) := by
  refine ⟨nofun, ?_, fun name other => ?_⟩
  · rintro _ (_ | ⟨_, ⟨⟩⟩)
    exact ⟨_, rfl, .same _⟩
  · have other : "total_quantity" ≠ name := fun same => other (same ▸ mem_cons_self)
    exact lookup_append_congr ((if_neg other).trans (if_neg other).symm)

def lineItem (cart : String) (n : ℤ) (json seconds : Value) : Fields :=
  storedLine (.text cart) (.text "product#p") (.int n) json seconds shelfSetting.stamp

def threeShelf (line : Fields) : Tables Spot :=
  Function.update (Function.update oneProductShelf (lineSpot "cart#a" "p") (some line)) (totalSpot "p") (some (totalItem 3))

def changed (item : Fields) : Answer := .reply (.ok (.map [("Attributes", .map item)]))

lemma shopping_three : ∃ line, Shopping "shelf" oneProductShelf (threeShelf line) := by
  obtain ⟨body, written⟩ : ∃ body, (order 3).toJson = .ok body := ⟨_, rfl⟩
  have read := parsed_order written
  obtain ⟨json, seconds, answer, record, told, along, served⟩ : ∃ json seconds answer record,
      (Direct.add shelfSetting (addition "a" body)).told [.reply (.ok (.map [("Item", .map oneProduct)])),
        changed (lineItem "cart#a" 3 json seconds), changed (totalItem 3)] = some (.ok answer, record) ∧
      Along (Shelves "shelf") oneProductShelf record (threeShelf (lineItem "cart#a" 3 json seconds)) ∧
      IsServed answer := by
    refine ⟨_, _, _, _, told_attempt ((told_lift_bind rfl).trans ((told_lift_bind read).trans rfl)),
      .cons (.get rfl rfl) (.cons (.update rfl turns_new_line fun _ => rfl)
        (.cons (.update rfl (turns_total (m := 0) (.inl ⟨rfl, rfl⟩)) fun _ => rfl) (.nil _))), ?_⟩
    exact rfl
  have run : Runs (Shelves "shelf") (ShopFunction.add.handle shelfSetting (addition "a" body)) oneProductShelf
      (.ok answer) _ := .of_told told along
  refine ⟨_, .request .start (fun _ product quantity orders => ?_) run served⟩
  obtain ⟨text, order, given, parsed, -, wanted⟩ := orders
  obtain rfl := Except.ok.inj given
  obtain rfl := Except.ok.inj (read.symm.trans parsed)
  obtain rfl := Except.ok.inj wanted
  refine ⟨3, rfl, fun shopper cart _ _ => ?_⟩
  obtain ⟨m, low, held⟩ := stocked_oneProductShelf.owes.sound.exists_held cart product.str
  rw [held]
  exact_mod_cast add_nonneg low (by decide)

lemma amount_totalItem (n : ℤ) : amount "total_quantity" (some (totalItem n)) = n := rfl

lemma total_threeShelf (line : Fields) : total (threeShelf line) "p" = 3 := by
  rw [total, threeShelf, update_self, amount_totalItem, Int.cast_ofNat]

/-- The total of a product is what all carts hold of it, whatever requests are served one after another. A request to
add to a cart may not take more out of it than there is. -/
theorem totals_are_sums_of_carts {table : String} {start after : Tables Spot} (stocked : Stocked start)
    (shopping : Shopping table start after) (id : String) : total after id = inCarts after id :=
  (sub_eq_zero.1 (congrFun (shopping.owes stocked).debt_eq id)).symm

theorem totals_are_sums_of_carts_three : ∃ after, Shopping "shelf" oneProductShelf after ∧ total after "p" = 3 ∧
    inCarts after "p" = 3 := by
  obtain ⟨line, shopping⟩ := shopping_three
  have sum := totals_are_sums_of_carts stocked_oneProductShelf shopping "p"
  exact ⟨_, shopping, total_threeShelf line, sum.symm.trans (total_threeShelf line)⟩

lemma undone {spot spot' : Spot} {a b c : Option Fields} (absent : shelf spot = none) :
    update (update (update (update shelf spot a) spot none) spot' b) spot' c =
      update shelf spot' c := by
  rw [update_idem, update_idem, ← absent, update_eq_self]

/-- A request to take five out of an empty cart is served: the total goes to zero, and another cart keeps its three. -/
theorem total_falls_below_sum : ∃ shelf answer after event, Shopping "shelf" oneProductShelf shelf ∧
    Runs (Shelves "shelf") (Direct.add shelfSetting event) shelf (.ok answer) after ∧ IsServed answer ∧
    total after "p" = 0 ∧ inCarts after "p" = 3 := by
  obtain ⟨line, shopping⟩ := shopping_three
  obtain ⟨body, written⟩ : ∃ body, (order (-5)).toJson = .ok body := ⟨_, rfl⟩
  have read := parsed_order written
  obtain ⟨json, seconds, answer, record, last, told, along, rfl, served⟩ : ∃ json seconds answer record last,
      (Direct.add shelfSetting (addition "b" body)).told [.reply (.ok (.map [("Item", .map oneProduct)])),
        changed (lineItem "cart#b" (-5) json seconds), .reply (.ok .null), changed (totalItem (-2)),
        .reply (.ok .null)] = some (.ok answer, record) ∧
      Along (Shelves "shelf") (threeShelf line) record last ∧
      last = Function.update (threeShelf line) (totalSpot "p") (some (totalItem 0)) ∧ IsServed answer := by
    refine ⟨_, _, _, _, _, told_attempt ((told_lift_bind rfl).trans ((told_lift_bind read).trans rfl)),
      .cons (.get rfl rfl) (.cons (.update rfl turns_new_line fun _ => rfl) (.cons (.delete rfl)
        (.cons (.update rfl (turns_total (m := 3) (.inr rfl)) fun _ => rfl)
          (.cons (.update rfl turns_zero nofun) (.nil _))))), undone ?_, ?_⟩
    · exact rfl
    · exact rfl
  have zero : total (Function.update (threeShelf line) (totalSpot "p") (some (totalItem 0))) "p" = 0 := by
    rw [total, Function.update_self, amount_totalItem, Int.cast_zero]
  have gap : debt (Function.update (threeShelf line) (totalSpot "p") (some (totalItem 0))) "p" = 3 := by
    rw [debt_update_total, (shopping.owes stocked_oneProductShelf).debt_eq, Pi.sub_apply, Pi.single_eq_same,
      total_threeShelf, amount_totalItem, Int.cast_zero, Pi.zero_apply]
    norm_num
  rw [debt, Pi.sub_apply, zero, sub_zero] at gap
  exact ⟨_, answer, _, _, shopping, .of_told told along, served, zero, gap⟩

end Unbundle.Cart
