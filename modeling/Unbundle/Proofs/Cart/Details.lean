import Unbundle.Proofs.Cart.ConcurrentTotals
import Unbundle.Proofs.Cart.SetQuantity
import Unbundle.Proofs.Cart.Totals

/-!
# Details that are stored

What is stored with a line of a cart goes through several forms. Which values come back from them is a matter of
their numbers, wherever these are.
-/

open List Unbundle.Value Unbundle.Service.Flow

namespace Unbundle.Cart.Traced

open Number (Decimal)

/-! ### Stored and plain forms -/

lemma isConversion_fixed : IsConversion fixed where
  list xs := by rw [fixed, show fixedItems = mapM fixed from funext (items_eq_mapM rfl fun _ _ => rfl)]
  map fs := by rw [fixed, show fixedFields = mapM _ from funext (fields_eq_mapM rfl fun _ _ => rfl)]
  plain {v w} isPlain converted := by
    cases v with
    | list _ | map _ => simp [IsPlain] at isPlain
    | int _ | float _ | bool _ =>
      obtain ⟨d, -, ⟨⟩⟩ := bind_eq_ok_iff.1 converted
      simp [IsPlain]
    | _ =>
      cases converted
      exact isPlain

/-- A value of nothing, flags, whole numbers, texts, lists and maps. -/
def IsBuilt : Value → Prop
  | .null | .bool _ | .int _ | .text _ | .list _ | .map _ => True
  | _ => False

/-- What is not changed by the way through the stored form: no flag, and no number of more digits than decimals are
computed with. -/
def ComesBack : Value → Prop
  | .bool _ => False
  | .int n => |(n : ℚ)| < 10 ^ Decimal.precision
  | _ => True

/-- A value without floating-point numbers comes back from its stored form exactly if it has no flag and no long
number inside it. -/
theorem comes_back_iff {v : Value} (built : v.Every IsBuilt) :
    (∃ w, fixed v = .ok w ∧ w.plain = .ok v) ↔ v.Every ComesBack := by
  refine isConversion_fixed.exists_iff (R := fun v w => w.plain = .ok v) (fun {xs ys} _ => ?_) (fun {fs gs} _ => ?_)
    (fun _ => trivial) (fun _ => trivial) (fun {v} built isPlain => ?_) built
  · rw [isConversion_plain.list_eq_ok_iff]
    constructor
    · rintro ⟨_, back, ⟨⟩⟩
      exact back.flip
    · exact fun back => ⟨xs, back.flip, rfl⟩
  · rw [isConversion_plain.map_eq_ok_iff]
    constructor
    · rintro ⟨_, back, ⟨⟩⟩
      exact back.flip
    · exact fun back => ⟨fs, back.flip, rfl⟩
  · cases v with
    | null | text _ => exact iff_of_true ⟨_, rfl, rfl⟩ trivial
    | bool b =>
      refine iff_of_false ?_ id
      rintro ⟨w, stored, -⟩
      cases b <;> cases stored
    | int n =>
      rw [show fixed (.int n) = amount (.int n) from rfl, amount_int, ComesBack]
      have value : (Decimal.ofInt n).toRat? = some (n : ℚ) := number?_ofInt n
      simp [plain, ofDecimal_eq_int_iff, value]
    | list _ | map _ => simp [IsPlain] at isPlain
    | _ => cases built

theorem comes_back_iff_nested : ∃ w, fixed (.map [("id", .text "p"), ("sizes", .list [.int (-3), .null, .map []])]) = .ok w ∧
    w.plain = .ok (.map [("id", .text "p"), ("sizes", .list [.int (-3), .null, .map []])]) := by
  refine (comes_back_iff (by simp [IsBuilt])).2 ?_
  simp only [every_map, every_list, List.forall_mem_cons, every_int, ComesBack]
  norm_num [Decimal.precision, ComesBack]

/-- A flag has no stored form. -/
theorem flag_not_stored : ¬∃ w, fixed (.map [("inStock", .bool true)]) = .ok w ∧
    w.plain = .ok (.map [("inStock", .bool true)]) := by
  rintro ⟨w, stored, -⟩
  cases stored

end Unbundle.Cart.Traced

namespace Unbundle.Value

/-- A value that is written, and that is stored as it is. -/
def IsClean (v : Value) : Prop := v.hasForm = true ∧ ∀ x, v ≠ .float x

lemma storable_of_isClean {v : Value} (clean : v.Every IsClean) : v.storable = .ok v := by
  induction clean with
  | list _ _ ih => exact isConversion_storable.list_eq_ok_iff.2 ⟨_, forall₂_same.2 ih, rfl⟩
  | map _ _ ih =>
    exact isConversion_storable.map_eq_ok_iff.2 ⟨_, forall₂_same.2 fun f mem => ⟨rfl, ih f mem⟩, rfl⟩
  | @plain v here isPlain =>
    cases v with
    | list _ | map _ => simp [IsPlain] at isPlain
    | float x => exact absurd rfl (here.2 x)
    | _ => rfl

lemma every_isClean_iff {v : Value} (distinct : v.DistinctFields) :
    (∃ w, v.storable = .ok w ∧ w.IsWritable) ↔ v.Every IsClean := by
  refine isConversion_storable.exists_every_iff (fun _ => ⟨rfl, rfl, nofun⟩) (fun _ => ⟨rfl, rfl, nofun⟩)
    (fun {v} _ isPlain => ?_) distinct
  cases v with
  | list _ | map _ => simp [IsPlain] at isPlain
  | float x =>
    refine iff_of_false ?_ fun clean => clean.2 x rfl
    rintro ⟨w, stored, form⟩
    obtain ⟨d, -, ⟨⟩⟩ := bind_eq_ok_iff.1 stored
    cases form
  | _ => simp [storable, IsClean]

end Unbundle.Value

namespace Unbundle.Cart

open Service
open Number (Decimal)

variable {quantity body : Value} {headers : Fields}

/-! ### Products -/

/-- The kinds of values that a table holds. -/
def IsStored : Value → Prop
  | .null | .bool _ | .text _ | .decimal _ | .list _ => True
  | .map fs => (fs.map Prod.fst).Nodup
  | _ => False

/-- A number is whole, and has no more digits than decimals are computed with. -/
def IsExact : Value → Prop
  | .decimal d => ∃ m : ℤ, d.toRat? = some (m : ℚ) ∧ |(m : ℚ)| < 10 ^ Decimal.precision
  | _ => True

/-- What an item holds beside its key. -/
def attributes (item : Fields) : Fields := erase "sk" (erase "pk" item)

/-- A product as it is stored. -/
structure IsItem (item : Fields) : Prop where
  key : ∀ f ∈ item, f ∉ attributes item → ∃ t, f.2 = .text t
  more : attributes item ≠ []
  stored : (map (attributes item)).Every IsStored
  shallow : (map (attributes item)).depth ≤ Json.maxNesting

def HasExactNumbers (item : Fields) : Prop := (map (attributes item)).Every IsExact

variable {item : Fields} {detail : Value}

lemma exists_plain_isClean_iff {v : Value} (stored : v.Every IsStored) :
    (∃ w, v.plain = .ok w ∧ w.Every IsClean) ↔ v.Every IsExact := by
  refine isConversion_plain.exists_every_iff (fun _ => ⟨⟨rfl, nofun⟩, trivial⟩) (fun _ => ⟨⟨rfl, nofun⟩, trivial⟩)
    (fun {v} stored isPlain => ?_) stored
  cases v with
  | null | bool _ | text _ => exact iff_of_true ⟨_, rfl, rfl, nofun⟩ trivial
  | decimal d =>
    constructor
    · rintro ⟨w, read, -, noFloat⟩
      obtain ⟨m, rfl⟩ | ⟨x, rfl⟩ := ofDecimal_eq_ok read
      · exact ⟨m, ofDecimal_eq_int_iff.1 read⟩
      · exact absurd rfl (noFloat x)
    · rintro ⟨m, value, small⟩
      have less : m.natAbs < 10 ^ Decimal.precision := by
        rw [← Int.cast_abs, Int.abs_eq_natAbs] at small
        exact_mod_cast small
      have short := (Nat.length_toDigits_le_iff (by decide) (by decide)).2 less
      exact ⟨.int m, ofDecimal_eq_int_iff.2 ⟨value, small⟩, decide_eq_true (short.trans (by decide)), nofun⟩
  | list _ | map _ => simp [IsPlain] at isPlain
  | _ => cases stored

lemma plain_of_plainProduct (read : plainProduct (.map item) = .ok detail) :
    (map (attributes item)).plain = .ok detail := by
  obtain ⟨p, plain, read⟩ := bind_eq_ok_iff.1 read
  obtain ⟨gs, each, rfl⟩ := isConversion_plain.map_eq_ok_iff.1 plain
  exact isConversion_plain.map_eq_ok_iff.2 ⟨_, each.erase.erase, Except.ok.inj read⟩

namespace IsItem

lemma exists_plainProduct (known : IsItem item) (exact : HasExactNumbers item) :
    ∃ detail, plainProduct (.map item) = .ok detail := by
  obtain ⟨w, plain, -⟩ := (exists_plain_isClean_iff known.stored).2 exact
  have each := isConversion_plain.exists_map_iff.1 ⟨w, plain⟩
  obtain ⟨p, plain⟩ : ∃ p, (map item).plain = .ok p := by
    refine isConversion_plain.exists_map_iff.2 fun f mem => ?_
    by_cases other : f ∈ attributes item
    · exact each f other
    · obtain ⟨t, text⟩ := known.key f mem other
      exact ⟨_, by rw [text]; rfl⟩
  obtain ⟨gs, -, rfl⟩ := isConversion_plain.map_eq_ok_iff.1 plain
  exact ⟨_, by rw [plainProduct, plain]; rfl⟩

lemma truthy (known : IsItem item) (read : plainProduct (.map item) = .ok detail) : detail.truthy = true := by
  obtain ⟨gs, each, rfl⟩ := isConversion_plain.map_eq_ok_iff.1 (plain_of_plainProduct read)
  cases gs with
  | nil => exact absurd (forall₂_nil_right_iff.1 each) known.more
  | cons g gs => rfl

lemma distinctFields (known : IsItem item) (read : plainProduct (.map item) = .ok detail) : detail.DistinctFields := by
  refine isConversion_plain.every nofun (fun {fs gs} here same _ isMap => ?_) (fun _ isPlain plain fs isMap => ?_)
    known.stored (plain_of_plainProduct read)
  · cases isMap
    exact same ▸ here
  · exact absurd isMap ((isConversion_plain.plain isPlain plain).2 fs)

lemma isClean_iff (known : IsItem item) (read : plainProduct (.map item) = .ok detail) :
    detail.Every IsClean ↔ HasExactNumbers item := by
  have plain := plain_of_plainProduct read
  rw [HasExactNumbers, ← exists_plain_isClean_iff known.stored]
  constructor
  · exact fun clean => ⟨detail, plain, clean⟩
  · rintro ⟨w, same, clean⟩
    rwa [Except.ok.inj (plain.symm.trans same)]

lemma exists_toJson (known : IsItem item) (read : plainProduct (.map item) = .ok detail) (exact : HasExactNumbers item) :
    ∃ json, detail.storable = .ok detail ∧ detail.toJson = .ok json := by
  have clean := (known.isClean_iff read).2 exact
  obtain ⟨w, stored, writable⟩ := (every_isClean_iff (known.distinctFields read)).2 clean
  cases stored.symm.trans (storable_of_isClean clean)
  obtain ⟨json, written⟩ := writable.exists_toJson
  exact ⟨json, stored, written⟩

lemma of_toJson (known : IsItem item) (read : plainProduct (.map item) = .ok detail) {w json : Value}
    (stored : detail.storable = .ok w) (written : w.toJson = .ok json) :
    HasExactNumbers item ∧ json.parsed = .ok detail := by
  have distinct := known.distinctFields read
  have depth := isConversion_plain.depth_eq known.stored (plain_of_plainProduct read)
  have parsed := distinct.parsed_of_storable (depth ▸ known.shallow) stored written
  have clean := (every_isClean_iff distinct).1 ⟨w, stored, isWritable_of_parsed parsed⟩
  cases stored.symm.trans (storable_of_isClean clean)
  exact ⟨(known.isClean_iff read).1 clean, parsed⟩

end IsItem

/-! ### Requests to add to a cart -/

/-- How a service answers that does all that it is asked, where the product is an item. -/
def Grants (item : Fields) : Exchange → Prop
  | .called _ (.error _) => False
  | .called (.table _ (.get _)) (.ok v) => ∃ reply, v = .map reply ∧ Value.lookup "Item" reply = some (.map item)
  | .called (.table _ (.update _ change _ .allNew)) (.ok v) => ∃ after, v.field "Attributes" = .ok (.map after) ∧
      ∀ a ∈ change.additions, ∃ q, numberAt after a.1 = some q
  | _ => True

def Granted (item : Fields) (before : List Exchange) (x : Exchange) (after : List Exchange) : Prop :=
  Recorded before x after ∧ Grants item x

/-- A request for a product, of a visitor or of a user who is known. -/
structure Wants (event product : Value) : Prop where
  body : ∃ raw fs, event.field "body" = .ok raw ∧ raw.parsed = .ok (.map fs) ∧ Value.lookup "productId" fs = some product
  truthy : product.truthy = true
  headers : ∃ fs, event.getD "headers" (.map []) = .ok (.map fs)
  user : isAuthorized event = .ok false ∨ isAuthorized event = .ok true ∧ ∃ user, Direct.userOf event = .ok user

/-- A text is stored as the detail of a product in a cart. -/
def StoresDetail (product json : Value) (record : List Exchange) : Prop :=
  ∃ table cart quantity seconds now reply, .called (.table table (.update (lineKey cart product)
    (lineAddition quantity json seconds now) none .allNew)) reply ∈ record

/-- The detail of a product is stored, and it is the product. -/
def Keeps (item : Fields) (product : Value) (record : List Exchange) : Prop :=
  ∃ detail json, plainProduct (.map item) = .ok detail ∧ json.parsed = .ok detail ∧ StoresDetail product json record

/-- A request is served, and then the product is kept, exactly if its numbers are exact. -/
def Adds (item : Fields) (product answer : Value) (record : List Exchange) : Prop :=
  (IsServed answer ↔ HasExactNumbers item) ∧ (IsServed answer → Keeps item product record)

variable {s : Setting} {table : String} {event product : Value} {record : List Exchange} {t : Moment}
  {fault : Fault → List Exchange → Prop}

lemma ensures_granted {c : Call} : (invoke c).Ensures (Granted item) record
    (fun v after => Grants item (.called c (.ok v)) ∧ after = record ++ [.called c (.ok v)]) fault := by
  refine ensures_invoke (fun v t answered => answered.symm) fun e t answered => ?_
  cases c <;> cases answered.2

lemma ensures_offer (known : IsItem item) (set : tableOf s = .ok table) :
    (findProduct s product).Ensures (Granted item) record
      (fun detail _ => plainProduct (.map item) = .ok detail ∨ detail = .null ∧ ¬HasExactNumbers item)
      fun _ _ => ¬HasExactNumbers item := by
  have asked : Ensures (Granted item) (do
      let item ← (← .ask table (.get (productKey product "DETAIL"))).get "Item"
      if item.truthy then plainProduct item else return .null) record
      (fun detail _ => plainProduct (.map item) = .ok detail ∨ detail = .null ∧ ¬HasExactNumbers item)
      fun _ _ => ¬HasExactNumbers item := by
    refine ensures_granted.bind ?_
    rintro _ _ ⟨⟨reply, rfl, there⟩, rfl⟩
    refine ensures_ok_bind (getD_of_field (field_of_lookup there)) ?_
    have truthy : (map item).truthy = true := by
      cases item with
      | nil => exact absurd rfl known.more
      | cons f fs => rfl
    rw [if_pos truthy]
    refine ensures_lift (fun detail read => .inl read) fun e failed exact => ?_
    obtain ⟨detail, read⟩ := known.exists_plainProduct exact
    cases failed.symm.trans read
  exact ensures_ok_bind set (asked.orPrint (fun _ _ not _ => .inr ⟨rfl, not⟩) fun _ _ not _ => not)

lemma ensures_line (known : IsItem item) (set : tableOf s = .ok table) (read : plainProduct (.map item) = .ok detail)
    {cart : Value} : (addLine s cart product quantity detail (.moment t)).Ensures (Granted item) record
      (fun _ after => HasExactNumbers item ∧ Keeps item product after) fun _ _ => ¬HasExactNumbers item := by
  refine ensures_ok_bind set (ensures_ok_bind rfl (ensures_lift_bind (fun w stored => ensures_lift_bind
    (fun json written => ?_) fun e failed exact => ?_) fun e failed exact => ?_))
  · obtain ⟨exact, parsed⟩ := known.of_toJson read stored written
    refine .noting (ensures_granted.bind ?_)
    rintro v _ ⟨⟨after, changed, numbers⟩, rfl⟩
    obtain ⟨q, number⟩ := numbers _ mem_cons_self
    obtain ⟨left, found, value⟩ := Option.bind_eq_some_iff.1 number
    refine ensures_ok_bind changed (ensures_ok_bind (getD_of_field (field_of_lookup found))
      (ensures_ok_bind (related_le_zero value) ?_))
    split_ifs
    · refine ensures_granted.bind ?_
      rintro _ _ ⟨-, rfl⟩
      exact ensures_done ⟨exact, detail, json, read, parsed, _, _, _, _, _, _,
        mem_append_left _ (mem_append_right _ mem_cons_self)⟩
    · exact ensures_done ⟨exact, detail, json, read, parsed, _, _, _, _, _, _, mem_append_right _ mem_cons_self⟩
  · obtain ⟨json, same, written⟩ := known.exists_toJson read exact
    cases stored.symm.trans same
    cases failed.symm.trans written
  · obtain ⟨json, same, -⟩ := known.exists_toJson read exact
    cases failed.symm.trans same

lemma ensures_total (set : tableOf s = .ok table) :
    (Direct.changeTotal s product quantity).Ensures (Granted item) record (fun _ _ => True) fault := by
  have added : (addToTotal table product quantity s.stamp).Ensures (Granted item) record (fun _ _ => True)
      fun _ _ => False := by
    refine ensures_granted.bind ?_
    rintro v _ ⟨⟨after, changed, numbers⟩, -⟩
    obtain ⟨q, number⟩ := numbers _ mem_cons_self
    obtain ⟨left, found, value⟩ := Option.bind_eq_some_iff.1 number
    refine ensures_ok_bind changed (ensures_ok_bind (getD_of_field (field_of_lookup found))
      (ensures_ok_bind (related_lt_zero value) ?_))
    split_ifs
    · exact ensures_granted.bind fun _ _ _ => ensures_done trivial
    · exact ensures_done trivial
  exact ensures_ok_bind set (added.attempt (fun _ _ => False.elim) fun _ _ => False.elim)

lemma ensures_reportChange {sentence : String} (writable : product.IsWritable)
    (writable' : quantity.IsWritable) : (Delegated.reportChange s sentence product quantity).Ensures (Granted item)
      record (fun _ _ => True) fault := by
  obtain ⟨json, written⟩ := IsWritable.exists_toJson
    (v := .map [("product_id", product), ("quantity_change", quantity)]) (by simp [isWritable_map, writable, writable'])
  have invoked function : (Delegated.invoke s (.text function)
      (.map [("product_id", product), ("quantity_change", quantity)]) (.text "Event")).Ensures (Granted item) record
      (fun _ _ => True) fun e _ => e.isInterrupt = false := by
    refine ensures_ok_bind rfl (ensures_lift_bind (fun _ _ => ?_) fun e failed => ?_)
    · refine .attempt (show Ensures _ _ _ _ fun _ _ => False from ?_) (fun _ _ => False.elim)
        fun _ _ => False.elim
      exact ensures_ok_bind written (ensures_granted.bind fun _ _ _ => ensures_done trivial)
    · rw [Delegated.resolve] at failed
      split_ifs at failed
      dsimp only at failed
      split at failed
      · cases failed
      · cases failed
        rfl
  refine .orPrint (show Ensures _ _ _ _ fun e _ => e.isInterrupt = false from ?_) (fun _ _ _ _ => trivial)
    fun e _ go stop => by simp [go] at stop
  split
  · rw [Delegated.inform]
    split_ifs
    · exact (invoked _).bind fun _ _ _ => ensures_done trivial
    · exact ensures_note trivial
  · exact ensures_done trivial

lemma Keeps.mono {after : List Exchange} (kept : Keeps item product record) (grown : record ⊆ after) :
    Keeps item product after := by
  obtain ⟨detail, json, read, parsed, table, cart, quantity, seconds, now, reply, mem⟩ := kept
  exact ⟨detail, json, read, parsed, table, cart, quantity, seconds, now, reply, grown mem⟩

lemma ensures_grows {α : Type} (flow : Flow α) : flow.Ensures (Granted item) record
    (fun _ after => record ⊆ after) fun _ after => record ⊆ after := by
  have any : flow.Within fun _ => True := by induction flow <;> simp_all [Within]
  refine any.ensures (fun _ answered grown => ?_) (.refl record)
  rw [answered.1]
  exact Subset.trans grown (subset_append_left _ _)

lemma Wants.ensures_shopperOf (wants : Wants event product) :
    (Direct.shopperOf event).Ensures (Granted item) record (fun _ _ => True) fault := by
  rcases wants.user with no | ⟨yes, user, named⟩
  · obtain ⟨fs, headers⟩ := wants.headers
    refine ensures_ok_bind no (ensures_ok_bind headers (ensures_ok_bind rfl ?_))
    split_ifs
    · exact ensures_done trivial
    · exact .bind (ensures_fresh fun _ _ _ => trivial) fun _ _ _ => ensures_done trivial
  · exact ensures_ok_bind yes (ensures_ok_bind named (ensures_done trivial))

lemma Wants.exists_userOf (wants : Wants event product) : ∃ user, Delegated.userOf event = .ok user := by
  rcases wants.user with no | ⟨yes, user, named⟩
  · exact ⟨.null, by rw [Delegated.userOf, no]; rfl⟩
  · obtain ⟨context, found, named⟩ := bind_eq_ok_iff.1 named
    obtain ⟨authorizer, found', named⟩ := bind_eq_ok_iff.1 named
    obtain ⟨claims, found'', named⟩ := bind_eq_ok_iff.1 named
    refine ⟨user, ?_⟩
    simp only [Delegated.userOf, yes, ok_bind, found, found', getD_of_field found'']
    exact getD_of_field named

lemma Wants.exists_cartHeader (wants : Wants event product) : ∃ id, Delegated.cartHeader event = .ok id := by
  obtain ⟨fs, headers⟩ := wants.headers
  rw [Delegated.cartHeader, headers]
  cases found : Value.lookup "x-cart-id" fs with
  | none =>
    refine ⟨.null, ?_⟩
    change (if (Value.lookup "x-cart-id" fs).isSome then _ else _) = _
    rw [found]
    rfl
  | some id =>
    refine ⟨id, ?_⟩
    change (if (Value.lookup "x-cart-id" fs).isSome then _ else _) = _
    rw [found]
    exact field_of_lookup found

lemma ensures_named {header : Value} {k : Value → Flow Value} {result : Value → List Exchange → Prop}
    (rest : ∀ id before, (k id).Ensures (Granted item) before result fault) :
    (if header.truthy then (do let id ← pure header; k id) else do
      let id ← text <$> .identifier
      k id).Ensures (Granted item) record result fault := by
  split_ifs
  · exact rest header record
  · refine .bind (show Ensures _ _ _ (fun _ _ => True) _ from ?_) fun id before _ => rest id before
    exact .bind (ensures_fresh fun _ _ _ => trivial) fun _ _ _ => ensures_done trivial

lemma ensures_answer {status : Int}
    (tells : (∃ json, body.toJson = .ok json) ∧ status = 200 ∧ HasExactNumbers item ∧ Keeps item product record ∨
      status ≠ 200 ∧ ¬HasExactNumbers item) :
    (do return answer status headers (← body.toJson) : Flow Value).Ensures (Granted item) record (Adds item product)
      fun _ _ => ¬HasExactNumbers item := by
  rcases tells with ⟨⟨json, written⟩, rfl, exact, kept⟩ | ⟨other, not⟩
  · exact ensures_ok_bind written (ensures_done ⟨iff_of_true rfl exact, fun _ => kept⟩)
  · refine ensures_lift_bind (fun json _ => ensures_done ?_) fun _ _ => not
    have refused (served : IsServed (answer status headers json)) : False :=
      other (int.inj (Except.ok.inj served))
    exact ⟨iff_of_false refused not, fun served => (refused served).elim⟩

/-- What is left to do once the product is in the cart. -/
lemma ensures_rest {flow : Flow Unit} (writable : product.IsWritable) (exact : HasExactNumbers item)
    (kept : Keeps item product record)
    (quiet : flow.Ensures (Granted item) record (fun _ _ => True) fun _ _ => False) :
    (do
      flow
      return answer 200 headers (← (map [("productId", product),
        ("message", .text "product added to cart")]).toJson) : Flow Value).Ensures (Granted item) record
      (Adds item product) fun _ _ => ¬HasExactNumbers item := by
  have grows : flow.Ensures (Granted item) record (fun _ after => record ⊆ after) fun _ _ => ¬HasExactNumbers item :=
    ⟨(ensures_grows flow).result, fun run => (quiet.fault run).elim⟩
  have written := IsWritable.exists_toJson (v := .map [("productId", product),
    ("message", .text "product added to cart")]) (by simp [isWritable_map, writable])
  exact grows.bind fun _ _ grown => ensures_answer (.inl ⟨written, rfl, exact, kept.mono grown⟩)

lemma ensures_direct (known : IsItem item) (wants : Wants event product) (set : tableOf s = .ok table)
    (expires : ∀ user, ∃ t, s.now.plusDays (keptDays user) = .ok t) :
    (Direct.add s event).Ensures (Granted item) record (Adds item product) fun _ _ => ¬HasExactNumbers item := by
  refine .attempt (show Ensures _ _ _ _ fun _ _ => ¬HasExactNumbers item from ?_) (fun _ _ not _ => not)
    fun e _ not _ => ensures_answer (.inr ⟨excuse_ne _ e, not⟩)
  obtain ⟨raw, fs, given, parsed, named⟩ := wants.body
  refine ensures_ok_bind given (ensures_ok_bind parsed (ensures_ok_bind
    (getD_of_field (field_of_lookup named)) (ensures_ok_bind rfl ?_)))
  rw [wants.truthy]
  refine (ensures_offer known set).bind ?_
  rintro detail _ (read | ⟨rfl, not⟩)
  · rw [known.truthy read]
    refine wants.ensures_shopperOf.bind fun shopper _ _ => ?_
    obtain ⟨t, later⟩ := expires shopper.isUser
    refine ensures_ok_bind (a := .moment t) (by rw [expiry, later]; rfl) ((ensures_line known set read).bind ?_)
    rintro _ before ⟨exact, kept⟩
    exact ensures_rest ((isWritable_of_parsed parsed).of_lookup named) exact kept (ensures_total set)
  · exact ensures_answer (.inr ⟨by decide, not⟩)

lemma ensures_delegated (known : IsItem item) (wants : Wants event product) (set : tableOf s = .ok table)
    (expires : ∀ user, ∃ t, s.now.plusDays (keptDays user) = .ok t) :
    (Delegated.add s event).Ensures (Granted item) record (Adds item product) fun _ _ => ¬HasExactNumbers item := by
  refine .attempt (show Ensures _ _ _ _ fun _ _ => ¬HasExactNumbers item from ?_) (fun _ _ not _ => not)
    fun e _ not _ => ensures_note_bind (ensures_answer (.inr ⟨by decide, not⟩))
  obtain ⟨raw, fs, given, parsed, named⟩ := wants.body
  have body : Delegated.bodyOf event = .ok (.map fs) := by rw [Delegated.bodyOf, getD_of_field given]; exact parsed
  have writable := isWritable_of_parsed parsed
  refine ensures_ok_bind body (ensures_ok_bind (getD_of_field (field_of_lookup named)) (ensures_ok_bind rfl ?_))
  rw [wants.truthy]
  refine (ensures_offer known set).bind ?_
  rintro detail _ (read | ⟨rfl, not⟩)
  · rw [known.truthy read]
    obtain ⟨user, isUser⟩ := wants.exists_userOf
    obtain ⟨header, isHeader⟩ := wants.exists_cartHeader
    obtain ⟨t, later⟩ := expires user.truthy
    refine ensures_ok_bind isUser (ensures_ok_bind isHeader (ensures_named fun id _ => ?_))
    refine ensures_ok_bind (a := .moment t) (by rw [expiry, later]; rfl) ((ensures_line known set read).bind ?_)
    rintro _ before ⟨exact, kept⟩
    have counted : (int 1).IsWritable := every_int.2 (by decide)
    exact ensures_rest (writable.of_lookup named) exact kept
      (ensures_reportChange (writable.of_lookup named) (writable.getD counted))
  · exact ensures_answer (.inr ⟨by decide, not⟩)

/-- A product can be put in a cart exactly if all numbers of its item are whole and not too long, in both shops. Then
the detail that is stored with the line is read back as the product. -/
theorem added_iff_numbers_exact (known : IsItem item) (wants : Wants event product) (set : tableOf s = .ok table)
    (expires : ∀ user, ∃ t, s.now.plusDays (keptDays user) = .ok t) :
    (Direct.add s event).Ensures (Granted item) [] (Adds item product) (fun _ _ => ¬HasExactNumbers item) ∧
      (Delegated.add s event).Ensures (Granted item) [] (Adds item product) fun _ _ => ¬HasExactNumbers item :=
  ⟨ensures_direct known wants set expires, ensures_delegated known wants set expires⟩

/-- A product with a price. -/
def priced (price : Decimal) : Fields :=
  [("sk", .text "DETAIL"), ("sizes", .list [.map [("price", .decimal price)], .null]), ("pk", .text "PRODUCT#p")]

lemma isItem_priced (price : Decimal) : IsItem (priced price) := by
  have stored : (decimal price).Every IsStored := .plain trivial ⟨nofun, nofun⟩
  constructor
  · simp [priced, attributes, erase]
  · simp [priced, attributes, erase]
  · simp [priced, attributes, erase, IsStored, stored]
  · simp [priced, attributes, erase, depth, depthFields, depthItems, Json.maxNesting]

lemma wants_order {n : ℤ} (written : (order n).toJson = .ok body) :
    Wants (addition "a" body) (.text "p") :=
  ⟨⟨body, _, rfl, parsed_order written, rfl⟩, rfl, ⟨_, rfl⟩, .inl rfl⟩

theorem added_iff_numbers_exact_nested : ∃ event answer record, Runs (Granted (priced (.ofInt 20)))
    (Direct.add shelfSetting event) [] (.ok answer) record ∧ HasExactNumbers (priced (.ofInt 20)) ∧
    Keeps (priced (.ofInt 20)) (.text "p") record := by
  obtain ⟨body, written⟩ : ∃ body, (order 3).toJson = .ok body := ⟨_, rfl⟩
  obtain ⟨answer, record, told, along, served⟩ : ∃ answer record,
      (Direct.add shelfSetting (addition "a" body)).told [.reply (.ok (.map [("Item", .map (priced (.ofInt 20)))])),
        changed [("quantity", .int 3)], changed [("total_quantity", .int 3)]] = some (.ok answer, record) ∧
      Along (Granted (priced (.ofInt 20))) [] record record ∧ IsServed answer := by
    refine ⟨_, _, told_attempt ((told_lift_bind rfl).trans ((told_lift_bind (parsed_order written)).trans rfl)),
      .cons ⟨rfl, _, rfl, rfl⟩ (.cons ⟨rfl, _, rfl, ?_⟩ (.cons ⟨rfl, _, rfl, ?_⟩ (.nil _))), ?_⟩
    · rintro _ (_ | ⟨_, ⟨⟩⟩)
      exact ⟨3, rfl⟩
    · rintro _ (_ | ⟨_, ⟨⟩⟩)
      exact ⟨3, rfl⟩
    · exact rfl
  have run := Runs.of_told told along
  have adds := (added_iff_numbers_exact (isItem_priced (.ofInt 20)) (wants_order written) (s := shelfSetting) rfl
    fun user => by cases user <;> exact ⟨_, rfl⟩).1.result run
  exact ⟨_, answer, record, run, adds.1.1 served, adds.2 served⟩

/-- A product whose price has a fraction is not put in the cart. -/
theorem fraction_not_added : ∃ event answer record, Wants event (.text "p") ∧
    Runs (Granted (priced (.finite false 1999 (-2)))) (Direct.add shelfSetting event) [] (.ok answer) record ∧
    ¬IsServed answer := by
  obtain ⟨body, written⟩ : ∃ body, (order 3).toJson = .ok body := ⟨_, rfl⟩
  obtain ⟨answer, record, told, along, refused⟩ : ∃ answer record,
      (Direct.add shelfSetting (addition "a" body)).told
        [.reply (.ok (.map [("Item", .map (priced (.finite false 1999 (-2))))]))] = some (.ok answer, record) ∧
      Along (Granted (priced (.finite false 1999 (-2)))) [] record record ∧
      answer.field "statusCode" = .ok (.int 500) := by
    refine ⟨_, _, told_attempt_error ((told_lift_bind rfl).trans ((told_lift_bind (parsed_order written)).trans rfl)) rfl
      rfl, .cons ⟨rfl, _, rfl, rfl⟩ (.nil _), ?_⟩
    exact rfl
  refine ⟨_, answer, record, wants_order written, .of_told told along, fun served => ?_⟩
  cases refused.symm.trans served

end Unbundle.Cart
