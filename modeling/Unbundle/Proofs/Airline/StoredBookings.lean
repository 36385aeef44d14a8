import Unbundle.Airline.Linked.Purchase
import Unbundle.Proofs.Json.Writable
import Unbundle.Proofs.Service.Tables

/-!
# Bookings in a store

What requests on a single booking find in the store, and what a change of the status of a booking makes of
it.
-/

open Unbundle.Value Function

namespace Unbundle.Airline

open Service

/-! ### What the parts of a request exchange -/

/-! ### Answers -/

def status? (answer : Value) : Option ℤ :=
  match answer.field "statusCode" with
  | .ok (.int status) => some status
  | _ => none

lemma ensures_respond {σ : Type} {R : σ → Exchange → σ → Prop} {s : σ} {result : Value → σ → Prop}
    {fault : Fault → σ → Prop} {status : ℤ} {body : Value} (writable : body.IsWritable)
    (ok : ∀ answer, status? answer = some status → result answer s) :
    (respond status body).Ensures R s result fault := by
  refine ensures_lift_bind (fun _ _ => ensures_done (ok _ rfl)) ?_
  intro e failed
  obtain ⟨json, written⟩ := writable.exists_storedToJson
  rw [written] at failed
  cases failed

section

variable {P : Exchange → Prop}

lemma within_respond (status : ℤ) (body : Value) : (respond status body).Within P :=
  within_lift_bind fun _ _ => trivial

lemma within_get (reads : ∀ x, x.IsReading → P x) (table : String) (key : Fields) :
    (Flow.ask table (.get key)).Within P :=
  within_invoke fun _ => reads _ trivial

/-! ### Functions that work on the tables themselves -/

namespace Direct

variable {s : Setting} {event id flight : Value}

lemma within_answered {flow : Flow Value} (body : flow.Within P) : (answered flow).Within P :=
  body.attempt fun _ => within_respond _ _

lemma ensures_answered {σ : Type} {R : σ → Exchange → σ → Prop} {t : σ} {I : σ → Prop} {flow : Flow Value}
    (body : flow.Ensures R t (fun _ u => I u) fun _ u => I u) :
    (answered flow).Ensures R t (fun _ u => I u) fun _ u => I u :=
  body.attempt (fun _ _ kept _ => kept) fun _ _ kept _ => (within_respond _ _).ensures False.elim kept

lemma within_invoke {function content mode : Value}
    (sent : ∀ options reply, P (.called (.client "lambda" "invoke" [] options) reply)) :
    (invoke function content mode).Within P := by
  refine .attempt ?_ fun e => trivial
  refine within_lift_bind fun json _ => (Service.within_invoke (sent _)).bind fun reply => ?_
  split_ifs
  · exact within_lift_bind fun _ _ => within_lift_bind fun _ _ => within_lift _
  · trivial

variable (reads : ∀ x : Exchange, x.IsReading → P x)

include reads

lemma within_findBooking (id : Value) : (findBooking s id).Within P :=
  within_lift_bind fun _ _ => .orPrint <|
    (within_get reads _ _).bind fun _ => within_lift _

lemma within_notify {booking reference : Value} {price : ℤ} : (notify s booking price reference).Within P :=
  .orPrint <| within_lift_bind fun _ _ =>
    (within_invoke fun _ _ => reads _ trivial).bind fun _ => trivial

omit reads in
lemma within_changeStatus {otherwise status : String} {reference : Option String}
    (set : ∀ table, bookingsOf s = .ok table → ∀ reply,
      P (.called (.table table (setStatus id status reference)) reply)) :
    (changeStatus s otherwise id status reference).Within P := by
  refine within_lift_bind fun table named => .attempt ?_ fun e => ?_
  · exact (Service.within_invoke (set table named)).bind fun _ => within_lift_bind fun _ _ =>
      within_lift _
  · split_ifs <;> trivial

lemma within_cancelBooking (set : ∀ table, bookingsOf s = .ok table → ∀ reply,
      P (.called (.table table (setStatus id "CANCELLED" none)) reply)) :
    (cancelBooking s id).Within P := by
  refine (within_findBooking reads id).bind fun booking => ?_
  split_ifs
  · trivial
  · exact (within_changeStatus set).bind fun _ => trivial

lemma within_confirmBooking (set : ∀ table, bookingsOf s = .ok table → ∀ reference reply,
      P (.called (.table table (setStatus id "CONFIRMED" (some reference))) reply)) :
    (confirmBooking s id).Within P := by
  refine (within_findBooking reads id).bind fun booking => ?_
  split_ifs
  · trivial
  · refine .bind (fun _ => ⟨reads _ trivial, trivial⟩) fun reference => ?_
    exact (within_changeStatus fun table named => set table named reference).bind fun _ => trivial

lemma within_releaseSeat {table : String}
    (give : ∀ maximum reply, P (.called (.table table (returnSeat flight maximum)) reply)) :
    (releaseSeat table flight).Within P := by
  refine .attempt ?_ fun e => ?_
  · refine .bind ?_ fun item => within_lift_bind fun maximum _ =>
      (Service.within_invoke (give maximum)).bind fun _ => trivial
    refine (within_get reads _ _).bind fun reply => within_lift_bind fun there _ => ?_
    split_ifs
    · trivial
    · exact within_lift_bind fun _ _ => within_lift _
  · split_ifs <;> trivial

lemma within_withOwnBooking {next : Value → Value → Flow Value}
    (rest : ∀ id v, pathParameter event "booking_id" = .ok id → (next id v).Within P) :
    (withOwnBooking s event next).Within P := by
  refine within_answered (within_lift_bind fun user _ => within_lift_bind fun id given => ?_)
  split_ifs
  · refine (within_findBooking reads id).bind fun booking => ?_
    split_ifs
    · exact within_respond _ _
    · refine within_lift_bind fun customer _ => ?_
      split_ifs
      · exact within_respond _ _
      · exact rest id booking given
  · exact within_respond _ _

lemma within_conclude {body payment : Value} {id reference : String} :
    (conclude s body payment id reference).Within P := by
  refine .bind (.orPrint ?_) fun _ => ?_
  · exact within_lift_bind fun _ _ => within_lift_bind fun _ _ =>
      (within_invoke fun _ _ => reads _ trivial).bind fun _ => trivial
  refine .bind (.attempt ?_ fun _ => trivial) fun _ => within_respond _ _
  exact within_lift_bind fun _ _ => within_lift_bind fun _ _ =>
    within_invoke fun _ _ => reads _ trivial

lemma within_cancel (set : ∀ table id reply, P (.called (.table table (setStatus id "CANCELLED" none)) reply))
    (give : ∀ table flight maximum reply, P (.called (.table table (returnSeat flight maximum)) reply)) :
    (cancel s event).Within P := by
  refine within_withOwnBooking reads fun id booking _ => ?_
  refine (within_changeStatus fun table _ => set table id).bind fun _ => ?_
  refine .bind (.orPrint ?_) fun _ => ?_
  · exact within_lift_bind fun flight _ => within_lift_bind fun table _ =>
      (within_releaseSeat reads (give table flight)).bind fun _ => trivial
  refine .bind (.orPrint ?_) fun _ => ?_
  · exact within_lift_bind fun _ _ => fun _ => ⟨reads _ trivial, trivial⟩
  exact (within_notify reads).bind fun _ => within_respond _ _

end Direct

/-! ### Functions that invoke each other -/

namespace Linked

variable {event context : Value}

lemma within_userOf (event : Value) : (userOf event).Within P := by
  refine .attempt ?_ fun e => ?_
  · exact within_lift_bind fun _ _ => within_lift_bind fun _ _ => within_lift_bind fun _ _ =>
      within_lift _
  · split_ifs <;> trivial

lemma within_logProblem (kind text : String) (context : Value) : (logProblem kind text context).Within P :=
  within_lift_bind fun _ _ => trivial

lemma within_answerTo (e : Fault) :
    (do
      logProblem e.kind e.message context
      if e.isRefusal then respond 400 (problem e.message)
      else respond 500 (problem "Internal server error") : Flow Value).Within P := by
  refine (within_logProblem _ _ _).bind fun _ => ?_
  split_ifs
  · exact within_respond _ _
  · exact within_respond _ _

lemma within_answered {flow : Flow Value} (body : flow.Within P) : (answered context flow).Within P :=
  body.attempt within_answerTo

lemma ensures_answered {σ : Type} {R : σ → Exchange → σ → Prop} {s : σ} {I : σ → Prop} {flow : Flow Value}
    (body : flow.Ensures R s (fun _ t => I t) fun _ t => I t) :
    (answered context flow).Ensures R s (fun _ t => I t) fun _ t => I t :=
  body.attempt (fun _ _ kept _ => kept) fun e _ kept _ => (within_answerTo e).ensures False.elim kept

lemma within_inform {function : String} {payload : Value}
    (sent : ∀ options reply, P (.called (.client "lambda" "invoke" [] options) reply)) :
    (inform function payload).Within P :=
  .orPrint <| within_lift_bind fun _ _ =>
    (within_invoke (sent _)).bind fun _ => trivial

variable (reads : ∀ x : Exchange, x.IsReading → P x)

include reads

lemma within_withOwnBooking {table doing : String} {next : Value → Value → Flow Value}
    (rest : ∀ id v, pathParameter event (.text "booking_id") = .ok id → (next id v).Within P) :
    (withOwnBooking table doing event next).Within P := by
  refine (within_userOf event).bind fun user => within_lift_bind fun id given => ?_
  refine (within_get reads _ _).bind fun reply => within_lift_bind fun there _ => ?_
  split_ifs
  · exact within_respond _ _
  · refine within_lift_bind fun booking _ => within_lift_bind fun customer _ => ?_
    split_ifs
    · exact within_respond _ _
    · exact rest id booking given

lemma within_cancel {s : Setting}
    (set : ∀ table id reply, P (.called (.table table (Direct.setStatus id "CANCELLED" none)) reply)) :
    (cancel s event context).Within P := by
  have told : ∀ function payload, (inform function payload).Within P := fun _ _ =>
    within_inform fun _ _ => reads _ trivial
  refine within_lift_bind fun table _ => within_lift_bind fun _ _ =>
    within_lift_bind fun _ _ => within_lift_bind fun _ _ => within_answered ?_
  refine within_withOwnBooking reads fun id booking _ => ?_
  refine .bind (.attempt ?_ fun _ => trivial) fun _ => ?_
  · exact (within_invoke (set table id)).bind fun _ => trivial
  refine .bind (.orPrint ?_) fun _ => ?_
  · exact within_lift_bind fun _ _ => told _ _
  refine .bind (.orPrint ?_) fun _ => ?_
  · exact within_lift_bind fun _ _ => (told _ _).bind fun _ => trivial
  refine .bind (.orPrint ?_) fun _ => ?_
  · exact within_lift_bind fun _ _ => (told _ _).bind fun _ => trivial
  exact within_respond _ _

end Linked

end

end Unbundle.Airline

open List Unbundle.Value

namespace Unbundle

/-! ### Bookings in a store -/

variable {name text : String}

lemma Value.eq_text_of_same {v : Value} (same : (Value.text text).same v = true) : v = .text text := by
  cases v with
  | text t => rw [eq_of_beq same]
  | _ => cases same

lemma Value.eq_text_of_plain {v : Value} (plain : v.plain = .ok (.text text)) : v = .text text := by
  cases v with
  | text t => exact Except.ok.inj plain
  | decimal d =>
    rw [Value.plain, ofDecimal] at plain
    split at plain
    · cases plain
    · cases plain
    · split at plain <;> cases plain
  | list xs =>
    obtain ⟨_, -, ⟨⟩⟩ := bind_eq_ok_iff.1 plain
  | map fs =>
    obtain ⟨_, -, ⟨⟩⟩ := bind_eq_ok_iff.1 plain
  | _ => cases plain

namespace Service

lemma Kept.eq_text {w : Value} (kept : Kept (.text text) w) : w = .text text := by
  cases kept with
  | same => rfl
  | number value => cases value

lemma Setting.get?_of_require {s : Setting} {table : String} (found : s.require name = .ok table) :
    s.get? name = some table := by
  unfold require at found
  cases given : s.get? name with
  | none =>
    rw [given] at found
    cases found
  | some t =>
    rw [given] at found
    rw [Except.ok.inj found]

end Service

namespace Airline

open Service

variable {event : Value}
variable {user id : Value} {s : Setting} {table : String}

/-! ### Requests on a booking -/

def claimedUser (event : Value) : Except Fault Value := do
  (← (← (← event.field "requestContext").field "authorizer").field "claims").field "sub"

def namedBooking (event : Value) : Except Fault Value := do
  (← event.field "pathParameters").field "booking_id"

lemma Direct.claimedUser_of_userOf (found : userOf event = .ok user) :
    claimedUser event = .ok user := by
  unfold userOf at found
  dsimp only at found
  split at found
  · split_ifs at found
  · rename_i claimed
    rw [← Except.ok.inj found]
    exact claimed

lemma Direct.namedBooking_of_pathParameter {id : String}
    (found : pathParameter event "booking_id" = .ok (.text id)) :
    namedBooking event = .ok (.text id) := by
  obtain ⟨parameters, given, found⟩ := bind_eq_ok_iff.1 found
  have some : parameters ≠ .map [] := by
    rintro rfl
    cases found
  exact bind_eq_ok_iff.2 ⟨parameters, field_of_getD given some, field_of_getD found (by simp)⟩

lemma Linked.userOf_eq_done (claimed : claimedUser event = .ok user) :
    userOf event = .done user := by
  obtain ⟨requested, first, claimed⟩ := bind_eq_ok_iff.1 claimed
  obtain ⟨authorizer, second, claimed⟩ := bind_eq_ok_iff.1 claimed
  obtain ⟨claims, third, claimed⟩ := bind_eq_ok_iff.1 claimed
  unfold userOf
  rw [first]
  simp only [liftM, monadLift, MonadLift.monadLift, Flow.ofOutcome, Flow.bind_eq, Flow.bind, second, third, claimed]
  rfl

lemma Linked.namedBooking_of_pathParameter
    (found : pathParameter event (.text "booking_id") = .ok id) : namedBooking event = .ok id := by
  unfold pathParameter at found
  dsimp only at found
  split at found
  · split_ifs at found
  · rename_i named
    split_ifs at found
    rw [← Except.ok.inj found]
    exact named

lemma Direct.get?_of_tableOf (found : tableOf s name = .ok table) :
    s.get? name = some table := by
  unfold tableOf at found
  split at found
  · rename_i given
    rw [← Except.ok.inj found]
    exact (Option.filter_eq_some_iff.1 given).1
  · cases found

/-! ### Finding a booking -/

lemma place?_key {place : Place} (located : place? table (key id) = some place) :
    id = .text place.2 ∧ table = place.1 := by
  cases id with
  | text i =>
    cases located
    exact ⟨rfl, rfl⟩
  | _ => cases located

/-- What is found for an identifier: the item that is kept under it, in plain form, or null. A reliable store
has null only for what is not there or has no plain form. -/
inductive Found (reliable : Bool) (tables : Tables Place) (table : String) (id : Value) : Value → Prop
  | item {place : Place} {item : Fields} {v : Value} :
      place? table (key id) = some place → tables place = some item → (map item).plain = .ok v →
      Found reliable tables table id v
  | null : (reliable = true → ∀ place item v, place? table (key id) = some place → tables place = some item →
      (map item).plain ≠ .ok v) → Found reliable tables table id .null

section

variable {reliable : Bool} {tables : Tables Place} {table : String} {id : Value}

lemma plainItem_map (fs : Fields) :
    plainItem (.map fs) = (Value.lookup "Item" fs).elim (.ok .null) plain := by
  have held : (Value.map fs).holdsName "Item" = .ok (Value.lookup "Item" fs).isSome := rfl
  rw [plainItem, held]
  cases found : Value.lookup "Item" fs with
  | none => rfl
  | some v =>
    rw [field_of_lookup found]
    rfl

lemma ensures_plainItem :
    (do plainItem (← .ask table (.get (key id))) : Flow Value).Ensures (Stores reliable) tables
      (fun v after => after = tables ∧ Found reliable tables table id v)
      (fun _ after => after = tables ∧ Found reliable tables table id .null) := by
  have asked : (Flow.ask table (.get (key id))).Ensures (Stores reliable) tables
      (fun reply after => after = tables ∧ ∃ fs place, reply = .map fs ∧
        place? table (key id) = some place ∧ Value.lookup "Item" fs = (tables place).map .map)
      (fun _ after => after = tables ∧ Found reliable tables table id .null) := by
    refine ensures_get (fun fs place located found => ⟨rfl, fs, place, rfl, located, found⟩) ?_
    refine fun e none => ⟨rfl, .null fun sure place item v located => ?_⟩
    rw [none sure] at located
    cases located
  refine asked.bind ?_
  rintro _ tables ⟨rfl, fs, place, rfl, located, found⟩
  rw [plainItem_map, found]
  cases kept : tables place with
  | none =>
    refine ensures_done ⟨rfl, .null fun _ place' item v located' stored => ?_⟩
    rw [Option.some.inj (located'.symm.trans located), kept] at stored
    cases stored
  | some item =>
    refine ensures_lift (fun v plain => ⟨rfl, .item located kept plain⟩) fun e failed =>
      ⟨rfl, .null fun _ place' item' v located' stored plain => ?_⟩
    rw [Option.some.inj (located'.symm.trans located), kept, Option.some.injEq] at stored
    rw [Option.map_some, Option.elim_some, stored, plain] at failed
    cases failed

lemma Direct.ensures_findBooking {s : Setting} (named : bookingsOf s = .ok table) :
    (findBooking s id).Ensures (Stores reliable) tables
      (fun v after => after = tables ∧ Found reliable tables table id v)
      (fun e after => e.isInterrupt = true ∧ after = tables) := by
  rw [findBooking, named]
  refine ensures_plainItem.orPrint (fun _ _ found _ => found) fun _ _ same stop => ⟨stop, same.1⟩

end

/-! ### Changing a status -/

/-- The change that sets the status of a booking, and its reference if there is one. -/
def statusChange (status : String) (reference : Option String) : Change :=
  ⟨[], .setAs "#status" "status" "status" (.text status) ::
    (match reference with
      | none => []
      | some r => [.set "bookingReference" "ref" (.text r)])⟩

lemma setStatus_eq (id : Value) (status : String) (reference : Option String) :
    Direct.setStatus id status reference =
      .update (key id) (statusChange status reference) (some (.present "id")) .allNew := rfl

section

variable {status : String} {reference : Option String} {before after : Fields}

lemma lookup_status (turns : (statusChange status reference).Turns before after) :
    Value.lookup "status" after = some (.text status) := by
  obtain ⟨v, found, kept⟩ := turns.assigned _ mem_cons_self
  rw [Kept.eq_text kept] at found
  exact found

lemma lookup_of_statusChange (turns : (statusChange status reference).Turns before after)
    (other : name ∉ ["status", "bookingReference"]) : Value.lookup name after = Value.lookup name before := by
  refine turns.others name fun mem => other ?_
  cases reference with
  | none => exact mem_cons.2 (.inl (mem_singleton.1 mem))
  | some r => exact mem

lemma exists_plain_of_statusChange (turns : (statusChange status reference).Turns before after)
    (distinct : (after.map Prod.fst).Nodup) (legible : ∃ p, (map before).plain = .ok p) :
    ∃ p, (map after).plain = .ok p := by
  refine exists_plain_of_lookup distinct fun name v found => ?_
  by_cases set : name ∈ (statusChange status reference).fields
  · obtain ⟨assignment, mem, rfl⟩ := mem_map.1 set
    obtain ⟨w, found', gives⟩ := turns.assigned assignment mem
    obtain rfl := Option.some.inj (found.symm.trans found')
    obtain ⟨text, rfl⟩ : ∃ text, v = .text text := by
      cases reference with
      | none =>
        rw [mem_singleton.1 mem] at gives
        exact ⟨_, Kept.eq_text gives⟩
      | some r =>
        rcases mem_pair.1 mem with rfl | rfl <;> exact ⟨_, Kept.eq_text gives⟩
    exact ⟨_, rfl⟩
  · rw [turns.others name set] at found
    exact isConversion_plain.exists_map_iff.1 legible _ (mem_of_lookup found)

/-- A booking with its status set, and its reference if there is one. -/
def withStatus (status : String) (reference : Option String) (item : Fields) : Fields :=
  let changed := put "status" (.text status) item
  match reference with
  | none => changed
  | some r => put "bookingReference" (.text r) changed

lemma turns_withStatus : (statusChange status reference).Turns before (withStatus status reference before) := by
  cases reference with
  | none =>
    refine ⟨by simp [statusChange], fun assignment mem => ?_, fun name other => ?_⟩
    · rw [mem_singleton.1 mem]
      exact ⟨_, lookup_put_self, .same _⟩
    · exact lookup_put_of_ne fun same => other (mem_singleton.2 same)
  | some r =>
    refine ⟨by simp [statusChange], fun assignment mem => ?_, fun name other => ?_⟩
    · rcases mem_pair.1 mem with rfl | rfl
      · have other : "status" ≠ "bookingReference" := by decide
        exact ⟨_, (lookup_put_of_ne other).trans lookup_put_self, .same _⟩
      · exact ⟨_, lookup_put_self, .same _⟩
    · have other : ¬ (name = "status" ∨ name = "bookingReference") := fun same =>
        other (mem_pair.2 same)
      exact (lookup_put_of_ne fun same => other (.inr same)).trans
        (lookup_put_of_ne fun same => other (.inl same))

lemma nodup_withStatus (distinct : (before.map Prod.fst).Nodup) :
    ((withStatus status reference before).map Prod.fst).Nodup := by
  cases reference with
  | none => exact nodup_put distinct
  | some r => exact nodup_put (nodup_put distinct)

end

/-! ### Requests on an own booking -/

/-- A request is about a booking, and its user is the customer of the booking. -/
structure OwnBooking (tables : Tables Place) (table : String) (event : Value) (id : String) (item : Fields) :
    Prop where
  named : namedBooking event = .ok (.text id)
  kept : tables (table, id) = some item
  own : ∃ p user owner, (map item).plain = .ok p ∧ claimedUser event = .ok user ∧
    p.get "customer" = .ok owner ∧ owner.same user = true

/-- A request on an own booking does nothing, or goes on with a booking that is the user's own. -/
lemma Direct.ensures_withOwnBooking {reliable : Bool} {tables : Tables Place}
    {next : Value → Value → Flow Value} {I : Tables Place → Prop} (holds : I tables)
    (rest : ∀ table id item p, bookingsOf s = .ok table → OwnBooking tables table event id item →
      (map item).plain = .ok p →
      (next (.text id) p).Ensures (Stores reliable) tables (fun _ after => I after) fun _ after => I after) :
    (withOwnBooking s event next).Ensures (Stores reliable) tables (fun _ after => I after)
      fun _ after => I after := by
  have answers : ∀ {status content}, (respond status content).Ensures (Stores reliable) tables
      (fun _ after => I after) fun _ after => I after := ensures_of_reading (within_respond _ _) holds
  have finds : ∀ id, (findBooking s id).Ensures (Stores reliable) tables
      (fun v after => after = tables ∧ ∃ table, bookingsOf s = .ok table ∧ Found reliable tables table id v)
      (fun _ after => I after) := by
    intro id
    cases named : bookingsOf s with
    | error e =>
      rw [findBooking, named]
      exact ensures_fail holds
    | ok table =>
      exact (ensures_findBooking named).mono (fun _ _ found => ⟨found.1, table, rfl, found.2⟩)
        fun _ _ same => same.2 ▸ holds
  refine ensures_answered (ensures_lift_bind (fun user claimed => ?_) fun _ _ => holds)
  refine ensures_lift_bind (fun id given => ?_) fun _ _ => holds
  split_ifs
  · refine (finds id).bind ?_
    rintro v tables ⟨rfl, table, named, found⟩
    split_ifs with empty
    · exact answers
    refine ensures_lift_bind (fun owner read => ?_) fun _ _ => holds
    split_ifs with stranger
    · exact answers
    cases found with
    | null => exact absurd rfl empty
    | @item place item v located kept plain =>
      obtain ⟨table, id⟩ := place
      obtain ⟨rfl, rfl⟩ := place?_key located
      refine rest _ id item v named ⟨namedBooking_of_pathParameter given, kept, ?_⟩ plain
      exact ⟨v, user, owner, plain, claimedUser_of_userOf claimed, read, by simpa using stranger⟩
  · exact answers

/-! ### Steps that change a booking -/

/-- What a booking may be after its status was set. -/
structure Restated (status : String) (before after : Fields) : Prop where
  status : Value.lookup "status" after = some (.text status)
  others : ∀ name ∉ ["status", "bookingReference"], Value.lookup name after = Value.lookup name before
  legible : ∃ p, (map after).plain = .ok p

namespace Direct

section

variable {s : Setting} {tables : Tables Place} {table id : String} {item : Fields}

lemma ensures_findBooking_of_plain {p : Value} (named : bookingsOf s = .ok table)
    (kept : tables (table, id) = some item) (plain : (map item).plain = .ok p) :
    (findBooking s (.text id)).Ensures (Stores true) tables (fun v after => after = tables ∧ v = p)
      (fun e after => e.isInterrupt = true ∧ after = tables) := by
  have located : place? table (key (.text id)) = some (table, id) := rfl
  refine (ensures_findBooking named).mono ?_ fun _ _ stop => stop
  rintro v tables ⟨rfl, found⟩
  refine ⟨rfl, ?_⟩
  cases found with
  | item located' kept' plain' =>
    rw [← Option.some.inj (located.symm.trans located'), kept, Option.some.injEq] at kept'
    subst kept'
    exact Except.ok.inj (plain'.symm.trans plain)
  | null unknown => exact absurd plain (unknown rfl _ _ _ located kept)

/-- A change of the status of a booking that can be read is made in a reliable store, unless the booking does
not say its own identifier. -/
lemma ensures_changeStatus {otherwise status : String} {reference : Option String}
    (named : bookingsOf s = .ok table) (kept : tables (table, id) = some item)
    (legible : ∃ p, (map item).plain = .ok p) :
    (changeStatus s otherwise (.text id) status reference).Ensures (Stores true) tables
      (fun _ after => ∃ item', Restated status item item' ∧
        after = update tables (table, id) (some item'))
      (fun _ after => after = tables ∧ Value.lookup "id" item = none) := by
  have located : place? table (key (.text id)) = some (table, id) := rfl
  have asked : (Flow.ask table (setStatus (.text id) status reference)).Ensures (Stores true) tables
      (fun reply after => ∃ item', Restated status item item' ∧
        after = update tables (table, id) (some item') ∧ reply.field "Attributes" = .ok (.map item'))
      (fun _ after => after = tables ∧ Value.lookup "id" item = none) := by
    refine ensures_update (fun reply location after located' _ turns distinct attributes => ?_) fun e refused => ?_
    · obtain rfl := Option.some.inj (located.symm.trans located')
      rw [kept] at turns
      have legible := exists_plain_of_statusChange turns distinct legible
      exact ⟨after, ⟨lookup_status turns, fun _ other => lookup_of_statusChange turns other, legible⟩, rfl,
        attributes rfl⟩
    · have turns : (statusChange status reference).Turns ((tables (table, id)).getD (key (.text id)))
          (withStatus status reference item) := by
        rw [kept]
        exact turns_withStatus
      refine ⟨rfl, by_contra fun there => refused rfl (.update located ?_ turns)⟩
      rintro _ ⟨⟩
      rwa [kept]
  rw [changeStatus, named]
  refine .attempt (asked.bind ?_) (fun _ _ same _ => same) fun e after same _ => ?_
  · rintro reply _ ⟨item', restated, rfl, attributes⟩
    obtain ⟨p, plain⟩ := restated.legible
    rw [attributes]
    change (liftM (map item').plain : Flow Value).Ensures _ _ _ _
    rw [plain]
    exact ensures_done ⟨item', restated, rfl⟩
  · split_ifs <;> exact ensures_fail same

lemma truthy_of_plain {p : Value} (plain : (map item).plain = .ok p)
    (named : Value.lookup "id" item ≠ none) : p.truthy = true := by
  obtain ⟨v, found⟩ := Option.ne_none_iff_exists'.1 named
  obtain ⟨_, -, field⟩ := field_of_plain plain found
  obtain ⟨fs, rfl, found⟩ := field_eq_ok field
  cases fs with
  | nil => cases found
  | cons => rfl

lemma ensures_withBooking {α : Type} {refusal : String} {next : Flow α} {result : α → Tables Place → Prop}
    (named : bookingsOf s = .ok table) (kept : tables (table, id) = some item)
    (legible : ∃ p, (map item).plain = .ok p)
    (rest : next.Ensures (Stores true) tables result
      fun _ after => after = tables ∧ Value.lookup "id" item = none) :
    (do
      let booking ← findBooking s (.text id)
      if !booking.truthy then .refuse refusal else next : Flow α).Ensures (Stores true) tables result
      (fun e after => after = tables ∧ (e.isInterrupt = true ∨ Value.lookup "id" item = none)) := by
  obtain ⟨p, plain⟩ := legible
  refine ((ensures_findBooking_of_plain named kept plain).mono (fun _ _ found => found)
    fun _ _ stop => ⟨stop.2, .inl stop.1⟩).bind ?_
  rintro v tables ⟨rfl, rfl⟩
  split_ifs with empty
  · refine ensures_fail ⟨rfl, .inr (by_contra fun named => ?_)⟩
    rw [truthy_of_plain plain named] at empty
    cases empty
  · exact rest.mono (fun _ _ done => done) fun _ _ same => ⟨same.1, .inr same.2⟩

lemma ensures_cancelBooking (named : bookingsOf s = .ok table) (kept : tables (table, id) = some item)
    (legible : ∃ p, (map item).plain = .ok p) :
    (cancelBooking s (.text id)).Ensures (Stores true) tables
      (fun _ after => ∃ item', Restated "CANCELLED" item item' ∧
        after = update tables (table, id) (some item'))
      (fun e after => after = tables ∧ (e.isInterrupt = true ∨ Value.lookup "id" item = none)) := by
  refine ensures_withBooking named kept legible ?_
  exact (ensures_changeStatus named kept legible).bind fun _ _ done => ensures_done done

lemma ensures_confirmBooking (named : bookingsOf s = .ok table) (kept : tables (table, id) = some item)
    (legible : ∃ p, (map item).plain = .ok p) :
    (confirmBooking s (.text id)).Ensures (Stores true) tables
      (fun _ after => ∃ item', Restated "CONFIRMED" item item' ∧
        after = update tables (table, id) (some item'))
      (fun e after => after = tables ∧ (e.isInterrupt = true ∨ Value.lookup "id" item = none)) := by
  refine ensures_withBooking named kept legible ?_
  have token : (Flow.token 4).Ensures (Stores true) tables (fun _ after => after = tables)
      (fun _ after => after = tables ∧ Value.lookup "id" item = none) := by
    refine ensures_fresh fun _ _ made => ?_
    cases made
    rfl
  refine token.bind ?_
  rintro reference tables rfl
  exact (ensures_changeStatus named kept legible).bind fun _ _ done => ensures_done done

end

end Direct

/-! ### Bookings that were made -/

/-- A booking for a flight as it was made: it says its own identifier, has a status and can be read. -/
structure IsBooking (flight status : String) (item : Fields) : Prop where
  named : Value.lookup "id" item ≠ none
  flight : Value.lookup "bookingOutboundFlightId" item = some (.text flight)
  status : Value.lookup "status" item = some (.text status)
  legible : ∃ p, (map item).plain = .ok p

namespace Direct

section

variable {s : Setting} {tables : Tables Place} {table id flight was : String} {item : Fields}

lemma lookup_of_kept {booking kept : Fields} (stored : storableFields booking = .ok item)
    (keeps : Kept (.map item) (.map kept)) (found : Value.lookup name booking = some (.text text)) :
    Value.lookup name kept = some (.text text) := by
  obtain ⟨_, ⟨⟩, found⟩ := lookup_of_storableFields stored found
  obtain ⟨w, same, found⟩ := keeps.exists_lookup found
  rw [found, same.eq_text]

lemma ensures_putBooking {booking : Fields} (modest : ∀ f ∈ booking, f.2.IsModest)
    (named : Value.lookup "id" booking = some (.text id))
    (given : Value.lookup "bookingOutboundFlightId" booking = some (.text flight))
    (status : Value.lookup "status" booking = some (.text was)) :
    (do
      let item ← storableFields booking
      let _ ← .ask table (.put item none)
      return id : Flow String).Ensures (Stores true) tables
      (fun made after => made = id ∧ ∃ item, IsBooking flight was item ∧
        after = update tables (table, id) (some item))
      (fun _ after => after = tables) := by
  refine ensures_lift_bind (fun item stored => ?_) fun _ _ => rfl
  have put : (Flow.ask table (.put item none)).Ensures (Stores true) tables
      (fun _ after => ∃ item, IsBooking flight was item ∧ after = update tables (table, id) (some item))
      (fun _ after => after = tables) := by
    refine ensures_put (fun reply location kept located keeps => ⟨kept, ?_, ?_⟩) fun _ => rfl
    · have small := every_isSmall_of_storableFields stored modest
      refine ⟨?_, lookup_of_kept stored keeps given, lookup_of_kept stored keeps status, keeps.exists_plain small⟩
      rw [lookup_of_kept stored keeps named]
      exact Option.some_ne_none _
    · obtain ⟨_, ⟨⟩, found⟩ := lookup_of_storableFields stored named
      rw [place?, found] at located
      rw [← Option.some.inj located]
  exact put.bind fun _ _ kept => ensures_done ⟨rfl, kept⟩

lemma ensures_reserveBooking {body : Value} (named : bookingsOf s = .ok table)
    (given : body.field "outboundFlightId" = .ok (.text flight))
    (modest : ∀ name ∈ ["stateExecutionId", "customerId", "chargeId"], ∀ v,
      body.field name = .ok v → v.IsModest) :
    (reserveBooking s body).Ensures (Stores true) tables
      (fun id after => tables (table, id) = none ∧ ∃ item, IsBooking flight "UNCONFIRMED" item ∧
        after = update tables (table, id) (some item))
      (fun _ after => after = tables) := by
  have fresh : Flow.identifier.Ensures (Stores true) tables
      (fun id after => after = tables ∧ tables (table, id) = none) (fun _ after => after = tables) := by
    refine ensures_fresh fun id after made => ?_
    cases made with
    | made unused => exact ⟨rfl, unused rfl table⟩
  refine fresh.bind ?_
  rintro id tables ⟨rfl, unused⟩
  refine ensures_lift_bind (fun execution first => ?_) fun _ _ => rfl
  refine ensures_lift_bind (fun outbound second => ?_) fun _ _ => rfl
  refine ensures_lift_bind (fun customer third => ?_) fun _ _ => rfl
  refine ensures_lift_bind (fun charge fourth => ?_) fun _ _ => rfl
  obtain rfl := Except.ok.inj (given.symm.trans second)
  rw [named]
  have modestExecution : execution.IsModest := by
    by_cases default : execution = .text ""
    · simp [default]
    · exact modest _ (by simp) _ (field_of_getD first default)
  have modestCustomer : customer.IsModest := modest _ (by simp) _ third
  have modestCharge : charge.IsModest := modest _ (by simp) _ fourth
  refine .attempt ((ensures_putBooking ?_ rfl rfl rfl).mono ?_ fun _ _ same => same)
    (fun _ _ same _ => same) fun e after same _ => ensures_fail same
  · simp [Setting.stamp, ofChars, modestExecution, modestCustomer, modestCharge]
  · rintro _ _ ⟨rfl, kept⟩
    exact ⟨unused, kept⟩

end

end Direct

/-! ### Answers of a store -/

section

variable {reliable : Bool} {tables : Tables Place} {table id : String} {item : Fields}

lemma stores_get (kept : tables (table, id) = some item) :
    Stores reliable tables (.called (.table table (.get (key (.text id)))) (.ok (.map [("Item", .map item)])))
      tables :=
  have located : place? table (key (.text id)) = some (table, id) := rfl
  .get located (by rw [kept]; rfl)

lemma stores_setStatus {status : String} {reference : Option String} (kept : tables (table, id) = some item)
    (named : Value.lookup "id" item ≠ none) (distinct : (item.map Prod.fst).Nodup) :
    Stores reliable tables
      (.called (.table table (Direct.setStatus (.text id) status reference))
        (.ok (.map [("Attributes", .map (withStatus status reference item))])))
      (update tables (table, id) (some (withStatus status reference item))) := by
  have located : place? table (key (.text id)) = some (table, id) := rfl
  refine .update located ?_ ?_ (nodup_withStatus distinct) fun _ => rfl
  · rintro _ ⟨⟩
    rwa [kept]
  · rw [kept]
    exact turns_withStatus

end

end Airline

end Unbundle

open Unbundle.Value

namespace Unbundle.Airline

open Service

/-! ## Bookings of other users -/

/-! ### Requests for the owner of a booking -/

/-- The functions that work on one booking of the user who asks. -/
inductive OwnerFunction where
  | get
  | cancel
  | confirm
  | linkedGet
  | linkedCancel
  | linkedConfirm
  deriving DecidableEq, Repr

namespace OwnerFunction

def handler : OwnerFunction → Handler
  | get => Direct.handler Direct.getBooking
  | cancel => Direct.handler Direct.cancel
  | confirm => Direct.handler Direct.confirm
  | linkedGet => Linked.tableHandler "BOOKING_TABLE" Linked.getBooking
  | linkedCancel => Linked.handlerWith Linked.cancelNames Linked.cancel
  | linkedConfirm => Linked.tableHandler "BOOKING_TABLE" Linked.confirm

/-- Whether a function reads a booking in plain form before it looks at the customer. -/
def readsPlain : OwnerFunction → Bool
  | linkedCancel | linkedConfirm => false
  | _ => true

/-- The variables without which a function does not work. -/
def names : OwnerFunction → List String
  | linkedCancel => Linked.cancelNames
  | _ => ["BOOKING_TABLE"]

/-- A setting in which a function works, with its table of bookings. -/
structure Works (function : OwnerFunction) (s : Setting) (table : String) : Prop where
  table : s.given? "BOOKING_TABLE" = some table
  names : ∀ name ∈ function.names, (s.get? name).isSome = true

/-- How a function ends and what it called, when its one call is replied to with some fields. -/
def shown (function : OwnerFunction) (s : Setting) (event context : Value) (reply : Fields) :
    Option (Except Fault Value × List Exchange) :=
  (function.handler.handle s event context).told [.reply (.ok (.map reply))]

end OwnerFunction

/-- A request of a user for a booking. -/
structure AsksFor (event user id : Value) : Prop where
  user : claimedUser event = .ok user
  named : namedBooking event = .ok id
  given : id.truthy = true

/-- A booking has a customer who is not the user, neither as it is kept nor in plain form. -/
def IsForeign (user : Value) (item : Fields) : Prop :=
  ∃ customer, Value.lookup "customer" item = some customer ∧ customer.same user = false ∧
    ∀ p, customer.plain = .ok p → p.same user = false

def looked (table : String) (id : Value) (reply : Fields) : List Exchange :=
  [.called (.table table (.get (key id))) (.ok (.map reply))]

/-! ### The parts of a request -/

section

variable {event context user id answer w : Value} {s : Setting} {table doing : String} {item reply : Fields}
  {next : Value → Value → Flow Value} {function : OwnerFunction}

lemma exists_told_problem (status : ℤ) (sentence : String) :
    ∃ answer, status? answer = some status ∧
      (respond status (problem sentence)).told [] = some (.ok answer, []) := by
  have writable : (problem sentence).IsWritable := by simp [problem, message, isWritable_map]
  obtain ⟨json, written⟩ := writable.exists_storedToJson
  exact ⟨answer status sharedHeaders json, rfl, told_lift_bind written⟩

lemma IsForeign.exists_field (foreign : IsForeign user item) (read : (map item).plain = .ok w) :
    w.truthy = true ∧ ∃ owner, w.field "customer" = .ok owner ∧ owner.same user = false := by
  obtain ⟨customer, there, -, differs⟩ := foreign
  obtain ⟨owner, plain, field⟩ := field_of_plain read there
  obtain ⟨fs, rfl, found⟩ := field_eq_ok field
  refine ⟨?_, owner, field, differs owner plain⟩
  cases fs with
  | nil => cases found
  | cons f fs => rfl

lemma told_plainItem (found : Value.lookup "Item" reply = some (.map item))
    (read : (map item).plain = .ok w) :
    (do plainItem (← .ask table (.get (key id))) : Flow Value).told [.reply (.ok (.map reply))] =
      some (.ok w, looked table id reply) := by
  refine told_bind (told_invoke _ _) ?_
  rw [plainItem_map, found, Option.elim_some, read]
  rfl

lemma Direct.told_withOwnBooking (asks : AsksFor event user id) (located : bookingsOf s = .ok table)
    (found : Value.lookup "Item" reply = some (.map item)) (foreign : IsForeign user item)
    (read : (map item).plain = .ok w)
    (refused : (respond 403 (problem "Access denied. You can only access your own bookings.")).told [] =
      some (.ok answer, [])) :
    (withOwnBooking s event next).told [.reply (.ok (.map reply))] =
      some (.ok answer, looked table id reply) := by
  have claimed : userOf event = .ok user := by
    have claimed := asks.user
    rw [claimedUser] at claimed
    rw [userOf, claimed]
  have named : pathParameter event "booking_id" = .ok id := by
    obtain ⟨parameters, given, field⟩ := bind_eq_ok_iff.1 asks.named
    rw [pathParameter, getD_of_field given]
    exact getD_of_field field
  refine told_attempt ?_
  rw [told_lift_bind claimed, withParameter, told_lift_bind named, if_pos asks.given]
  have booking : (findBooking s id).told [.reply (.ok (.map reply))] = some (.ok w, looked table id reply) := by
    rw [findBooking, told_lift_bind located]
    exact told_attempt (told_plainItem found read)
  refine told_bind booking ?_
  obtain ⟨full, owner, field, differs⟩ := foreign.exists_field read
  have customer : w.get "customer" = .ok owner := getD_of_field field
  rw [full, if_neg (by simp), told_lift_bind customer, differs]
  exact refused

namespace Linked

lemma pathParameter_of_asksFor (asks : AsksFor event user id) :
    pathParameter event (.text "booking_id") = .ok id := by
  have named : (do (← event.field "pathParameters").item (.text "booking_id")) = .ok id := asks.named
  rw [pathParameter, named]
  exact if_pos asks.given

lemma told_withOwnBooking (asks : AsksFor event user id)
    (found : Value.lookup "Item" reply = some (.map item)) (foreign : IsForeign user item)
    (refused : (respond 403 (problem s!"Access denied. You can only {doing} your own bookings.")).told [] =
      some (.ok answer, [])) :
    (answered context (withOwnBooking table doing event next)).told [.reply (.ok (.map reply))] =
      some (.ok answer, looked table id reply) := by
  have held : (map reply).holdsName "Item" = .ok true := by
    change Except.ok (Value.lookup "Item" reply).isSome = _
    rw [found]
    rfl
  obtain ⟨customer, there, differs, -⟩ := foreign
  refine told_attempt ?_
  rw [withOwnBooking, userOf_eq_done asks.user]
  refine (told_lift_bind (pathParameter_of_asksFor asks)).trans ?_
  refine told_bind (told_invoke _ _) ?_
  rw [told_lift_bind held, if_neg (by simp), told_lift_bind (field_of_lookup found),
    told_lift_bind (field_of_lookup there), differs]
  exact refused

lemma told_getBooking (asks : AsksFor event user id)
    (found : Value.lookup "Item" reply = some (.map item)) (foreign : IsForeign user item)
    (read : (map item).plain = .ok w)
    (refused : (respond 403 (problem "Access denied. You can only access your own bookings.")).told [] =
      some (.ok answer, [])) :
    (getBooking table event context).told [.reply (.ok (.map reply))] =
      some (.ok answer, looked table id reply) := by
  refine told_attempt ?_
  rw [userOf_eq_done asks.user]
  refine (told_lift_bind (pathParameter_of_asksFor asks)).trans ?_
  have booking : (findBooking table id).told [.reply (.ok (.map reply))] = some (.ok w, looked table id reply) :=
    told_attempt (told_plainItem found read)
  refine told_bind booking ?_
  obtain ⟨full, owner, field, differs⟩ := foreign.exists_field read
  rw [full, if_neg (by simp), told_lift_bind field, differs]
  exact refused

end Linked

/-! ### All functions -/

namespace OwnerFunction.Works

lemma bookingsOf (works : function.Works s table) : Direct.bookingsOf s = .ok table := by
  rw [Direct.bookingsOf, Direct.tableOf, works.table]

lemma require_table (works : function.Works s table) : s.require "BOOKING_TABLE" = .ok table := by
  rw [Setting.require, (Option.filter_eq_some_iff.1 works.table).1]
  rfl

lemma exists_require (works : function.Works s table) (name : String) (mem : name ∈ function.names) :
    ∃ v, s.require name = .ok v := by
  obtain ⟨v, there⟩ := Option.isSome_iff_exists.1 (works.names name mem)
  exact ⟨v, by rw [Setting.require, there]; rfl⟩

end OwnerFunction.Works

end

/-- Bookings of others neither leak nor change: one answer with status 403 fits all of them in which no number is
too large to be read, and all of them at all where the function does not read them. They are looked at, and
nothing else is called. -/
theorem foreign_bookings_are_refused_alike {function : OwnerFunction} {s : Setting} {table : String}
    {event user id : Value} (works : function.Works s table) (asks : AsksFor event user id) (context : Value) :
    ∃ answer, status? answer = some 403 ∧ ∀ item reply, IsForeign user item →
      (function.readsPlain = true → (map item).Every IsSmall) →
      Value.lookup "Item" reply = some (.map item) →
      function.shown s event context reply = some (.ok answer, looked table id reply) := by
  obtain ⟨answer, status, refused⟩ :=
    exists_told_problem 403 "Access denied. You can only access your own bookings."
  have direct : ∀ next item reply, IsForeign user item → (map item).Every IsSmall →
      Value.lookup "Item" reply = some (.map item) →
      (Direct.withOwnBooking s event next).told [.reply (.ok (.map reply))] =
        some (.ok answer, looked table id reply) := by
    intro next item reply foreign small found
    obtain ⟨w, read⟩ := exists_plain_of_isSmall small
    exact Direct.told_withOwnBooking asks works.bookingsOf found foreign read refused
  cases function with
  | get => exact ⟨answer, status, fun item reply foreign small => direct _ item reply foreign (small rfl)⟩
  | cancel => exact ⟨answer, status, fun item reply foreign small => direct _ item reply foreign (small rfl)⟩
  | confirm => exact ⟨answer, status, fun item reply foreign small => direct _ item reply foreign (small rfl)⟩
  | linkedGet =>
    refine ⟨answer, status, fun item reply foreign small found => ?_⟩
    obtain ⟨w, read⟩ := exists_plain_of_isSmall (small rfl)
    refine (told_lift_bind works.require_table).trans ?_
    exact Linked.told_getBooking asks found foreign read refused
  | linkedCancel =>
    obtain ⟨answer, status, refused⟩ :=
      exists_told_problem 403 "Access denied. You can only cancel your own bookings."
    refine ⟨answer, status, fun item reply foreign _ found => ?_⟩
    obtain ⟨_, release⟩ := works.exists_require "FLIGHTS_RELEASE_SEAT_FUNCTION_NAME" (by decide)
    obtain ⟨_, refund⟩ := works.exists_require "PAYMENTS_REFUND_FUNCTION_NAME" (by decide)
    obtain ⟨_, notify⟩ := works.exists_require "BOOKINGS_NOTIFY_FUNCTION_NAME" (by decide)
    refine (told_lift_bind works.require_table).trans ?_
    rw [told_lift_bind release, told_lift_bind refund, told_lift_bind notify]
    exact Linked.told_withOwnBooking asks found foreign refused
  | linkedConfirm =>
    obtain ⟨answer, status, refused⟩ :=
      exists_told_problem 403 "Access denied. You can only confirm your own bookings."
    refine ⟨answer, status, fun item reply foreign _ found => ?_⟩
    refine (told_lift_bind works.require_table).trans ?_
    exact Linked.told_withOwnBooking asks found foreign refused

def ownerSetting : Setting := ⟨Linked.cancelNames.map fun name => (name, "bookings"), default, []⟩

def strangersRequest : Value :=
  .map [("requestContext", .map [("authorizer", .map [("claims", .map [("sub", .text "u2")])])]),
    ("pathParameters", .map [("booking_id", .text "B1")])]

def pricedBooking (price : Number.Decimal) : Fields :=
  [("id", .text "B1"), ("customer", .text "u1"), ("paid", .list [.map [("price", .decimal price)]])]

lemma works_ownerSetting (function : OwnerFunction) : function.Works ownerSetting "bookings" := by
  refine ⟨by decide, ?_⟩
  cases function <;> decide

lemma isForeign_pricedBooking (price : Number.Decimal) : IsForeign (.text "u2") (pricedBooking price) := by
  refine ⟨.text "u1", rfl, by decide, ?_⟩
  rintro _ ⟨⟩
  decide

/-- Someone asks for a booking that cost 149.50 and for one that cost 80. -/
theorem foreign_bookings_are_refused_alike_prices :
    AsksFor strangersRequest (.text "u2") (.text "B1") ∧
    ∀ function : OwnerFunction, ∃ answer, status? answer = some 403 ∧
      ∀ price ∈ [Number.Decimal.finite false 14950 (-2), .finite false 8 1],
        function.shown ownerSetting strangersRequest .null [("Item", .map (pricedBooking price))] =
          some (.ok answer, looked "bookings" (.text "B1") [("Item", .map (pricedBooking price))]) := by
  have asks : AsksFor strangersRequest (.text "u2") (.text "B1") := ⟨rfl, rfl, rfl⟩
  refine ⟨asks, fun function => ?_⟩
  obtain ⟨answer, status, alike⟩ := foreign_bookings_are_refused_alike (works_ownerSetting function) asks .null
  refine ⟨answer, status, fun price mem => ?_⟩
  refine alike _ _ (isForeign_pricedBooking price) (fun _ => ?_) rfl
  have small : (decimal price).Every IsSmall := by
    refine (every_of_isPlain ⟨by simp, by simp⟩).2 ?_
    rcases List.mem_pair.1 mem with rfl | rfl
    · exact ⟨_, rfl, by norm_num [Number.Decimal.precision]⟩
    · exact ⟨_, rfl, by norm_num [Number.Decimal.precision]⟩
  simp [pricedBooking, IsSmall, small]

/-- Of two bookings of someone else, one with the number 1 and one with a number that is too large to be read, four of
the functions refuse only the first with status 403. -/
theorem large_number_tells_foreign_bookings_apart :
    (∀ price, IsForeign (.text "u2") (pricedBooking price)) ∧
    ∀ function ∈ [OwnerFunction.get, .cancel, .confirm, .linkedGet], ∃ answer answer' : Value,
      function.shown ownerSetting strangersRequest .null [("Item", .map (pricedBooking (.finite false 1 0)))] =
        some (.ok answer, looked "bookings" (.text "B1") [("Item", .map (pricedBooking (.finite false 1 0)))]) ∧
      function.shown ownerSetting strangersRequest .null [("Item", .map (pricedBooking (.finite false 1 30)))] =
        some (.ok answer', looked "bookings" (.text "B1") [("Item", .map (pricedBooking (.finite false 1 30)))]) ∧
      status? answer = some 403 ∧ status? answer' ≠ some 403 := by
  refine ⟨isForeign_pricedBooking, fun function mem => ?_⟩
  simp only [List.mem_cons, List.not_mem_nil, or_false] at mem
  rcases mem with rfl | rfl | rfl | rfl
  · exact ⟨_, _, rfl, rfl, rfl, by decide⟩
  · exact ⟨_, _, rfl, rfl, rfl, by decide⟩
  · exact ⟨_, _, rfl, rfl, rfl, by decide⟩
  · exact ⟨_, _, rfl, rfl, rfl, by decide⟩

end Unbundle.Airline
