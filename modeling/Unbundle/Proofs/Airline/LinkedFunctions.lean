import Unbundle.Proofs.Airline.StoredBookings
import Unbundle.Proofs.Json.RoundTrip
import Unbundle.Proofs.Text.Utf8

/-!
# Functions that answer each other

An invocation is answered by a run of the function that it names, on the same store. Those for seats expect
the event of a request over the web and are given another one, and the one that stores the booking wraps its
identifier up: no booking gets past that step.
-/

open Unbundle.Value

namespace Unbundle.Airline.Linked

open Service

/-! ## What a failed booking by linked functions undoes -/

variable {reply v event body : Value}

/-! ### Invocations -/

def invoked? : Exchange → Option String
  | .called (.client "lambda" "invoke" _ options) _ =>
    match Value.lookup "FunctionName" options with
    | some (.text function) => some function
    | _ => none
  | _ => none

def payloadOf (reply : Value) : Except Fault Value := do (← (← reply.field "Payload").readAll).parsed

def returned? : Exchange → Option Value
  | .called _ (.ok reply) => (payloadOf reply).toOption
  | _ => none

def invocations (function : String) (record : List Exchange) : ℕ :=
  record.countP fun x => invoked? x == some function

def gave (function : String) (test : Value → Bool) (record : List Exchange) : Bool :=
  record.any fun x => invoked? x == some function && (returned? x).any test

def returned (function : String) (record : List Exchange) : Bool := gave function (fun _ => true) record

/-- Whether a payload has an identifier of a booking. -/
def hasBooking (payload : Value) : Bool := (payload.get "booking_id").toOption.any Value.truthy

/-- The partners by what they do. -/
inductive Partner where
  | reserveSeat | releaseSeat | reserveBooking | confirmBooking | cancelBooking | notify | collect | refund
  | addPoints
  deriving DecidableEq

def Partner.undoes : Partner → Bool
  | .releaseSeat | .cancelBooking | .refund => true
  | _ => false

def Partners.name (p : Partners) : Partner → String
  | .reserveSeat => p.reserveSeat
  | .releaseSeat => p.releaseSeat
  | .reserveBooking => p.reserveBooking
  | .confirmBooking => p.confirmBooking
  | .cancelBooking => p.cancelBooking
  | .notify => p.notify
  | .collect => p.collect
  | .refund => p.refund
  | .addPoints => p.addPoints

/-! ### Counting -/

/-- Which steps took effect, and how often each was undone. -/
structure Tally where
  reserved : Bool
  stored : Bool
  collected : Bool
  released : ℕ
  cancelled : ℕ
  refunded : ℕ

def tally (p : Partners) (record : List Exchange) : Tally where
  reserved := returned (p.name .reserveSeat) record
  stored := gave (p.name .reserveBooking) hasBooking record
  collected := returned (p.name .collect) record
  released := invocations (p.name .releaseSeat) record
  cancelled := invocations (p.name .cancelBooking) record
  refunded := invocations (p.name .refund) record

namespace Tally

/-- A tally after a partner was invoked and gave back a payload, or none. -/
def add (k : Tally) (payload : Option Value) : Partner → Tally
  | .reserveSeat => { k with reserved := k.reserved || payload.any fun _ => true }
  | .reserveBooking => { k with stored := k.stored || payload.any hasBooking }
  | .collect => { k with collected := k.collected || payload.any fun _ => true }
  | .releaseSeat => { k with released := k.released + 1 }
  | .cancelBooking => { k with cancelled := k.cancelled + 1 }
  | .refund => { k with refunded := k.refunded + 1 }
  | .confirmBooking | .notify | .addPoints => k

lemma add_none {k : Tally} {partner : Partner} (forward : partner.undoes = false) :
    k.add none partner = k := by
  cases partner with
  | releaseSeat | cancelBooking | refund => cases forward
  | _ => simp [add]

/-- Each step that took effect was undone once, and no other was. -/
def IsSettled (k : Tally) : Prop :=
  k.released = k.reserved.toNat ∧ k.cancelled = k.stored.toNat ∧ k.refunded = k.collected.toNat

def IsForward (k : Tally) : Prop := k.released = 0 ∧ k.cancelled = 0 ∧ k.refunded = 0

end Tally

section

variable {p : Partners} (distinct : Function.Injective p.name) {record : List Exchange}

include distinct

lemma tally_append {x : Exchange} {partner : Partner} (function : invoked? x = some (p.name partner)) :
    tally p (record ++ [x]) = (tally p record).add (returned? x) partner := by
  have same : ∀ other, (p.name partner == p.name other) = decide (partner = other) := by
    intro other
    rw [Bool.eq_iff_iff, beq_iff_eq, distinct.eq_iff, decide_eq_true_iff]
  have gives : ∀ other test, gave (p.name other) test (record ++ [x]) =
      (gave (p.name other) test record || (decide (partner = other) && (returned? x).any test)) := by
    simp [gave, function, same]
  have counts : ∀ other, invocations (p.name other) (record ++ [x]) =
      invocations (p.name other) record + if partner = other then 1 else 0 := by
    simp [invocations, function, distinct.eq_iff]
  simp only [tally, returned, gives, counts]
  cases partner <;> simp [Tally.add]

end

/-! ### Invoking a partner -/

lemma isWritable_of_payloadOf (h : payloadOf reply = .ok v) : v.IsWritable := by
  obtain ⟨_, -, h⟩ := bind_eq_ok_iff.1 h
  obtain ⟨_, -, h⟩ := bind_eq_ok_iff.1 h
  exact isWritable_of_parsed h

lemma ensures_payload {σ : Type} {R : σ → Exchange → σ → Prop} {s : σ} {result : Value → σ → Prop}
    {fault : Fault → σ → Prop} (ok : ∀ v, payloadOf reply = .ok v → result v s)
    (error : ∀ e, payloadOf reply = .error e → fault e s) :
    (do (← (← reply.field "Payload").readAll).parsed : Flow Value).Ensures R s result fault := by
  unfold payloadOf at ok error
  refine ensures_lift_bind (fun stream found => ?_) fun e failed => error e (by rw [failed]; rfl)
  rw [found] at ok error
  refine ensures_lift_bind (fun bytes read => ?_) fun e failed =>
    error e (by rw [ok_bind, failed]; rfl)
  rw [ok_bind, read] at ok error
  exact ensures_lift ok error

def IsTold (p : Partners) (k : Tally) (partner : Partner) (payload : Value) (after : List Exchange) : Prop :=
  (∃ reply, tally p after = k.add reply partner) ∨ ¬ payload.IsWritable ∧ tally p after = k

section

variable {p : Partners} (distinct : Function.Injective p.name) {payload : Value} {record : List Exchange}
  {k : Tally}

include distinct

lemma ensures_inform (partner : Partner) (counted : tally p record = k) :
    (inform (p.name partner) payload).Ensures Recorded record
      (fun _ after => IsTold p k partner payload after) (fun e _ => e.isInterrupt = true) := by
  have body : (do
        let payload ← payload.toJson
        let _ ← .client "lambda" "invoke" [("FunctionName", .text (p.name partner)),
          ("InvocationType", .text "Event"), ("Payload", payload)] : Flow Unit).Ensures Recorded record
      (fun _ after => IsTold p k partner payload after)
      (fun _ after => IsTold p k partner payload after) := by
    refine ensures_lift_bind (fun json _ => ?_) fun e failed => .inr ⟨fun writable => ?_, counted⟩
    · have called : ∀ reply after, Recorded record (.called (.client "lambda" "invoke" []
          [("FunctionName", .text (p.name partner)), ("InvocationType", .text "Event"),
            ("Payload", json)]) reply) after → IsTold p k partner payload after := by
        rintro reply _ rfl
        exact .inl ⟨_, counted ▸ tally_append distinct rfl⟩
      have sent := ensures_invoke (fun v => called (.ok v)) (fun e => called (.error e))
      exact sent.bind fun _ _ told => ensures_done told
    · obtain ⟨json, written⟩ := writable.exists_toJson
      rw [written] at failed
      cases failed
  exact body.orPrint (fun _ _ told _ => told) fun _ _ _ stop => stop

lemma ensures_undo (partner : Partner) {name : String} {value : Value} (counted : tally p record = k)
    (writable : value.IsWritable) :
    (inform (p.name partner) (.map [(name, value)])).Ensures Recorded record
      (fun _ after => ∃ reply, tally p after = k.add reply partner) (fun e _ => e.isInterrupt = true) := by
  refine (ensures_inform distinct partner counted).mono (fun _ after told => ?_) fun _ _ stop => stop
  rcases told with told | ⟨unwritable, -⟩
  · exact told
  · exact absurd (isWritable_map.2 (by simpa using writable)) unwritable

lemma ensures_consult (partner : Partner) (forward : partner.undoes = false)
    (counted : tally p record = k) :
    (consult (p.name partner) payload).Ensures Recorded record
      (fun v after => v.IsWritable ∧ tally p after = k.add (some v) partner)
      (fun e after => e.isInterrupt = true ∨ tally p after = k) := by
  have body : (do
        let payload ← payload.toJson
        let reply ← .client "lambda" "invoke" [("FunctionName", .text (p.name partner)),
          ("InvocationType", .text "RequestResponse"), ("Payload", payload)]
        (← (← reply.field "Payload").readAll).parsed : Flow Value).Ensures Recorded record
      (fun v after => v.IsWritable ∧ tally p after = k.add (some v) partner)
      (fun _ after => tally p after = k) := by
    refine ensures_lift_bind (fun json _ => ?_) fun _ _ => counted
    have replied : (Flow.client "lambda" "invoke" [("FunctionName", .text (p.name partner)),
        ("InvocationType", .text "RequestResponse"), ("Payload", json)]).Ensures Recorded record
        (fun reply after => tally p after = k.add (payloadOf reply).toOption partner)
        (fun _ after => tally p after = k) := by
      refine ensures_invoke ?_ ?_
      · rintro reply _ rfl
        exact counted ▸ tally_append distinct rfl
      · rintro e _ rfl
        exact (counted ▸ tally_append distinct rfl : _ = k.add none partner).trans (k.add_none forward)
    refine replied.bind fun reply after counted => ensures_payload (fun v read => ?_) fun e failed => ?_
    · rw [read] at counted
      exact ⟨isWritable_of_payloadOf read, counted⟩
    · rw [failed] at counted
      exact counted.trans (k.add_none forward)
  exact body.attempt (fun _ _ _ stop => .inl stop) fun _ _ counted _ => ensures_fail (.inr counted)

end

/-! ### Answers -/

/-- An answer after which all is accounted for: each step that took effect was undone once, or else the
booking is a success and nothing was undone. -/
def IsAccounted (p : Partners) (answer : Value) (record : List Exchange) : Prop :=
  (status? answer ≠ some 201 → (tally p record).IsSettled) ∧
    (status? answer = some 201 → (tally p record).IsForward)

/-- A flow that answers after all is accounted for, and fails only on a request to stop. -/
abbrev Accounts (p : Partners) (flow : Flow Value) (record : List Exchange) : Prop :=
  flow.Ensures Recorded record (IsAccounted p) fun e _ => e.isInterrupt = true

section

variable {p : Partners} {record : List Exchange} {k : Tally}

lemma isAccounted_of_isSettled {status : ℤ} {answer : Value} (has : status? answer = some status)
    (other : status ≠ 201) (settled : (tally p record).IsSettled) : IsAccounted p answer record := by
  refine ⟨fun _ => settled, fun success => absurd ?_ other⟩
  rw [success] at has
  exact (Option.some.inj has).symm

lemma accounts_failedStep {status : ℤ} {what step : String} {e : Fault} {more : Fields}
    (other : status ≠ 201) (writable : (map more).IsWritable) (counted : tally p record = k)
    (settled : k.IsSettled) : Accounts p (failedStep status what step e more) record := by
  subst counted
  refine ensures_respond ?_ fun answer has => isAccounted_of_isSettled has other settled
  rw [isWritable_map] at writable ⊢
  simpa using writable

lemma accounts_unexpected {e : Fault} {undo : Flow Unit}
    (undone : undo.Ensures Recorded record (fun _ after => (tally p after).IsSettled)
      fun e _ => e.isInterrupt = true) : Accounts p (unexpected e undo) record := by
  refine ensures_note_bind (undone.bind fun _ after settled => ?_)
  refine ensures_respond ?_ fun answer has =>
    isAccounted_of_isSettled has (by decide) settled
  simp [isWritable_map]

variable (distinct : Function.Injective p.name) {user order flight id charge payment reference : Value}

include distinct

lemma ensures_tell (partner : Partner) (unchanged : ∀ reply, k.add reply partner = k)
    (counted : tally p record = k) {sentence : String} {fields : Value → Value} :
    (Flow.orPrint sentence () do
      let price ← payment.getD "price" (.int 0)
      inform (p.name partner) (fields price)).Ensures Recorded record
      (fun _ after => tally p after = k) (fun e _ => e.isInterrupt = true) := by
  have body : (do
        let price ← payment.getD "price" (.int 0)
        inform (p.name partner) (fields price) : Flow Unit).Ensures Recorded record
      (fun _ after => tally p after = k) (fun e after => e.isInterrupt = false → tally p after = k) := by
    refine ensures_lift_bind (fun price _ => ?_) fun _ _ _ => counted
    refine (ensures_inform distinct partner counted).mono (fun _ after told => ?_) fun e _ stop go => ?_
    · rcases told with ⟨reply, counted⟩ | ⟨-, counted⟩
      · exact counted.trans (unchanged reply)
      · exact counted
    · rw [stop] at go
      cases go
  exact body.orPrint (fun _ _ counted => counted) fun _ _ _ stop => stop

lemma accounts_conclude (counted : tally p record = k) (forward : k.IsForward) (hid : id.IsWritable)
    (hreference : reference.IsWritable) (hpayment : payment.IsWritable) :
    Accounts p (conclude p user payment id reference) record := by
  refine (ensures_tell distinct .addPoints (fun _ => rfl) counted).bind fun _ after counted => ?_
  refine (ensures_tell distinct .notify (fun _ => rfl) counted).bind fun _ after counted => ?_
  refine ensures_respond ?_ fun answer has => ⟨fun other => absurd has other, fun _ => ?_⟩
  · simp [isWritable_map, hid, hreference, hpayment]
  · rw [counted]
    exact forward

/-- Once the payment is collected, all that was done is undone if the booking is not confirmed. -/
lemma accounts_confirmPaid (counted : tally p record = ⟨true, true, true, 0, 0, 0⟩)
    (hflight : flight.IsWritable) (hid : id.IsWritable) (hcharge : charge.IsWritable)
    (hpayment : payment.IsWritable) : Accounts p (confirmPaid p user flight id charge payment) record := by
  have confirmed : (do
        (← consult (p.name .confirmBooking) (.map [("booking_id", id)])).get "booking_reference" :
          Flow Value).Ensures Recorded record
      (fun reference after => reference.IsWritable ∧ tally p after = ⟨true, true, true, 0, 0, 0⟩)
      (fun e after => e.isInterrupt = true ∨ tally p after = ⟨true, true, true, 0, 0, 0⟩) := by
    refine (ensures_consult distinct .confirmBooking rfl counted).bind ?_
    rintro v after ⟨hv, counted⟩
    exact ensures_lift (fun _ found => ⟨hv.of_get found, counted⟩) fun _ _ => .inr counted
  refine confirmed.outcome_bind ?_ ?_ fun _ _ _ stop => stop
  · rintro reference after ⟨writable, counted⟩
    exact accounts_conclude distinct counted ⟨rfl, rfl, rfl⟩ hid writable hpayment
  · intro e after counted go
    have counted := counted.resolve_left (by simp [go])
    refine ensures_note_bind ?_
    refine (ensures_undo distinct .refund counted hcharge).bind ?_
    rintro _ after ⟨_, counted⟩
    refine (ensures_undo distinct .cancelBooking counted hid).bind ?_
    rintro _ after ⟨_, counted⟩
    refine (ensures_undo distinct .releaseSeat counted hflight).bind ?_
    rintro _ after ⟨_, counted⟩
    refine accounts_failedStep (by decide) ?_ counted ⟨rfl, rfl, rfl⟩
    simp [isWritable_map, hid]

/-- Once the booking is stored, it and the seat are undone if the payment is not collected. -/
lemma accounts_payFor (counted : tally p record = ⟨true, true, false, 0, 0, 0⟩)
    (horder : ∀ v, order.field "chargeId" = .ok v → v.IsWritable) (hflight : flight.IsWritable)
    (hid : id.IsWritable) : Accounts p (payFor p user order flight id) record := by
  unfold payFor
  split
  · refine accounts_unexpected ?_
    refine (ensures_undo distinct .cancelBooking counted hid).bind ?_
    rintro _ after ⟨_, counted⟩
    refine (ensures_undo distinct .releaseSeat counted hflight).mono ?_ fun _ _ stop => stop
    rintro _ after ⟨_, counted⟩
    rw [counted]
    exact ⟨rfl, rfl, rfl⟩
  · rename_i charge found
    refine (ensures_consult distinct .collect rfl counted).outcome_bind ?_ ?_ fun _ _ _ stop => stop
    · rintro payment after ⟨hpayment, counted⟩
      exact accounts_confirmPaid distinct counted hflight hid (horder charge found) hpayment
    · intro e after counted go
      have counted := counted.resolve_left (by simp [go])
      refine (ensures_undo distinct .cancelBooking counted hid).bind ?_
      rintro _ after ⟨_, counted⟩
      refine (ensures_undo distinct .releaseSeat counted hflight).bind ?_
      rintro _ after ⟨_, counted⟩
      refine accounts_failedStep (by decide) ?_ counted ⟨rfl, rfl, rfl⟩
      simp [isWritable_map, hid]

lemma ensures_stored (counted : tally p record = ⟨true, false, false, 0, 0, 0⟩) {payload : Value} :
    (do
      let id ← (← consult (p.name .reserveBooking) payload).get "booking_id"
      if id.truthy then pure id
      else .refuse "Booking reservation failed: no booking ID returned" : Flow Value).Ensures
      Recorded record
      (fun id after => id.IsWritable ∧ tally p after = ⟨true, true, false, 0, 0, 0⟩)
      (fun e after => e.isInterrupt = true ∨ tally p after = ⟨true, false, false, 0, 0, 0⟩) := by
  refine (ensures_consult distinct .reserveBooking rfl counted).bind ?_
  rintro v after ⟨hv, counted⟩
  have stored : (tally p after) = ⟨true, hasBooking v, false, 0, 0, 0⟩ := counted
  unfold hasBooking at stored
  refine ensures_lift_bind (fun id found => ?_) fun e failed => ?_
  · rw [found] at stored
    split_ifs with given
    · exact ensures_done ⟨hv.of_get found, stored.trans (by simp [Except.toOption, given])⟩
    · exact ensures_fail (.inr (stored.trans (by simp [Except.toOption, given])))
  · rw [failed] at stored
    exact .inr stored

lemma accounts_book (counted : tally p record = ⟨false, false, false, 0, 0, 0⟩)
    (horder : ∀ name ≠ "customerId", ∀ v, order.field name = .ok v → v.IsWritable) :
    Accounts p (book p user order) record := by
  unfold book
  split
  · refine accounts_unexpected (ensures_done ?_)
    rw [counted]
    exact ⟨rfl, rfl, rfl⟩
  · rename_i flight found
    have hflight := horder _ (by decide) flight found
    refine (ensures_consult distinct .reserveSeat rfl counted).outcome_bind ?_ ?_ fun _ _ _ stop => stop
    · rintro _ after ⟨-, counted⟩
      refine (ensures_stored distinct counted).outcome_bind ?_ ?_ fun _ _ _ stop => stop
      · rintro id after ⟨hid, counted⟩
        exact accounts_payFor distinct counted (horder _ (by decide)) hflight hid
      · intro e after counted go
        have counted := counted.resolve_left (by simp [go])
        have undone : (undoSeat p flight).Ensures Recorded after
            (fun _ after => ∃ reply, tally p after = .add ⟨true, false, false, 0, 0, 0⟩ reply .releaseSeat)
            (fun e _ => e.isInterrupt = true) := ensures_undo distinct .releaseSeat counted hflight
        dsimp only
        split_ifs
        · refine undone.bind ?_
          rintro _ after ⟨_, counted⟩
          exact accounts_failedStep (by decide) (by simp [isWritable_map]) counted ⟨rfl, rfl, rfl⟩
        · refine accounts_unexpected (undone.mono ?_ fun _ _ stop => stop)
          rintro _ after ⟨_, counted⟩
          rw [counted]
          exact ⟨rfl, rfl, rfl⟩
    · intro e after counted go
      have counted := counted.resolve_left (by simp [go])
      exact accounts_failedStep (by decide) (by simp [isWritable_map]) counted ⟨rfl, rfl, rfl⟩

end

/-! ### Handling a request -/

lemma isWritable_of_bodyOf (read : bodyOf event = .ok body) : body.IsWritable := by
  obtain ⟨text, -, read⟩ := bind_eq_ok_iff.1 read
  split_ifs at read
  · obtain rfl := Except.ok.inj read
    simp [isWritable_map]
  · split at read
    · cases read
    · exact isWritable_of_parsed read

lemma isWritable_of_order {order user : Value} {name : String}
    (read : bodyOf event = .ok body) (set : body.withField "customerId" user = .ok order)
    (other : name ≠ "customerId") (found : order.field name = .ok v) : v.IsWritable := by
  have writable := isWritable_of_bodyOf read
  cases body with
  | map fs =>
    obtain rfl := Except.ok.inj set
    obtain ⟨_, ⟨⟩, found⟩ := field_eq_ok found
    rcases mem_put (mem_of_lookup found) with same | mem
    · exact absurd (Prod.mk.inj same).1 other
    · exact isWritable_map.1 writable _ mem
  | _ => cases set

section

variable {p : Partners} {event context : Value}

lemma accounts_answered {flow : Flow Value}
    (body : flow.Ensures Recorded [] (IsAccounted p) fun e record => e.isInterrupt = true ∨ record = []) :
    (answered context flow).Ensures Recorded [] (IsAccounted p)
      fun e record => e.isInterrupt = true ∨ record = [] := by
  refine body.attempt (fun _ _ _ stop => .inl stop) fun e record nothing go => ?_
  obtain rfl := nothing.resolve_left (by simp [go])
  have logged := (within_logProblem e.kind e.message context).ensures_same (R := Recorded) (s := [])
  refine (logged.mono (fun _ _ same => same) fun _ _ same => .inr same).bind ?_
  rintro _ _ rfl
  have writable : ∀ text, (problem text).IsWritable := by simp [problem, message, isWritable_map]
  have settled : (tally p []).IsSettled := ⟨rfl, rfl, rfl⟩
  split_ifs
  all_goals exact ensures_respond (writable _) fun answer has =>
    isAccounted_of_isSettled has (by decide) settled

end

def namedPartners : Setting where
  assigned := partnerNames.zip
    ["seat", "release", "store", "confirm", "cancel", "notify", "collect", "refund", "points"]
  now := default
  libraries := []

def seatOrder : Value :=
  .map [("requestContext", .map [("authorizer", .map [("claims", .map [("sub", .text "u1")])])]),
    ("body", .text "\x7b\"outboundFlightId\":\"F1\",\"chargeId\":\"c1\"\x7d")]

/-- Seat, booking and payment succeed; confirming fails, and so does all that should undo them. -/
def lateFailure : List Flow.Answer :=
  ["null", "\x7b\"booking_id\":\"B1\"\x7d", "1"].map
      (fun json => .reply (.ok (.map [("Payload", .stream json)]))) ++
    List.replicate 4 (.reply (.error (.named "ClientError" "unreachable")))

end Unbundle.Airline.Linked

open Unbundle.Value Function Unbundle.Service.Flow Unbundle.Json

namespace Unbundle.Airline.Linked

open Service

/-! ## Functions that answer each other -/

/-! ### Applications -/

/-- The functions of an application by name, each with what it does with an event. -/
abbrev Application := String → Option (Value → Flow Value)

def reported : Except Fault Value → Value
  | .ok v => v
  | .error e => .map [("errorMessage", .text e.message), ("errorType", .text e.kind)]

abbrev invocation (function mode : String) (payload : Value) : Call :=
  .client "lambda" "invoke" []
    [("FunctionName", .text function), ("InvocationType", .text mode), ("Payload", payload)]

def IsStored : Exchange → Prop
  | .called (.client ..) _ => False
  | _ => True

/-- How an application answers, and what its store keeps then. A function that is invoked runs at once, on what its
payload spells, and what it gives back is the payload of the reply. -/
inductive Answers (app : Application) : Tables Place → Exchange → Tables Place → Prop
  | stored {tables tables' : Tables Place} {x : Exchange} :
      IsStored x → Stores true tables x tables' → Answers app tables x tables'
  | invoked {tables tables' : Tables Place} {function mode : String} {payload event reply : Value}
      {handle : Value → Flow Value} {outcome : Except Fault Value} :
      app function = some handle → payload.parsed = .ok event →
      Runs (Answers app) (handle event) tables outcome tables' →
      (mode = "RequestResponse" → payloadOf reply = .ok (reported outcome)) →
      Answers app tables (.called (invocation function mode payload) (.ok reply)) tables'
  | refused {tables : Tables Place} {function mode : String} {payload : Value} {e : Fault} :
      (∀ handle event, app function = some handle → payload.parsed ≠ .ok event) → e.isInterrupt = false →
      Answers app tables (.called (invocation function mode payload) (.error e)) tables

/-- An application in which the functions for seats and for new bookings go by the names that a booking knows. -/
structure Deploys (app : Application) (p : Partners) : Prop where
  reserveSeat : ∃ s context, app p.reserveSeat = some fun event =>
    (tableHandler "FLIGHT_TABLE" reserve).handle s event context
  releaseSeat : ∃ s context, app p.releaseSeat = some fun event =>
    (tableHandler "FLIGHT_TABLE" release).handle s event context
  reserveBooking : ∃ s context, app p.reserveBooking = some fun event =>
    (handlerWith ["BOOKING_TABLE"] storeBooking).handle s event context

/-- All that was kept is kept, and what is new are bookings that are not confirmed. -/
structure OnlyAdds (before after : Tables Place) : Prop where
  kept : ∀ place item, before place = some item → after place = some item
  added : ∀ place item, before place = none → after place = some item →
    lookup "status" item = some (.text "UNCONFIRMED")

section

variable {app : Application} {p : Partners} {s : Setting} {event context order v : Value}
  {flight function mode table : String} {tables tables' : Tables Place}

lemma OnlyAdds.refl (tables : Tables Place) : OnlyAdds tables tables :=
  ⟨fun _ _ kept => kept, fun _ _ none kept => by rw [none] at kept; cases kept⟩

lemma onlyAdds_update {place : Place} {item : Fields} (unused : tables place = none)
    (status : lookup "status" item = some (.text "UNCONFIRMED")) :
    OnlyAdds tables (update tables place (some item)) := by
  constructor
  · intro place' item' kept
    rw [update_of_ne, kept]
    rintro rfl
    rw [unused] at kept
    cases kept
  · intro place' item' none kept
    by_cases same : place' = place
    · rw [same, update_self, Option.some.injEq] at kept
      exact kept ▸ status
    · rw [update_of_ne same, none] at kept
      cases kept

/-! ### Invocations -/

lemma Answers.stores {x : Exchange} (own : IsStored x) (answers : Answers app tables x tables') :
    Stores true tables x tables' := by
  cases answers with
  | stored _ stores => exact stores
  | invoked => exact own.elim
  | refused => exact own.elim

lemma ensures_invocation {payload : Value} {handle : Value → Flow Value} (hosted : app function = some handle) :
    (invoke (invocation function mode payload)).Ensures (Answers app) tables
      (fun reply after => ∃ event outcome, payload.parsed = .ok event ∧
        Runs (Answers app) (handle event) tables outcome after ∧
        (mode = "RequestResponse" → payloadOf reply = .ok (reported outcome)))
      (fun e after => after = tables ∧ e.isInterrupt = false ∧ ∀ event, payload.parsed ≠ .ok event) := by
  refine ensures_invoke ?_ ?_
  · rintro reply after (⟨own, -⟩ | ⟨hosted', spelt, run, given⟩)
    · exact own.elim
    · obtain rfl := Option.some.inj (hosted.symm.trans hosted')
      exact ⟨_, _, spelt, run, given⟩
  · rintro e after (⟨own, -⟩ | _ | ⟨never, go⟩)
    · exact own.elim
    · exact ⟨rfl, go, fun event => never _ event hosted⟩

/-- The event that is made for a seat names its flight, but not in its path. -/
lemma exists_seatEvent (flight : String) : ∃ json, (map [("flight_id", .text flight)]).toJson = .ok json ∧
    json.parsed = .ok (.map [("flight_id", .text flight)]) := by
  have writable : (map [("flight_id", .text flight)]).IsWritable := by simp [isWritable_map]
  obtain ⟨json, written⟩ := writable.exists_toJson
  refine ⟨json, written, parsed_of_toJson ?_ ?_ ?_ written⟩
  · simp [FloatFree]
  · simp [DistinctFields]
  · simp [depth, depthFields, maxNesting]

lemma pathParameter_seatEvent (name v : Value) : pathParameter (.map [("flight_id", .text flight)]) name ≠ .ok v := by
  have missing : pathParameter (.map [("flight_id", .text flight)]) name =
      .error (.refused s!"Path parameter '{name.str}' is required") := rfl
  rw [missing]
  nofun

/-- A function for seats that is given no path does nothing. -/
lemma within_tableHandler {change : String → Value → Flow Value} {P : Exchange → Prop} :
    ((tableHandler "FLIGHT_TABLE" fun flights event context => answered context do
        let flight ← pathParameter event (.text "flight_id")
        respond 200 (← change flights flight)).handle s (.map [("flight_id", .text flight)]) context).Within P := by
  refine within_lift_bind fun flights _ => within_answered ?_
  exact within_lift_bind fun v found => absurd found (pathParameter_seatEvent _ v)

lemma ensures_reserveSeat (deploys : Deploys app p) :
    (consult p.reserveSeat (.map [("flight_id", .text flight)])).Ensures (Answers app) tables
      (fun _ after => after = tables) (fun _ _ => False) := by
  obtain ⟨json, written, spelt⟩ := exists_seatEvent flight
  obtain ⟨s, context, hosted⟩ := deploys.reserveSeat
  refine .attempt (show Ensures _ _ _ _ fun _ _ => False from ?_) (fun _ _ never _ => never)
    fun _ _ never _ => never.elim
  rw [written]
  refine ((ensures_invocation hosted).mono (fun _ _ h => h) fun _ _ h => h.2.2 _ spelt).bind ?_
  rintro reply after ⟨event, outcome, spelt', run, given⟩
  obtain rfl := Except.ok.inj (spelt.symm.trans spelt')
  have same : after = tables := by
    cases outcome with
    | ok v => exact within_tableHandler.ensures_same.result run
    | error e => exact within_tableHandler.ensures_same.fault run
  exact ensures_payload (fun _ _ => same) fun e failed => by rw [given rfl] at failed; cases failed

lemma ensures_undoSeat (deploys : Deploys app p) :
    (undoSeat p (.text flight)).Ensures (Answers app) tables (fun _ after => after = tables) (fun _ _ => False) := by
  obtain ⟨json, written, spelt⟩ := exists_seatEvent flight
  obtain ⟨s, context, hosted⟩ := deploys.releaseSeat
  refine .attempt (show Ensures _ _ _ _ fun _ _ => False from ?_) (fun _ _ never _ => never)
    fun _ _ never _ => never.elim
  rw [written]
  refine ((ensures_invocation hosted).mono (fun _ _ h => h) fun _ _ h => h.2.2 _ spelt).bind ?_
  rintro reply after ⟨event, outcome, spelt', run, -⟩
  obtain rfl := Except.ok.inj (spelt.symm.trans spelt')
  refine ensures_done ?_
  cases outcome with
  | ok v => exact within_tableHandler.ensures_same.result run
  | error e => exact within_tableHandler.ensures_same.fault run

/-! ### Storing the booking -/

lemma ensures_reserveBooking :
    (reserveBooking s table order).Ensures (Stores true) tables (fun _ after => OnlyAdds tables after)
      fun _ after => OnlyAdds tables after := by
  have nothing := OnlyAdds.refl tables
  refine ensures_lift_bind (fun complete _ => ?_) fun _ _ => nothing
  split_ifs
  · exact ensures_fail nothing
  have fresh : identifier.Ensures (Stores true) tables
      (fun id after => after = tables ∧ ∀ table, tables (table, id) = none) fun _ after => OnlyAdds tables after := by
    refine ensures_fresh fun id after made => ?_
    cases made with
    | made unused => exact ⟨rfl, unused rfl⟩
  refine fresh.bind ?_
  rintro id tables ⟨rfl, unused⟩
  refine ensures_lift_bind (fun execution _ => ?_) fun _ _ => nothing
  refine ensures_lift_bind (fun outbound _ => ?_) fun _ _ => nothing
  refine ensures_lift_bind (fun customer _ => ?_) fun _ _ => nothing
  refine ensures_lift_bind (fun charge _ => ?_) fun _ _ => nothing
  refine .attempt (ensures_lift_bind (fun item stored => ?_) fun _ _ => nothing)
    (fun _ _ added _ => added) fun _ _ added _ => ensures_fail added
  have put : (ask table (.put item none)).Ensures (Stores true) tables (fun _ after => OnlyAdds tables after)
      fun _ after => OnlyAdds tables after := by
    refine ensures_put (fun reply place kept located keeps => ?_) fun _ => nothing
    obtain ⟨_, ⟨⟩, named⟩ := lookup_of_storableFields stored (k := "id") rfl
    rw [place?, named] at located
    rw [← Option.some.inj located]
    exact onlyAdds_update (unused table) (Direct.lookup_of_kept stored keeps rfl)
  exact put.bind fun _ _ added => ensures_done added

lemma within_storeBooking : (storeBooking s event context).Within IsStored := by
  refine within_lift_bind fun table _ => .attempt ?_ fun e => ?_
  · refine within_lift_bind fun order _ => .bind ?_ fun _ => within_lift_bind fun _ _ => trivial
    refine within_lift_bind fun complete _ => ?_
    split_ifs
    · trivial
    refine .bind (fun _ => ⟨trivial, trivial⟩) fun id => ?_
    refine within_lift_bind fun _ _ => within_lift_bind fun _ _ => within_lift_bind fun _ _ =>
      within_lift_bind fun _ _ => .attempt ?_ fun _ => trivial
    exact within_lift_bind fun _ _ => (within_invoke fun _ => trivial).bind fun _ => trivial
  · refine (within_logProblem _ _ _).bind fun _ => ?_
    split_ifs <;> exact within_lift_bind fun _ _ => trivial

/-- A function that stores a booking gives no identifier back, but an answer that holds one. -/
lemma ensures_storeBooking :
    (storeBooking s event context).Ensures (Answers app) tables
      (fun v after => v.get "booking_id" = .ok .null ∧ OnlyAdds tables after)
      fun _ after => OnlyAdds tables after := by
  refine within_storeBooking.ensures_of Answers.stores ?_
  have answers : ∀ {status content after}, OnlyAdds tables after →
      (plainAnswer status content).Ensures (Stores true) after
        (fun v after => v.get "booking_id" = .ok .null ∧ OnlyAdds tables after)
        fun _ after => OnlyAdds tables after := fun added =>
    ensures_lift_bind (fun _ _ => ensures_done ⟨rfl, added⟩) fun _ _ => added
  have nothing := OnlyAdds.refl tables
  refine ensures_lift_bind (fun table _ => ?_) fun _ _ => nothing
  refine .attempt ?_ (fun _ _ added _ => added) fun e after added _ => ?_
  · refine ensures_lift_bind (fun order _ => ?_) fun _ _ => nothing
    exact ensures_reserveBooking.bind fun _ _ added => answers added
  · refine ((within_logProblem _ _ _).ensures False.elim added).bind fun _ after added => ?_
    split_ifs <;> exact answers added

lemma ensures_storedBooking (deploys : Deploys app p) (writable : order.IsWritable) :
    (do
      let id ← (← consult p.reserveBooking (.map [("booking_data", order)])).get "booking_id"
      if id.truthy then pure id
      else .refuse "Booking reservation failed: no booking ID returned" : Flow Value).Ensures (Answers app) tables
      (fun _ _ => False)
      fun e after => OnlyAdds tables after ∧ e.isRefusal = true ∧ e.isInterrupt = false := by
  obtain ⟨s, context, hosted⟩ := deploys.reserveBooking
  obtain ⟨json, written⟩ : ∃ json, (map [("booking_data", order)]).toJson = .ok json :=
    IsWritable.exists_toJson (isWritable_map.2 (by simpa using writable))
  have consulted : (consult p.reserveBooking (.map [("booking_data", order)])).Ensures (Answers app) tables
      (fun v after => v.get "booking_id" = .ok .null ∧ OnlyAdds tables after)
      fun e after => OnlyAdds tables after ∧ e.isRefusal = true ∧ e.isInterrupt = false := by
    refine .attempt (show Ensures _ _ _ _ fun e after => after = tables ∧ e.isInterrupt = false from ?_)
      (fun _ _ failed stop => by simp [failed.2] at stop)
      fun _ _ failed _ => ensures_fail ⟨failed.1 ▸ .refl tables, rfl, rfl⟩
    rw [written]
    refine ((ensures_invocation hosted).mono (fun _ _ h => h) fun _ _ h => ⟨h.1, h.2.1⟩).bind ?_
    rintro reply after ⟨event, outcome, -, run, given⟩
    refine ensures_payload (fun v read => ?_) fun e failed => by rw [given rfl] at failed; cases failed
    obtain rfl := Except.ok.inj ((given rfl).symm.trans read)
    cases outcome with
    | ok v => exact ensures_storeBooking.result run
    | error e => exact ⟨rfl, ensures_storeBooking.fault run⟩
  refine consulted.bind ?_
  rintro v after ⟨none, added⟩
  rw [none]
  exact ensures_fail ⟨added, rfl, rfl⟩

/-- A booking ends where its identifier should come back. -/
lemma ensures_book {user : Value} (deploys : Deploys app p) (writable : order.IsWritable)
    (ordered : order.field "outboundFlightId" = .ok (.text flight)) :
    (book p user order).Ensures (Answers app) tables
      (fun answer after => status? answer = some 400 ∧ OnlyAdds tables after) fun _ _ => False := by
  rw [book, ordered]
  refine (ensures_reserveSeat deploys).outcome_bind ?_ (fun _ _ never _ => never.elim) fun _ _ never _ => never
  rintro _ tables rfl
  refine (ensures_storedBooking deploys writable).outcome_bind (fun _ _ never => never.elim) ?_
    fun _ _ failed stop => by simp [failed.2.2] at stop
  rintro e after ⟨added, refusal, -⟩ -
  dsimp only
  rw [if_pos refusal]
  refine (ensures_undoSeat deploys).bind ?_
  rintro _ after rfl
  exact ensures_respond (by simp [isWritable_map]) fun answer status => ⟨status, added⟩

end

/-! ### A flight with seats left -/

lemma parsed_bytes {bs : List UInt8} {cs : List Char} (plain : ∀ rest, bs ≠ 0xef :: 0xbb :: 0xbf :: rest)
    (decoded : Text.decode bs = .ok cs) : (bytes bs).parsed = (read cs).mapError .ofJson := by
  rw [parsed, decoded]
  exact plain

lemma payloadOf_stream (cs : List Char) : payloadOf (.map [("Payload", .stream (.ofList ('\x7b' :: cs)))]) =
    (read ('\x7b' :: cs)).mapError .ofJson := by
  change (bytes (Text.encode (String.ofList _).toList)).parsed = _
  rw [String.toList_ofList]
  refine parsed_bytes (fun rest same => ?_) (Text.decode_encode _)
  have first : some (0x7b : UInt8) = some 0xef := congrArg List.head? same
  exact absurd (Option.some.inj first) (by decide)

lemma exists_reply {f : String × Value} {fs : Fields} {json : Value} (written : (map (f :: fs)).toJson = .ok json)
    (noFloat : (map (f :: fs)).FloatFree) (distinct : (map (f :: fs)).DistinctFields)
    (shallow : (map (f :: fs)).depth ≤ maxNesting) :
    ∃ reply, payloadOf reply = .ok (.map (f :: fs)) := by
  have read := parsed_of_toJson noFloat distinct shallow written
  rw [toJson, write, writeAt] at written
  cases fields : writeFields .compact 1 (f :: fs) with
  | error e =>
    rw [fields] at written
    cases written
  | ok cs =>
    rw [fields] at written
    obtain rfl := Except.ok.inj written
    rw [parsed, String.toList_ofList] at read
    exact ⟨_, (payloadOf_stream _).trans read⟩

def tablesSetting : Setting := ⟨[("FLIGHT_TABLE", "flights"), ("BOOKING_TABLE", "bookings")], default, []⟩

def seatFunctions : Application
  | "seat" => some fun event => (tableHandler "FLIGHT_TABLE" reserve).handle tablesSetting event .null
  | "release" => some fun event => (tableHandler "FLIGHT_TABLE" release).handle tablesSetting event .null
  | "store" => some fun event => (handlerWith ["BOOKING_TABLE"] storeBooking).handle tablesSetting event .null
  | _ => none

def oneFlight : Tables Place :=
  Function.update (fun _ => none) ("flights", "F1") (some [("id", .text "F1"), ("seatCapacity", .int 2)])

def passedOrder : Value :=
  .map [("outboundFlightId", .text "F1"), ("chargeId", .text "c1"), ("customerId", .text "u1")]

lemma body_seatOrder : bodyOf seatOrder = .ok (.map [("outboundFlightId", .text "F1"), ("chargeId", .text "c1")]) := by
  have parsed : (text "\x7b\"outboundFlightId\":\"F1\",\"chargeId\":\"c1\"\x7d").parsed =
      .ok (.map [("outboundFlightId", .text "F1"), ("chargeId", .text "c1")]) := by
    cbv
  have given : seatOrder.getD "body" (.text "\x7b\x7d") =
      .ok (.text "\x7b\"outboundFlightId\":\"F1\",\"chargeId\":\"c1\"\x7d") := rfl
  rw [bodyOf, given, ok_bind, if_neg (by decide), parsed]

lemma deploys_seatFunctions : Deploys seatFunctions
    ⟨"seat", "release", "store", "confirm", "cancel", "notify", "collect", "refund", "points"⟩ :=
  ⟨⟨tablesSetting, .null, rfl⟩, ⟨tablesSetting, .null, rfl⟩, ⟨tablesSetting, .null, rfl⟩⟩

lemma told_consult {function : String} {payload json reply v : Value} (written : payload.toJson = .ok json)
    (given : payloadOf reply = .ok v) :
    (consult function payload).told [.reply (.ok reply)] =
      some (.ok v, [.called (invocation function "RequestResponse" json) (.ok reply)]) := by
  refine told_attempt ?_
  rw [told_lift_bind written]
  refine told_bind (told_invoke _ _) ?_
  rw [payloadOf] at given
  cases found : reply.field "Payload" with
  | error e => rw [found] at given; cases given
  | ok stream =>
    cases read : stream.readAll with
    | error e => rw [found, ok_bind, read] at given; cases given
    | ok bytes =>
      rw [found, ok_bind, read, ok_bind] at given
      rw [told_lift_bind rfl, told_lift_bind read, told_lift, given]

lemma told_createBooking {seat store v w : Value} (seats : payloadOf seat = .ok v) (stores : payloadOf store = .ok w)
    (missing : w.get "booking_id" = .ok .null) {json json' : Value}
    (written : (map [("flight_id", .text "F1")]).toJson = .ok json)
    (written' : (map [("booking_data", passedOrder)]).toJson = .ok json') :
    ∃ answer, status? answer = some 400 ∧
      (createBooking namedPartners seatOrder .null).told [.reply (.ok seat), .reply (.ok store), .reply (.ok .null)] =
        some (.ok answer, [.called (invocation "seat" "RequestResponse" json) (.ok seat),
          .called (invocation "store" "RequestResponse" json') (.ok store),
          .called (invocation "release" "Event" json) (.ok .null)]) := by
  obtain ⟨answer, ended, status⟩ : ∃ answer, (failedStep 400 "Booking reservation failed" "Reserve Booking"
      (.refused "Booking reservation failed: no booking ID returned") []).told [] = some (.ok answer, []) ∧
      status? answer = some 400 := ⟨_, rfl, rfl⟩
  refine ⟨answer, status, told_attempt ?_⟩
  rw [body_seatOrder]
  refine told_bind (told_outcome (told_consult written seats) nofun) ?_
  have stored : (do
      let id ← (← consult "store" (.map [("booking_data", passedOrder)])).get "booking_id"
      if id.truthy then pure id
      else .refuse "Booking reservation failed: no booking ID returned" : Flow Value).told [.reply (.ok store)] =
      some (.error (.refused "Booking reservation failed: no booking ID returned"),
        [.called (invocation "store" "RequestResponse" json') (.ok store)]) :=
    told_bind (told_consult written' stores) (by rw [missing]; rfl)
  refine told_bind (told_outcome stored ?_) ?_
  · rintro _ ⟨⟩
    rfl
  · have undone : (undoSeat ⟨"seat", "release", "store", "confirm", "cancel", "notify", "collect", "refund", "points"⟩
        (.text "F1")).told [.reply (.ok .null)] =
        some (.ok (), [.called (invocation "release" "Event" json) (.ok .null)]) := ?_
    · exact told_bind undone ended
    refine told_attempt ?_
    rw [told_lift_bind written]
    exact told_bind (told_invoke _ _) rfl

lemma runs_seatOrder : ∃ answer after,
    Runs (Answers seatFunctions) (createBooking namedPartners seatOrder .null) oneFlight (.ok answer) after ∧
      status? answer = some 400 ∧ after ("flights", "F1") = oneFlight ("flights", "F1") := by
  obtain ⟨json, written, spelt⟩ := exists_seatEvent "F1"
  obtain ⟨json', written', spelt'⟩ : ∃ json, (map [("booking_data", passedOrder)]).toJson = .ok json ∧
      json.parsed = .ok (.map [("booking_data", passedOrder)]) := by
    refine ⟨_, rfl, parsed_of_toJson ?_ ?_ ?_ rfl⟩
    · simp [FloatFree, passedOrder]
    · simp [DistinctFields, passedOrder]
    · simp [depth, depthFields, maxNesting, passedOrder]
  obtain ⟨text, seat⟩ : ∃ text, ((tableHandler "FLIGHT_TABLE" reserve).handle tablesSetting
      (.map [("flight_id", .text "F1")]) .null).told [] = some (.ok (answer 400 sharedHeaders (.text text)), []) :=
    ⟨_, rfl⟩
  obtain ⟨text', release⟩ : ∃ text, ((tableHandler "FLIGHT_TABLE" release).handle tablesSetting
      (.map [("flight_id", .text "F1")]) .null).told [] = some (.ok (answer 400 sharedHeaders (.text text)), []) :=
    ⟨_, rfl⟩
  obtain ⟨body, item, store, named⟩ : ∃ body item, ((handlerWith ["BOOKING_TABLE"] storeBooking).handle tablesSetting
      (.map [("booking_data", passedOrder)]) .null).told [.text "B1", .reply (.ok .null)] =
        some (.ok (.map [("statusCode", .int 200), ("body", .text body)]),
          [.made .identifier "B1", .called (.table "bookings" (.put item none)) (.ok .null)]) ∧
      place? "bookings" item = some ("bookings", "B1") :=
    ⟨_, _, rfl, rfl⟩
  obtain ⟨reply, given⟩ : ∃ reply, payloadOf reply = .ok (answer 400 sharedHeaders (.text text)) := by
    refine exists_reply rfl ?_ ?_ ?_
    · simp [FloatFree, sharedHeaders, openHeaders, jsonHeaders]
    · simp [DistinctFields, sharedHeaders, openHeaders, jsonHeaders]
    · simp [depth, depthFields, maxNesting, sharedHeaders, openHeaders, jsonHeaders]
  obtain ⟨reply', given'⟩ : ∃ reply, payloadOf reply = .ok (.map [("statusCode", .int 200), ("body", .text body)]) := by
    refine exists_reply rfl ?_ ?_ ?_
    · simp [FloatFree]
    · simp [DistinctFields]
    · simp [depth, depthFields, maxNesting]
  obtain ⟨answer, status, told⟩ := told_createBooking given given' rfl written written'
  have unused : ∀ table, oneFlight (table, "B1") = none := by simp [oneFlight]
  refine ⟨answer, Function.update oneFlight ("bookings", "B1") (some item), .of_told told ?_, status, ?_⟩
  · have stored : Along (Answers seatFunctions) oneFlight
        [.made .identifier "B1", .called (.table "bookings" (.put item none)) (.ok .null)]
        (Function.update oneFlight ("bookings", "B1") (some item)) :=
      .cons (.stored trivial (.made fun _ => unused))
        (.cons (.stored trivial (.put named (by simp) (.same _))) (.nil _))
    exact .cons (.invoked rfl spelt (.of_told seat (.nil _)) fun _ => given)
      (.cons (.invoked rfl spelt' (.of_told store stored) fun _ => given')
        (.cons (.invoked rfl spelt (.of_told release (.nil _)) (by simp)) (.nil _)))
  · exact update_of_ne (by decide) _ _

/-- The functions do not speak one language: however a request for a flight is handled, the answer has status 400, no
seat is taken and no booking is confirmed, be there seats left or not. -/
theorem linked_booking_never_succeeds {app : Application} {p : Partners} {s : Setting} {event user : Value}
    {order : Fields} {flight : String} (named : Partners.ofSetting s = .ok p) (deploys : Deploys app p)
    (claimed : claimedUser event = .ok user) (known : user.IsWritable) (body : bodyOf event = .ok (.map order))
    (ordered : lookup "outboundFlightId" order = some (.text flight)) (context : Value)
    (tables : Tables Place) :
    (createBooking s event context).Ensures (Answers app) tables
      (fun answer after => status? answer = some 400 ∧ OnlyAdds tables after) fun _ _ => False := by
  have full : (map order).truthy = true := by
    cases order with
    | nil => cases ordered
    | cons f fs => rfl
  have writable : (map (put "customerId" user order)).IsWritable := by
    refine isWritable_map.2 fun f mem => ?_
    rcases mem_put mem with rfl | mem
    · exact known
    · exact isWritable_map.1 (isWritable_of_bodyOf body) f mem
  have ordered : (map (put "customerId" user order)).field "outboundFlightId" = .ok (.text flight) :=
    field_of_lookup ((lookup_put_of_ne (by decide)).trans ordered)
  rw [createBooking, named]
  refine Ensures.attempt (show Ensures _ _ _ _ fun _ _ => False from ?_) (fun _ _ never _ => never)
    fun _ _ never _ => never.elim
  rw [userOf_eq_done claimed, body]
  change Ensures _ (if _ then _ else _) _ _ _
  rw [full, if_neg (by simp)]
  exact ensures_book deploys writable ordered

theorem linked_booking_never_succeeds_oneFlight : ∃ answer after,
    Runs (Answers seatFunctions) (createBooking namedPartners seatOrder .null) oneFlight (.ok answer) after ∧
      status? answer = some 400 ∧ OnlyAdds oneFlight after := by
  obtain ⟨answer, after, run, -⟩ := runs_seatOrder
  exact ⟨answer, after, run,
    (linked_booking_never_succeeds rfl deploys_seatFunctions rfl (by simp) body_seatOrder rfl .null oneFlight).result run⟩

/-- A request for a flight with two free seats is refused, and both stay free. -/
theorem booking_fails_with_seats_left : ∃ answer after,
    Runs (Answers seatFunctions) (createBooking namedPartners seatOrder .null) oneFlight (.ok answer) after ∧
      status? answer ≠ some 201 ∧ (oneFlight ("flights", "F1")).bind (numberAt · "seatCapacity") = some 2 ∧
      after ("flights", "F1") = oneFlight ("flights", "F1") := by
  obtain ⟨answer, after, run, status, same⟩ := runs_seatOrder
  exact ⟨answer, after, run, by simp [status], rfl, same⟩

end Unbundle.Airline.Linked
