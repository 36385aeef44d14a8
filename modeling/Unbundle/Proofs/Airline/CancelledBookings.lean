import Unbundle.Proofs.Airline.StoredBookings

/-!
# Cancelled bookings

Confirming sets the status of a booking whatever it was, so its own customer can bring a cancelled booking
back. Nobody else can, in either deployment and however the store answers.
-/

open Function Unbundle.Value Unbundle.Service.Flow

namespace Unbundle.Airline

open Service

variable {table : String}

/-! ### Requests -/

/-- The functions that change the status of a booking, of both deployments. -/
inductive BookingFunction where
  | cancel
  | confirm
  | linkedCancel
  | linkedConfirm
  deriving DecidableEq, Repr

namespace BookingFunction

def handler : BookingFunction → Handler
  | cancel => Direct.handler Direct.cancel
  | confirm => Direct.handler Direct.confirm
  | linkedCancel => Linked.handlerWith Linked.cancelNames Linked.cancel
  | linkedConfirm => Linked.tableHandler "BOOKING_TABLE" Linked.confirm

def confirms : BookingFunction → Bool
  | cancel | linkedCancel => false
  | confirm | linkedConfirm => true

end BookingFunction

/-- A request comes from the customer of a booking: its user is equal to what is kept as the customer, or to the
plain form of it. A booking without a customer counts as that of null. -/
def ClaimsToBe (event : Value) (customer : Option Value) : Prop :=
  ∃ user, claimedUser event = .ok user ∧
    ((∃ v, customer = some v ∧ v.same user = true) ∨
      ∃ p, (customer.getD .null).plain = .ok p ∧ p.same user = true)

/-- A request that changes the status of a booking. -/
structure BookingRequest where
  function : BookingFunction
  setting : Setting
  event : Value
  context : Value

namespace BookingRequest

def flow (r : BookingRequest) : Flow Value := r.function.handler.handle r.setting r.event r.context

/-- A request by the customer of the booking at a place to confirm it. -/
structure Confirms (r : BookingRequest) (booking : Place) (customer : Option Value) : Prop where
  confirms : r.function.confirms = true
  table : r.setting.get? "BOOKING_TABLE" = some booking.1
  named : namedBooking r.event = .ok (.text booking.2)
  user : ClaimsToBe r.event customer

end BookingRequest

/-- Requests that are handled one after another, and what the store keeps before and after them. -/
inductive Handled : Tables Place → List BookingRequest → Tables Place → Prop
  | none (tables : Tables Place) : Handled tables [] tables
  | next {tables tables' tables'' : Tables Place} {r : BookingRequest} {requests : List BookingRequest}
      {outcome : Except Fault Value} :
      Runs (Stores false) r.flow tables outcome tables' → Handled tables' requests tables'' →
      Handled tables (r :: requests) tables''

/-! ### What keeps a booking cancelled -/

/-- A booking of a customer is cancelled. -/
def IsCancelled (booking : Place) (customer : Option Value) (tables : Tables Place) : Prop :=
  ∃ item, tables booking = some item ∧ lookup "status" item = some (.text "CANCELLED") ∧
    lookup "customer" item = customer

/-- An exchange after which a booking is still cancelled if it was. -/
def Harmless (booking : Place) (customer : Option Value) (x : Exchange) : Prop :=
  ∀ tables tables', Stores false tables x tables' → IsCancelled booking customer tables →
    IsCancelled booking customer tables'

section

variable {booking : Place} {customer : Option Value}
variable {reply : Except Fault Value}

lemma harmless_of_isReading (x : Exchange) (reading : x.IsReading) : Harmless booking customer x := by
  intro tables tables' stores cancelled
  rwa [stores.eq_of_isReading reading]

lemma harmless_update {key : Fields} {change : Change} {condition : Option Condition} {returning : Returning}
    (keeps : place? table key = some booking → ∀ before after, change.Turns before after →
      lookup "status" before = some (.text "CANCELLED") →
      lookup "status" after = some (.text "CANCELLED") ∧
        lookup "customer" after = lookup "customer" before) :
    Harmless booking customer (.called (.table table (.update key change condition returning)) reply) := by
  rintro tables tables' stores ⟨item, kept, status, owner⟩
  rcases stores.of_update with rfl | ⟨place, after, located, turns, rfl⟩
  · exact ⟨item, kept, status, owner⟩
  by_cases here : place = booking
  · subst here
    rw [kept] at turns
    obtain ⟨status, same⟩ := keeps located item after turns status
    exact ⟨after, update_self .., status, same.trans owner⟩
  · exact ⟨item, by rw [update_of_ne (symm here), kept], status, owner⟩

lemma harmless_setCancelled {id : Value} :
    Harmless booking customer (.called (.table table (Direct.setStatus id "CANCELLED" none)) reply) := by
  rw [setStatus_eq]
  exact harmless_update fun _ _ _ turns _ => ⟨lookup_status turns, lookup_of_statusChange turns (by decide)⟩

lemma harmless_setElsewhere {status : String} {id : Value} {reference : Option String}
    (elsewhere : place? table (key id) ≠ some booking) :
    Harmless booking customer (.called (.table table (Direct.setStatus id status reference)) reply) :=
  harmless_update fun here => absurd here elsewhere

lemma harmless_returnSeat {flight maximum : Value} :
    Harmless booking customer (.called (.table table (returnSeat flight maximum)) reply) := by
  refine harmless_update fun _ _ _ turns status => ⟨?_, turns.others _ (by simp [Change.fields])⟩
  rw [turns.others _ (by simp [Change.fields]), status]

end

/-! ### Confirming -/

section

variable {booking : Place} {customer : Option Value} {tables : Tables Place} {event : Value}

/-- A flow after which a booking is cancelled, however it ends. -/
abbrev KeepsCancelled (booking : Place) (customer : Option Value) (flow : Flow Value) (tables : Tables Place) :
    Prop :=
  flow.Ensures (Stores false) tables (fun _ after => IsCancelled booking customer after)
    fun _ after => IsCancelled booking customer after

lemma keepsCancelled_of_within {flow : Flow Value} (within : flow.Within (Harmless booking customer))
    (cancelled : IsCancelled booking customer tables) : KeepsCancelled booking customer flow tables :=
  within.ensures (fun harmless stores => harmless _ _ stores) cancelled

lemma Linked.ensures_userOf {σ : Type} {R : σ → Exchange → σ → Prop} {s : σ} :
    (userOf event).Ensures R s (fun user t => t = s ∧ claimedUser event = .ok user)
      (fun _ t => t = s) := by
  have body : (do (← (← (← event.field "requestContext").field "authorizer").field "claims").field "sub" :
      Flow Value).Ensures R s (fun user t => t = s ∧ claimedUser event = .ok user) (fun _ t => t = s) := by
    refine ensures_lift_bind (fun requested first => ?_) fun _ _ => rfl
    refine ensures_lift_bind (fun authorizer second => ?_) fun _ _ => rfl
    refine ensures_lift_bind (fun claims third => ?_) fun _ _ => rfl
    refine ensures_lift (fun user found => ⟨rfl, ?_⟩) fun _ _ => rfl
    rw [claimedUser, first, ok_bind, second, ok_bind, third, ok_bind, found]
  refine body.attempt (fun _ _ same _ => same) fun e t same _ => ?_
  subst same
  split_ifs
  · exact ensures_note_bind (ensures_fail rfl)
  · exact ensures_fail rfl

lemma Direct.keepsCancelled_confirm {s : Setting} (cancelled : IsCancelled booking customer tables)
    (other : ¬ (s.get? "BOOKING_TABLE" = some booking.1 ∧ namedBooking event = .ok (.text booking.2) ∧
      ClaimsToBe event customer)) : KeepsCancelled booking customer (confirm s event) tables := by
  refine ensures_withOwnBooking cancelled fun table id item p named own plain => ?_
  -- The booking is not the cancelled one, whose customer does not ask.
  have elsewhere : place? table (key (.text id)) ≠ some booking := by
    rintro ⟨⟩
    obtain ⟨item', kept, -, rfl⟩ := cancelled
    obtain rfl := Option.some.inj (own.kept.symm.trans kept)
    obtain ⟨p, user, owner, plain, claimed, read, same⟩ := own.own
    have asks : ClaimsToBe event (lookup "customer" item) :=
      ⟨user, claimed, .inr ⟨owner, plain_of_get plain read, same⟩⟩
    exact other ⟨get?_of_tableOf named, own.named, asks⟩
  refine keepsCancelled_of_within ?_ cancelled
  refine (within_confirmBooking harmless_of_isReading fun table' named' _ _ => ?_).bind fun _ =>
    (within_notify harmless_of_isReading).bind fun _ => within_respond _ _
  obtain rfl := Except.ok.inj (named.symm.trans named')
  exact harmless_setElsewhere elsewhere

lemma Linked.keepsCancelled_withOwnBooking {doing : String} {next : Value → Value → Flow Value}
    (cancelled : IsCancelled booking customer tables)
    (other : ¬ (table = booking.1 ∧ namedBooking event = .ok (.text booking.2) ∧ ClaimsToBe event customer))
    (rest : ∀ id v, place? table (key id) ≠ some booking → (next id v).Within (Harmless booking customer)) :
    KeepsCancelled booking customer (withOwnBooking table doing event next) tables := by
  by_cases here : ∃ id, pathParameter event (.text "booking_id") = .ok id ∧ place? table (key id) = some booking
  · obtain ⟨id, given, located⟩ := here
    have answers : ∀ {status content}, KeepsCancelled booking customer (respond status content) tables :=
      keepsCancelled_of_within (within_respond _ _) cancelled
    refine (ensures_userOf.mono (fun _ _ h => h) fun _ _ same => same ▸ cancelled).bind ?_
    rintro user tables ⟨rfl, claimed⟩
    rw [given]
    have asked : (ask table (.get (key id))).Ensures (Stores false) tables
        (fun reply after => after = tables ∧ ∃ fs, reply = .map fs ∧
          lookup "Item" fs = (tables booking).map .map)
        (fun _ after => IsCancelled booking customer after) := by
      refine ensures_get (fun fs place located' found => ⟨rfl, fs, rfl, ?_⟩) fun _ _ => cancelled
      rwa [Option.some.inj (located'.symm.trans located)] at found
    refine asked.bind ?_
    rintro _ tables ⟨rfl, fs, rfl, found⟩
    have ⟨item, kept, _, has⟩ := cancelled
    rw [kept] at found
    refine ensures_lift_bind (fun there _ => ?_) fun _ _ => cancelled
    split_ifs
    · exact answers
    refine ensures_lift_bind (fun v read => ?_) fun _ _ => cancelled
    obtain rfl := Except.ok.inj (read.symm.trans (field_of_lookup found))
    refine ensures_lift_bind (fun owner read => ?_) fun _ _ => cancelled
    obtain ⟨_, ⟨⟩, has'⟩ := field_eq_ok read
    split_ifs with stranger
    · exact answers
    obtain ⟨rfl, rfl⟩ := place?_key located
    have own : ClaimsToBe event customer :=
      ⟨user, claimed, .inl ⟨owner, has.symm.trans has', by simpa using stranger⟩⟩
    exact absurd ⟨rfl, namedBooking_of_pathParameter given, own⟩ other
  · refine keepsCancelled_of_within (within_withOwnBooking harmless_of_isReading fun id v given => ?_) cancelled
    exact rest id v fun located => here ⟨id, given, located⟩

lemma Linked.keepsCancelled_confirm {context : Value} (cancelled : IsCancelled booking customer tables)
    (other : ¬ (table = booking.1 ∧ namedBooking event = .ok (.text booking.2) ∧ ClaimsToBe event customer)) :
    KeepsCancelled booking customer (confirm table event context) tables := by
  refine ensures_answered (keepsCancelled_withOwnBooking cancelled other fun id v elsewhere => ?_)
  refine .bind ?_ fun reference => within_respond _ _
  refine (within_get harmless_of_isReading _ _).bind fun reply => within_lift_bind fun there _ => ?_
  split_ifs
  · trivial
  · have token : (token 4).Within (Harmless booking customer) := fun text =>
      ⟨harmless_of_isReading (.made _ text) trivial, trivial⟩
    refine token.bind fun reference => ?_
    refine .attempt ?_ fun _ => trivial
    exact (within_invoke fun _ => harmless_setElsewhere elsewhere).bind fun _ => trivial

/-- A request leaves a booking cancelled, unless its own customer confirms it. -/
lemma BookingRequest.keepsCancelled {r : BookingRequest} (cancelled : IsCancelled booking customer tables)
    (other : ¬ r.Confirms booking customer) : KeepsCancelled booking customer r.flow tables := by
  obtain ⟨function, s, event, context⟩ := r
  cases function with
  | cancel =>
    exact keepsCancelled_of_within (Direct.within_cancel harmless_of_isReading (fun _ _ _ => harmless_setCancelled)
      fun _ _ _ _ => harmless_returnSeat) cancelled
  | linkedCancel =>
    exact keepsCancelled_of_within (Linked.within_cancel harmless_of_isReading fun _ _ _ =>
      harmless_setCancelled) cancelled
  | confirm =>
    exact Direct.keepsCancelled_confirm cancelled fun ⟨table, named, user⟩ => other ⟨rfl, table, named, user⟩
  | linkedConfirm =>
    refine ensures_lift_bind (fun table found => ?_) fun _ _ => cancelled
    refine Linked.keepsCancelled_confirm cancelled fun ⟨same, named, user⟩ => other ⟨rfl, ?_, named, user⟩
    exact same ▸ Setting.get?_of_require found

end

/-! ### Sequences of requests -/

def cancelledBooking : Fields := [("id", .text "B1"), ("customer", .text "u1"), ("status", .text "CANCELLED")]

def oneBooking (item : Fields) : Tables Place := Function.update (fun _ => none) ("bookings", "B1") (some item)

def requestBy (user : String) (function : BookingFunction) : BookingRequest where
  function := function
  setting := ⟨[("BOOKING_TABLE", "bookings")], default, []⟩
  event := .map [("requestContext", .map [("authorizer", .map [("claims", .map [("sub", .text user)])])]),
    ("pathParameters", .map [("booking_id", .text "B1")])]
  context := .null

def shownBooking : Answer := .reply (.ok (.map [("Item", .map cancelledBooking)]))

def changedBooking (status : String) (reference : Option String) : Answer :=
  .reply (.ok (.map [("Attributes", .map (withStatus status reference cancelledBooking))]))

lemma isCancelled_oneBooking : IsCancelled ("bookings", "B1") (some (.text "u1")) (oneBooking cancelledBooking) :=
  ⟨_, update_self .., rfl, rfl⟩

lemma stores_shownBooking : Stores false (oneBooking cancelledBooking)
    (.called (.table "bookings" (.get (key (.text "B1")))) (.ok (.map [("Item", .map cancelledBooking)])))
    (oneBooking cancelledBooking) :=
  stores_get (update_self ..)

lemma stores_changedBooking {status : String} {reference : Option String} :
    Stores false (oneBooking cancelledBooking)
      (.called (.table "bookings" (Direct.setStatus (.text "B1") status reference))
        (.ok (.map [("Attributes", .map (withStatus status reference cancelledBooking))])))
      (oneBooking (withStatus status reference cancelledBooking)) := by
  have same : oneBooking (withStatus status reference cancelledBooking) =
      update (oneBooking cancelledBooking) ("bookings", "B1")
        (some (withStatus status reference cancelledBooking)) :=
    (update_idem ..).symm
  rw [same]
  exact stores_setStatus (update_self ..) (by decide) (by decide)

end Unbundle.Airline
