import Unbundle.Airline.Linked.Flights
import Unbundle.Proofs.Service.Tables

/-!
# Seats that are taken and given back at the same time

A request gets an item at most once and then tries to change the seats at most once. A release compares with
the number of seats that it read before; as that number does not change, the comparison is right however
late it is made.
-/

open List Unbundle.Service.Flow

namespace Unbundle.Airline

open Service

/-! ### Requests -/

/-- The functions that change seats, of both deployments. -/
inductive SeatFunction where
  | reserve
  | release
  | linkedReserve
  | linkedRelease
  deriving DecidableEq, Repr

namespace SeatFunction

def handler : SeatFunction → Handler
  | reserve => Direct.handler Direct.reserve
  | release => Direct.handler Direct.release
  | linkedReserve => Linked.tableHandler "FLIGHT_TABLE" Linked.reserve
  | linkedRelease => Linked.tableHandler "FLIGHT_TABLE" Linked.release

def returns : SeatFunction → Bool
  | reserve | linkedReserve => false
  | release | linkedRelease => true

end SeatFunction

/-- A request that changes seats. -/
structure SeatRequest where
  function : SeatFunction
  setting : Setting
  event : Value
  context : Value

def SeatRequest.flow (r : SeatRequest) : Flow Value :=
  r.function.handler.handle r.setting r.event r.context

def IsSuccess (answer : Value) : Prop := answer.field "statusCode" = .ok (.int 200)

/-! ### The protocol of a request -/

variable {flow : Flow Value} {table : String} {request : Request} {operand : Operand} {free : ℤ}

section

variable {κ : Type} (locate : String → Fields → Option κ) (flight : κ) (maximum : ℤ)
variable {reply : Value}

/-- A reply to a question for an item that has the right number of seats, if it has the item. -/
def ShowsMaximum (reply : Value) : Prop :=
  ∃ fs, reply = .map fs ∧ ∀ v, Value.lookup "Item" fs = some v →
    ∃ item, v = .map item ∧ numberAt item "maximumSeating" = some (maximum : ℚ)

/-- A request that changes the seats as it should: one is taken, or one is given back to a flight of which
the number of seats is known. -/
inductive IsSeatChange : Bool → String → Request → Prop
  | take (table : String) (id : Value) : IsSeatChange false table (takeSeat id)
  | giveBack {table : String} {id most : Value} :
      (locate table (key id) = some flight → ∀ q, most.number? = some q → q = maximum) →
      IsSeatChange true table (returnSeat id most)

/-- What a request may do, as long as it has not changed the seats: get items, and try to change seats. It
is told the truth about the flight. -/
def seatProtocol (returns : Bool) : Protocol Bool where
  active changed := changed = false
  allows _ call :=
    call.isGet = true ∨ ∃ table request, call = .table table request ∧
      IsSeatChange locate flight maximum returns table request
  answers changed call reply changed' :=
    (changed' = (changed || (call.isUpdate && reply.isOk))) ∧
      ∀ table key v, call = .table table (.get key) → locate table key = some flight →
        reply = .ok v → ShowsMaximum maximum v

variable (returns : Bool)

/-- A flow that keeps to the protocol of a request, has a result as promised, and does not fail any more
once the seats are changed. -/
abbrev Tells {α : Type} (result : Bool → α → Prop) (flow : Flow α) (changed : Bool) : Prop :=
  flow.Keeps (seatProtocol locate flight maximum returns) result (fun changed _ => changed = false)
    changed

/-- An answer that says whether the seats were changed. -/
def IsTrue (changed : Bool) (answer : Value) : Prop := changed = true ↔ IsSuccess answer

variable {locate flight maximum returns} {α : Type} {result : Bool → α → Prop}

/-! ### Answers -/

lemma isSuccess_answer_iff {status : ℤ} {headers : Fields} {body : Value} :
    IsSuccess (answer status headers body) ↔ status = 200 := by
  have field : (answer status headers body).field "statusCode" = .ok (.int status) := rfl
  rw [IsSuccess, field, Except.ok.injEq, Value.int.injEq]

lemma tells_lift {outcome : Except Fault α} (ok : ∀ a, outcome = .ok a → result false a) :
    Tells locate flight maximum returns result (liftM outcome) false :=
  keeps_lift ok fun _ _ => rfl

lemma tells_lift_bind {β : Type} {goal : Bool → β → Prop} {outcome : Except Fault α} {k : α → Flow β}
    (ok : ∀ a, outcome = .ok a → Tells locate flight maximum returns goal (k a) false) :
    Tells locate flight maximum returns goal ((liftM outcome : Flow α) >>= k) false :=
  keeps_lift_bind ok fun _ _ => rfl

lemma tells_respond {status : ℤ} {body : Value} (other : status ≠ 200) :
    Tells locate flight maximum returns IsTrue (respond status body) false := by
  refine tells_lift_bind fun json _ => ?_
  exact ⟨fun h => (Bool.false_ne_true h).elim, fun h => absurd (isSuccess_answer_iff.1 h) other⟩

lemma tells_respond_success :
    Tells locate flight maximum returns IsTrue (respond 200 success) true := by
  rw [respond]
  exact ⟨fun _ => isSuccess_answer_iff.2 rfl, fun _ => rfl⟩

lemma tells_attempt {flow : Flow α} {handler : Fault → Flow α}
    (body : Tells locate flight maximum returns result flow false)
    (handled : ∀ e, Tells locate flight maximum returns result (handler e) false) :
    Tells locate flight maximum returns result (flow.attempt handler) false := by
  refine keeps_attempt body (fun _ _ same _ => same) fun changed e same => ?_
  subst same
  exact handled e

lemma Direct.tells_answered (body : Tells locate flight maximum returns IsTrue flow false) :
    Tells locate flight maximum returns IsTrue (answered flow) false := by
  refine tells_attempt body fun e => tells_respond ?_
  split_ifs <;> decide

lemma Linked.tells_answered {context : Value} (body : Tells locate flight maximum returns IsTrue flow false) :
    Tells locate flight maximum returns IsTrue (answered context flow) false := by
  refine tells_attempt body fun e => ?_
  have logged : Tells locate flight maximum returns (fun changed _ => changed = false)
      (logProblem e.kind e.message context) false :=
    tells_lift_bind fun entry _ => ⟨rfl, rfl⟩
  refine keeps_bind logged fun changed _ same => ?_
  subst same
  split_ifs
  · exact tells_respond (by decide)
  · exact tells_respond (by decide)

lemma tells_seatChange {full otherwise : String} {result : Bool → Value → Prop}
    (body : Tells locate flight maximum returns result flow false) :
    Tells locate flight maximum returns result (seatChange full otherwise flow) false := by
  refine tells_attempt body fun e => ?_
  split_ifs
  · exact rfl
  · exact rfl

/-! ### Changing the seats -/

def IsDone (changed : Bool) (v : Value) : Prop := changed = true ∧ v = success

lemma isUpdate_of_isSeatChange (change : IsSeatChange locate flight maximum returns table request) :
    (Call.table table request).isUpdate = true := by
  cases change with
  | take => rfl
  | giveBack => rfl

lemma tells_change (change : IsSeatChange locate flight maximum returns table request) :
    Tells locate flight maximum returns IsDone (do let _ ← .ask table request; return success)
      false := by
  have update := isUpdate_of_isSeatChange change
  have asked : Tells locate flight maximum returns (fun changed _ => changed = true)
      (.ask table request) false := by
    refine keeps_ask rfl (.inr ⟨table, request, rfl, change⟩) ?_ ?_
    · rintro v changed ⟨rfl, -⟩
      rw [update]
      rfl
    · rintro e changed ⟨rfl, -⟩
      rw [update]
      rfl
  exact keeps_bind asked fun _ _ same => ⟨same, rfl⟩

lemma tells_reserveSeat (table : String) (id : Value) :
    Tells locate flight maximum false IsDone (reserveSeat table id) false :=
  tells_seatChange (tells_change (.take table id))

/-- An item in which the number of seats is right, if it is that of the flight. -/
def KnowsMaximum (locate : String → Fields → Option κ) (flight : κ) (maximum : ℤ) (table : String)
    (id item : Value) : Prop :=
  locate table (key id) = some flight →
    ∀ most q, item.field "maximumSeating" = .ok most → most.number? = some q → q = maximum

lemma ShowsMaximum.eq {item plain most : Value} {q : ℚ} (shows : ShowsMaximum maximum reply)
    (found : reply.field "Item" = .ok item) (conv : item.plain = .ok plain)
    (read : plain.field "maximumSeating" = .ok most) (number : most.number? = some q) : q = maximum := by
  obtain ⟨fs, rfl, right⟩ := shows
  obtain ⟨_, same, found⟩ := Value.field_eq_ok found
  cases same
  obtain ⟨stored, rfl, maximum⟩ := right item found
  rw [numberAt_of_plain conv read number] at maximum
  exact Option.some.inj maximum

/-- What is found for a release. -/
def IsKnown (locate : String → Fields → Option κ) (flight : κ) (maximum : ℤ) (table : String)
    (id : Value) (changed : Bool) (item : Value) : Prop :=
  changed = false ∧ KnowsMaximum locate flight maximum table id item

lemma tells_get (table : String) (id : Value) :
    Tells locate flight maximum returns
      (fun changed reply => changed = false ∧
        (locate table (key id) = some flight → ShowsMaximum maximum reply))
      (.ask table (.get (key id))) false := by
  refine keeps_ask rfl (.inl rfl) ?_ ?_
  · rintro v changed ⟨rfl, shows⟩
    exact ⟨rfl, fun located => shows table (key id) v rfl located rfl⟩
  · rintro e changed ⟨rfl, -⟩
    rfl

lemma tells_plain {id : Value} (shows : locate table (key id) = some flight → ShowsMaximum maximum reply) :
    Tells locate flight maximum returns (IsKnown locate flight maximum table id)
      (do (← reply.field "Item").plain) false := by
  refine tells_lift_bind fun item found => tells_lift fun plain conv => ⟨rfl, fun located most q => ?_⟩
  exact (shows located).eq found conv

lemma Direct.tells_flightForRelease (table : String) (id : Value) :
    Tells locate flight maximum returns (IsKnown locate flight maximum table id)
      (flightForRelease table id) false := by
  refine keeps_bind (tells_get table id) ?_
  rintro changed reply ⟨rfl, shows⟩
  refine tells_lift_bind fun held _ => ?_
  split_ifs
  · exact rfl
  · exact tells_plain shows

lemma plainItem_eq_ok {v : Value} (h : plainItem reply = .ok v) :
    v = .null ∨ ∃ item, reply.field "Item" = .ok item ∧ item.plain = .ok v := by
  rw [plainItem] at h
  obtain ⟨held, -, h⟩ := bind_eq_ok_iff.1 h
  cases held with
  | false => exact .inl (Except.ok.inj h).symm
  | true => exact .inr (bind_eq_ok_iff.1 h)

lemma Linked.tells_findFlight (table : String) (id : Value) :
    Tells locate flight maximum returns (IsKnown locate flight maximum table id)
      (findFlight table id) false := by
  refine tells_attempt ?_ fun e => rfl
  refine keeps_bind (tells_get table id) ?_
  rintro changed reply ⟨rfl, shows⟩
  refine tells_lift fun plain conv => ⟨rfl, fun located most q read => ?_⟩
  rcases plainItem_eq_ok conv with rfl | ⟨item, found, conv⟩
  · cases read
  · exact (shows located).eq found conv read

lemma tells_giveBack {id item : Value} (known : KnowsMaximum locate flight maximum table id item) :
    Tells locate flight maximum true IsDone
      (do
        let most ← item.field "maximumSeating"
        let _ ← .ask table (returnSeat id most)
        return success)
      false :=
  tells_lift_bind fun most read => tells_change (.giveBack fun located q => known located most q read)

lemma Direct.tells_releaseSeat (table : String) (id : Value) :
    Tells locate flight maximum true IsDone (releaseSeat table id) false := by
  refine tells_seatChange (keeps_bind (tells_flightForRelease table id) ?_)
  rintro changed item ⟨rfl, known⟩
  exact tells_giveBack known

lemma Linked.tells_releaseSeat (table : String) (id : Value) :
    Tells locate flight maximum true IsDone (releaseSeat table id) false := by
  refine tells_seatChange (keeps_bind (tells_findFlight table id) ?_)
  rintro changed item ⟨rfl, known⟩
  split_ifs
  · exact rfl
  · exact tells_giveBack known

/-! ### Handling a request -/

lemma tells_respond_of_isDone (done : Tells locate flight maximum returns IsDone flow false) :
    Tells locate flight maximum returns IsTrue (do respond 200 (← flow)) false := by
  refine keeps_bind done ?_
  rintro changed v ⟨rfl, rfl⟩
  exact tells_respond_success

lemma Direct.tells_withParameter {event : Value} {name : String} {next : Value → Flow Value}
    (rest : ∀ v, Tells locate flight maximum returns IsTrue (next v) false) :
    Tells locate flight maximum returns IsTrue (withParameter event name next) false := by
  refine tells_lift_bind fun v _ => ?_
  split_ifs
  · exact rest v
  · exact tells_respond (by decide)

/-- A request keeps to its protocol and answers with the truth. -/
lemma SeatRequest.tells_flow (r : SeatRequest) :
    Tells locate flight maximum r.function.returns IsTrue r.flow false := by
  obtain ⟨function, setting, event, context⟩ := r
  cases function with
  | reserve =>
    refine Direct.tells_answered (Direct.tells_withParameter fun id => ?_)
    exact tells_lift_bind fun table _ => tells_respond_of_isDone (tells_reserveSeat table id)
  | release =>
    refine Direct.tells_answered (Direct.tells_withParameter fun id => ?_)
    exact tells_lift_bind fun table _ => tells_respond_of_isDone (Direct.tells_releaseSeat table id)
  | linkedReserve =>
    refine tells_lift_bind fun table _ => Linked.tells_answered (tells_lift_bind fun id _ => ?_)
    exact tells_respond_of_isDone (tells_reserveSeat table id)
  | linkedRelease =>
    refine tells_lift_bind fun table _ => Linked.tells_answered (tells_lift_bind fun id _ => ?_)
    exact tells_respond_of_isDone (Linked.tells_releaseSeat table id)

lemma isTrue_of_tells {changed : Bool} (tells : Tells locate flight maximum returns IsTrue flow changed) :
    changed = true ↔ ∃ answer, flow = .done answer ∧ IsSuccess answer := by
  cases flow with
  | done answer =>
    have answered : changed = true ↔ IsSuccess answer := tells
    simp [answered]
  | fail e =>
    have unchanged : changed = false := tells
    simp [unchanged]
  | _ =>
    have unchanged : changed = false := tells.1
    simp [unchanged]

end

/-! ### Serving a change of seats -/

section

variable {κ : Type} [DecidableEq κ] {locate : String → Fields → Option κ} {flight : κ} {maximum : ℤ}
variable {reply : Except Fault Value} {i : ℕ}

def HasSeats (tables : Tables κ) (flight : κ) (free maximum : ℤ) : Prop :=
  ∃ item, tables flight = some item ∧ numberAt item "seatCapacity" = some (free : ℚ) ∧
    numberAt item "maximumSeating" = some (maximum : ℚ)

lemma numberAt_of_turns {before after : Fields}
    (turns : Change.Turns ⟨[], [⟨"seatCapacity", none, operand⟩]⟩ before after) :
    (∃ v, numberAt after "seatCapacity" = v.number? ∧ operand.Gives before v) ∧
      numberAt after "maximumSeating" = numberAt before "maximumSeating" := by
  obtain ⟨v, found, gives⟩ := turns.assigned _ mem_cons_self
  have other : Value.lookup "maximumSeating" after = Value.lookup "maximumSeating" before :=
    turns.others _ (by simp [Change.fields])
  refine ⟨⟨v, ?_, gives⟩, ?_⟩
  · rw [numberAt, found]
    rfl
  · rw [numberAt, numberAt, other]

/-- What a change of seats adds to the free seats of a flight, as it is answered. -/
def gain (locate : String → Fields → Option κ) (flight : κ) (step : ℤ) (call : Call)
    (reply : Except Fault Value) : ℤ :=
  if reply.isOk = true ∧ call.updated? locate = some flight then step else 0

lemma hasSeats_of_step {key : Fields} {condition : Condition} {returning : Returning}
    {tables tables' : Tables κ} {step : ℤ}
    (served : Serves locate tables (.table table (.update key ⟨[], [⟨"seatCapacity", none, operand⟩]⟩
      (some condition) returning)) reply tables') (has : HasSeats tables flight free maximum) (low : 0 ≤ free)
    (high : free ≤ maximum)
    (adds : ∀ item v, numberAt item "seatCapacity" = some (free : ℚ) → operand.Gives item v →
      v.number? = some ((free + step : ℤ) : ℚ))
    (fits : locate table key = some flight → ∀ item, numberAt item "seatCapacity" = some (free : ℚ) →
      condition.Holds item → 0 ≤ free + step ∧ free + step ≤ maximum) :
    ∃ free', HasSeats tables' flight free' maximum ∧ 0 ≤ free' ∧ free' ≤ maximum ∧
      free' = free + gain locate flight step (.table table (.update key
        ⟨[], [⟨"seatCapacity", none, operand⟩]⟩ (some condition) returning)) reply := by
  rcases served.of_update with ⟨refused, rfl⟩ | ⟨accepted, place, after, located, holds, turns, rfl⟩
  · exact ⟨free, has, low, high, by simp [gain, refused]⟩
  by_cases here : place = flight
  · subst here
    obtain ⟨item, stored, capacity, seats⟩ := has
    rw [stored] at holds turns
    obtain ⟨⟨v, now, gives⟩, kept⟩ := numberAt_of_turns turns
    obtain ⟨low', high'⟩ := fits located item capacity (holds condition rfl)
    refine ⟨free + step, ⟨after, Function.update_self .., ?_, kept.trans seats⟩, low', high', ?_⟩
    · rw [now, adds item v capacity gives]
    · rw [gain, if_pos ⟨accepted, located⟩]
  · have elsewhere : locate table key ≠ some flight := by
      rw [located]
      exact fun same => here (Option.some.inj same)
    obtain ⟨item, stored, numbers⟩ := has
    refine ⟨free, ⟨item, ?_, numbers⟩, low, high, ?_⟩
    · rw [Function.update_of_ne (symm here), stored]
    · rw [gain, if_neg fun both => elsewhere both.2, add_zero]

lemma hasSeats_of_serves {returns : Bool} {tables tables' : Tables κ}
    (change : IsSeatChange locate flight maximum returns table request)
    (served : Serves locate tables (.table table request) reply tables')
    (has : HasSeats tables flight free maximum) (low : 0 ≤ free) (high : free ≤ maximum) :
    ∃ free', HasSeats tables' flight free' maximum ∧ 0 ≤ free' ∧ free' ≤ maximum ∧
      free' = free + gain locate flight (if returns then 1 else -1) (.table table request) reply := by
  cases change with
  | take _ id =>
    refine hasSeats_of_step served has low high ?_ ?_
    · rintro item v capacity ⟨a, b, ha, hb, hv⟩
      obtain rfl : free = a := Option.some.inj (capacity.symm.trans ha)
      obtain rfl : 1 = b := Option.some.inj hb
      rw [hv, sub_eq_add_neg]
      push_cast
      rfl
    · rintro - item capacity ⟨⟨a, b, ha, hb, more⟩, -⟩
      obtain rfl : free = a := Option.some.inj (capacity.symm.trans ha)
      obtain rfl : 0 = b := Option.some.inj hb
      have positive : 0 < free := Int.cast_lt.1 more
      exact ⟨show 0 ≤ free + -1 by omega, show free + -1 ≤ maximum by omega⟩
  | giveBack known =>
    refine hasSeats_of_step served has low high ?_ ?_
    · rintro item v capacity ⟨a, b, ha, hb, hv⟩
      obtain rfl : free = a := Option.some.inj (capacity.symm.trans ha)
      obtain rfl : 1 = b := Option.some.inj hb
      rw [hv]
      push_cast
      rfl
    · rintro located item capacity ⟨a, b, ha, hb, less⟩
      obtain rfl : free = a := Option.some.inj (capacity.symm.trans ha)
      obtain rfl := known located b hb
      have below : free < maximum := Int.cast_lt.1 less
      exact ⟨show 0 ≤ free + 1 by omega, show free + 1 ≤ maximum by omega⟩

/-! ### All requests together -/

def hasChanged (events : List Event) (i : ℕ) : Bool := events.any fun e => e.client == i && e.isChange

lemma hasChanged_iff {events : List Event} :
    hasChanged events i = true ↔ ∃ e ∈ events, e.client = i ∧ e.isChange = true := by
  simp [hasChanged]

lemma hasChanged_append (events more : List Event) (i : ℕ) :
    hasChanged (events ++ more) i = (hasChanged events i || hasChanged more i) :=
  any_append

/-- How often the seats of a flight were changed by the requests that take seats, or by those that give
them back. -/
def changes (locate : String → Fields → Option κ) (flight : κ) (requests : List SeatRequest)
    (returns : Bool) (events : List Event) : ℕ :=
  events.countP fun e => e.isChange && e.call.updated? locate == some flight &&
    (requests[e.client]?).map (·.function.returns) == some returns

/-- The state of affairs after some events: the free seats are those at first, less those that were taken,
and those that were given back; and each client keeps to its protocol from where it is. -/
structure Balanced (locate : String → Fields → Option κ) (flight : κ) (capacity maximum : ℤ)
    (requests : List SeatRequest) (events : List Event) (s : System κ) : Prop where
  seats : ∃ free, HasSeats s.tables flight free maximum ∧ 0 ≤ free ∧ free ≤ maximum ∧
    free = capacity - changes locate flight requests false events +
      changes locate flight requests true events
  clients : ∀ i flow, s.flows[i]? = some flow → ∃ r, requests[i]? = some r ∧
    Tells locate flight maximum r.function.returns IsTrue flow (hasChanged events i)

variable {capacity : ℤ} {requests : List SeatRequest} {events : List Event} {s t : System κ}

lemma changes_append (locate : String → Fields → Option κ) (flight : κ) (events : List Event) {r : SeatRequest}
    (client : requests[i]? = some r) {call : Call} (update : call.isUpdate = true) (reply : Except Fault Value) :
    (changes locate flight requests true (events ++ [⟨i, call, reply⟩]) : ℤ) -
        changes locate flight requests false (events ++ [⟨i, call, reply⟩]) =
      changes locate flight requests true events - changes locate flight requests false events +
        gain locate flight (if r.function.returns then 1 else -1) call reply := by
  simp only [changes, countP_append, countP_singleton, Event.isChange, client, update, gain, Option.map_some]
  by_cases made : reply.isOk = true ∧ call.updated? locate = some flight
  · cases r.function.returns <;> simp [made] <;> omega
  · simp [made]

lemma changes_append_of_not_isChange {returns : Bool} {e : Event} (same : e.isChange = false) :
    changes locate flight requests returns (events ++ [e]) =
      changes locate flight requests returns events := by
  simp [changes, same]

lemma Balanced.clients_set {more : List Event}
    (balanced : Balanced locate flight capacity maximum requests events s) (alone : ∀ e ∈ more, e.client = i)
    (own : ∃ r, requests[i]? = some r ∧
      Tells locate flight maximum r.function.returns IsTrue flow (hasChanged (events ++ more) i)) :
    ∀ j flow', (s.flows.set i flow)[j]? = some flow' → ∃ r, requests[j]? = some r ∧
      Tells locate flight maximum r.function.returns IsTrue flow' (hasChanged (events ++ more) j) := by
  intro j flow' found
  rw [getElem?_set] at found
  split_ifs at found with here inside
  · subst here
    cases found
    exact own
  · have quiet : hasChanged more j = false := by
      rw [← Bool.not_eq_true, hasChanged_iff]
      rintro ⟨e, he, rfl, -⟩
      exact here (alone e he).symm
    rw [hasChanged_append, quiet, Bool.or_false]
    exact balanced.clients j flow' found

lemma Balanced.quiet (balanced : Balanced locate flight capacity maximum requests events s)
    (own : ∃ r, requests[i]? = some r ∧
      Tells locate flight maximum r.function.returns IsTrue flow (hasChanged events i)) :
    Balanced locate flight capacity maximum requests (events ++ []) ⟨s.tables, s.flows.set i flow⟩ := by
  rw [← append_nil events] at own
  refine ⟨?_, balanced.clients_set (fun e he => by cases he) own⟩
  rw [append_nil]
  exact balanced.seats

lemma Balanced.serve {call : Call} {next : Except Fault Value → Flow Value} {tables : Tables κ}
    (balanced : Balanced locate flight capacity maximum requests events s)
    (turn : s.flows[i]? = some (.call call next)) (served : Serves locate s.tables call reply tables) :
    Balanced locate flight capacity maximum requests (events ++ [⟨i, call, reply⟩])
      ⟨tables, s.flows.set i (next reply)⟩ := by
  obtain ⟨r, client, -, allowed, rest⟩ := balanced.clients i _ turn
  obtain ⟨free, has, low, high, count⟩ := balanced.seats
  refine ⟨?_, balanced.clients_set (fun e he => by rw [mem_singleton.1 he])
    ⟨r, client, rest reply _ ⟨?_, ?_⟩⟩⟩
  · rcases allowed with isGet | ⟨table, request, rfl, change⟩
    · obtain ⟨table, key, rfl⟩ := Call.eq_of_isGet isGet
      obtain ⟨rfl, -⟩ := served.of_get
      refine ⟨free, has, low, high, ?_⟩
      rw [changes_append_of_not_isChange rfl, changes_append_of_not_isChange rfl]
      exact count
    · obtain ⟨free', has', low', high', step⟩ := hasSeats_of_serves change served has low high
      have counted :=
        changes_append locate flight events client (isUpdate_of_isSeatChange change) reply
      exact ⟨free', has', low', high', by omega⟩
  · simp [hasChanged, Event.isChange]
  · rintro table key v rfl located rfl
    obtain ⟨item, stored, -, seats⟩ := has
    obtain ⟨fs, place, rfl, located', found⟩ := served.of_get.2 v rfl
    obtain rfl : place = flight := Option.some.inj (located'.symm.trans located)
    rw [stored] at found
    refine ⟨fs, rfl, fun w found' => ⟨item, ?_, seats⟩⟩
    exact Option.some.inj (found'.symm.trans found)

/-- A step of any client keeps the balance. -/
lemma Balanced.step {more : List Event}
    (balanced : Balanced locate flight capacity maximum requests events s)
    (step : System.Step locate s more t) :
    Balanced locate flight capacity maximum requests (events ++ more) t := by
  cases step with
  | call turn served => exact balanced.serve turn served
  | note turn =>
    obtain ⟨r, client, -, rest⟩ := balanced.clients _ _ turn
    exact balanced.quiet ⟨r, client, rest⟩
  | fresh x turn =>
    obtain ⟨r, client, -, rest⟩ := balanced.clients _ _ turn
    exact balanced.quiet ⟨r, client, rest x⟩
  | once first turn =>
    obtain ⟨r, client, -, rest⟩ := balanced.clients _ _ turn
    exact balanced.quiet ⟨r, client, rest first⟩

lemma balanced_start {tables : Tables κ} (has : HasSeats tables flight capacity maximum)
    (low : 0 ≤ capacity) (high : capacity ≤ maximum) :
    Balanced locate flight capacity maximum requests [] ⟨tables, requests.map SeatRequest.flow⟩ := by
  refine ⟨⟨capacity, has, low, high, by simp [changes]⟩, fun i flow found => ?_⟩
  rw [getElem?_map, Option.map_eq_some_iff] at found
  obtain ⟨r, client, rfl⟩ := found
  exact ⟨r, client, r.tells_flow⟩

lemma balanced_run (balanced : Balanced locate flight capacity maximum requests [] s)
    (run : System.Run locate s events t) :
    Balanced locate flight capacity maximum requests events t := by
  induction run with
  | start => exact balanced
  | step _ step ih => exact ih.step step

/-- However the calls of requests that reserve and release seats are interleaved: the free seats of a flight
are never below zero nor above the number of seats, they are those at first less one for each change by a
reservation and more by one for each change by a release, and a request has answered with status 200
exactly if it has made its change. -/
theorem seats_balance (locate : String → Fields → Option κ) (requests : List SeatRequest)
    (tables : Tables κ) (flight : κ) (capacity maximum : ℤ)
    (has : HasSeats tables flight capacity maximum) (low : 0 ≤ capacity) (high : capacity ≤ maximum)
    (events : List Event) (s : System κ)
    (run : System.Run locate ⟨tables, requests.map SeatRequest.flow⟩ events s) :
    (∃ free, HasSeats s.tables flight free maximum ∧ 0 ≤ free ∧ free ≤ maximum ∧
      free = capacity - changes locate flight requests false events +
        changes locate flight requests true events) ∧
    ∀ i flow, s.flows[i]? = some flow →
      ((∃ e ∈ events, e.client = i ∧ e.isChange = true) ↔
        ∃ answer, flow = .done answer ∧ IsSuccess answer) := by
  have balanced := balanced_run (balanced_start has low high) run
  refine ⟨balanced.seats, fun i flow found => ?_⟩
  obtain ⟨r, -, tells⟩ := balanced.clients i flow found
  rw [← hasChanged_iff]
  exact isTrue_of_tells tells

end

lemma turns_putSeats {item : Fields} (gives : operand.Gives item (.int free)) :
    Change.Turns ⟨[], [⟨"seatCapacity", none, operand⟩]⟩ item (Value.put "seatCapacity" (.int free) item) := by
  refine ⟨by simp, fun assignment mem => ?_, fun name other => ?_⟩
  · rw [mem_singleton.1 mem]
    exact ⟨_, Value.lookup_put_self, gives⟩
  · exact Value.lookup_put_of_ne fun same => other (mem_singleton.2 same)

def flightNamed (_ : String) : Fields → Option String
  | [("id", .text id)] => some id
  | _ => none

def smallFlight (free : ℤ) : Fields :=
  [("id", .text "F1"), ("seatCapacity", .int free), ("maximumSeating", .decimal (.ofInt 1))]

def exchangeRequests : List SeatRequest :=
  [.linkedRelease, .reserve].map fun function => ⟨function, ⟨[("FLIGHT_TABLE", "flights")], default, []⟩,
    .map [("pathParameters", .map [("flight_id", .text "F1")])], .null⟩

/-- The release reads the flight while no seat is taken, and gives one back once one is. -/
def exchangeEvents : List Event :=
  [⟨0, .table "flights" (.get (key (.text "F1"))), .ok (.map [("Item", .map (smallFlight 1))])⟩,
    ⟨1, .table "flights" (takeSeat (.text "F1")), .ok .null⟩,
    ⟨0, .table "flights" (returnSeat (.text "F1") (.int 1)), .ok .null⟩]

lemma serves_takeSeat :
    Serves flightNamed (fun _ : String => some (smallFlight 1))
      (.table "flights" (takeSeat (.text "F1"))) (.ok .null)
      (Function.update (fun _ => some (smallFlight 1)) "F1" (some (smallFlight 0))) := by
  refine .update rfl ?_ (turns_putSeats ⟨1, 1, rfl, rfl, by decide +kernel⟩)
  rintro c ⟨⟩
  exact ⟨⟨1, 0, rfl, rfl, by norm_num⟩, Option.some_ne_none _⟩

lemma serves_returnSeat :
    Serves flightNamed (Function.update (fun _ => some (smallFlight 1)) "F1" (some (smallFlight 0)))
      (.table "flights" (returnSeat (.text "F1") (.int 1))) (.ok .null)
      (Function.update (Function.update (fun _ => some (smallFlight 1)) "F1" (some (smallFlight 0))) "F1"
        (some (smallFlight 1))) := by
  refine .update rfl ?_ (turns_putSeats ⟨0, 1, rfl, rfl, by decide +kernel⟩)
  rintro c ⟨⟩
  exact ⟨0, 1, rfl, rfl, by norm_num⟩

theorem seats_balance_exchange :
    HasSeats (fun _ : String => some (smallFlight 1)) "F1" 1 1 ∧
    ∃ s : System String,
      System.Run flightNamed ⟨fun _ => some (smallFlight 1), exchangeRequests.map SeatRequest.flow⟩
        exchangeEvents s ∧
      HasSeats s.tables "F1" 1 1 ∧
      ∀ i < 2, ∃ answer, s.flows[i]? = some (.done answer) ∧ IsSuccess answer := by
  have has : HasSeats (fun _ : String => some (smallFlight 1)) "F1" 1 1 :=
    ⟨_, rfl, rfl, by decide +kernel⟩
  obtain ⟨s, run, first, second⟩ : ∃ s : System String,
      System.Run flightNamed ⟨fun _ => some (smallFlight 1), exchangeRequests.map SeatRequest.flow⟩
        exchangeEvents s ∧ (∃ flow, s.flows[0]? = some flow) ∧ ∃ flow, s.flows[1]? = some flow :=
    ⟨_, .step (.step (.step (.start _) (.call rfl (.get rfl rfl))) (.call rfl serves_takeSeat))
      (.call rfl serves_returnSeat), ⟨_, rfl⟩, ⟨_, rfl⟩⟩
  obtain ⟨⟨free, now, -, -, count⟩, answers⟩ := seats_balance flightNamed exchangeRequests _ "F1" 1 1 has
    (by decide) (by decide) exchangeEvents s run
  have taken : changes flightNamed "F1" exchangeRequests false exchangeEvents = 1 := by
    decide +kernel
  have returned : changes flightNamed "F1" exchangeRequests true exchangeEvents = 1 := by
    decide +kernel
  obtain rfl : free = 1 := by
    rw [count, taken, returned]
    decide
  refine ⟨has, s, run, now, fun i small => ?_⟩
  obtain ⟨flow, found, changed⟩ : ∃ flow, s.flows[i]? = some flow ∧
      ∃ e ∈ exchangeEvents, e.client = i ∧ e.isChange = true := by
    obtain rfl | rfl : i = 0 ∨ i = 1 := by omega
    · exact ⟨_, first.choose_spec, _, .tail _ (.tail _ (.head _)), rfl, rfl⟩
    · exact ⟨_, second.choose_spec, _, .tail _ (.head _), rfl, rfl⟩
  obtain ⟨answer, rfl, success⟩ := (answers i flow found).1 changed
  exact ⟨answer, found, success⟩

end Unbundle.Airline
