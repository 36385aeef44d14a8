import Mathlib.Data.Set.Card
import Unbundle.Proofs.Airline.Seats
import Unbundle.Proofs.Airline.StoredBookings

/-!
# Seats and bookings balance

Neither cancelling nor confirming looks at the status of a booking, so the seat of a cancelled one is given
back twice, or it comes back to life without a seat. Apart from that the free seats of a flight and its live
bookings together stay as many as they are.
-/

open Function Unbundle.Service.Flow Unbundle.Value

namespace Unbundle.Airline

open Service

/-! ## Seats and bookings of a flight in a store -/

variable {item : Fields}

def isText (text : String) : Value → Bool
  | .text t => t == text
  | _ => false

lemma eq_of_isText {text : String} {v : Value} (same : isText text v = true) : v = .text text := by
  cases v with
  | text t => rw [eq_of_beq same]
  | _ => cases same

/-- Whether a booking is for a flight. -/
def isFor (flight : String) (item : Fields) : Bool :=
  (lookup "bookingOutboundFlightId" item).any (isText flight)

/-- Whether a booking is for a flight and not cancelled. -/
def isLive (flight : String) (item : Fields) : Bool :=
  isFor flight item && !(lookup "status" item).any (isText "CANCELLED")

/-- A flight with as many seats as can be read, and the tables of flights and of bookings. -/
structure Route where
  flights : String
  bookings : String
  flight : String
  maximum : ℤ
  apart : flights ≠ bookings
  small : |(maximum : ℚ)| < 10 ^ Number.Decimal.precision

namespace Route

variable (route : Route)
variable {flight status : String}

def share (flight : Value) : ℤ := (isText route.flight flight).toNat

def place : Place := (route.flights, route.flight)

def live (tables : Tables Place) : Set String :=
  {id | (tables (route.bookings, id)).any (isLive route.flight) = true}

/-- So many seats of the flight are free, its item can be read, and it has so many live bookings. -/
structure Counts (tables : Tables Place) (free taken : ℤ) : Prop where
  seats : HasSeats tables route.place free route.maximum
  legible : ∃ item p, tables route.place = some item ∧ (map item).plain = .ok p
  finite : (route.live tables).Finite
  bookings : ((route.live tables).ncard : ℤ) = taken

variable {route} {tables : Tables Place} {free taken : ℤ}

/-! ### Counting bookings -/

lemma live_update (id : String) (item : Fields) :
    route.live (update tables (route.bookings, id) (some item)) =
      if isLive route.flight item then insert id (route.live tables) else route.live tables \ {id} := by
  ext other
  by_cases here : other = id
  · subst here
    have kept : other ∈ route.live (update tables (route.bookings, other) (some item)) ↔
        isLive route.flight item = true := by
      rw [live, Set.mem_ofPred_eq, update_self, Option.any_some]
    split_ifs with now <;> simp [kept, now]
  · have kept : other ∈ route.live (update tables (route.bookings, id) (some item)) ↔
        other ∈ route.live tables := by
      rw [live, Set.mem_ofPred_eq, update_of_ne (fun same => here (Prod.mk.inj same).2)]
      rfl
    split_ifs with now <;> simp [kept, here]

lemma ncard_live_update (finite : (route.live tables).Finite) (id : String) (item : Fields) :
    (route.live (update tables (route.bookings, id) (some item))).ncard +
        ((tables (route.bookings, id)).any (isLive route.flight)).toNat =
      (route.live tables).ncard + (isLive route.flight item).toNat := by
  rw [live_update]
  by_cases before : id ∈ route.live tables
  · have was : (tables (route.bookings, id)).any (isLive route.flight) = true := before
    split_ifs with now
    · rw [Set.insert_eq_of_mem before, was, now]
    · rw [was, Bool.eq_false_of_not_eq_true now]
      exact Set.ncard_sdiff_singleton_add_one before finite
  · have was : (tables (route.bookings, id)).any (isLive route.flight) = false := by simpa [live] using before
    split_ifs with now
    · rw [Set.ncard_insert_of_notMem before finite, was, now]
      rfl
    · rw [was, Bool.eq_false_of_not_eq_true now, Set.sdiff_singleton_eq_self before]

/-- A booking is kept: the counts change by what it is after less what it was before. -/
lemma Counts.keep (counts : route.Counts tables free taken) (id : String) (item : Fields) :
    route.Counts (update tables (route.bookings, id) (some item)) free
      (taken + (isLive route.flight item).toNat -
        ((tables (route.bookings, id)).any (isLive route.flight)).toNat) := by
  have flight : update tables (route.bookings, id) (some item) route.place = tables route.place :=
    update_of_ne (fun same => route.apart (Prod.mk.inj same).1) ..
  have count := ncard_live_update counts.finite id item
  refine ⟨?_, ?_, ?_, ?_⟩
  · rw [HasSeats, flight]
    exact counts.seats
  · rw [flight]
    exact counts.legible
  · rw [live_update]
    split_ifs
    · exact counts.finite.insert id
    · exact counts.finite.sdiff
  · have := counts.bookings
    omega

lemma Counts.taken_nonneg (counts : route.Counts tables free taken) : 0 ≤ taken :=
  counts.bookings ▸ Int.natCast_nonneg _

lemma isLive_of_restated {before after : Fields} (restated : Restated status before after) :
    isLive flight after = (isFor flight before && status != "CANCELLED") := by
  rw [isLive, isFor, restated.others _ (by decide), restated.status]
  rfl

lemma Counts.restate (counts : route.Counts tables free taken) {id : String} {item' : Fields}
    (kept : tables (route.bookings, id) = some item) (restated : Restated status item item') :
    route.Counts (update tables (route.bookings, id) (some item')) free
      (taken + (isFor route.flight item && status != "CANCELLED").toNat - (isLive route.flight item).toNat) := by
  have counts := counts.keep id item'
  rwa [kept, isLive_of_restated restated] at counts

lemma isFor_of_isBooking (booking : IsBooking flight status item) :
    isFor route.flight item = isText route.flight (.text flight) := by
  rw [isFor, booking.flight, Option.any_some]

lemma isLive_of_isBooking (booking : IsBooking flight status item) :
    isLive route.flight item = (isText route.flight (.text flight) && status != "CANCELLED") := by
  rw [isLive, isFor_of_isBooking booking, booking.status]
  rfl

lemma isFor_of_missing {p : Value} {e : Fault} (plain : (map item).plain = .ok p)
    (missing : p.field "bookingOutboundFlightId" = .error e) : isFor flight item = false := by
  rw [isFor]
  cases found : lookup "bookingOutboundFlightId" item with
  | none => rfl
  | some v =>
    obtain ⟨_, -, read⟩ := field_of_plain plain found
    cases read.symm.trans missing

/-! ### Changing seats -/

lemma share_of_plain {p flight : Value} (plain : (map item).plain = .ok p)
    (read : p.field "bookingOutboundFlightId" = .ok flight) :
    route.share flight = (isFor route.flight item).toNat := by
  obtain ⟨gs, fields, ⟨⟩⟩ := bind_eq_ok_iff.1 plain
  obtain ⟨_, ⟨⟩, found⟩ := field_eq_ok read
  obtain ⟨v, plain, found⟩ := lookup_of_plainFields fields found
  rw [share, isFor, found, Option.any_some]
  suffices isText route.flight flight = isText route.flight v by rw [this]
  rw [Bool.eq_iff_iff]
  constructor
  · intro same
    obtain rfl := eq_of_isText same
    rwa [eq_text_of_plain plain]
  · intro same
    obtain rfl := eq_of_isText same
    cases plain
    exact same

@[simp] lemma share_text_self : route.share (.text route.flight) = 1 := by
  simp [share, isText]

lemma share_of_not_isText {v : Value} (other : isText route.flight v = false) : route.share v = 0 := by
  rw [share, other]
  rfl

lemma small_of_le {n : ℤ} (low : 0 ≤ n) (most : n ≤ route.maximum) :
    |(n : ℚ)| < 10 ^ Number.Decimal.precision := by
  refine lt_of_le_of_lt ?_ route.small
  exact_mod_cast abs_le_abs_of_nonneg low most

lemma live_update_flights (flight : String) (x : Option Fields) :
    route.live (update tables (route.flights, flight) x) = route.live tables := by
  ext id
  rw [live, Set.mem_ofPred_eq, update_of_ne fun same => route.apart (Prod.mk.inj same).1.symm]
  rfl

lemma Counts.elsewhere (counts : route.Counts tables free taken) (other : flight ≠ route.flight)
    (x : Option Fields) : route.Counts (update tables (route.flights, flight) x) free taken := by
  have same : update tables (route.flights, flight) x route.place = tables route.place :=
    update_of_ne (fun same => other (Prod.mk.inj same).2.symm) ..
  refine ⟨?_, ?_, ?_, ?_⟩
  · rw [HasSeats, same]
    exact counts.seats
  · rw [same]
    exact counts.legible
  · rw [live_update_flights]
    exact counts.finite
  · rw [live_update_flights]
    exact counts.bookings

lemma Counts.turn (counts : route.Counts tables free taken) {operand : Service.Operand} {absent after : Fields} {free' : ℤ}
    (turns : Change.Turns ⟨[], [⟨"seatCapacity", none, operand⟩]⟩ ((tables route.place).getD absent) after)
    (distinct : (after.map Prod.fst).Nodup) (low : 0 ≤ free') (most : free' ≤ route.maximum)
    (gives : ∀ item v, numberAt item "seatCapacity" = some (free : ℚ) → operand.Gives item v →
      v.number? = some (free' : ℚ)) :
    route.Counts (update tables route.place (some after)) free' taken := by
  obtain ⟨item, kept, capacity, seats⟩ := counts.seats
  obtain ⟨item', p, kept', plain⟩ := counts.legible
  rw [kept, Option.some.injEq] at kept'
  subst kept'
  rw [kept] at turns
  obtain ⟨⟨v, now, given⟩, same⟩ := numberAt_of_turns turns
  have number := gives item v capacity given
  have read : ∀ name w, lookup name after = some w → ∃ p, w.plain = .ok p := by
    intro name w found
    by_cases seat : name = "seatCapacity"
    · subst seat
      rw [numberAt, found] at now
      exact exists_plain_of_number? (now.trans number) (small_of_le low most)
    · rw [turns.others name (by simpa [Change.fields] using seat)] at found
      exact isConversion_plain.exists_map_iff.1 ⟨_, plain⟩ _ (mem_of_lookup found)
  obtain ⟨p, plain⟩ := exists_plain_of_lookup distinct read
  refine ⟨⟨after, update_self .., now.trans number, same.trans seats⟩,
    ⟨after, p, update_self .., plain⟩, ?_, ?_⟩
  · rw [place, live_update_flights]
    exact counts.finite
  · rw [place, live_update_flights]
    exact counts.bookings

/-- A change of seats concerns the flight, or another of which the counts do not speak. -/
lemma Counts.cases_place (counts : route.Counts tables free taken) {flight : Value} {location : Place}
    (located : place? route.flights (key flight) = some location) :
    (flight = .text route.flight ∧ location = route.place) ∨
      (isText route.flight flight = false ∧
        ∀ x, route.Counts (update tables location x) free taken) := by
  obtain ⟨table, id⟩ := location
  obtain ⟨rfl, rfl⟩ := place?_key located
  by_cases here : id = route.flight
  · subst here
    exact .inl ⟨rfl, rfl⟩
  · exact .inr ⟨beq_eq_false_iff_ne.2 here, counts.elsewhere here⟩

lemma ensures_reserveSeat (counts : route.Counts tables free taken) (low : 0 ≤ free) (most : free ≤ route.maximum)
    (flight : Value) :
    (reserveSeat route.flights flight).Ensures (Stores true) tables
      (fun _ after => (∃ text, flight = .text text) ∧ route.share flight ≤ free ∧
        route.Counts after (free - route.share flight) taken)
      (fun _ after => after = tables) := by
  have asked : (ask route.flights (takeSeat flight)).Ensures (Stores true) tables
      (fun _ after => (∃ text, flight = .text text) ∧ route.share flight ≤ free ∧
        route.Counts after (free - route.share flight) taken)
      (fun _ after => after = tables) := by
    refine ensures_update (fun reply location after located holds turns distinct _ => ?_) fun _ _ => rfl
    refine ⟨⟨_, (place?_key located).1⟩, ?_⟩
    rcases counts.cases_place located with ⟨rfl, rfl⟩ | ⟨other, elsewhere⟩
    · obtain ⟨item, kept, capacity, -⟩ := counts.seats
      obtain ⟨⟨a, b, found, ⟨⟩, more⟩, -⟩ := holds _ rfl
      rw [kept, Option.getD_some, capacity, Option.some.injEq] at found
      subst found
      have positive : 0 < free := by exact_mod_cast more
      rw [share_text_self]
      refine ⟨positive, counts.turn turns distinct (by omega) (by omega) ?_⟩
      rintro item v capacity ⟨a, b, found, ⟨⟩, number⟩
      rw [capacity, Option.some.injEq] at found
      rw [number, ← found]
      push_cast
      rfl
    · rw [share_of_not_isText other, sub_zero]
      exact ⟨low, elsewhere _⟩
  refine (asked.bind fun _ _ done => ensures_done done).attempt (fun _ _ same _ => same) ?_
  intro e after same _
  split_ifs <;> exact ensures_fail same

lemma ensures_flightForRelease (counts : route.Counts tables free taken) :
    (Direct.flightForRelease route.flights (.text route.flight)).Ensures (Stores true) tables
      (fun item after => after = tables ∧ item.field "maximumSeating" = .ok (.int route.maximum))
      (fun _ _ => False) := by
  have located : place? route.flights (key (.text route.flight)) = some route.place := rfl
  obtain ⟨item, kept, -, seats⟩ := counts.seats
  obtain ⟨item', p, kept', plain⟩ := counts.legible
  rw [kept, Option.some.injEq] at kept'
  subst kept'
  have asked : (ask route.flights (.get (key (.text route.flight)))).Ensures (Stores true) tables
      (fun reply after => after = tables ∧ ∃ fs, reply = .map fs ∧ lookup "Item" fs = some (.map item))
      (fun _ _ => False) := by
    refine ensures_get (fun fs location located' found => ⟨rfl, fs, rfl, ?_⟩) fun e unknown => ?_
    · rw [found, Option.some.inj (located'.symm.trans located), kept, Option.map_some]
    · cases unknown rfl
  refine asked.bind ?_
  rintro _ tables ⟨rfl, fs, rfl, found⟩
  have held : (map fs).holdsName "Item" = .ok true := by
    change Except.ok (lookup "Item" fs).isSome = _
    rw [found]
    rfl
  rw [held, field_of_lookup found]
  change (liftM (map item).plain : Flow Value).Ensures _ _ _ _
  rw [plain]
  obtain ⟨v, most, number⟩ := Option.bind_eq_some_iff.1 seats
  obtain ⟨_, read, field⟩ := field_of_plain plain most
  rw [plain_of_number? number route.small] at read
  cases read
  exact ensures_done ⟨rfl, field⟩

lemma feasible_returnSeat (counts : route.Counts tables free taken) (room : free < route.maximum) :
    Feasible tables route.flights (returnSeat (.text route.flight) (.int route.maximum)) := by
  have located : place? route.flights (key (.text route.flight)) = some route.place := rfl
  obtain ⟨item, kept, capacity, -⟩ := counts.seats
  have gives : (Service.Operand.plus "seatCapacity" ⟨"inc", .int 1⟩).Gives item (.int (free + 1)) :=
    ⟨_, _, capacity, rfl, congrArg some (by push_cast; rfl)⟩
  refine .update located ?_ (by rw [kept]; exact turns_putSeats gives)
  rintro _ ⟨⟩
  rw [kept]
  exact ⟨_, _, capacity, rfl, by exact_mod_cast room⟩

/-- A seat that is given back is free, whatever is answered. -/
lemma ensures_releaseSeat (counts : route.Counts tables free taken) (low : 0 ≤ free) (flight : Value)
    (room : free + route.share flight ≤ route.maximum) :
    (Direct.releaseSeat route.flights flight).Ensures (Stores true) tables
      (fun _ after => route.Counts after (free + route.share flight) taken)
      (fun _ after => route.Counts after (free + route.share flight) taken) := by
  by_cases here : isText route.flight flight = true
  · obtain rfl := eq_of_isText here
    rw [share_text_self] at room ⊢
    have asked : (ask route.flights (returnSeat (.text route.flight) (.int route.maximum))).Ensures
        (Stores true) tables (fun _ after => route.Counts after (free + 1) taken) (fun _ _ => False) := by
      refine ensures_update (fun reply location after located _ turns distinct _ => ?_) fun e refused => ?_
      · obtain rfl : route.place = location := Option.some.inj located
        refine counts.turn turns distinct (by omega) room ?_
        rintro item v capacity ⟨a, b, found, ⟨⟩, number⟩
        rw [capacity, Option.some.injEq] at found
        rw [number, ← found]
        push_cast
        rfl
      · exact refused rfl (feasible_returnSeat counts (by omega))
    have given : (do
          let item ← Direct.flightForRelease route.flights (.text route.flight)
          let maximum ← item.field "maximumSeating"
          let _ ← .ask route.flights (returnSeat (.text route.flight) maximum)
          return success : Flow Value).Ensures (Stores true) tables
        (fun _ after => route.Counts after (free + 1) taken) (fun _ _ => False) := by
      refine (ensures_flightForRelease counts).bind ?_
      rintro item tables ⟨rfl, seats⟩
      rw [seats]
      exact asked.bind fun _ _ now => ensures_done now
    exact given.attempt (fun _ _ never => never.elim) fun _ _ never => never.elim
  · have other := Bool.eq_false_of_not_eq_true here
    rw [share_of_not_isText other, add_zero]
    -- Another flight is changed, if any.
    have within : (Direct.releaseSeat route.flights flight).Within fun x => ∀ tables tables',
        Stores true tables x tables' → route.Counts tables free taken → route.Counts tables' free taken := by
      refine Direct.within_releaseSeat (fun x reading tables tables' stores counts => ?_)
        fun maximum reply tables tables' stores counts => ?_
      · rwa [stores.eq_of_isReading reading]
      · rcases stores.of_update with rfl | ⟨location, after, located, -, rfl⟩
        · exact counts
        rcases counts.cases_place located with ⟨rfl, rfl⟩ | ⟨_, elsewhere⟩
        · exact absurd (beq_self_eq_true route.flight) here
        · exact elsewhere _
    exact within.ensures (fun keeps stores => keeps _ _ stores) counts

end Route

/-! ## Seats and bookings balance -/

namespace Route

variable (route : Route)
variable {flow : Flow Value} {flight : Value}

/-- The free seats of the flight and its live bookings are so many together. -/
def Balanced (total : ℤ) (tables : Tables Place) : Prop :=
  ∃ free taken, route.Counts tables free taken ∧ 0 ≤ free ∧ free + taken = total

/-- The tables that a deployment works on. -/
structure Serves (s : Setting) : Prop where
  flights : Direct.flightsOf s = .ok route.flights
  bookings : Direct.bookingsOf s = .ok route.bookings

variable {route} {s : Setting} {tables : Tables Place} {event : Value} {total free taken : ℤ}

/-! ### Cancelling and confirming -/

/-- No booking of the flight that a request may change is cancelled. -/
def Current (route : Route) (tables : Tables Place) (event : Value) : Prop :=
  ∀ id item, OwnBooking tables route.bookings event id item → isFor route.flight item = true →
    lookup "status" item ≠ some (.text "CANCELLED")

lemma isLive_of_current {id : String} (current : route.Current tables event)
    (own : OwnBooking tables route.bookings event id item) :
    isLive route.flight item = isFor route.flight item := by
  cases here : isFor route.flight item with
  | false => rw [isLive, here, Bool.false_and]
  | true =>
    rw [isLive, here, Bool.true_and, Bool.not_eq_true', Bool.eq_false_iff]
    intro cancelled
    obtain ⟨v, found, same⟩ := (Option.any_eq_true _ _).1 cancelled
    exact current id item own here (found.trans (congrArg some (eq_of_isText same)))

lemma balanced_confirm (serves : route.Serves s) (balanced : route.Balanced total tables)
    (current : route.Current tables event) :
    (Direct.confirm s event).Ensures (Stores true) tables (fun _ after => route.Balanced total after)
      fun _ after => route.Balanced total after := by
  refine Direct.ensures_withOwnBooking balanced fun table id item p named own plain => ?_
  obtain rfl := Except.ok.inj (serves.bookings.symm.trans named)
  have confirmed : (Direct.confirmBooking s (.text id)).Ensures (Stores true) tables
      (fun _ after => route.Balanced total after) fun _ after => route.Balanced total after := by
    refine (Direct.ensures_confirmBooking named own.kept ⟨p, plain⟩).mono ?_ fun _ _ same => same.1 ▸ balanced
    rintro _ _ ⟨item', restated, rfl⟩
    obtain ⟨free, taken, counts, low, rfl⟩ := balanced
    refine ⟨free, _, counts.restate own.kept restated, low, ?_⟩
    rw [isLive_of_current current own]
    simp
  refine confirmed.bind fun reference after balanced => ensures_of_reading ?_ balanced
  exact (Direct.within_notify fun _ reading => reading).bind fun _ => within_respond _ _

lemma balanced_release {p : Value} (serves : route.Serves s) (low : 0 ≤ free)
    (most : free + taken ≤ route.maximum) (plain : (map item).plain = .ok p)
    (counts : route.Counts tables free (taken - (isFor route.flight item).toNat)) :
    (do
      let flight ← p.field "bookingOutboundFlightId"
      let _ ← Direct.releaseSeat (← Direct.flightsOf s) flight : Flow Unit).Ensures (Stores true) tables
      (fun _ after => route.Balanced (free + taken) after) fun _ after => route.Balanced (free + taken) after := by
  refine ensures_lift_bind (fun flight read => ?_) fun e missing => ?_
  · have share : route.share flight = (isFor route.flight item).toNat := share_of_plain plain read
    have others := counts.taken_nonneg
    have given : ∀ {after}, route.Counts after (free + route.share flight)
        (taken - (isFor route.flight item).toNat) → route.Balanced (free + taken) after :=
      fun now => ⟨_, _, now, by omega, by omega⟩
    rw [serves.flights]
    exact ((ensures_releaseSeat counts low flight (by omega)).mono (fun _ _ => given) fun _ _ => given).bind
      fun _ _ balanced => ensures_done balanced
  · rw [isFor_of_missing plain missing, Bool.toNat_false, Nat.cast_zero, sub_zero] at counts
    exact ⟨free, taken, counts, low, rfl⟩

lemma balanced_cancel (serves : route.Serves s) (most : total ≤ route.maximum)
    (balanced : route.Balanced total tables) (current : route.Current tables event) :
    (Direct.cancel s event).Ensures (Stores true) tables (fun _ after => route.Balanced total after)
      fun _ after => route.Balanced total after := by
  refine Direct.ensures_withOwnBooking balanced fun table id item p named own plain => ?_
  obtain rfl := Except.ok.inj (serves.bookings.symm.trans named)
  refine ((Direct.ensures_changeStatus named own.kept ⟨p, plain⟩).mono (fun _ _ done => done)
    fun _ _ same => same.1 ▸ balanced).bind ?_
  rintro _ _ ⟨item', restated, rfl⟩
  obtain ⟨free, taken, counts, low, rfl⟩ := balanced
  have counts := counts.restate own.kept restated
  rw [isLive_of_current current own, bne_self_eq_false, Bool.and_false, Bool.toNat_false, Nat.cast_zero,
    add_zero] at counts
  refine ((balanced_release serves low most plain counts).orPrint (fun _ _ balanced _ => balanced)
    fun _ _ balanced _ => balanced).bind fun _ after balanced => ensures_of_reading ?_ balanced
  refine .bind (.orPrint ?_) fun _ => ?_
  · exact within_lift_bind fun _ _ => fun _ => ⟨trivial, trivial⟩
  · exact (Direct.within_notify fun _ reading => reading).bind fun _ => within_respond _ _

/-! ### Booking -/

/-- A flow that leaves the seats and the bookings in balance, unless it is stopped. -/
abbrev KeepsBalance (route : Route) (total : ℤ) (flow : Flow Value) (tables : Tables Place) : Prop :=
  flow.Ensures (Stores true) tables (fun _ after => route.Balanced total after)
    fun e after => e.isInterrupt = true ∨ route.Balanced total after

lemma keepsBalance_of_reading (reads : flow.Within Exchange.IsReading)
    (balanced : route.Balanced total tables) : route.KeepsBalance total flow tables :=
  (ensures_of_reading reads balanced).mono (fun _ _ kept => kept) fun _ _ kept => .inr kept

lemma keepsBalance_answered (body : route.KeepsBalance total flow tables) :
    route.KeepsBalance total (Direct.answered flow) tables :=
  body.attempt (fun _ _ _ stop => .inl stop) fun _ _ kept go =>
    keepsBalance_of_reading (within_respond _ _) (kept.resolve_left (by simp [go]))

lemma ensures_undoSeat (serves : route.Serves s) (low : 0 ≤ free)
    (most : free + route.share flight ≤ route.maximum) (counts : route.Counts tables free taken) :
    (Direct.undoSeat s flight).Ensures (Stores true) tables
      (fun _ after => route.Counts after (free + route.share flight) taken) (fun e _ => e.isInterrupt = true) := by
  have body : (do
        let _ ← (do Direct.releaseSeat (← Direct.flightsOf s) flight) : Flow Unit).Ensures (Stores true) tables
      (fun _ after => route.Counts after (free + route.share flight) taken)
      (fun _ after => route.Counts after (free + route.share flight) taken) := by
    rw [serves.flights]
    exact (ensures_releaseSeat counts low flight most).bind fun _ _ now => ensures_done now
  exact body.orPrint (fun _ _ now _ => now) fun _ _ _ stop => stop

/-- The counts while a booking for a flight is there that was made and not changed since. -/
def Holds (route : Route) (id flight : String) (free taken : ℤ) (tables : Tables Place) : Prop :=
  route.Counts tables free taken ∧
    ∃ item, tables (route.bookings, id) = some item ∧ IsBooking flight "UNCONFIRMED" item

section

variable {id flight : String}

lemma holds_reserveBooking {body : Value} (serves : route.Serves s) (counts : route.Counts tables free taken)
    (given : body.field "outboundFlightId" = .ok (.text flight))
    (modest : ∀ name ∈ ["stateExecutionId", "customerId", "chargeId"], ∀ v,
      body.field name = .ok v → v.IsModest) :
    (Direct.reserveBooking s body).Ensures (Stores true) tables
      (fun id after => route.Holds id flight free (taken + route.share (.text flight)) after)
      (fun _ after => after = tables) := by
  refine (Direct.ensures_reserveBooking serves.bookings given modest).mono ?_ fun _ _ same => same
  rintro id _ ⟨unused, item, booking, rfl⟩
  refine ⟨?_, item, update_self .., booking⟩
  have counts := counts.keep id item
  rw [unused, isLive_of_isBooking booking] at counts
  simpa [share] using counts

lemma holds_restated {status : String} {item item' : Fields} (counts : route.Counts tables free taken)
    (kept : tables (route.bookings, id) = some item) (booking : IsBooking flight "UNCONFIRMED" item)
    (restated : Restated status item item') :
    route.Counts (update tables (route.bookings, id) (some item')) free
      (taken + (isText route.flight (.text flight) && status != "CANCELLED").toNat -
        route.share (.text flight)) := by
  have counts := counts.restate kept restated
  rw [isLive_of_isBooking booking, isFor_of_isBooking booking] at counts
  simpa [share] using counts

lemma ensures_undoBooking (serves : route.Serves s) (holds : route.Holds id flight free taken tables) :
    (Direct.undoBooking s id).Ensures (Stores true) tables
      (fun _ after => route.Counts after free (taken - route.share (.text flight)))
      (fun e _ => e.isInterrupt = true) := by
  obtain ⟨counts, item, kept, booking⟩ := holds
  have body : (do let _ ← Direct.cancelBooking s (.text id) : Flow Unit).Ensures (Stores true) tables
      (fun _ after => route.Counts after free (taken - route.share (.text flight)))
      (fun e _ => e.isInterrupt = true) := by
    refine ((Direct.ensures_cancelBooking serves.bookings kept booking.legible).mono ?_ ?_).bind
      fun _ _ now => ensures_done now
    · rintro _ _ ⟨item', restated, rfl⟩
      simpa using holds_restated counts kept booking restated
    · exact fun _ _ failed => failed.2.resolve_right booking.named
  exact body.orPrint (fun _ _ stop go => absurd stop (by simp [go])) fun _ _ stop _ => stop

lemma ensures_confirmation (serves : route.Serves s) (holds : route.Holds id flight free taken tables) :
    (Direct.confirmBooking s (.text id)).Ensures (Stores true) tables
      (fun _ after => route.Counts after free taken) (fun e _ => e.isInterrupt = true) := by
  obtain ⟨counts, item, kept, booking⟩ := holds
  refine (Direct.ensures_confirmBooking serves.bookings kept booking.legible).mono ?_ ?_
  · rintro _ _ ⟨item', restated, rfl⟩
    simpa [share] using holds_restated counts kept booking restated
  · exact fun _ _ failed => failed.2.resolve_right booking.named

end

/-- A booking takes a seat and adds a booking, or neither, unless it is stopped. -/
lemma balanced_book {body charge : Value} (serves : route.Serves s) (most : total ≤ route.maximum)
    (balanced : route.Balanced total tables) (given : body.field "outboundFlightId" = .ok flight)
    (modest : ∀ name ∈ ["stateExecutionId", "customerId", "chargeId"], ∀ v,
      body.field name = .ok v → v.IsModest) :
    route.KeepsBalance total (Direct.book s body flight charge) tables := by
  obtain ⟨free, taken, counts, low, rfl⟩ := balanced
  have positive := counts.taken_nonneg
  have seat : (do reserveSeat (← Direct.flightsOf s) flight : Flow Value).Ensures (Stores true) tables
      (fun _ after => (∃ text, flight = .text text) ∧ route.share flight ≤ free ∧
        route.Counts after (free - route.share flight) taken)
      (fun _ after => after = tables) := by
    rw [serves.flights]
    exact ensures_reserveSeat counts low (by omega) flight
  refine seat.outcome_bind ?_ ?_ ?_
  · rintro _ tables ⟨⟨flight, rfl⟩, enough, counts⟩
    have undo : ∀ {tables}, route.Counts tables (free - route.share (.text flight)) taken →
        ∀ {status what step e more}, route.KeepsBalance (free + taken) (do
          Direct.undoSeat s (.text flight)
          Direct.failedStep status what step e more) tables := by
      intro tables counts status what step e more
      refine ((ensures_undoSeat serves (by omega) (by omega) counts).mono (fun _ _ now => now)
        fun _ _ stop => .inl stop).bind fun _ _ now => keepsBalance_of_reading (within_respond _ _) ?_
      exact ⟨_, _, now, by omega, by omega⟩
    refine (holds_reserveBooking serves counts given modest).outcome_bind ?_ ?_ ?_
    · intro id tables holds
      cases Direct.simulatePayment charge with
      | error e =>
        refine ((ensures_undoBooking serves holds).mono (fun _ _ now => now) fun _ _ stop => .inl stop).bind ?_
        intro _ _ counts
        rw [add_sub_cancel_right] at counts
        exact undo counts
      | ok payment =>
        refine (ensures_confirmation serves holds).outcome_bind ?_ (fun _ _ stop go => absurd stop (by simp [go]))
          fun _ _ stop _ => .inl stop
        intro reference tables counts
        refine keepsBalance_of_reading (Direct.within_conclude fun _ reading => reading) ?_
        exact ⟨_, _, counts, by omega, by omega⟩
    · rintro e tables rfl _
      exact undo counts
    · rintro e tables rfl stop
      exact .inl stop
  · rintro e tables rfl _
    exact keepsBalance_of_reading (within_respond _ _) ⟨free, taken, counts, low, rfl⟩
  · exact fun _ _ _ stop => .inl stop

end Route

/-! ### Requests -/

/-- The functions that make, cancel and confirm bookings. -/
inductive PurchaseFunction where
  | create
  | cancel
  | confirm
  deriving DecidableEq, Repr

def PurchaseFunction.handler : PurchaseFunction → Handler
  | create => Direct.handler Direct.createBooking
  | cancel => Direct.handler Direct.cancel
  | confirm => Direct.handler Direct.confirm

/-- A request that makes, cancels or confirms a booking. -/
structure Purchase where
  function : PurchaseFunction
  setting : Setting
  event : Value
  context : Value

def Purchase.flow (r : Purchase) : Flow Value := r.function.handler.handle r.setting r.event r.context

/-- Requests that are allowed and answered, one after another, and what a reliable store keeps before and
after them. -/
inductive Answered (allowed : Tables Place → Purchase → Prop) : Tables Place → List Purchase → Tables Place → Prop
  | none (tables : Tables Place) : Answered allowed tables [] tables
  | next {tables tables' tables'' : Tables Place} {r : Purchase} {requests : List Purchase} {answer : Value} :
      allowed tables r → Runs (Stores true) r.flow tables (.ok answer) tables' →
      Answered allowed tables' requests tables'' → Answered allowed tables (r :: requests) tables''

/-- An order of which all that is stored can be read again. -/
structure IsModestOrder (event : Value) : Prop where
  user : ∀ user, claimedUser event = .ok user → user.IsModest
  body : ∀ body, Direct.bodyOf event = .ok body → ∀ name ∈ ["stateExecutionId", "chargeId"], ∀ v,
    body.field name = .ok v → v.IsModest

namespace Route

/-- A request on the tables of the route, that does not change a booking of the flight that is cancelled, or
orders what can be read again. -/
structure Allows (route : Route) (tables : Tables Place) (r : Purchase) : Prop where
  serves : route.Serves r.setting
  modest : r.function = .create → IsModestOrder r.event
  current : r.function ≠ .create → route.Current tables r.event

variable {route : Route} {s : Setting} {tables : Tables Place} {event : Value} {total : ℤ}

lemma isModest_of_order {user body order : Value} (modest : IsModestOrder event)
    (claimed : Direct.userOf event = .ok user) (read : Direct.bodyOf event = .ok body)
    (set : body.withField "customerId" user = .ok order) :
    ∀ name ∈ ["stateExecutionId", "customerId", "chargeId"], ∀ v, order.field name = .ok v → v.IsModest := by
  intro name mem v found
  cases body with
  | map fs =>
    cases set
    obtain ⟨_, ⟨⟩, found⟩ := field_eq_ok found
    by_cases customer : name = "customerId"
    · subst customer
      rw [lookup_put_self] at found
      exact Option.some.inj found ▸ modest.user user (Direct.claimedUser_of_userOf claimed)
    · rw [lookup_put_of_ne customer] at found
      refine modest.body _ read name ?_ v (field_of_lookup found)
      simpa [customer] using mem
  | _ => cases set

lemma balanced_create (serves : route.Serves s) (most : total ≤ route.maximum)
    (balanced : route.Balanced total tables) (modest : IsModestOrder event) :
    route.KeepsBalance total (Direct.createBooking s event) tables := by
  have answers : ∀ {status content}, route.KeepsBalance total (respond status content) tables :=
    keepsBalance_of_reading (within_respond _ _) balanced
  refine keepsBalance_answered ?_
  refine ensures_lift_bind (fun user claimed => ?_) fun _ _ => .inr balanced
  refine ensures_lift_bind (fun body read => ?_) fun _ _ => .inr balanced
  split_ifs
  · exact answers
  refine ensures_lift_bind (fun order set => ?_) fun _ _ => .inr balanced
  refine ensures_lift_bind (fun missing _ => ?_) fun _ _ => .inr balanced
  cases missing with
  | some name => exact answers
  | none =>
    refine ensures_lift_bind (fun flight given => ?_) fun _ _ => .inr balanced
    refine ensures_lift_bind (fun charge _ => ?_) fun _ _ => .inr balanced
    exact balanced_book serves most balanced given (isModest_of_order modest claimed read set)

/-- A request that is answered leaves the seats and the bookings in balance. -/
lemma Allows.balanced {r : Purchase} {answer : Value} {tables' : Tables Place} (allowed : route.Allows tables r)
    (most : total ≤ route.maximum) (balanced : route.Balanced total tables)
    (run : Runs (Stores true) r.flow tables (.ok answer) tables') : route.Balanced total tables' := by
  obtain ⟨function, s, event, context⟩ := r
  obtain ⟨serves, modest, current⟩ := allowed
  cases function with
  | create => exact (balanced_create serves most balanced (modest rfl)).result run
  | cancel => exact (balanced_cancel serves most balanced (current (by simp))).result run
  | confirm => exact (balanced_confirm serves balanced (current (by simp))).result run

end Route

/-- Over every sequence of requests that make, cancel and confirm bookings and are answered, the free seats of
a flight and its live bookings together stay as many as they were, as long as no request cancels or confirms
a booking of the flight that is cancelled already. -/
theorem free_seats_and_live_bookings_balance {route : Route} {tables tables' : Tables Place}
    {requests : List Purchase} {free : ℤ} (answered : Answered route.Allows tables requests tables')
    (seats : HasSeats tables route.place free route.maximum) (low : 0 ≤ free)
    (legible : ∃ item p, tables route.place = some item ∧ (map item).plain = .ok p)
    (finite : (route.live tables).Finite) (fits : free + (route.live tables).ncard ≤ route.maximum) :
    ∃ free', HasSeats tables' route.place free' route.maximum ∧ 0 ≤ free' ∧ (route.live tables').Finite ∧
      free' + (route.live tables').ncard = free + (route.live tables).ncard := by
  have balanced : route.Balanced (free + (route.live tables).ncard) tables :=
    ⟨free, _, ⟨seats, legible, finite, rfl⟩, low, rfl⟩
  have kept : route.Balanced (free + (route.live tables).ncard) tables' := by
    generalize free + ((route.live tables).ncard : ℤ) = total at balanced fits
    clear seats legible finite
    induction answered with
    | none => exact balanced
    | next allowed run _ ih => exact ih (allowed.balanced fits balanced run)
  obtain ⟨free', taken, counts, low', sum⟩ := kept
  exact ⟨free', counts.seats, low', counts.finite, by rw [counts.bookings, sum]⟩

/-! ### A flight with two seats -/

def twoSeats (free : ℤ) : Fields :=
  [("id", .text "F1"), ("seatCapacity", .int free), ("maximumSeating", .int 2)]

def twoSeatRoute : Route where
  flights := "flights"
  bookings := "bookings"
  flight := "F1"
  maximum := 2
  apart := by decide
  small := by norm_num [Number.Decimal.precision]

def twoSeatStore (free : ℤ) (booking : Option Fields) : Tables Place :=
  update (update (fun _ => none) ("flights", "F1") (some (twoSeats free))) ("bookings", "B1")
    booking

section

variable {free : ℤ} {booking : Option Fields}

lemma twoSeatStore_booking : twoSeatStore free booking ("bookings", "B1") = booking := update_self ..

lemma twoSeatStore_flight : twoSeatStore free booking ("flights", "F1") = some (twoSeats free) := rfl

lemma update_booking (booking booking' : Option Fields) :
    update (twoSeatStore free booking) ("bookings", "B1") booking' = twoSeatStore free booking' :=
  update_idem ..

lemma update_flight (free free' : ℤ) :
    update (twoSeatStore free booking) ("flights", "F1") (some (twoSeats free')) =
      twoSeatStore free' booking := by
  rw [twoSeatStore, update_comm (by decide), update_idem]
  rfl

lemma hasSeats_twoSeatStore : HasSeats (twoSeatStore free booking) twoSeatRoute.place free 2 :=
  ⟨_, twoSeatStore_flight, rfl, rfl⟩

lemma live_twoSeatStore :
    twoSeatRoute.live (twoSeatStore free booking) = if booking.any (isLive "F1") then {"B1"} else ∅ := by
  ext id
  by_cases here : id = "B1"
  · subst here
    rw [Route.live, Set.mem_ofPred_eq, twoSeatRoute, twoSeatStore_booking]
    split_ifs with now <;> simp [now]
  · have none : twoSeatStore free booking ("bookings", id) = none := by
      simp [twoSeatStore, here]
    rw [Route.live, Set.mem_ofPred_eq, twoSeatRoute, none]
    split_ifs <;> simp [here]

variable {reliable : Bool}

lemma stores_seats {free' : ℤ} {operand : Service.Operand} {condition : Condition}
    (gives : operand.Gives (twoSeats free) (.int free')) (holds : condition.Holds (twoSeats free)) :
    Stores reliable (twoSeatStore free booking)
      (.called (.table "flights" (.update (key (.text "F1")) ⟨[], [⟨"seatCapacity", none, operand⟩]⟩
        (some condition) .updatedNew)) (.ok .null))
      (twoSeatStore free' booking) := by
  have located : place? "flights" (key (.text "F1")) = some ("flights", "F1") := rfl
  rw [← update_flight free free']
  refine .update located ?_ ?_ ?_ ?_
  · rintro _ ⟨⟩
    exact holds
  · exact turns_putSeats gives
  · simp [twoSeats]
  · exact fun other => nomatch other

lemma stores_takeSeat (left : 0 < free) :
    Stores reliable (twoSeatStore free booking) (.called (.table "flights" (takeSeat (.text "F1"))) (.ok .null))
      (twoSeatStore (free - 1) booking) :=
  stores_seats ⟨_, _, rfl, rfl, congrArg some (by push_cast; rfl)⟩
    ⟨⟨_, _, rfl, rfl, by exact_mod_cast left⟩, Option.some_ne_none _⟩

lemma stores_returnSeat (taken : free < 2) :
    Stores reliable (twoSeatStore free booking)
      (.called (.table "flights" (returnSeat (.text "F1") (.int 2))) (.ok .null))
      (twoSeatStore (free + 1) booking) :=
  stores_seats ⟨_, _, rfl, rfl, congrArg some (by push_cast; rfl)⟩ ⟨_, _, rfl, rfl, by exact_mod_cast taken⟩

end

def twoSeatSetting : Setting := ⟨[("BOOKING_TABLE", "bookings"), ("FLIGHT_TABLE", "flights")], default, []⟩

def seatBooking (status : String) (reference : Value) : Fields :=
  [("id", .text "B1"), ("stateExecutionId", .text ""), ("__typename", .text "Booking"),
    ("bookingOutboundFlightId", .text "F1"), ("checkedIn", .bool false), ("customer", .text "u1"),
    ("paymentToken", .text "c1"), ("status", .text status), ("createdAt", twoSeatSetting.stamp),
    ("bookingReference", reference)]

def seatPurchase (function : PurchaseFunction) : Purchase where
  function := function
  setting := twoSeatSetting
  event := .map [("requestContext", .map [("authorizer", .map [("claims", .map [("sub", .text "u1")])])]),
    ("pathParameters", .map [("booking_id", .text "B1")]),
    ("body", .text "\x7b\"outboundFlightId\":\"F1\",\"chargeId\":\"c1\"\x7d")]
  context := .null

section

variable {free : ℤ} {status : String} {reference : Value}

lemma stores_status (now : String) (given : Option String) :
    Stores true (twoSeatStore free (some (seatBooking status reference)))
      (.called (.table "bookings" (Direct.setStatus (.text "B1") now given))
        (.ok (.map [("Attributes", .map (withStatus now given (seatBooking status reference)))])))
      (twoSeatStore free (some (seatBooking now (given.elim reference .text)))) := by
  have same : twoSeatStore free (some (seatBooking now (given.elim reference .text))) =
      update (twoSeatStore free (some (seatBooking status reference))) ("bookings", "B1")
        (some (withStatus now given (seatBooking status reference))) := by
    rw [update_booking]
    cases given <;> rfl
  have named : lookup "id" (seatBooking status reference) ≠ none := Option.some_ne_none _
  rw [same]
  exact stores_setStatus twoSeatStore_booking named (by simp [seatBooking])

lemma runs_cancel (free : ℤ) (status : String) (taken : free < 2) :
    ∃ answer, Runs (Stores true) (seatPurchase .cancel).flow
      (twoSeatStore free (some (seatBooking status (.text "r")))) (.ok answer)
      (twoSeatStore (free + 1) (some (seatBooking "CANCELLED" (.text "r")))) := by
  refine ⟨_, .of_told (rfl : told _
    [.reply (.ok (.map [("Item", .map (seatBooking status (.text "r")))])),
      .reply (.ok (.map [("Attributes", .map (withStatus "CANCELLED" none (seatBooking status (.text "r"))))])),
      .reply (.ok (.map [("Item", .map (twoSeats free))])), .reply (.ok .null), .text "t", .reply (.ok .null)] =
        some (.ok _, _)) ?_⟩
  exact .cons (stores_get twoSeatStore_booking) (.cons (stores_status _ _) (.cons (stores_get twoSeatStore_flight)
    (.cons (stores_returnSeat taken) (.cons (.made (by simp)) (.cons .client (.nil _))))))

lemma runs_confirm (free : ℤ) (status : String) :
    ∃ answer, Runs (Stores true) (seatPurchase .confirm).flow
      (twoSeatStore free (some (seatBooking status (.text "r")))) (.ok answer)
      (twoSeatStore free (some (seatBooking "CONFIRMED" (.text "r")))) := by
  refine ⟨_, .of_told (rfl : told _
    [.reply (.ok (.map [("Item", .map (seatBooking status (.text "r")))])),
      .reply (.ok (.map [("Item", .map (seatBooking status (.text "r")))])), .text "r",
      .reply (.ok (.map [("Attributes", .map (withStatus "CONFIRMED" (some "r") (seatBooking status (.text "r"))))])),
      .reply (.ok .null)] = some (.ok _, _)) ?_⟩
  exact .cons (stores_get twoSeatStore_booking) (.cons (stores_get twoSeatStore_booking) (.cons (.made (by simp))
    (.cons (stores_status _ _) (.cons .client (.nil _)))))

lemma body_seatPurchase : Direct.bodyOf (seatPurchase .create).event =
    .ok (.map [("outboundFlightId", .text "F1"), ("chargeId", .text "c1")]) := by
  cbv

lemma stores_booking :
    Stores true (twoSeatStore free none)
      (.called (.table "bookings" (.put (seatBooking "UNCONFIRMED" .null) none)) (.ok .null))
      (twoSeatStore free (some (seatBooking "UNCONFIRMED" .null))) := by
  have located : place? "bookings" (seatBooking "UNCONFIRMED" .null) = some ("bookings", "B1") := rfl
  rw [← update_booking none (some _)]
  exact .put located (by simp) (.same _)

lemma runs_create (free : ℤ) (left : 0 < free) :
    ∃ answer, Runs (Stores true) (seatPurchase .create).flow (twoSeatStore free none) (.ok answer)
      (twoSeatStore (free - 1) (some (seatBooking "CONFIRMED" (.text "r")))) := by
  have flow : (seatPurchase .create).flow = Direct.createBooking twoSeatSetting (seatPurchase .create).event := rfl
  have unused : ∀ table, twoSeatStore (free - 1) none (table, "B1") = none := by
    simp [twoSeatStore, update_apply]
  rw [flow, Direct.createBooking, body_seatPurchase]
  refine ⟨_, .of_told (rfl : told _
    [.reply (.ok .null), .text "B1", .reply (.ok .null),
      .reply (.ok (.map [("Item", .map (seatBooking "UNCONFIRMED" .null))])), .text "r",
      .reply (.ok (.map [("Attributes", .map (withStatus "CONFIRMED" (some "r") (seatBooking "UNCONFIRMED" .null)))])),
      .reply (.ok .null), .reply (.ok .null)] = some (.ok _, _)) ?_⟩
  exact .cons (stores_takeSeat left) (.cons (.made fun _ => unused) (.cons stores_booking
    (.cons (stores_get twoSeatStore_booking) (.cons (.made (by simp)) (.cons (stores_status _ _)
      (.cons .client (.cons .client (.nil _))))))))

lemma serves_twoSeatSetting : twoSeatRoute.Serves twoSeatSetting := ⟨rfl, rfl⟩

lemma allows_create {tables : Tables Place} : twoSeatRoute.Allows tables (seatPurchase .create) := by
  refine ⟨serves_twoSeatSetting, fun _ => ⟨?_, ?_⟩, fun other => absurd rfl other⟩
  · rintro _ ⟨⟩
    exact isModest_text "u1"
  · intro body read name mem v found
    obtain rfl := Except.ok.inj (body_seatPurchase.symm.trans read)
    rcases List.mem_pair.1 mem with rfl | rfl
    · cases found
    · cases found
      exact isModest_text "c1"

lemma allows_change {function : PurchaseFunction} (other : function ≠ .create) (live : status ≠ "CANCELLED") :
    twoSeatRoute.Allows (twoSeatStore free (some (seatBooking status reference))) (seatPurchase function) := by
  refine ⟨serves_twoSeatSetting, fun same => absurd same other, fun _ id item own _ => ?_⟩
  obtain ⟨⟨⟩, kept, -⟩ := own
  obtain rfl := Option.some.inj (twoSeatStore_booking.symm.trans kept)
  have found : lookup "status" (seatBooking status reference) = some (.text status) := rfl
  simp [found, live]

end

/-- The flight is booked, the booking confirmed once more, and cancelled. -/
theorem free_seats_and_live_bookings_balance_twoSeats :
    ∃ tables, Answered twoSeatRoute.Allows (twoSeatStore 2 none)
        ([.create, .confirm, .cancel].map seatPurchase) tables ∧
      ∃ free, HasSeats tables twoSeatRoute.place free 2 ∧ free + (twoSeatRoute.live tables).ncard = 2 := by
  obtain ⟨_, booked⟩ := runs_create 2 (by decide)
  obtain ⟨_, confirmed⟩ := runs_confirm (2 - 1) "CONFIRMED"
  obtain ⟨_, cancelled⟩ := runs_cancel (2 - 1) "CONFIRMED" (by decide)
  have answered := Answered.next allows_create booked (.next (allows_change (by decide) (by decide)) confirmed
    (.next (allows_change (by decide) (by decide)) cancelled (.none _)))
  have empty : twoSeatRoute.live (twoSeatStore 2 none) = ∅ := live_twoSeatStore
  obtain ⟨free, seats, -, -, sum⟩ := free_seats_and_live_bookings_balance answered hasSeats_twoSeatStore
    (by decide) ⟨_, _, twoSeatStore_flight, rfl⟩ (by rw [empty]; exact Set.finite_empty)
    (by rw [empty, Set.ncard_empty]; decide)
  rw [empty, Set.ncard_empty] at sum
  exact ⟨_, answered, free, seats, sum⟩

/-- The customer of a booking cancels it twice, or cancels it and then confirms it: there is one seat too much,
or one booking. -/
theorem cancelled_booking_upsets_balance :
    let start := twoSeatStore 0 (some (seatBooking "CONFIRMED" (.text "r")))
    let answered := Answered fun _ r => twoSeatRoute.Serves r.setting
    (HasSeats start twoSeatRoute.place 0 2 ∧ (twoSeatRoute.live start).ncard = 1) ∧
      (∃ tables, answered start ([.cancel, .cancel].map seatPurchase) tables ∧
        HasSeats tables twoSeatRoute.place 2 2 ∧ (twoSeatRoute.live tables).ncard = 0) ∧
      ∃ tables, answered start ([.cancel, .confirm].map seatPurchase) tables ∧
        HasSeats tables twoSeatRoute.place 1 2 ∧ (twoSeatRoute.live tables).ncard = 1 := by
  have one : ∀ free,
      (twoSeatRoute.live (twoSeatStore free (some (seatBooking "CONFIRMED" (.text "r"))))).ncard = 1 := by
    intro free
    rw [live_twoSeatStore]
    exact Set.ncard_singleton "B1"
  obtain ⟨_, first⟩ := runs_cancel 0 "CONFIRMED" (by decide)
  obtain ⟨_, again⟩ := runs_cancel 1 "CANCELLED" (by decide)
  obtain ⟨_, confirmed⟩ := runs_confirm 1 "CANCELLED"
  refine ⟨⟨hasSeats_twoSeatStore, one 0⟩,
    ⟨twoSeatStore 2 (some (seatBooking "CANCELLED" (.text "r"))), ?_, ?_, ?_⟩,
    ⟨twoSeatStore 1 (some (seatBooking "CONFIRMED" (.text "r"))), ?_, ?_, one 1⟩⟩
  · exact .next serves_twoSeatSetting first (.next serves_twoSeatSetting again (.none _))
  · exact hasSeats_twoSeatStore
  · rw [live_twoSeatStore]
    exact Set.ncard_empty String
  · exact .next serves_twoSeatSetting first (.next serves_twoSeatSetting confirmed (.none _))
  · exact hasSeats_twoSeatStore

end Unbundle.Airline
