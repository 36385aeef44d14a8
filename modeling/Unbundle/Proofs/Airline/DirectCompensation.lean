import Unbundle.Proofs.Airline.StoredBookings

/-!
# What a failed booking undoes

All that a booking exchanges is the exchanges of its four steps, of the steps that undo them and, last, of
messages to other functions. This log tells what had to be undone and what was.
-/

open List Unbundle.Value

namespace Unbundle.Airline.Direct

open Service

variable {α : Type}

/-! ### Steps -/

/-- A step of a booking, or one that undoes another. -/
inductive Step where
  | seat (flight : Value)
  | booking (body : Value)
  | confirmation (id : String)
  | refund
  | cancellation (id : String)
  | release (flight : Value)

def Step.undoes : Step → Bool
  | .seat _ | .booking _ | .confirmation _ => false
  | .refund | .cancellation _ | .release _ => true

def Ran (flow : Flow α) (succeeded : Bool) (record : List Exchange) : Prop :=
  ∃ outcome, Flow.Runs Recorded flow [] outcome record ∧ outcome.isOk = succeeded

def Step.Went (s : Setting) : Step → Bool → List Exchange → Prop
  | .seat flight => Ran do reserveSeat (← flightsOf s) flight
  | .booking body => Ran (reserveBooking s body)
  | .confirmation id => Ran (confirmBooking s (.text id))
  | .refund => Ran simulateRefund
  | .cancellation id => Ran (cancelBooking s (.text id))
  | .release flight => Ran do releaseSeat (← flightsOf s) flight

/-- A step, how it ended, and what was exchanged in it. -/
structure Entry where
  step : Step
  succeeded : Bool
  record : List Exchange

/-- A record that consists of the steps of a log. -/
structure Logged (s : Setting) (log : List Entry) (record : List Exchange) : Prop where
  went : ∀ entry ∈ log, entry.step.Went s entry.succeeded entry.record
  whole : record = log.flatMap Entry.record

def undone (log : List Entry) : List Step := (log.map Entry.step).filter Step.undoes

def attempted (log : List Entry) : List Step := (log.map Entry.step).filter (!·.undoes)

/-- A refund for each confirmation that failed. -/
def refunds (log : List Entry) : List Step :=
  log.filterMap fun
    | ⟨.confirmation _, false, _⟩ => some .refund
    | _ => none

/-! ### Changes that have to be undone -/

/-- What undoes a change that was accepted: a seat that was taken is released, a booking that was stored is
cancelled. -/
def undoing? : Exchange → Option Step
  | .called (.table _ (.update [("id", flight)] ⟨_, [⟨_, _, .minus _ _⟩]⟩ _ _)) (.ok _) => some (.release flight)
  | .called (.table _ (.put (("id", .text id) :: _) _)) (.ok _) => some (.cancellation id)
  | _ => none

lemma undoing?_of_isReading (x : Exchange) (reading : x.IsReading) : undoing? x = none := by
  unfold undoing?
  split
  · exact reading.elim
  · exact reading.elim
  · rfl

/-- What undoes the changes that were accepted, in the order of the changes. -/
def effects (record : List Exchange) : List Step := record.filterMap undoing?

/-- A log of a record, and what undoes the changes in it. -/
structure Stands (s : Setting) (log : List Entry) (changes : List Step) (record : List Exchange) : Prop where
  logged : Logged s log record
  effects_eq : effects record = changes

section

variable {flow : Flow α} {s : Setting} {log : List Entry} {changes : List Step}
  {record : List Exchange}

lemma ensures_entered (step : Step) (own : ∀ succeeded record, Ran flow succeeded record →
    step.Went s succeeded record) (logged : Logged s log record) {gained : α → List Step} {lost : List Step}
    (counted : flow.Ensures Recorded record (fun a after => effects after = gained a)
      (fun _ after => effects after = lost)) :
    flow.Ensures Recorded record
      (fun a after => ∃ part, Stands s (log ++ [⟨step, true, part⟩]) (gained a) after)
      (fun _ after => ∃ part, Stands s (log ++ [⟨step, false, part⟩]) lost after) := by
  have entered : ∀ outcome after, Flow.Runs Recorded flow record outcome after →
      ∃ part, Logged s (log ++ [⟨step, outcome.isOk, part⟩]) after := by
    intro outcome after run
    obtain ⟨part, rfl, alone⟩ := run.exists_append
    refine ⟨part, fun entry mem => ?_, by simp [logged.whole]⟩
    rcases mem_append.1 mem with mem | mem
    · exact logged.went entry mem
    · obtain rfl := mem_singleton.1 mem
      exact own _ _ ⟨outcome, alone, rfl⟩
  constructor
  · intro a after run
    obtain ⟨part, logged⟩ := entered _ after run
    exact ⟨part, logged, counted.result run⟩
  · intro e after run
    obtain ⟨part, logged⟩ := entered _ after run
    exact ⟨part, logged, counted.fault run⟩

lemma effects_append {x : Exchange} : effects (record ++ [x]) = effects record ++ (undoing? x).toList := by
  rw [effects, filterMap_append, ← effects]
  cases found : undoing? x <;> simp [found]

lemma ensures_effects (within : flow.Within fun x => undoing? x = none) (same : effects record = changes) :
    flow.Ensures Recorded record (fun _ after => effects after = changes)
      (fun _ after => effects after = changes) := by
  refine within.ensures ?_ same
  rintro before x _ none rfl same
  rw [effects_append, none, same]
  exact changes.append_nil

lemma ensures_idle (step : Step) (own : ∀ succeeded record, Ran flow succeeded record →
    step.Went s succeeded record) (within : flow.Within fun x => undoing? x = none)
    (stands : Stands s log changes record) :
    flow.Ensures Recorded record
      (fun _ after => ∃ part, Stands s (log ++ [⟨step, true, part⟩]) changes after)
      (fun _ after => ∃ part, Stands s (log ++ [⟨step, false, part⟩]) changes after) :=
  ensures_entered step own stands.logged (ensures_effects within stands.effects_eq)

def Tried (s : Setting) (log : List Entry) (step : Step) (changes : List Step) (record : List Exchange) :
    Prop :=
  ∃ succeeded part, Stands s (log ++ [⟨step, succeeded, part⟩]) changes record

lemma ensures_undo (step : Step) {sentence : String}
    (own : ∀ succeeded record, Ran flow succeeded record → step.Went s succeeded record)
    (within : flow.Within fun x => undoing? x = none) (stands : Stands s log changes record) :
    (undo sentence flow).Ensures Recorded record (fun _ after => Tried s log step changes after)
      (fun e _ => e.isInterrupt = true) := by
  have body : (do let _ ← flow : Flow Unit).Ensures Recorded record
      (fun _ after => Tried s log step changes after) (fun _ after => Tried s log step changes after) := by
    have made : flow.Ensures Recorded record (fun _ after => Tried s log step changes after)
        (fun _ after => Tried s log step changes after) :=
      (ensures_idle step own within stands).mono (fun _ _ h => ⟨true, h⟩) fun _ _ h => ⟨false, h⟩
    exact made.bind fun _ _ tried => ensures_done tried
  exact body.orPrint (fun _ _ tried _ => tried) fun _ _ _ stop => stop

end

/-! ### The single steps -/

section

variable {s : Setting} {log : List Entry} {changes : List Step} {record : List Exchange}

lemma ensures_seat {flight : Value} (stands : Stands s log changes record) :
    (do reserveSeat (← flightsOf s) flight : Flow Value).Ensures Recorded record
      (fun _ after => ∃ part, Stands s (log ++ [⟨.seat flight, true, part⟩]) (changes ++ [.release flight]) after)
      (fun _ after => ∃ part, Stands s (log ++ [⟨.seat flight, false, part⟩]) changes after) := by
  refine ensures_entered (.seat flight) (fun _ _ ran => ran) stands.logged ?_
  refine ensures_lift_bind (fun table _ => ?_) fun _ _ => stands.effects_eq
  have taken : (Flow.ask table (takeSeat flight)).Ensures Recorded record
      (fun _ after => effects after = changes ++ [.release flight])
      (fun _ after => effects after = changes) := by
    refine ensures_invoke ?_ ?_
    · rintro reply _ rfl
      rw [effects_append, stands.effects_eq]
      rfl
    · rintro e _ rfl
      rw [effects_append, stands.effects_eq]
      exact changes.append_nil
  refine (taken.bind fun _ _ same => ensures_done same).attempt (fun _ _ same _ => same) ?_
  intro e after same _
  split_ifs <;> exact ensures_fail same

lemma storableFields_text_cons {name text : String} {fs item : Fields}
    (h : storableFields ((name, .text text) :: fs) = .ok item) :
    ∃ rest, item = (name, .text text) :: rest := by
  obtain ⟨_, ⟨⟩, h⟩ := bind_eq_ok_iff.1 h
  obtain ⟨rest, -, ⟨⟩⟩ := bind_eq_ok_iff.1 h
  exact ⟨rest, rfl⟩

lemma ensures_booking {body : Value} (stands : Stands s log changes record) :
    (reserveBooking s body).Ensures Recorded record
      (fun id after => ∃ part,
        Stands s (log ++ [⟨.booking body, true, part⟩]) (changes ++ [.cancellation id]) after)
      (fun _ after => ∃ part, Stands s (log ++ [⟨.booking body, false, part⟩]) changes after) := by
  refine ensures_entered (.booking body) (fun _ _ ran => ran) stands.logged ?_
  have named : Flow.identifier.Ensures Recorded record (fun _ after => effects after = changes)
      (fun _ after => effects after = changes) := by
    refine ensures_fresh ?_
    rintro id _ rfl
    rw [effects_append, stands.effects_eq]
    exact changes.append_nil
  refine named.bind fun id after same => ?_
  refine ensures_lift_bind (fun execution _ => ?_) fun _ _ => same
  refine ensures_lift_bind (fun flight _ => ?_) fun _ _ => same
  refine ensures_lift_bind (fun customer _ => ?_) fun _ _ => same
  refine ensures_lift_bind (fun charge _ => ?_) fun _ _ => same
  refine ensures_lift_bind (fun table _ => ?_) fun _ _ => same
  have stored : (do
        let item ← storableFields [("id", .text id), ("stateExecutionId", execution),
          ("__typename", .text "Booking"), ("bookingOutboundFlightId", flight), ("checkedIn", .bool false),
          ("customer", customer), ("paymentToken", charge), ("status", .text "UNCONFIRMED"),
          ("createdAt", s.stamp), ("bookingReference", .null)]
        let _ ← .ask table (.put item none)
        return id : Flow String).Ensures Recorded after
      (fun id after => effects after = changes ++ [.cancellation id])
      (fun _ after => effects after = changes) := by
    refine ensures_lift_bind (fun item storable => ?_) fun _ _ => same
    obtain ⟨rest, rfl⟩ := storableFields_text_cons storable
    have put : (Flow.ask table (.put (("id", .text id) :: rest) none)).Ensures Recorded after
        (fun _ after => effects after = changes ++ [.cancellation id])
        (fun _ after => effects after = changes) := by
      refine ensures_invoke ?_ ?_
      · rintro reply _ rfl
        rw [effects_append, same]
        rfl
      · rintro e _ rfl
        rw [effects_append, same]
        exact changes.append_nil
    exact put.bind fun _ _ same => ensures_done same
  exact stored.attempt (fun _ _ same _ => same) fun e after same _ => ensures_fail same

end

/-! ### Answers -/

def IsInvocation : Exchange → Prop
  | .called (.client "lambda" "invoke" _ _) _ => True
  | _ => False

lemma IsInvocation.isReading {x : Exchange} (invocation : IsInvocation x) : x.IsReading := by
  unfold IsInvocation at invocation
  split at invocation
  · trivial
  · exact invocation.elim

/-- A log of a booking, and its changes, in their order: each step is tried once at most, and only after the
one before it. -/
def InOrder (log : List Entry) (changes : List Step) : Prop :=
  ∃ flight body id, attempted log <+: [.seat flight, .booking body, .confirmation id] ∧
    changes <+: [.release flight, .cancellation id]

/-- An answer after which all is accounted for: what was exchanged is a log of steps and, after them, messages
to other functions; the changes that were accepted were undone, the latest first, after a refund for a
confirmation that failed; or else the booking is a success and nothing was undone. -/
def IsAccounted (s : Setting) (answer : Value) (record : List Exchange) : Prop :=
  ∃ log steps messages, record = steps ++ messages ∧ Logged s log steps ∧ (∀ x ∈ messages, IsInvocation x) ∧
    InOrder log (effects record) ∧
    (status? answer ≠ some 201 → undone log = refunds log ++ (effects record).reverse) ∧
    (status? answer = some 201 → undone log = [])

section

variable {s : Setting} {log : List Entry} {changes : List Step} {record : List Exchange}

lemma accounts_respond {status : ℤ} {content : Value} (other : status ≠ 201) (writable : content.IsWritable)
    (stands : Stands s log changes record) (order : InOrder log changes)
    (settled : undone log = refunds log ++ changes.reverse) :
    (respond status content).Ensures Recorded record (IsAccounted s) fun e _ => e.isInterrupt = true := by
  refine ensures_respond writable fun answer has => ?_
  refine ⟨log, record, [], record.append_nil.symm, stands.logged, by simp, ?_, fun _ => ?_, fun success => ?_⟩
  · rwa [stands.effects_eq]
  · rwa [stands.effects_eq]
  · rw [success] at has
    exact absurd (Option.some.inj has).symm other

lemma accounts_failedStep {status : ℤ} {what step : String} {e : Fault} {more : Fields} (other : status ≠ 201)
    (writable : (map more).IsWritable) (stands : Stands s log changes record)
    (order : InOrder log changes) (settled : undone log = refunds log ++ changes.reverse) :
    (failedStep status what step e more).Ensures Recorded record (IsAccounted s)
      fun e _ => e.isInterrupt = true := by
  refine accounts_respond other ?_ stands order settled
  rw [isWritable_map] at writable ⊢
  simpa using writable

def Messaged (record after : List Exchange) : Prop :=
  ∃ messages, after = record ++ messages ∧ ∀ x ∈ messages, IsInvocation x

lemma ensures_messaged {α : Type} {flow : Flow α} (within : flow.Within IsInvocation) {after : List Exchange}
    (messaged : Messaged record after) :
    flow.Ensures Recorded after (fun _ later => Messaged record later) fun _ later => Messaged record later := by
  refine within.ensures ?_ messaged
  rintro _ x _ invocation rfl ⟨messages, rfl, sent⟩
  refine ⟨messages ++ [x], append_assoc .., fun y mem => ?_⟩
  rcases mem_append.1 mem with mem | mem
  · exact sent y mem
  · exact mem_singleton.1 mem ▸ invocation

lemma ensures_invoke_null {function content : Value} :
    (invoke function content (.text "Event")).Ensures Recorded record (fun v _ => v = .null) fun _ _ => True := by
  have body : (do
        let payload ← content.storedToJson
        let reply ← .client "lambda" "invoke"
          [("FunctionName", function), ("InvocationType", .text "Event"), ("Payload", payload)]
        if (text "Event").same (.text "RequestResponse") then
          (← (← reply.field "Payload").readAll).parsed
        else return .null : Flow Value).Ensures Recorded record (fun v _ => v = .null) fun _ _ => True := by
    refine ensures_given fun json _ => ?_
    refine (ensures_invoke (fun _ _ _ => trivial) fun _ _ _ => trivial).bind fun reply after _ => ?_
    exact ensures_done rfl
  exact body.attempt (fun _ _ _ _ => trivial) fun _ _ _ _ =>
    ensures_note_bind (ensures_fail trivial)

variable {flight body charge payment : Value} {id reference : String}

lemma accounts_conclude (stands : Stands s log changes record) (order : InOrder log changes)
    (none : undone log = []) (writable : payment.IsWritable) :
    (conclude s body payment id reference).Ensures Recorded record (IsAccounted s)
      fun e _ => e.isInterrupt = true := by
  have points : (do
        let customer ← body.field "customerId"
        let price ← payment.field "price"
        let _ ← invoke (s.value "PROCESS_BOOKING_LOYALTY_FUNCTION_NAME") (payload customer price [])
          (.text "Event") : Flow Unit).Within IsInvocation :=
    within_lift_bind fun _ _ => within_lift_bind fun _ _ =>
      (within_invoke fun _ _ => trivial).bind fun _ => trivial
  have start : Messaged record record := ⟨[], record.append_nil.symm, by simp⟩
  refine ((ensures_messaged points start).orPrint (fun _ _ messaged _ => messaged)
    fun _ _ _ stop => stop).bind fun _ after messaged => ?_
  have told : (do
        let customer ← body.field "customerId"
        let price ← payment.field "price"
        invoke (s.value "NOTIFY_BOOKING_FUNCTION_NAME")
          (payload customer price [("bookingReference", .text reference)]) (.text "Event") :
            Flow Value).Ensures Recorded after
      (fun v later => v.IsWritable ∧ Messaged record later) (fun _ later => Messaged record later) := by
    refine ensures_lift_bind (fun customer _ => ?_) fun _ _ => messaged
    refine ensures_lift_bind (fun price _ => ?_) fun _ _ => messaged
    refine (ensures_invoke_null.and (ensures_messaged (within_invoke fun _ _ => trivial) messaged)).mono ?_ ?_
    · rintro _ later ⟨rfl, messaged⟩
      exact ⟨isWritable_null, messaged⟩
    · exact fun _ _ both => both.2
  refine (told.attempt (fun _ _ _ stop => stop) fun e later messaged _ => ?_).bind ?_
  · exact ensures_note_bind (ensures_done ⟨by simp [isWritable_map], messaged⟩)
  rintro notification _ ⟨hnotification, messages, rfl, sent⟩
  refine ensures_respond ?_ fun answer has => ?_
  · simp [isWritable_map, writable, hnotification]
  · have same : effects (record ++ messages) = effects record := by
      have none : messages.filterMap undoing? = [] :=
        filterMap_eq_nil_iff.2 fun x mem => undoing?_of_isReading x (sent x mem).isReading
      rw [effects, filterMap_append, none, append_nil, effects]
    refine ⟨log, record, messages, rfl, stands.logged, sent, ?_, fun other => absurd has other, fun _ => none⟩
    rwa [same, stands.effects_eq]

lemma isWritable_payment (paid : simulatePayment charge = .ok payment) : payment.IsWritable := by
  unfold simulatePayment at paid
  split_ifs at paid
  obtain rfl := Except.ok.inj paid
  have short : (Number.digits 150).length ≤ Json.maxDigits := by decide
  have price : (int 150).IsWritable := by simpa [IsWritable, hasForm] using short
  simp [isWritable_map, price]

lemma ensures_undoSeat (stands : Stands s log changes record) :
    (undoSeat s flight).Ensures Recorded record (fun _ after => Tried s log (.release flight) changes after)
      (fun e _ => e.isInterrupt = true) :=
  ensures_undo (.release flight) (fun _ _ ran => ran)
    (within_lift_bind fun _ _ =>
      within_releaseSeat undoing?_of_isReading fun _ reply => by cases reply <;> rfl) stands

lemma ensures_undoBooking (stands : Stands s log changes record) :
    (undoBooking s id).Ensures Recorded record (fun _ after => Tried s log (.cancellation id) changes after)
      (fun e _ => e.isInterrupt = true) :=
  ensures_undo (.cancellation id) (fun _ _ ran => ran)
    (within_cancelBooking undoing?_of_isReading fun _ _ reply => by cases reply <;> rfl) stands

/-- A booking answers after all is accounted for. -/
lemma accounts_book (stands : Stands s [] [] record) :
    (book s body flight charge).Ensures Recorded record (IsAccounted s) fun e _ => e.isInterrupt = true := by
  refine (ensures_seat stands).outcome_bind ?_ ?_ fun _ _ _ stop => stop
  · rintro _ after ⟨seat, stands⟩
    refine (ensures_booking stands).outcome_bind ?_ ?_ fun _ _ _ stop => stop
    · rintro id after ⟨booking, stands⟩
      dsimp only
      split
      · refine (ensures_undoBooking stands).bind ?_
        rintro _ after ⟨_, _, stands⟩
        refine (ensures_undoSeat stands).bind ?_
        rintro _ after ⟨_, _, stands⟩
        exact accounts_failedStep (by decide) (by simp [isWritable_map]) stands
          ⟨flight, body, id, ⟨[.confirmation id], rfl⟩, ⟨[], rfl⟩⟩ rfl
      · rename_i payment paid
        refine (ensures_idle (.confirmation id) (fun _ _ ran => ran) ?_ stands).outcome_bind ?_ ?_
          fun _ _ _ stop => stop
        · exact within_confirmBooking undoing?_of_isReading fun _ _ _ reply => by cases reply <;> rfl
        · rintro reference after ⟨_, stands⟩
          exact accounts_conclude stands ⟨flight, body, id, ⟨[], rfl⟩, ⟨[], rfl⟩⟩ rfl (isWritable_payment paid)
        · rintro e after ⟨_, stands⟩ _
          refine ensures_note_bind ?_
          refine (ensures_undo .refund (fun _ _ ran => ran) (fun _ => ⟨rfl, trivial⟩) stands).bind ?_
          rintro _ after ⟨_, _, stands⟩
          refine (ensures_undoBooking stands).bind ?_
          rintro _ after ⟨_, _, stands⟩
          refine (ensures_undoSeat stands).bind ?_
          rintro _ after ⟨_, _, stands⟩
          exact accounts_failedStep (by decide) (by simp [isWritable_map]) stands
            ⟨flight, body, id, ⟨[], rfl⟩, ⟨[], rfl⟩⟩ rfl
    · rintro e after ⟨booking, stands⟩ _
      refine (ensures_undoSeat stands).bind ?_
      rintro _ after ⟨_, _, stands⟩
      exact accounts_failedStep (by decide) (by simp [isWritable_map]) stands
        ⟨flight, body, "", ⟨[.confirmation ""], rfl⟩, ⟨[.cancellation ""], rfl⟩⟩ rfl
  · rintro e after ⟨seat, stands⟩ _
    exact accounts_failedStep (by decide) (by simp [isWritable_map]) stands
      ⟨flight, body, "", ⟨[.booking body, .confirmation ""], rfl⟩, ⟨[.release flight, .cancellation ""], rfl⟩⟩
      rfl

end

lemma stands_nil {s : Setting} : Stands s [] [] [] := ⟨⟨by simp, rfl⟩, rfl⟩

lemma accounts_early {s : Setting} {status : ℤ} {content : Value} (other : status ≠ 201)
    (writable : content.IsWritable) :
    (respond status content).Ensures Recorded [] (IsAccounted s) fun e _ => e.isInterrupt = true :=
  accounts_respond other writable stands_nil ⟨.null, .null, "", ⟨_, rfl⟩, ⟨_, rfl⟩⟩ rfl

end Unbundle.Airline.Direct
