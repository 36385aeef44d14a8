import Unbundle.Cart.Traced.Handlers
import Unbundle.Proofs.Json.Writable
import Unbundle.Proofs.Service.Runs

/-!
# What a checkout leaves behind

A checkout takes the sold products off their totals, stores the order, sends a message about it and deletes
the cart, and undoes nothing if a later step fails.
-/

open Unbundle.Value Unbundle.Service.Flow

namespace Unbundle.Cart.Traced

open Service

variable {s : Setting} {o : Origin} {record : List Exchange}
variable {cart user lines : Value}

def isOrder (s : Setting) : Exchange → Bool
  | .called (.table table (.put _ none)) (.ok _) => s.given? "ORDERS_TABLE" == some table
  | _ => false

def isReduction (s : Setting) : Exchange → Bool
  | .called (.table table (.update ..)) (.ok _) => s.given? "PRODUCTS_TABLE" == some table
  | _ => false

def isSent : Exchange → Bool
  | .called (.client "sqs" "send_message" _ _) (.ok reply) => (reply.field "MessageId").isOk
  | _ => false

/-- An order was stored, then a message about it was accepted, and then the cart was deleted. -/
def Completed (s : Setting) (record : List Exchange) : Prop :=
  ∃ before message after, record = before ++ message :: after ∧ before.any (isOrder s) ∧ isSent message ∧
    (deleteCart s (userCart onlyUser)).Runs Recorded [] (.ok true) after

def HasStatus (answer : Value) (status : Int) : Prop := answer.field "statusCode" = .ok (.int status)

def IsGood (outcome : Except Fault Value) : Prop := ∃ answer, outcome = .ok answer ∧ HasStatus answer 200

def Unsent (record : List Exchange) : Prop := ∀ x ∈ record, isSent x = false

lemma Unsent.not_completed (unsent : Unsent record) : ¬Completed s record := by
  rintro ⟨before, message, after, rfl, -, sent, -⟩
  exact absurd (unsent message (by simp)) (by simp [sent])

lemma Unsent.concat {x : Exchange} (unsent : Unsent record) (silent : isSent x = false) : Unsent (record ++ [x]) := by
  intro y hy
  rcases List.mem_append.1 hy with hy | hy
  · exact unsent y hy
  · exact List.mem_singleton.1 hy ▸ silent

lemma unsent_of_within {α : Type} {flow : Flow α} (within : flow.Within fun x => isSent x = false)
    (unsent : Unsent record) :
    flow.Ensures Recorded record (fun _ after => Unsent after) fun _ after => Unsent after := by
  refine within.ensures ?_ unsent
  rintro r x _ silent rfl unsent
  exact unsent.concat silent

lemma within_cartItems {line : Value → Except Fault (Option Value)} :
    (cartItems s line cart).Within fun x => isSent x = false := by
  rw [cartItems]
  cases s.given? "CARTS_TABLE" with
  | none => trivial
  | some table =>
    refine .attempt ((within_invoke fun _ => rfl).bind fun reply => ?_) fun _ => trivial
    exact within_lift_bind fun v _ => within_lift_bind fun items _ => within_lift _

lemma within_takeSold (lines : List Value) : (takeSold s lines).Within fun x => isSent x = false := by
  induction lines with
  | nil => trivial
  | cons line lines ih =>
    refine within_lift_bind fun product _ => within_lift_bind fun quantity _ => within_lift_bind fun change _ => ?_
    refine .bind ?_ fun _ => ih
    rw [changeTotal]
    cases s.given? "PRODUCTS_TABLE" with
    | none => trivial
    | some table =>
      refine .attempt (within_lift_bind fun change _ => ?_) fun _ => trivial
      exact (within_invoke fun _ => rfl).bind fun _ => trivial

lemma ensures_createOrder (unsent : Unsent record) :
    (createOrder s user lines).Ensures Recorded record
      (fun id after => Unsent after ∧ (id.truthy → (∃ text, id = .text text) ∧ after.any (isOrder s)))
      fun _ after => Unsent after := by
  rw [createOrder]
  cases given : s.given? "ORDERS_TABLE" with
  | none => exact ensures_done ⟨unsent, nofun⟩
  | some table =>
    refine .orLog (show Ensures _ _ _ _ fun _ after => Unsent after from ?_)
      (fun _ _ unsent _ => ⟨unsent, nofun⟩) fun _ _ unsent _ => unsent
    refine .bind (show Ensures _ _ _ (fun _ after => Unsent after) _ from ensures_fresh ?_)
      fun id r unsent => ?_
    · rintro id _ rfl
      exact unsent.concat rfl
    refine ensures_lift_bind (fun items _ => ensures_lift_bind (fun cost _ => ensures_lift_bind (fun total _ => ?_)
      fun _ _ => unsent) fun _ _ => unsent) fun _ _ => unsent
    refine .bind (show Ensures _ _ _ (fun _ after => Unsent after ∧ after.any (isOrder s)) _ from
      ensures_invoke ?_ ?_) fun _ _ stored => ensures_done ⟨stored.1, fun _ => ⟨⟨id, rfl⟩, stored.2⟩⟩
    · rintro v _ rfl
      exact ⟨unsent.concat rfl, by simp [isOrder, given]⟩
    · rintro e _ rfl
      exact unsent.concat rfl

lemma ensures_sendOrder {order : Value} (unsent : Unsent record) :
    (sendOrder s order user lines).Ensures Recorded record
      (fun done after => if done then ∃ message, after = record ++ [message] ∧ isSent message ∧
        ∃ cs, Json.writeAt .compact 1 lines = .ok cs else Unsent after) fun _ after => Unsent after := by
  rw [sendOrder]
  cases s.given? "CHECKOUT_QUEUE_URL" with
  | none => exact ensures_done unsent
  | some queue =>
    refine .orLog (show Ensures _ _ _ _ fun _ after => Unsent after from ?_)
      (fun _ _ unsent _ => unsent) fun _ _ unsent _ => unsent
    refine ensures_lift_bind (fun body written => ?_) fun _ _ => unsent
    have lines : ∃ cs, Json.writeAt .compact 1 lines = .ok cs := by
      simp only [toJson, Json.write, Json.writeAt, Json.writeFields, bind_eq_ok_iff, map_eq_ok_iff] at written
      obtain ⟨_, ⟨_, ⟨_, ⟨_, -, _, ⟨_, -, _, ⟨cs, written, -⟩, -⟩, -⟩, -⟩, -⟩, -⟩ := written
      exact ⟨cs, written⟩
    refine .bind (show Ensures _ _ _ (fun v after => ∃ message, after = record ++ [message] ∧
      isSent message = (v.field "MessageId").isOk) _ from ensures_invoke ?_ ?_) ?_
    · rintro v _ rfl
      exact ⟨_, rfl, rfl⟩
    · rintro e _ rfl
      exact unsent.concat rfl
    · rintro v _ ⟨message, rfl, sent⟩
      refine ensures_lift_bind (fun id found => ensures_note_bind (ensures_done ?_)) fun e missing => ?_
      · exact ⟨message, rfl, by rw [sent, found]; rfl, lines⟩
      · exact unsent.concat (by rw [sent, missing]; rfl)

/-- An answer tells whether a checkout was completed. -/
def Tells (s : Setting) (answer : Value) (record : List Exchange) : Prop := HasStatus answer 200 ↔ Completed s record

lemma ensures_report {status : Int} {error text : String} (other : status ≠ 200) (failed : ¬Completed s record) :
    (report o status error text).Ensures Recorded record (Tells s) fun _ after => ¬Completed s after := by
  refine ensures_lift_bind (fun number _ => ensures_lift_bind (fun body _ => ensures_done ?_) fun _ _ => failed)
    fun _ _ => failed
  refine iff_of_false (fun same => other ?_) failed
  exact int.inj (Except.ok.inj same)

lemma ensures_respond {id : String} {more : Fields}
    (written : ∃ cs, Json.writeAt .compact 1 lines = .ok cs) (completed : Completed s record) :
    (respond (.map [("order_id", .text id), ("message", .text "Checkout successful"), ("items", lines)]) more).Ensures
      Recorded record (Tells s) fun _ after => ¬Completed s after := by
  obtain ⟨cs, written⟩ := written
  obtain ⟨json, body⟩ : ∃ json, (map [("order_id", .text id), ("message", .text "Checkout successful"),
      ("items", lines)]).toJson = .ok json := by
    simp only [toJson, Json.write, Json.writeAt, Json.writeFields, written]
    exact ⟨_, rfl⟩
  exact ensures_ok_bind body (ensures_done (iff_of_true rfl completed))

lemma within_deleteCart : (deleteCart s cart).Within fun x => isSent x = false := by
  have lines table items : (deleteLines table items).Within fun x => isSent x = false := by
    induction items with
    | nil => trivial
    | cons item items ih =>
      exact within_lift_bind fun cart _ => within_lift_bind fun product _ => (within_invoke fun _ => rfl).bind fun _ => ih
  rw [deleteCart]
  cases s.given? "CARTS_TABLE" with
  | none => trivial
  | some table =>
    refine .attempt ((within_invoke fun _ => rfl).bind fun reply => ?_) fun _ => trivial
    exact within_lift_bind fun v _ => within_lift_bind fun items _ => (lines table items).bind fun _ => trivial

lemma not_completed_of_deleteCart {message : Exchange} {rest : List Exchange} {outcome : Except Fault Bool}
    (unsent : Unsent record) (run : (deleteCart s (userCart onlyUser)).Runs Recorded [] outcome rest)
    (other : outcome ≠ .ok true) : ¬Completed s (record ++ message :: rest) := by
  have start : Unsent [] := by simp [Unsent]
  have unsent' : Unsent rest := by
    cases outcome with
    | ok done => exact (unsent_of_within within_deleteCart start).result run
    | error e => exact (unsent_of_within within_deleteCart start).fault run
  rintro ⟨before, message', after, same, -, sent', run'⟩
  -- There is no other message, so the record can be split only here.
  have split : rest = after := by
    rcases List.append_eq_append_iff.1 same with ⟨more, -, tail⟩ | ⟨more, rfl, tail⟩
    · cases more with
      | nil => exact (List.cons.inj tail).2
      | cons x more => exact absurd (unsent' message' (by simp [(List.cons.inj tail).2])) (by simp [sent'])
    · cases more with
      | nil => exact (List.cons.inj tail).2.symm
      | cons x more => exact absurd (unsent message' (by simp [(List.cons.inj tail).1])) (by simp [sent'])
  exact other (run.outcome_unique (split ▸ run'))

lemma ensures_order : (order s o (userCart onlyUser)).Ensures Recorded [] (Tells s) fun _ after => ¬Completed s after := by
  have fault : ∀ (e : Fault) record, Unsent record → ¬Completed s record := fun _ _ unsent => unsent.not_completed
  have start : Unsent [] := by simp [Unsent]
  refine ((unsent_of_within within_cartItems start).mono (fun _ _ h => h) fault).bind fun lines r unsent => ?_
  split_ifs with empty
  · exact ensures_report (by decide) unsent.not_completed
  refine ensures_note_bind ?_
  refine ((unsent_of_within (within_takeSold lines) unsent).mono (fun _ _ h => h) fault).bind fun _ r unsent => ?_
  refine ((ensures_createOrder unsent).mono (fun _ _ h => h) fault).bind ?_
  rintro order r ⟨unsent, ordered⟩
  split_ifs with none
  · exact ensures_report (by decide) unsent.not_completed
  obtain ⟨⟨id, rfl⟩, stored⟩ := ordered (by simpa using none)
  refine ((ensures_sendOrder unsent).mono (fun _ _ h => h) fault).bind fun done r' sent => ?_
  cases done with
  | false => exact ensures_fail (Unsent.not_completed sent)
  | true =>
    obtain ⟨message, rfl, sent, written⟩ := sent
    -- From the message on, all that is left to know is how the cart was deleted.
    change Ensures Recorded (deleteCart s (userCart onlyUser) >>= _) _ _ _
    refine .bind (show Ensures _ _ _ (fun done after => ∃ rest, after = r ++ message :: rest ∧
      (deleteCart s (userCart onlyUser)).Runs Recorded [] (.ok done) rest) _ from ⟨?_, ?_⟩) ?_
    · intro done after run
      obtain ⟨rest, rfl, alone⟩ := run.exists_append
      exact ⟨rest, by simp, alone⟩
    · intro e after run
      obtain ⟨rest, rfl, alone⟩ := run.exists_append
      rw [List.append_assoc]
      exact not_completed_of_deleteCart unsent alone nofun
    · rintro done _ ⟨rest, rfl, alone⟩
      cases done with
      | false => exact ensures_fail (not_completed_of_deleteCart unsent alone nofun)
      | true => exact ensures_respond written ⟨r, message, rest, rfl, stored, sent, alone⟩

/-- The answer is good exactly if the order was stored, the message about it accepted and the cart deleted. So a checkout
is all or nothing only where it is completed or stores nothing. -/
theorem checkout_answers_completion {event context : Value} {outcome : Except Fault Value}
    (run : (checkout s event context).Runs Recorded [] outcome record) :
    (IsGood outcome ↔ Completed s record) ∧
    ((¬IsGood outcome → ¬record.any (isOrder s) ∧ ¬record.any (isReduction s)) ∧
      (record.any (isOrder s) → IsGood outcome) ↔
      Completed s record ∨ ¬record.any (isOrder s) ∧ ¬record.any (isReduction s)) := by
  have start : Unsent [] := by simp [Unsent]
  have body : (checkout s event context).Ensures Recorded [] (Tells s) fun _ after => ¬Completed s after := by
    refine ensures_lift_bind (fun o _ => ?_) fun _ _ => start.not_completed
    refine Ensures.attempt (show Ensures _ _ _ _ fun _ after => ¬Completed s after from ?_)
      (fun _ _ failed _ => failed) fun e r failed _ => ?_
    · refine ensures_note_bind (Ensures.attempt (show Ensures _ _ _ _ fun _ after => ¬Completed s after from ?_)
        (fun _ _ failed _ => failed) fun e r failed _ => ensures_note_bind (ensures_report (by decide) failed))
      refine ensures_lift_bind (fun known _ => ?_) fun _ _ => start.not_completed
      split_ifs
      · exact ensures_order
      · exact ensures_report (by decide) start.not_completed
    · change Flow.Ensures _ (Flow.note _ (Flow.done ()) >>= fun _ => report o 500 _ _) _ _ _
      exact ensures_note_bind (ensures_report (by decide) failed)
  have told : IsGood outcome ↔ Completed s record := by
    cases outcome with
    | ok answer => simpa [IsGood, Tells] using body.result run
    | error e => exact iff_of_false (by simp [IsGood]) (body.fault run)
  exact ⟨told, by rw [told]; tauto⟩

def shop : Setting :=
  ⟨[("CARTS_TABLE", "C"), ("PRODUCTS_TABLE", "P"), ("ORDERS_TABLE", "O"), ("CHECKOUT_QUEUE_URL", "Q")], default, []⟩

def signedIn : Value := .map [("headers", .map [("Authorization", .text "t")])]

def oneOrder : List Answer :=
  [.reply (.ok (.map [("Items", .list [.map [("product_id", .text "product#p"), ("quantity", .int 1)]])])),
    .reply (.ok (.map [])), .text "1", .reply (.ok (.map []))]

theorem checkout_answers_completion_one : ∃ outcome record,
    (checkout shop signedIn .null).Runs Recorded [] outcome record ∧ Completed shop record := by
  obtain ⟨body, record, told⟩ : ∃ body record, (checkout shop signedIn .null).told (oneOrder ++
      [.reply (.ok (.map [("MessageId", .text "m")])), .reply (.ok (.map []))]) =
      some (.ok (answer 200 headers body), record) := ⟨_, _, rfl⟩
  have run := Runs.of_told told (along_recorded [] record)
  exact ⟨_, _, run, (checkout_answers_completion run).1.1 ⟨_, rfl, rfl⟩⟩

/-- If the message is refused, the answer is a failure, but the order is stored and the total is reduced. -/
theorem refused_message_keeps_order : ∃ outcome record,
    (checkout shop signedIn .null).Runs Recorded [] outcome record ∧ ¬IsGood outcome ∧
    record.any (isOrder shop) ∧ record.any (isReduction shop) := by
  obtain ⟨body, record, told, ordered, reduced⟩ : ∃ body record, (checkout shop signedIn .null).told (oneOrder ++
      [.reply (.error (.refused ""))]) = some (.ok (answer 500 headers body), record) ∧ record.any (isOrder shop) ∧
      record.any (isReduction shop) := ⟨_, _, rfl, rfl, rfl⟩
  refine ⟨_, _, .of_told told (along_recorded [] record), ?_, ordered, reduced⟩
  rintro ⟨_, ⟨⟩, status⟩
  exact absurd (int.inj (Except.ok.inj status)) (by decide)

/-! ## Answers to traced requests -/

variable {fs : Fields} {context : Value}

/-- A context, if there is one, has the identifier of the request. -/
def IsContext (context : Value) : Prop :=
  context = .null ∨ ∃ attributes id, context = .object attributes ∧
    lookup "aws_request_id" attributes = some id ∧ id.IsWritable

/-- The headers of a request, if there are any, are a map, and so is what else is known of the request, unless the
headers name a correlation. -/
def IsTraceable (fs : Fields) : Prop :=
  ∃ gs, (lookup "headers" fs).getD (.map []) = .map gs ∧
    (((lookup "x-correlation-id" gs).getD .null).truthy = true ∨
      ∃ hs, (lookup "requestContext" fs).getD (.map []) = .map hs)

lemma get_eq_ok {v w : Value} {k : String} (found : v.get k = .ok w) :
    ∃ gs, v = .map gs ∧ w = (lookup k gs).getD .null := by
  cases v with
  | map gs => exact ⟨gs, rfl, (Except.ok.inj found).symm⟩
  | _ => cases found

lemma isTraceable_of_origin (found : Origin.of (.map fs) context = .ok o) : IsTraceable fs := by
  obtain ⟨_, ⟨⟩, found⟩ := bind_eq_ok_iff.1 found
  obtain ⟨named, headers, found⟩ := bind_eq_ok_iff.1 found
  obtain ⟨gs, isMap, rfl⟩ := get_eq_ok headers
  refine ⟨gs, isMap, or_iff_not_imp_left.2 fun unnamed => ?_⟩
  rw [if_neg unnamed] at found
  obtain ⟨_, ⟨⟩, found⟩ := bind_eq_ok_iff.1 found
  obtain ⟨_, rest, -⟩ := bind_eq_ok_iff.1 found
  obtain ⟨hs, isMap, -⟩ := get_eq_ok rest
  exact ⟨hs, isMap⟩

lemma exists_origin (readable : (map fs).IsWritable) (known : IsContext context) (traceable : IsTraceable fs) :
    ∃ o, Origin.of (.map fs) context = .ok o ∧ o.correlation.IsWritable ∧ o.request.IsWritable := by
  have finish c (correlation : c.IsWritable) : ∃ o : Origin, (if context.truthy then do
      return ⟨c, ← context.part "aws_request_id"⟩ else do return ⟨c, ← pure .null⟩) = Except.ok o ∧
      o.correlation.IsWritable ∧ o.request.IsWritable := by
    obtain rfl | ⟨attributes, id, rfl, found, writable⟩ := known
    · exact ⟨⟨c, .null⟩, rfl, correlation, isWritable_null⟩
    · refine ⟨⟨c, id⟩, ?_, correlation, writable⟩
      change (lookup "aws_request_id" attributes).elim _ _ >>= _ = _
      rw [found]
      rfl
  obtain ⟨gs, isMap, rest⟩ := traceable
  have given : (map gs).get "x-correlation-id" = .ok ((lookup "x-correlation-id" gs).getD .null) := rfl
  have headers : (map gs).IsWritable := isMap ▸ readable.getD (by simp [isWritable_map])
  simp only [Origin.of, getD, ok_bind, isMap, given]
  by_cases named : ((lookup "x-correlation-id" gs).getD .null).truthy = true
  · rw [if_pos named]
    exact finish _ (headers.of_get given)
  · obtain ⟨hs, isMap'⟩ := rest.resolve_left named
    rw [if_neg named, isMap']
    exact finish _ (.of_get (isMap' ▸ readable.getD (by simp [isWritable_map])) rfl)

lemma exists_report (correlation : o.correlation.IsWritable) (request : o.request.IsWritable) :
    ∃ answer, report o 500 "INTERNAL_ERROR" "Internal server error" = .done answer ∧ HasStatus answer 500 := by
  have writable : (errorBody (.int 1000) (.text "Internal server error") (.text "INTERNAL_ERROR") o).IsWritable := by
    have number : (int 1000).IsWritable := every_int.2 (by decide)
    simp [errorBody, isWritable_map, correlation, request, number]
  obtain ⟨json, written⟩ := writable.exists_toJson
  refine ⟨answer 500 headers json, ?_, rfl⟩
  change (liftM (errorBody (.int 1000) (.text "Internal server error") (.text "INTERNAL_ERROR") o).toJson : Flow Value).bind
    (fun json => .done (answer 500 headers json)) = _
  rw [written]
  rfl

/-- A handler that answers with a status, or stops with any fault that is no request to stop, is answered for with a
status exactly if the identifiers of the request can be looked up. -/
theorem traced_answers_iff {σ : Type} {R : σ → Exchange → σ → Prop} {s : σ} {handle : Origin → Flow Value}
    (readable : (map fs).IsWritable) (known : IsContext context)
    (handles : ∀ o, (handle o).Ensures R s (fun answer _ => ∃ status, HasStatus answer status)
      fun e _ => e.isInterrupt = false) :
    (traced handle (.map fs) context).Ensures R s (fun answer _ => ∃ status, HasStatus answer status)
      (fun _ _ => False) ↔ IsTraceable fs := by
  constructor
  · intro answers
    obtain ⟨o, found⟩ : ∃ o, Origin.of (.map fs) context = .ok o := by
      refine exists_ok_of_ne_error fun e failed => ?_
      rw [traced, failed] at answers
      exact answers.fault (.fail e s)
    exact isTraceable_of_origin found
  · intro traceable
    obtain ⟨o, found, correlation, request⟩ := exists_origin readable known traceable
    obtain ⟨answer, reported, status⟩ := exists_report correlation request
    refine ensures_ok_bind found (Ensures.attempt (handles o) (fun e _ go stop => ?_) fun e t _ _ => ?_)
    · simp [go] at stop
    · have noted : (reportUnhandled o e.kind e.message).Ensures R t (fun _ _ => True) fun _ _ => False :=
        ensures_note_bind (ensures_done trivial)
      rw [reported]
      exact noted.bind fun _ _ _ => ensures_done ⟨500, status⟩

lemma handles_failing {σ : Type} {R : σ → Exchange → σ → Prop} {s : σ} (_ : Origin) :
    (.fail (.refused "no stock") : Flow Value).Ensures R s (fun answer _ => ∃ status, HasStatus answer status)
      fun e _ => e.isInterrupt = false := ensures_fail rfl

theorem traced_answers_iff_failing : (traced (fun _ => .fail (.refused "no stock"))
    (.map [("headers", .map [("x-correlation-id", .text "c")])]) (.object [("aws_request_id", .text "r")])).Ensures
    Recorded [] (fun answer _ => ∃ status, HasStatus answer status) fun _ _ => False := by
  refine (traced_answers_iff ?_ (.inr ⟨_, _, rfl, rfl, by simp⟩) handles_failing).2 ⟨_, rfl, .inl (by decide)⟩
  simp [isWritable_map]

/-- A request whose headers are null is not answered, though its handler would have. -/
theorem null_headers_not_answered : ¬(traced (fun _ => .fail (.refused "no stock")) (.map [("headers", .null)])
    .null).Ensures Recorded [] (fun answer _ => ∃ status, HasStatus answer status) fun _ _ => False :=
  fun answers => answers.fault (.fail _ _)

end Unbundle.Cart.Traced
