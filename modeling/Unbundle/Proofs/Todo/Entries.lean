import Mathlib.Data.List.Induction
import Unbundle.Proofs.Service.Tables
import Unbundle.Todo.Entries

/-!
# The entries of a to-do list over time

Which entries a table holds after any sequence of requests. A request settles at most one entry: that of its
user under the identifier in its path, or under the one that was made for it. Creating, changing and marking
an entry all leave it in the table, whether it was there before or not, so the table holds exactly what was
created and not deleted since as long as nothing is changed or marked that is not there.
-/

open List Unbundle.Value

namespace Unbundle.Todo

open Service

variable {next : Value → Flow Value} {table : String} {user : Value}

/-! ### The store -/

/-- Where an entry is kept. -/
structure Entry where
  table : String
  user : String
  id : String
  deriving DecidableEq, Repr

/-- The entry that a key or an item names. -/
def placed? (table : String) (fields : Fields) : Option Entry :=
  match Value.lookup "cognito-username" fields, Value.lookup "id" fields with
  | some (.text user), some (.text id) => some ⟨table, user, id⟩
  | _, _ => none

/-- How a store may answer, and what it keeps then. A change of an item that is not there makes it. Any call
may be refused, and has then done nothing. -/
inductive Keeps : Tables Entry → Exchange → Tables Entry → Prop
  | get {tables : Tables Entry} {table : String} {key reply : Fields} {e : Entry} :
      placed? table key = some e → Value.lookup "Item" reply = (tables e).map Value.map →
      Keeps tables (.called (.table table (.get key)) (.ok (.map reply))) tables
  | query {tables : Tables Entry} {table field : String} {slot : Slot} {reply : Value} :
      Keeps tables (.called (.table table (.queryText field slot)) (.ok reply)) tables
  | put {tables : Tables Entry} {table : String} {item kept : Fields} {e : Entry} {reply : Value} :
      placed? table item = some e → Kept (.map item) (.map kept) →
      Keeps tables (.called (.table table (.put item none)) (.ok reply)) (Function.update tables e (some kept))
  | update {tables : Tables Entry} {table : String} {key after : Fields} {change : Change} {returning : Returning}
      {e : Entry} {reply : Value} :
      placed? table key = some e → change.Turns ((tables e).getD key) after →
      (returning = .allNew → reply.field "Attributes" = .ok (.map after)) →
      Keeps tables (.called (.table table (.update key change none returning)) (.ok reply))
        (Function.update tables e (some after))
  | delete {tables : Tables Entry} {table : String} {key : Fields} {e : Entry} {reply : Value} :
      placed? table key = some e →
      Keeps tables (.called (.table table (.delete key)) (.ok reply)) (Function.update tables e none)
  | refused {tables : Tables Entry} {call : Call} {fault : Fault} : Keeps tables (.called call (.error fault)) tables
  | made {tables : Tables Entry} {secret : Secret} {text : String} : Keeps tables (.made secret text) tables

/-! ### Requests -/

/-- What is asked for. -/
inductive Task where
  | create
  | list
  | get
  | update
  | markDone
  | delete
  deriving DecidableEq, Repr

def Task.handle : Task → Setting → Value → Flow Value
  | create => Todo.create
  | list => Todo.list
  | get => Todo.get
  | update => Todo.update
  | markDone => Todo.markDone
  | delete => Todo.delete

/-- A task that leaves its entry in the table. -/
def Task.IsWriting (task : Task) : Prop := task = .create ∨ task = .update ∨ task = .markDone

/-- A request. -/
structure Asked where
  task : Task
  setting : Setting
  event : Value
  context : Value

def Asked.flow (r : Asked) : Flow Value := (handler r.task.handle).handle r.setting r.event r.context

def claimedUser (event : Value) : Except Fault Value := do
  let context ← event.getD "requestContext" (.map [])
  let authorizer ← context.getD "authorizer" (.map [])
  let claims ← authorizer.getD "claims" (.map [])
  let primary ← claims.get "cognito:username"
  if primary.truthy then pure primary else claims.get "username"

def pathId (event : Value) : Except Fault Value := do
  (← event.getD "pathParameters" (.map [])).get "id"

/-- The path names a value, and that is accepted as an identifier. -/
def HasId (event id : Value) : Prop := pathId event = .ok id ∧ validId id = .ok true

/-- A request settles an entry: it is about that one, and the store did what it was asked. What the request
asked for and was given is recorded. -/
structure Asked.Settles (r : Asked) (record : List Exchange) (e : Entry) : Prop where
  table : r.setting.given? "TODO_TABLE" = some e.table
  user : claimedUser r.event = .ok (.text e.user)
  id : if r.task = .create then .made .identifier e.id ∈ record else pathId r.event = .ok (.text e.id)
  accepted : ∃ call reply, .called call (.ok reply) ∈ record

/-- A request deletes an entry. -/
def Asked.Deletes (r : Asked) (record : List Exchange) (e : Entry) : Prop :=
  r.task = .delete ∧ r.Settles record e

/-- Requests that were handled one after another, each with its record. -/
abbrev History := List (Asked × List Exchange)

/-- What a store keeps after a history that began with empty tables. -/
inductive Handled : History → Tables Entry → Prop
  | start : Handled [] fun _ => none
  | next {history : History} {r : Asked} {record : List Exchange} {outcome : Except Fault Value}
      {tables tables' : Tables Entry} :
      Handled history tables → Flow.Runs Recorded r.flow [] outcome record →
      Flow.Along Keeps tables record tables' → Handled (history ++ [(r, record)]) tables'

/-- An entry was settled by a request with some task, and not deleted since. -/
def Standing (P : Task → Prop) (history : History) (e : Entry) : Prop :=
  ∃ past r record since, history = past ++ (r, record) :: since ∧ P r.task ∧ r.Settles record e ∧
    ∀ later ∈ since, ¬ later.1.Deletes later.2 e

/-! ### Parts of requests -/

section

variable {σ : Type} {R : σ → Exchange → σ → Prop} {s : σ} {I : σ → Prop} {event : Value} {setting : Setting}

/-- A flow leaves a state of some kind, however it ends. -/
abbrev Leaves (R : σ → Exchange → σ → Prop) (flow : Flow Value) (s : σ) (I : σ → Prop) : Prop :=
  flow.Ensures R s (fun _ t => I t) fun _ t => I t

lemma leaves_respond {status : Int} {body : Value} (holds : I s) : Leaves R (respond status body) s I :=
  ensures_lift_bind (fun _ _ => ensures_done holds) fun _ _ => holds

lemma leaves_guarded {doing : String} {flow : Flow Value} (body : Leaves R flow s I) :
    Leaves R (guarded doing flow) s I := by
  refine body.attempt (fun _ _ holds _ => holds) fun e t holds _ => ?_
  exact ensures_note_bind (leaves_respond holds)

lemma ensures_userOf : (userOf event).Ensures R s
    (fun user t => t = s ∧ (user.truthy = true → claimedUser event = .ok user)) fun _ t => t = s := by
  have silent : ∀ {t message}, t = s → (do .log .error message; return .null : Flow Value).Ensures R t
      (fun user t => t = s ∧ (user.truthy = true → claimedUser event = .ok user)) fun _ t => t = s :=
    fun same => ensures_note_bind (ensures_done ⟨same, nofun⟩)
  refine .attempt ?_ (fun _ _ same _ => same) fun _ _ same _ => silent same
  refine ensures_lift_bind (fun context first => ?_) fun _ _ => rfl
  refine ensures_lift_bind (fun authorizer second => ?_) fun _ _ => rfl
  refine ensures_lift_bind (fun claims third => ?_) fun _ _ => rfl
  refine ensures_lift_bind (fun primary fourth => ?_) fun _ _ => rfl
  have named : claimedUser event = if primary.truthy then pure primary else claims.get "username" := by
    rw [claimedUser, first, ok_bind, second, ok_bind, third, ok_bind, fourth, ok_bind]
  have ended : ∀ user, claimedUser event = .ok user →
      (if user.truthy then pure user else do
        .log .error "No username found in claims"
        return .null : Flow Value).Ensures R s
      (fun user t => t = s ∧ (user.truthy = true → claimedUser event = .ok user)) fun _ t => t = s := by
    intro user found
    split_ifs
    · exact ensures_done ⟨rfl, fun _ => found⟩
    · exact silent rfl
  split_ifs with known
  · exact ended primary (by rw [named, if_pos known]; rfl)
  · exact ensures_lift_bind (fun user found => ended user (by rw [named, if_neg known, found])) fun _ _ => rfl

lemma leaves_withUser (holds : I s) (rest : ∀ user, claimedUser event = .ok user → Leaves R (next user) s I) :
    Leaves R (withUser event next) s I := by
  refine (ensures_userOf.mono (fun _ _ h => h) fun _ _ same => same ▸ holds).bind ?_
  rintro user t ⟨rfl, claimed⟩
  split_ifs with known
  · exact rest user (claimed known)
  · exact leaves_respond holds

lemma leaves_withId (holds : I s) (rest : ∀ id, HasId event id → Leaves R (next id) s I) :
    Leaves R (withId event next) s I := by
  refine ensures_lift_bind (fun parameters first => ?_) fun _ _ => holds
  refine ensures_lift_bind (fun id second => ?_) fun _ _ => holds
  refine ensures_lift_bind (fun valid checked => ?_) fun _ _ => holds
  split_ifs with accepted
  · exact rest id ⟨by rw [pathId, first, ok_bind, second], accepted ▸ checked⟩
  · exact leaves_respond holds

lemma leaves_withTable {next : String → Flow Value} (holds : I s)
    (rest : ∀ table, setting.given? "TODO_TABLE" = some table → Leaves R (next table) s I) :
    Leaves R (withTable setting next) s I := by
  rw [withTable]
  split
  · exact rest _ ‹_›
  · exact leaves_respond holds

lemma leaves_bodyOf (holds : I s) (rest : ∀ body, Leaves R (next body) s I) :
    Leaves R (bodyOf event >>= next) s I := by
  have read : (bodyOf event).Ensures R s (fun _ t => t = s) fun _ t => I t := by
    refine ensures_lift_bind (fun body _ => ?_) fun _ _ => holds
    split
    · split
      · exact ensures_done rfl
      · exact ensures_note_bind (ensures_done rfl)
      · exact ensures_fail holds
    · exact ensures_done rfl
  refine read.bind ?_
  rintro body t rfl
  exact rest body

lemma leaves_ask {request : Request} (asked : ∀ reply t, R s (.called (.table table request) reply) t → I t)
    (rest : ∀ v t, I t → Leaves R (next v) t I) : Leaves R (.ask table request >>= next) s I := by
  have called : (Flow.ask table request).Ensures R s (fun _ t => I t) fun _ t => I t :=
    ensures_invoke (fun v => asked (.ok v)) fun e => asked (.error e)
  exact called.bind rest

end

/-! ### What a request asks for -/

/-- What is asked of a table for a user, with the identifiers that were made. -/
def Task.Asks (event user : Value) (made : List String) : Task → Request → Prop
  | create, request => ∃ text fields, made = [text] ∧ request = .put (key user (.text text) ++ fields) none
  | list, request => ∃ field slot, request = .queryText field slot
  | get, request => ∃ id, HasId event id ∧ request = .get (key user id)
  | update, request | markDone, request =>
    ∃ id change, HasId event id ∧ request = .update (key user id) change none .allNew
  | delete, request => ∃ id, HasId event id ∧ request = .delete (key user id)

/-- A record that a request may leave: perhaps an identifier, and at most one call after it. -/
def Asked.Records (r : Asked) (record : List Exchange) : Prop :=
  ∃ made : List String, record = made.map (.made .identifier) ∨
    ∃ table user request reply, r.setting.given? "TODO_TABLE" = some table ∧ claimedUser r.event = .ok user ∧
      r.task.Asks r.event user made request ∧
      record = made.map (.made .identifier) ++ [.called (.table table request) reply]

section

variable {r : Asked}

lemma Asked.records_nil : r.Records [] := ⟨[], .inl rfl⟩

lemma Asked.leaves_ask {request : Request} (given : r.setting.given? "TODO_TABLE" = some table)
    (claimed : claimedUser r.event = .ok user) (asks : r.task.Asks r.event user [] request)
    (rest : ∀ v record, r.Records record → Leaves Recorded (next v) record r.Records) :
    Leaves Recorded (.ask table request >>= next) [] r.Records := by
  refine Todo.leaves_ask ?_ rest
  rintro reply _ rfl
  exact ⟨[], .inr ⟨table, user, request, reply, given, claimed, asks, rfl⟩⟩

lemma leaves_changed {text : String} {reply : Value} {record : List Exchange} (holds : r.Records record) :
    Leaves Recorded (changed text reply) record r.Records :=
  ensures_lift_bind (fun _ _ => leaves_respond holds) fun _ _ => holds

lemma Asked.leaves_create {setting : Setting} {event context : Value} :
    Leaves Recorded (create setting event) [] (mk .create setting event context).Records := by
  refine leaves_guarded (leaves_withUser records_nil fun user claimed => ?_)
  refine leaves_bodyOf records_nil fun body => ?_
  refine ensures_lift_bind (fun content _ => ?_) fun _ _ => records_nil
  refine ensures_lift_bind (fun completed _ => ?_) fun _ _ => records_nil
  split_ifs
  · exact leaves_respond records_nil
  have made : Flow.identifier.Ensures Recorded []
      (fun text record => record = [.made .identifier text])
      fun _ record => (mk .create setting event context).Records record :=
    ensures_fresh fun text record grown => grown
  refine made.bind ?_
  rintro text _ rfl
  refine leaves_withTable ⟨[text], .inl rfl⟩ fun table given => ?_
  refine Todo.leaves_ask ?_ fun _ _ holds => leaves_respond holds
  rintro reply _ rfl
  exact ⟨[text], .inr ⟨table, user, _, reply, given, claimed, ⟨text, _, rfl, rfl⟩, rfl⟩⟩

lemma Asked.leaves_records (r : Asked) : Leaves Recorded r.flow [] r.Records := by
  obtain ⟨task, setting, event, context⟩ := r
  cases task with
  | create => exact leaves_create
  | list =>
    refine leaves_guarded (leaves_withUser records_nil fun user claimed => ?_)
    refine leaves_withTable records_nil fun table given => ?_
    refine leaves_ask given claimed ⟨_, _, rfl⟩ fun v record holds => ?_
    refine ensures_lift_bind (fun items _ => ?_) fun _ _ => holds
    exact ensures_lift_bind (fun count _ => leaves_respond holds) fun _ _ => holds
  | get =>
    refine leaves_guarded (leaves_withUser records_nil fun user claimed => ?_)
    refine leaves_withId records_nil fun id named => leaves_withTable records_nil fun table given => ?_
    refine leaves_ask given claimed ⟨id, named, rfl⟩ fun v record holds => ?_
    refine ensures_lift_bind (fun item _ => ?_) fun _ _ => holds
    split_ifs
    · exact leaves_respond holds
    · exact leaves_respond holds
  | update =>
    refine leaves_guarded (leaves_withUser records_nil fun user claimed => ?_)
    refine leaves_withId records_nil fun id named => leaves_bodyOf records_nil fun body => ?_
    refine ensures_lift_bind (fun content _ => ?_) fun _ _ => records_nil
    refine ensures_lift_bind (fun completed _ => ?_) fun _ _ => records_nil
    split
    · exact leaves_respond records_nil
    · exact leaves_respond records_nil
    · refine leaves_withTable records_nil fun table given => ?_
      exact leaves_ask given claimed ⟨id, _, named, rfl⟩ fun _ _ holds => leaves_changed holds
  | markDone =>
    refine leaves_guarded (leaves_withUser records_nil fun user claimed => ?_)
    refine leaves_withId records_nil fun id named => leaves_withTable records_nil fun table given => ?_
    exact leaves_ask given claimed ⟨id, _, named, rfl⟩ fun _ _ holds => leaves_changed holds
  | delete =>
    refine leaves_guarded (leaves_withUser records_nil fun user claimed => ?_)
    refine leaves_withId records_nil fun id named => leaves_withTable records_nil fun table given => ?_
    exact leaves_ask given claimed ⟨id, named, rfl⟩ fun _ _ holds => leaves_respond holds

end

/-! ### Identifiers -/

/-- A text of letters, digits, low lines and hyphens, perhaps with a line feed at its end. -/
def IsId (text : String) : Prop :=
  ∃ body, body ≠ [] ∧ (∀ c ∈ body, Text.isWord c ∨ c = '-') ∧ (text.toList = body ∨ text.toList = body ++ ['\n'])

lemma isIdentifier_iff (text : String) : isIdentifier text.toList = true ↔ IsId text := by
  rw [IsId]
  generalize text.toList = cs
  simp only [isIdentifier, Bool.and_eq_true, Bool.not_eq_true', isEmpty_eq_false_iff, all_eq_true, Bool.or_eq_true, beq_iff_eq]
  constructor
  · rintro ⟨filled, legal⟩
    refine ⟨_, filled, legal, ?_⟩
    split_ifs with feed
    · exact .inr (dropLast_append_getLast? '\n' feed).symm
    · exact .inl rfl
  · rintro ⟨body, filled, legal, rfl | rfl⟩
    · have plain : cs.getLast? ≠ some '\n' := by
        intro feed
        have := legal '\n' (mem_of_getLast? feed)
        revert this
        decide
      rw [if_neg plain]
      exact ⟨filled, legal⟩
    · simpa using ⟨filled, legal⟩

lemma validId_text (text : String) : ∃ valid, validId (.text text) = .ok valid ∧ (valid = true ↔ IsId text) := by
  rw [validId]
  split_ifs with empty
  · refine ⟨false, rfl, ?_⟩
    rw [← isIdentifier_iff]
    have : text = "" := by simpa [truthy] using empty
    simp [this, isIdentifier]
  · exact ⟨_, rfl, isIdentifier_iff text⟩

lemma HasId.exists_text {event id : Value} (has : HasId event id) : ∃ text, id = .text text ∧ IsId text := by
  have checked := has.2
  cases id with
  | text s =>
    obtain ⟨valid, read, iff⟩ := validId_text s
    exact ⟨s, rfl, iff.1 (Except.ok.inj (read.symm.trans checked))⟩
  | _ =>
    unfold validId at checked
    split_ifs at checked
    cases checked

/-- The identifier in the key of a request. -/
def namedId? : Request → Option Value
  | .get key | .put key _ | .update key _ _ _ | .delete key => Value.lookup "id" key
  | _ => none

/-- Exactly such texts are accepted, and no request names an entry by anything else, as long as the identifiers that are
made for it are such texts. -/
theorem keys_name_identifiers (r : Asked) (text : String) :
    (∃ valid, validId (.text text) = .ok valid ∧ (valid = true ↔ IsId text)) ∧
      Leaves Recorded r.flow [] fun record => (∀ made, .made .identifier made ∈ record → IsId made) →
        ∀ table request reply id, .called (.table table request) reply ∈ record → namedId? request = some id →
          ∃ text, id = .text text ∧ IsId text := by
  have named {record : List Exchange} (records : r.Records record) (legal : ∀ made, .made .identifier made ∈ record → IsId made)
      (table : String) (request : Request) (reply : Except Fault Value) (id : Value)
      (called : .called (.table table request) reply ∈ record) (named : namedId? request = some id) :
      ∃ text, id = .text text ∧ IsId text := by
    obtain ⟨made, rfl | ⟨_, user, request, _, -, -, asks, rfl⟩⟩ := records
    · simp at called
    · obtain ⟨⟨-, rfl⟩, -⟩ := by simpa using called
      cases task : r.task with
      | create =>
        rw [task] at asks
        obtain ⟨text, fields, rfl, rfl⟩ := asks
        exact ⟨text, (Option.some.inj named).symm, legal text (by simp)⟩
      | list =>
        rw [task] at asks
        obtain ⟨field, slot, rfl⟩ := asks
        cases named
      | get | delete =>
        rw [task] at asks
        obtain ⟨id', has, rfl⟩ := asks
        cases named
        exact has.exists_text
      | update | markDone =>
        rw [task] at asks
        obtain ⟨id', change, has, rfl⟩ := asks
        cases named
        exact has.exists_text
  exact ⟨validId_text text, r.leaves_records.mono (fun _ _ records => named records) fun _ _ records => named records⟩

/-- A line feed after an identifier is let through. -/
theorem line_feed_accepted : validId (.text "a\n") = .ok true ∧ ¬∀ c ∈ "a\n".toList, Text.isWord c ∨ c = '-' := by
  constructor
  · rfl
  · intro legal
    have := legal '\n' (by decide)
    revert this
    decide

/-! ### What a request does to the entries -/

section

variable {r : Asked} {record : List Exchange} {tables tables' : Tables Entry} {e : Entry}
variable {e' : Entry}

lemma placed?_key {id : Value} {fields : Fields} :
    placed? table (key user id ++ fields) = some e ↔ table = e.table ∧ user = .text e.user ∧ id = .text e.id := by
  have there : Value.lookup "cognito-username" (key user id ++ fields) = some user ∧
      Value.lookup "id" (key user id ++ fields) = some id := ⟨rfl, rfl⟩
  rw [placed?, there.1]
  constructor
  · intro found
    split at found
    · obtain rfl := Option.some.inj found
      simp_all
    · cases found
  · rintro ⟨rfl, rfl, rfl⟩
    rfl

lemma Asked.settles_iff {id : Value} (fields : Fields) (given : r.setting.given? "TODO_TABLE" = some table)
    (claimed : claimedUser r.event = .ok user) (located : placed? table (key user id ++ fields) = some e)
    (named : if r.task = .create then ∀ text, .made .identifier text ∈ record ↔ id = .text text
      else pathId r.event = .ok id) (accepted : ∃ call reply, .called call (.ok reply) ∈ record) :
    r.Settles record e' ↔ e' = e := by
  obtain ⟨rfl, rfl, rfl⟩ := placed?_key.1 located
  constructor
  · rintro ⟨table, user, id, -⟩
    have sameId : e'.id = e.id := by
      split_ifs at named id
      · exact (text.inj ((named _).1 id)).symm
      · exact (text.inj (Except.ok.inj (named.symm.trans id))).symm
    cases e'
    simp_all
  · rintro rfl
    refine ⟨given, claimed, ?_, accepted⟩
    split_ifs at named ⊢
    · exact (named _).2 rfl
    · exact named

lemma along_made {made : List String} :
    Flow.Along Keeps tables (made.map (.made .identifier) ++ record) tables' ↔
      Flow.Along Keeps tables record tables' := by
  induction made with
  | nil => rfl
  | cons text made ih =>
    rw [← ih]
    constructor
    · rintro (_ | ⟨⟨⟩, rest⟩)
      exact rest
    · intro rest
      exact .cons .made rest

lemma isSome_update_some {item : Fields} :
    (Function.update tables e (some item) e').isSome = true ↔ e' = e ∨ (tables e').isSome = true := by
  by_cases here : e' = e
  · simp [here]
  · simp [here]

lemma isSome_update_none :
    (Function.update tables e none e').isSome = true ↔ (tables e').isSome = true ∧ e' ≠ e := by
  by_cases here : e' = e
  · simp [here]
  · simp [here]

lemma Asked.isSome_iff_of_refused (refused : ∀ call reply, .called call (.ok reply) ∉ record) :
    (tables e).isSome = true ↔
      r.task.IsWriting ∧ r.Settles record e ∨ (tables e).isSome = true ∧ ¬ r.Deletes record e := by
  have unsettled : ¬ r.Settles record e := by
    rintro ⟨-, -, -, call, reply, mem⟩
    exact refused call reply mem
  simp [Deletes, unsettled]

/-- Which entries there are after a request: the one that it leaves there, and those that it does not delete. -/
lemma Asked.isSome_iff (records : r.Records record) (along : Flow.Along Keeps tables record tables') :
    (tables' e).isSome = true ↔
      r.task.IsWriting ∧ r.Settles record e ∨ (tables e).isSome = true ∧ ¬ r.Deletes record e := by
  obtain ⟨made, rfl | ⟨table, user, request, reply, given, claimed, asks, rfl⟩⟩ := records
  · rw [← append_nil (made.map _)] at along
    cases along_made.1 along
    exact isSome_iff_of_refused (by simp)
  obtain _ | ⟨keeps, ⟨⟩⟩ := along_made.1 along
  cases reply with
  | error fault =>
    cases keeps
    exact isSome_iff_of_refused (by simp)
  | ok v =>
    have accepted : ∃ call reply, Exchange.called call (.ok reply) ∈
        made.map (.made .identifier) ++ [.called (.table table request) (.ok v)] :=
      ⟨_, v, mem_append_right _ (mem_singleton_self _)⟩
    cases task : r.task with
    | create =>
      rw [task] at asks
      obtain ⟨text, fields, rfl, rfl⟩ := asks
      cases keeps with
      | put located kept =>
        rw [settles_iff fields given claimed located (by simp [task, eq_comm]) accepted, isSome_update_some]
        simp [Task.IsWriting, Deletes, task]
    | list =>
      rw [task] at asks
      obtain ⟨field, slot, rfl⟩ := asks
      cases keeps
      simp [Task.IsWriting, Deletes, task]
    | get =>
      rw [task] at asks
      obtain ⟨id, ⟨named, -⟩, rfl⟩ := asks
      cases keeps
      simp [Task.IsWriting, Deletes, task]
    | update =>
      rw [task] at asks
      obtain ⟨id, change, ⟨named, -⟩, rfl⟩ := asks
      cases keeps with
      | update located turns _ =>
        rw [settles_iff [] given claimed located (by simp [task, named]) accepted, isSome_update_some]
        simp [Task.IsWriting, Deletes, task]
    | markDone =>
      rw [task] at asks
      obtain ⟨id, change, ⟨named, -⟩, rfl⟩ := asks
      cases keeps with
      | update located turns _ =>
        rw [settles_iff [] given claimed located (by simp [task, named]) accepted, isSome_update_some]
        simp [Task.IsWriting, Deletes, task]
    | delete =>
      rw [task] at asks
      obtain ⟨id, ⟨named, -⟩, rfl⟩ := asks
      cases keeps with
      | delete located =>
        rw [Deletes, settles_iff [] given claimed located (by simp [task, named]) accepted,
          isSome_update_none]
        simp [Task.IsWriting, task]

end

/-! ### Histories -/

section

variable {history past : History} {r : Asked} {record : List Exchange} {tables : Tables Entry} {e : Entry}
  {P : Task → Prop}

lemma standing_append_iff : Standing P (history ++ [(r, record)]) e ↔
    P r.task ∧ r.Settles record e ∨ Standing P history e ∧ ¬ r.Deletes record e := by
  constructor
  · rintro ⟨past, r', record', since, split, task, settles, kept⟩
    rcases eq_nil_or_concat since with rfl | ⟨since, last, rfl⟩
    · obtain ⟨rfl, same⟩ := append_inj' split rfl
      cases same
      exact .inl ⟨task, settles⟩
    · rw [concat_eq_append, ← cons_append, ← append_assoc] at split
      obtain ⟨rfl, same⟩ := append_inj' split rfl
      cases same
      refine .inr ⟨⟨past, r', record', since, rfl, task, settles, fun later mem => ?_⟩, ?_⟩
      · exact kept later (by simp [mem])
      · exact kept (r, record) (by simp)
  · rintro (⟨task, settles⟩ | ⟨⟨past, r', record', since, rfl, task, settles, kept⟩, keeps⟩)
    · exact ⟨history, r, record, [], rfl, task, settles, by simp⟩
    · refine ⟨past, r', record', since ++ [(r, record)], by simp, task, settles, ?_⟩
      intro later mem
      rcases mem_append.1 mem with mem | mem
      · exact kept later mem
      · rw [mem_singleton.1 mem]
        exact keeps

lemma not_standing_nil : ¬ Standing P [] e := by
  rintro ⟨past, r, record, since, split, -⟩
  simp at split

/-- A table holds what was created, changed or marked and not deleted since. -/
lemma Handled.isSome_iff (handled : Handled history tables) :
    (tables e).isSome = true ↔ Standing Task.IsWriting history e := by
  induction handled with
  | start => simp [not_standing_nil]
  | @next history r record outcome _ _ _ run along ih =>
    have records : r.Records record := by
      cases outcome with
      | ok answer => exact r.leaves_records.result run
      | error fault => exact r.leaves_records.fault run
    rw [r.isSome_iff records along, ih, standing_append_iff]

lemma Handled.exists_of_append {rest : History} (handled : Handled (past ++ rest) tables) :
    ∃ before, Handled past before := by
  generalize whole : past ++ rest = history at handled
  induction handled generalizing rest with
  | start =>
    obtain ⟨rfl, -⟩ := append_eq_nil_iff.1 whole
    exact ⟨_, .start⟩
  | @next history r record _ _ _ earlier run along ih =>
    rcases eq_nil_or_concat rest with rfl | ⟨rest, last, rfl⟩
    · rw [append_nil] at whole
      subst whole
      exact ⟨_, .next earlier run along⟩
    · rw [concat_eq_append, ← append_assoc] at whole
      exact ih (append_inj' whole rfl).1

/-- Where only standing entries are changed and marked, those that were created are the ones that stand. -/
lemma standing_writing_iff
    (found : ∀ past r record rest e, history = past ++ (r, record) :: rest →
      (r.task = .update ∨ r.task = .markDone) → r.Settles record e → Standing (· = .create) past e) :
    Standing Task.IsWriting history e ↔ Standing (· = .create) history e := by
  induction history using reverseRecOn with
  | nil => simp [not_standing_nil]
  | append_singleton history last ih =>
    obtain ⟨r, record⟩ := last
    have earlier : Standing Task.IsWriting history e ↔ Standing (· = .create) history e := by
      refine ih fun past r' record' rest e' split => found past r' record' (rest ++ [(r, record)]) e' ?_
      simp [split]
    rw [standing_append_iff, standing_append_iff, earlier]
    constructor
    · rintro (⟨task | task, settles⟩ | standing)
      · exact .inl ⟨task, settles⟩
      · refine .inr ⟨found history r record [] e rfl task settles, ?_⟩
        rintro ⟨deletes, -⟩
        rcases task with task | task <;> rw [task] at deletes <;> cases deletes
      · exact .inr standing
    · rintro (⟨task, settles⟩ | standing)
      · exact .inl ⟨.inl task, settles⟩
      · exact .inr standing

/-- After any sequence of requests, by any users and for any identifiers, a table holds exactly what was created,
changed or marked and not deleted since. At every moment it holds exactly what was created and not deleted
since if, and only if, nothing was ever changed or marked that was not standing in that sense. -/
theorem entries_are_the_created_iff (handled : Handled history tables) :
    (∀ e, (tables e).isSome = true ↔ Standing Task.IsWriting history e) ∧
    ((∀ past rest before, history = past ++ rest → Handled past before →
        ∀ e, (before e).isSome = true ↔ Standing (· = .create) past e) ↔
      ∀ past r record rest e, history = past ++ (r, record) :: rest →
        (r.task = .update ∨ r.task = .markDone) → r.Settles record e → Standing (· = .create) past e) := by
  refine ⟨fun e => handled.isSome_iff, fun created past r record rest e split task settles => ?_, ?_⟩
  · have split' : history = (past ++ [(r, record)]) ++ rest := by rw [split, List.append_cons]
    rw [split'] at handled
    obtain ⟨before, begun⟩ := handled.exists_of_append
    have there : Standing Task.IsWriting (past ++ [(r, record)]) e := standing_append_iff.2 (.inl ⟨.inr task, settles⟩)
    have made := (created _ rest before split' begun e).1 (begun.isSome_iff.2 there)
    rcases standing_append_iff.1 made with ⟨creates, -⟩ | ⟨standing, -⟩
    · rcases task with task | task <;> rw [task] at creates <;> cases creates
    · exact standing
  · intro found past rest before split begun e
    rw [begun.isSome_iff]
    refine standing_writing_iff fun past' r record rest' e' split' => ?_
    refine found past' r record (rest' ++ rest) e' ?_
    rw [split, split', List.append_assoc, List.cons_append]

end

def firstEntry (task : Task) (user : String) : Asked where
  task := task
  setting := ⟨[("TODO_TABLE", "todos")], default, []⟩
  event := .map [("requestContext", .map [("authorizer", .map [("claims", .map [("username", .text user)])])]),
    ("pathParameters", .map [("id", .text "1")]), ("body", .map [("item", .text "milk")])]
  context := .null

def marked (item : Fields) : Fields := put "completed" (.bool true) item

def markedReply (item : Fields) : Value := .map [("Attributes", .map (marked item))]

def markCall (user : String) : Call :=
  .table "todos" (.update (key (.text user) (.text "1")) ⟨[], [.setAs "#field" "completed" "value" (.bool true)]⟩
    none .allNew)

lemma keeps_marked {tables : Tables Entry} {user : String} {item : Fields}
    (before : (tables ⟨"todos", user, "1"⟩).getD (key (.text user) (.text "1")) = item) :
    Keeps tables (.called (markCall user) (.ok (markedReply item)))
      (Function.update tables ⟨"todos", user, "1"⟩ (some (marked item))) := by
  have located : placed? "todos" (key (.text user) (.text "1")) = some ⟨"todos", user, "1"⟩ := rfl
  refine .update located ⟨by simp, fun assignment mem => ?_, fun name other => ?_⟩ fun _ => rfl
  · rw [mem_singleton.1 mem]
    exact ⟨_, lookup_put_self, .same _⟩
  · rw [before]
    exact lookup_put_of_ne fun same => other (mem_singleton.2 same)

def created : Fields :=
  key (.text "u") (.text "1") ++ [("item", .text "milk"), ("completed", .bool false),
    ("creation_date", stamp (firstEntry .create "u").setting),
    ("lastupdate_date", stamp (firstEntry .create "u").setting)]

/-- An entry is created and marked, and another user deletes one of the same identifier: the table holds the
one that was created, at every moment. -/
theorem entries_are_the_created_iff_marked : ∃ history tables,
    Handled history tables ∧ history.map (·.1.task) = [.create, .markDone, .delete] ∧
    (tables ⟨"todos", "u", "1"⟩).isSome = true ∧
    ∀ past rest before, history = past ++ rest → Handled past before →
      ∀ e, (before e).isSome = true ↔ Standing (· = .create) past e := by
  obtain ⟨_, creates⟩ : ∃ answer, (firstEntry .create "u").flow.told [.text "1", .reply (.ok .null)] =
      some (.ok answer, [.made .identifier "1", .called (.table "todos" (.put created none)) (.ok .null)]) :=
    ⟨_, rfl⟩
  obtain ⟨_, marks⟩ : ∃ answer, (firstEntry .markDone "u").flow.told [.reply (.ok (markedReply created))] =
      some (.ok answer, [.called (markCall "u") (.ok (markedReply created))]) := ⟨_, rfl⟩
  obtain ⟨_, deletes⟩ : ∃ answer, (firstEntry .delete "v").flow.told [.reply (.ok .null)] =
      some (.ok answer, [.called (.table "todos" (.delete (key (.text "v") (.text "1")))) (.ok .null)]) := ⟨_, rfl⟩
  have located : placed? "todos" created = some ⟨"todos", "u", "1"⟩ := rfl
  have located' : placed? "todos" (key (.text "v") (.text "1")) = some ⟨"todos", "v", "1"⟩ := rfl
  have first := Handled.next .start (.of_told creates (along_recorded [] _))
    (.cons .made (.cons (.put located (.same _)) (.nil _)))
  have second := Handled.next first (.of_told marks (along_recorded [] _))
    (.cons (keeps_marked (by rw [Function.update_self, Option.getD_some])) (.nil _))
  have third := Handled.next second (.of_told deletes (along_recorded [] _)) (.cons (.delete located') (.nil _))
  refine ⟨_, _, third, rfl, by simp, (entries_are_the_created_iff third).2.2 ?_⟩
  intro past r record rest e split task settles
  match past, split with
  | [], split =>
    cases split
    simp [firstEntry] at task
  | [_], split =>
    cases split
    obtain ⟨table, user, id, -⟩ := settles
    have named : pathId (firstEntry .markDone "u").event = .ok (.text e.id) := id
    have same : e.id = "1" := (text.inj (Except.ok.inj named)).symm
    refine ⟨[], _, _, [], rfl, rfl, ⟨table, user, ?_, _, _, .tail _ (.head _)⟩, by simp⟩
    rw [same]
    exact .head _
  | [_, _], split =>
    cases split
    simp [firstEntry] at task
  | _ :: _ :: _ :: _, split => simp at split

/-- An entry that was never created is there once it is marked. -/
theorem marked_entry_was_never_created : ∃ history tables,
    Handled history tables ∧ (tables ⟨"todos", "u", "1"⟩).isSome = true ∧
      ∀ e, ¬ Standing (· = .create) history e := by
  obtain ⟨answer, told⟩ : ∃ answer, (firstEntry .markDone "u").flow.told
      [.reply (.ok (markedReply (key (.text "u") (.text "1"))))] =
        some (.ok answer, [.called (markCall "u") (.ok (markedReply (key (.text "u") (.text "1"))))]) := ⟨_, rfl⟩
  have run := Flow.Runs.of_told told (along_recorded [] _)
  refine ⟨_, _, .next .start run (.cons (keeps_marked rfl) (.nil _)), ?_, fun e standing => ?_⟩
  · simp
  · rcases standing_append_iff.1 standing with ⟨⟨⟩, -⟩ | ⟨none, -⟩
    exact not_standing_nil none

end Unbundle.Todo
