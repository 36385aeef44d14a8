import Mathlib.Tactic.Common
import Unbundle.Service.Flow

/-!
# Runs of flows

A flow that is answered goes on to its end, and each answer may change the state of whoever gives it. What
may be answered in a state is a relation, so that a record of all that was asked, a data store and an
adversary are each such a state.
-/

open List

namespace Unbundle.Service

/-- Something that a flow asked for, and what it was given. -/
inductive Exchange where
  | called (call : Call) (reply : Except Fault Value)
  | made (secret : Secret) (text : String)
  | marked (mark : String) (first : Bool)

/-- An exchange that does not ask for a change of an item. -/
def Exchange.IsReading : Exchange → Prop
  | .called (.table _ (.put ..)) _ | .called (.table _ (.update ..)) _ => False
  | _ => True

/-- A record of all that was asked and answered, in its order. -/
def Recorded (before : List Exchange) (x : Exchange) (after : List Exchange) : Prop :=
  after = before ++ [x]

namespace Flow

variable {σ α β : Type}

section

variable (R : σ → Exchange → σ → Prop)

/-- How a flow may end, and in which state, when it is answered from a state on. -/
inductive Runs : Flow α → σ → Except Fault α → σ → Prop
  | done (a : α) (s : σ) : Runs (done a) s (.ok a) s
  | fail (e : Fault) (s : σ) : Runs (fail e) s (.error e) s
  | call {c : Call} {next : Except Fault Value → Flow α} {reply : Except Fault Value} {s t u : σ}
      {outcome : Except Fault α} :
      R s (.called c reply) t → Runs (next reply) t outcome u → Runs (call c next) s outcome u
  | note {n : Note} {next : Flow α} {s t : σ} {outcome : Except Fault α} :
      Runs next s outcome t → Runs (note n next) s outcome t
  | fresh {secret : Secret} {next : String → Flow α} {text : String} {s t u : σ}
      {outcome : Except Fault α} :
      R s (.made secret text) t → Runs (next text) t outcome u → Runs (fresh secret next) s outcome u
  | once {mark : String} {next : Bool → Flow α} {first : Bool} {s t u : σ}
      {outcome : Except Fault α} :
      R s (.marked mark first) t → Runs (next first) t outcome u → Runs (once mark next) s outcome u

/-- However a flow is answered from a state on, it ends with a result or a fault as promised. -/
structure Ensures (flow : Flow α) (s : σ) (result : α → σ → Prop) (fault : Fault → σ → Prop) :
    Prop where
  result : ∀ {a t}, Runs R flow s (.ok a) t → result a t
  fault : ∀ {e t}, Runs R flow s (.error e) t → fault e t

end

variable {R : σ → Exchange → σ → Prop} {flow : Flow α} {s : σ} {result goal : α → σ → Prop}
  {fault fault' : Fault → σ → Prop}

/-! ### Going on with an outcome -/

def resume : Flow α → (Except Fault α → Flow β) → Flow β
  | done a, k => k (.ok a)
  | fail e, k => k (.error e)
  | call c next, k => call c fun r => (next r).resume k
  | note n next, k => note n (next.resume k)
  | fresh s next, k => fresh s fun x => (next x).resume k
  | once m next, k => once m fun b => (next b).resume k

def withResult (k : α → Flow β) : Except Fault α → Flow β
  | .ok a => k a
  | .error e => fail e

def withFault (handler : Fault → Flow α) : Except Fault α → Flow α
  | .ok a => done a
  | .error e => if e.isInterrupt then fail e else handler e

lemma bind_eq_resume (flow : Flow α) (k : α → Flow β) : flow >>= k = flow.resume (withResult k) := by
  induction flow with
  | done a => rfl
  | fail e => rfl
  | note n next ih => exact congrArg (note n) ih
  | call c next ih => exact congrArg (call c) (funext ih)
  | fresh secret next ih => exact congrArg (fresh secret) (funext ih)
  | once mark next ih => exact congrArg (once mark) (funext ih)

lemma attempt_eq_resume (flow : Flow α) (handler : Fault → Flow α) :
    flow.attempt handler = flow.resume (withFault handler) := by
  induction flow with
  | done a => rfl
  | fail e => rfl
  | note n next ih => exact congrArg (note n) ih
  | call c next ih => exact congrArg (call c) (funext ih)
  | fresh secret next ih => exact congrArg (fresh secret) (funext ih)
  | once mark next ih => exact congrArg (once mark) (funext ih)

/-- A run of a flow that goes on with the outcome of another is a run of the other, and then of what follows. -/
lemma Runs.of_resume {k : Except Fault α → Flow β} {outcome : Except Fault β} {u : σ}
    (run : Runs R (flow.resume k) s outcome u) : ∃ o t, Runs R flow s o t ∧ Runs R (k o) t outcome u := by
  induction flow generalizing s with
  | done a => exact ⟨_, s, .done a s, run⟩
  | fail e => exact ⟨_, s, .fail e s, run⟩
  | call c next ih =>
    cases run with
    | call answered rest =>
      obtain ⟨o, t, own, rest⟩ := ih _ rest
      exact ⟨o, t, .call answered own, rest⟩
  | note n next ih =>
    cases run with
    | note rest =>
      obtain ⟨o, t, own, rest⟩ := ih rest
      exact ⟨o, t, .note own, rest⟩
  | fresh secret next ih =>
    cases run with
    | fresh answered rest =>
      obtain ⟨o, t, own, rest⟩ := ih _ rest
      exact ⟨o, t, .fresh answered own, rest⟩
  | once mark next ih =>
    cases run with
    | once answered rest =>
      obtain ⟨o, t, own, rest⟩ := ih _ rest
      exact ⟨o, t, .once answered own, rest⟩

end Flow

open Flow

variable {σ α β : Type} {R : σ → Exchange → σ → Prop} {flow : Flow α} {s : σ} {result goal : α → σ → Prop}
  {fault fault' : Fault → σ → Prop}

/-! ### Rules -/

lemma Flow.Ensures.mono (body : Ensures R flow s result fault) (results : ∀ a t, result a t → goal a t)
    (faults : ∀ e t, fault e t → fault' e t) : Ensures R flow s goal fault' :=
  ⟨fun run => results _ _ (body.result run), fun run => faults _ _ (body.fault run)⟩

lemma Flow.Ensures.and {result' : α → σ → Prop} {fault' : Fault → σ → Prop}
    (body : Ensures R flow s result fault) (body' : Ensures R flow s result' fault') :
    Ensures R flow s (fun a t => result a t ∧ result' a t) fun e t => fault e t ∧ fault' e t :=
  ⟨fun run => ⟨body.result run, body'.result run⟩, fun run => ⟨body.fault run, body'.fault run⟩⟩

lemma ensures_done {a : α} (holds : result a s) : Ensures R (done a) s result fault := by
  constructor
  · rintro _ _ ⟨⟩
    exact holds
  · rintro _ _ ⟨⟩

lemma ensures_fail {e : Fault} (holds : fault e s) : Ensures R (fail e : Flow α) s result fault := by
  constructor
  · rintro _ _ ⟨⟩
  · rintro _ _ ⟨⟩
    exact holds

lemma Flow.Ensures.resume {k : Except Fault α → Flow β} {goal : β → σ → Prop} (body : Ensures R flow s result fault)
    (ok : ∀ a t, result a t → Ensures R (k (.ok a)) t goal fault')
    (error : ∀ e t, fault e t → Ensures R (k (.error e)) t goal fault') :
    Ensures R (flow.resume k) s goal fault' := by
  have rest : ∀ {o t}, Runs R flow s o t → Ensures R (k o) t goal fault' := by
    intro o t own
    cases o with
    | ok a => exact ok a t (body.result own)
    | error e => exact error e t (body.fault own)
  constructor
  · intro b u run
    obtain ⟨o, t, own, later⟩ := run.of_resume
    exact (rest own).result later
  · intro e u run
    obtain ⟨o, t, own, later⟩ := run.of_resume
    exact (rest own).fault later

lemma Flow.Ensures.bind {k : α → Flow β} {goal : β → σ → Prop} (first : Ensures R flow s result fault)
    (second : ∀ a t, result a t → Ensures R (k a) t goal fault) :
    Ensures R (flow >>= k) s goal fault := by
  rw [bind_eq_resume]
  exact first.resume second fun e t holds => ensures_fail holds

lemma Flow.Ensures.attempt {handler : Fault → Flow α} (body : Ensures R flow s result fault)
    (interrupted : ∀ e t, fault e t → e.isInterrupt = true → fault' e t)
    (handled : ∀ e t, fault e t → e.isInterrupt = false → Ensures R (handler e) t result fault') :
    Ensures R (flow.attempt handler) s result fault' := by
  rw [attempt_eq_resume]
  refine body.resume (fun a t holds => ensures_done holds) fun e t holds => ?_
  rw [withFault]
  split_ifs with stop
  · exact ensures_fail (interrupted e t holds stop)
  · exact handled e t holds (Bool.eq_false_iff.2 stop)

lemma ensures_lift {outcome : Except Fault α} (ok : ∀ a, outcome = .ok a → result a s)
    (error : ∀ e, outcome = .error e → fault e s) :
    Ensures R (liftM outcome : Flow α) s result fault := by
  cases outcome with
  | ok a => exact ensures_done (ok a rfl)
  | error e => exact ensures_fail (error e rfl)

lemma ensures_lift_bind {outcome : Except Fault α} {k : α → Flow β} {goal : β → σ → Prop}
    (ok : ∀ a, outcome = .ok a → Ensures R (k a) s goal fault)
    (error : ∀ e, outcome = .error e → fault e s) :
    Ensures R ((liftM outcome : Flow α) >>= k) s goal fault := by
  cases outcome with
  | ok a => exact ok a rfl
  | error e => exact ensures_fail (error e rfl)

/-- Where a fault need not tell anything, only what goes on counts. -/
lemma ensures_given {outcome : Except Fault α} {k : α → Flow β} {goal : β → σ → Prop}
    (ok : ∀ a, outcome = .ok a → Ensures R (k a) s goal fun _ _ => True) :
    Ensures R ((liftM outcome : Flow α) >>= k) s goal fun _ _ => True :=
  ensures_lift_bind ok fun _ _ => trivial

lemma ensures_ok_bind {outcome : Except Fault α} {a : α} {k : α → Flow β} {goal : β → σ → Prop}
    (ok : outcome = .ok a) (rest : Ensures R (k a) s goal fault) :
    Ensures R ((liftM outcome : Flow α) >>= k) s goal fault := by
  subst ok
  exact rest

lemma ensures_invoke {c : Call} {result : Value → σ → Prop}
    (ok : ∀ v t, R s (.called c (.ok v)) t → result v t)
    (error : ∀ e t, R s (.called c (.error e)) t → fault e t) :
    Ensures R (invoke c) s result fault := by
  constructor
  · rintro v t (_ | _ | ⟨answered, rest⟩)
    cases ‹Except Fault Value› with
    | ok w =>
      cases rest
      exact ok v t answered
    | error e => cases rest
  · rintro e t (_ | _ | ⟨answered, rest⟩)
    cases ‹Except Fault Value› with
    | ok w => cases rest
    | error e' =>
      cases rest
      exact error e t answered

lemma ensures_note {n : Note} {result : Unit → σ → Prop} (holds : result () s) :
    Ensures R (note n (done ())) s result fault := by
  constructor
  · rintro _ _ (_ | _ | _ | ⟨⟨⟩⟩)
    exact holds
  · rintro _ _ (_ | _ | _ | ⟨⟨⟩⟩)

lemma ensures_note_bind {n : Note} {k : Unit → Flow α} (rest : Ensures R (k ()) s result fault) :
    Ensures R (note n (done ()) >>= k) s result fault := by
  have noted : Ensures R (note n (done ())) s (fun _ t => t = s) fault := ensures_note rfl
  refine noted.bind ?_
  rintro _ _ rfl
  exact rest

lemma ensures_fresh {secret : Secret} {result : String → σ → Prop}
    (given : ∀ x t, R s (.made secret x) t → result x t) :
    Ensures R (fresh secret done) s result fault := by
  constructor
  · rintro x t (_ | _ | _ | _ | ⟨answered, ⟨⟩⟩)
    exact given x t answered
  · rintro x t (_ | _ | _ | _ | ⟨_, ⟨⟩⟩)

lemma Flow.Ensures.outcome_bind {k : Except Fault α → Flow β} {goal : β → σ → Prop}
    (body : Ensures R flow s result fault)
    (ok : ∀ a t, result a t → Ensures R (k (.ok a)) t goal fault')
    (error : ∀ e t, fault e t → e.isInterrupt = false → Ensures R (k (.error e)) t goal fault')
    (interrupted : ∀ e t, fault e t → e.isInterrupt = true → fault' e t) :
    Ensures R (flow.outcome >>= k) s goal fault' := by
  have wrapped : Ensures R (flow.bind fun a => done (.ok a)) s
      (fun outcome t => Ensures R (k outcome) t goal fault') fault :=
    body.bind fun a t holds => ensures_done (ok a t holds)
  have handled : Ensures R flow.outcome s (fun outcome t => Ensures R (k outcome) t goal fault') fault' :=
    wrapped.attempt interrupted fun e t holds go => ensures_done (error e t holds go)
  exact handled.bind fun _ _ rest => rest

lemma Flow.Ensures.orPrint {sentence : String} {default : α} (body : Ensures R flow s result fault)
    (handled : ∀ e t, fault e t → e.isInterrupt = false → result default t)
    (interrupted : ∀ e t, fault e t → e.isInterrupt = true → fault' e t) :
    Ensures R (flow.orPrint sentence default) s result fault' := by
  refine body.attempt interrupted fun e t holds go => ?_
  exact ensures_note_bind (ensures_done (handled e t holds go))

lemma Flow.Ensures.orLog {sentence : String} {default : α} (body : Ensures R flow s result fault)
    (handled : ∀ e t, fault e t → e.isInterrupt = false → result default t)
    (interrupted : ∀ e t, fault e t → e.isInterrupt = true → fault' e t) :
    Ensures R (flow.orLog sentence default) s result fault' := by
  refine body.attempt interrupted fun e t holds go => ?_
  exact ensures_note_bind (ensures_done (handled e t holds go))

lemma Flow.Ensures.noting {sentence : String} (body : Ensures R flow s result fault) :
    Ensures R (flow.noting sentence) s result fault :=
  body.attempt (fun _ _ holds _ => holds) fun _ _ holds _ => ensures_note_bind (ensures_fail holds)

/-! ### Records of runs -/

/-- A record only grows, and by what the flow exchanges when it runs on its own. -/
lemma Flow.Runs.exists_append {before after : List Exchange} {outcome : Except Fault α}
    (run : Runs Recorded flow before outcome after) :
    ∃ record, after = before ++ record ∧ Runs Recorded flow [] outcome record := by
  have shifted : ∃ record, after = before ++ record ∧
      ∀ start, Runs Recorded flow start outcome (start ++ record) := by
    induction run with
    | done a s => exact ⟨[], s.append_nil.symm, fun start => start.append_nil.symm ▸ .done a start⟩
    | fail e s => exact ⟨[], s.append_nil.symm, fun start => start.append_nil.symm ▸ .fail e start⟩
    | note _ ih =>
      obtain ⟨record, rfl, rest⟩ := ih
      exact ⟨record, rfl, fun start => .note (rest start)⟩
    | @call c _ reply _ _ _ _ answered _ ih =>
      obtain ⟨record, rfl, rest⟩ := ih
      obtain rfl := answered
      refine ⟨.called c reply :: record, by simp, fun start => ?_⟩
      rw [append_cons]
      exact .call rfl (rest _)
    | @fresh secret _ text _ _ _ _ answered _ ih =>
      obtain ⟨record, rfl, rest⟩ := ih
      obtain rfl := answered
      refine ⟨.made secret text :: record, by simp, fun start => ?_⟩
      rw [append_cons]
      exact .fresh rfl (rest _)
    | @once mark _ first _ _ _ _ answered _ ih =>
      obtain ⟨record, rfl, rest⟩ := ih
      obtain rfl := answered
      refine ⟨.marked mark first :: record, by simp, fun start => ?_⟩
      rw [append_cons]
      exact .once rfl (rest _)
  obtain ⟨record, grown, alone⟩ := shifted
  exact ⟨record, grown, alone []⟩

lemma Flow.Runs.exchange_unique {flow' : Flow β} {o : Except Fault α} {o' : Except Fault β} {x x' : Exchange}
    {before record : List Exchange} (run : Runs Recorded flow (before ++ [x]) o record)
    (run' : Runs Recorded flow' (before ++ [x']) o' record) : x = x' := by
  obtain ⟨r, grown, -⟩ := run.exists_append
  obtain ⟨r', grown', -⟩ := run'.exists_append
  have same := grown.symm.trans grown'
  rw [append_assoc, append_assoc, append_right_inj] at same
  exact (cons.inj same).1

/-- A record tells how a flow ended. -/
lemma Flow.Runs.outcome_unique {o o' : Except Fault α} {before record : List Exchange}
    (run : Runs Recorded flow before o record) (run' : Runs Recorded flow before o' record) : o = o' := by
  induction run with
  | done a s => cases run'; rfl
  | fail e s => cases run'; rfl
  | note _ ih =>
    cases run' with
    | note rest => exact ih rest
  | call answered rest ih =>
    obtain rfl := answered
    cases run' with
    | call answered rest' =>
      obtain rfl := answered
      cases rest.exchange_unique rest'
      exact ih rest'
  | fresh answered rest ih =>
    obtain rfl := answered
    cases run' with
    | fresh answered rest' =>
      obtain rfl := answered
      cases rest.exchange_unique rest'
      exact ih rest'
  | once answered rest ih =>
    obtain rfl := answered
    cases run' with
    | once answered rest' =>
      obtain rfl := answered
      cases rest.exchange_unique rest'
      exact ih rest'

/-! ### What a flow may ask for -/

/-- A flow that exchanges only what is of some kind. -/
def Flow.Within (P : Exchange → Prop) : Flow α → Prop
  | done _ | fail _ => True
  | note _ next => next.Within P
  | call c next => ∀ reply, P (.called c reply) ∧ (next reply).Within P
  | fresh secret next => ∀ text, P (.made secret text) ∧ (next text).Within P
  | once mark next => ∀ first, P (.marked mark first) ∧ (next first).Within P

section

variable {P : Exchange → Prop}

lemma within_lift (outcome : Except Fault α) : (liftM outcome : Flow α).Within P := by
  cases outcome <;> trivial

lemma within_invoke {c : Call} (allowed : ∀ reply, P (.called c reply)) : (invoke c).Within P :=
  fun reply => ⟨allowed reply, within_lift reply⟩

lemma Flow.Within.resume {k : Except Fault α → Flow β} (first : flow.Within P) (second : ∀ o, (k o).Within P) :
    (flow.resume k).Within P := by
  induction flow with
  | done a => exact second _
  | fail e => exact second _
  | note n next ih => exact ih first
  | call c next ih => exact fun reply => ⟨(first reply).1, ih reply (first reply).2⟩
  | fresh secret next ih => exact fun text => ⟨(first text).1, ih text (first text).2⟩
  | once mark next ih => exact fun answer => ⟨(first answer).1, ih answer (first answer).2⟩

lemma Flow.Within.bind {k : α → Flow β} (first : flow.Within P) (second : ∀ a, (k a).Within P) :
    (flow >>= k).Within P := by
  rw [bind_eq_resume]
  refine first.resume fun o => ?_
  cases o with
  | ok a => exact second a
  | error e => trivial

lemma within_lift_bind {outcome : Except Fault α} {k : α → Flow β}
    (rest : ∀ a, outcome = .ok a → (k a).Within P) : ((liftM outcome : Flow α) >>= k).Within P := by
  cases outcome with
  | ok a => exact rest a rfl
  | error e => trivial

lemma Flow.Within.attempt {handler : Fault → Flow α} (body : flow.Within P)
    (handled : ∀ e, (handler e).Within P) : (flow.attempt handler).Within P := by
  rw [attempt_eq_resume]
  refine body.resume fun o => ?_
  cases o with
  | ok a => trivial
  | error e =>
    rw [withFault]
    split_ifs
    · trivial
    · exact handled e

lemma Flow.Within.orPrint {sentence : String} {default : α} (body : flow.Within P) :
    (flow.orPrint sentence default).Within P :=
  body.attempt fun _ => trivial

lemma Flow.Within.ensures {I : σ → Prop} (within : flow.Within P)
    (keeps : ∀ {s x t}, P x → R s x t → I s → I t) (holds : I s) :
    Ensures R flow s (fun _ t => I t) fun _ t => I t := by
  have kept : ∀ {outcome t}, Runs R flow s outcome t → I t := by
    intro outcome t run
    induction run with
    | done a s => exact holds
    | fail e s => exact holds
    | note _ ih => exact ih within holds
    | call answered _ ih => exact ih (within _).2 (keeps (within _).1 answered holds)
    | fresh answered _ ih => exact ih (within _).2 (keeps (within _).1 answered holds)
    | once answered _ ih => exact ih (within _).2 (keeps (within _).1 answered holds)
  exact ⟨kept, kept⟩

/-- What a flow ensures depends only on how its own exchanges are answered. -/
lemma Flow.Within.ensures_of {R' : σ → Exchange → σ → Prop} (within : flow.Within P)
    (step : ∀ {s x t}, P x → R s x t → R' s x t) (ensures : Ensures R' flow s result fault) :
    Ensures R flow s result fault := by
  have runs : ∀ {outcome t}, Runs R flow s outcome t → Runs R' flow s outcome t := by
    intro outcome t run
    clear ensures
    induction run with
    | done a s => exact .done a s
    | fail e s => exact .fail e s
    | note _ ih => exact .note (ih within)
    | call answered _ ih => exact .call (step (within _).1 answered) (ih (within _).2)
    | fresh answered _ ih => exact .fresh (step (within _).1 answered) (ih (within _).2)
    | once answered _ ih => exact .once (step (within _).1 answered) (ih (within _).2)
  exact ⟨fun run => ensures.result (runs run), fun run => ensures.fault (runs run)⟩

lemma Flow.Within.ensures_same (silent : flow.Within fun _ => False) :
    Ensures R flow s (fun _ t => t = s) fun _ t => t = s :=
  silent.ensures (fun never => never.elim) rfl

end

/-! ### Flows that are told what they ask for -/

/-- An answer to what a flow asks for. -/
inductive Flow.Answer where
  | reply (outcome : Except Fault Value)
  | text (made : String)

/-- How a flow ends that is given the answers of a list in turn, with the record of all that it asked. A
flow that asks for something else than it is given, or more or less, does not end. -/
def Flow.told : Flow α → List Answer → Option (Except Fault α × List Exchange)
  | done a, [] => some (.ok a, [])
  | fail e, [] => some (.error e, [])
  | note _ next, answers => next.told answers
  | call c next, .reply outcome :: answers =>
    ((next outcome).told answers).map fun r => (r.1, .called c outcome :: r.2)
  | fresh secret next, .text made :: answers =>
    ((next made).told answers).map fun r => (r.1, .made secret made :: r.2)
  | _, _ => none

section

variable {answers answers' : List Answer} {record record' : List Exchange} {a : α}

lemma told_lift (outcome : Except Fault α) : (liftM outcome : Flow α).told [] = some (outcome, []) := by
  cases outcome <;> rfl

lemma told_lift_bind {outcome : Except Fault α} {k : α → Flow β} (ok : outcome = .ok a) :
    ((liftM outcome : Flow α) >>= k).told answers = (k a).told answers := by
  subst ok
  rfl

lemma told_invoke (c : Call) (reply : Except Fault Value) :
    (invoke c).told [.reply reply] = some (reply, [.called c reply]) := by
  cases reply <;> rfl

lemma told_resume {k : Except Fault α → Flow β} {o : Except Fault α} {outcome : Except Fault β}
    (first : flow.told answers = some (o, record)) (second : (k o).told answers' = some (outcome, record')) :
    (flow.resume k).told (answers ++ answers') = some (outcome, record ++ record') := by
  fun_induction told flow answers generalizing record with
  | case1 b =>
    obtain ⟨rfl, rfl⟩ := Prod.mk.inj (Option.some.inj first)
    exact second
  | case2 e =>
    obtain ⟨rfl, rfl⟩ := Prod.mk.inj (Option.some.inj first)
    exact second
  | case3 n next answers ih => exact ih first
  | case4 c next reply answers ih =>
    obtain ⟨⟨_, _⟩, rest, ⟨⟩⟩ := Option.map_eq_some_iff.1 first
    rw [resume, cons_append, told, ih rest]
    rfl
  | case5 secret next made answers ih =>
    obtain ⟨⟨_, _⟩, rest, ⟨⟩⟩ := Option.map_eq_some_iff.1 first
    rw [resume, cons_append, told, ih rest]
    rfl
  | case6 => cases first

lemma told_bind {k : α → Flow β} {outcome : Except Fault β} (first : flow.told answers = some (.ok a, record))
    (second : (k a).told answers' = some (outcome, record')) :
    (flow >>= k).told (answers ++ answers') = some (outcome, record ++ record') := by
  rw [bind_eq_resume]
  exact told_resume first second

lemma told_attempt {handler : Fault → Flow α} (body : flow.told answers = some (.ok a, record)) :
    (flow.attempt handler).told answers = some (.ok a, record) := by
  rw [attempt_eq_resume]
  simpa using told_resume body (rfl : (withFault handler (.ok a)).told [] = some (.ok a, []))

lemma told_attempt_error {handler : Fault → Flow α} {e : Fault} {outcome : Except Fault α}
    (body : flow.told answers = some (.error e, record)) (go : e.isInterrupt = false)
    (handled : (handler e).told [] = some (outcome, [])) : (flow.attempt handler).told answers = some (outcome, record) := by
  have caught : (withFault handler (.error e)).told [] = some (outcome, []) := by rwa [withFault, if_neg (by simp [go])]
  rw [attempt_eq_resume]
  simpa using told_resume body caught

lemma told_outcome {outcome : Except Fault α} (body : flow.told answers = some (outcome, record))
    (go : ∀ e, outcome = .error e → e.isInterrupt = false) :
    flow.outcome.told answers = some (.ok outcome, record) := by
  rw [Flow.outcome, ← bind_eq, bind_eq_resume, attempt_eq_resume, ← answers.append_nil, ← answers.append_nil,
    ← record.append_nil, ← record.append_nil]
  cases outcome with
  | ok a => exact told_resume (told_resume body rfl) rfl
  | error e => exact told_resume (told_resume body rfl) (by simp [withFault, go e rfl, told])

end

/-- States that follow each other along a list of exchanges. -/
inductive Flow.Along (R : σ → Exchange → σ → Prop) : σ → List Exchange → σ → Prop
  | nil (s : σ) : Along R s [] s
  | cons {x : Exchange} {xs : List Exchange} {s t u : σ} : R s x t → Along R t xs u → Along R s (x :: xs) u

lemma along_recorded (before record : List Exchange) : Along Recorded before record (before ++ record) := by
  induction record generalizing before with
  | nil => exact before.append_nil.symm ▸ .nil before
  | cons x record ih => exact .cons rfl (by simpa using ih (before ++ [x]))

/-- A flow that is given the answers of a list runs as it is told, where the states allow the answers. -/
lemma Flow.Runs.of_told {answers : List Answer} {outcome : Except Fault α} {record : List Exchange} {t : σ}
    (told : flow.told answers = some (outcome, record)) (along : Along R s record t) :
    Runs R flow s outcome t := by
  induction flow generalizing answers record s with
  | done a =>
    cases answers with
    | nil =>
      obtain ⟨rfl, rfl⟩ := Prod.mk.inj (Option.some.inj told)
      cases along
      exact .done a _
    | cons => cases told
  | fail e =>
    cases answers with
    | nil =>
      obtain ⟨rfl, rfl⟩ := Prod.mk.inj (Option.some.inj told)
      cases along
      exact .fail e _
    | cons => cases told
  | note n next ih => exact .note (ih told along)
  | call c next ih =>
    match answers, told with
    | .reply reply :: answers, told =>
      obtain ⟨⟨o, xs⟩, rest, same⟩ := Option.map_eq_some_iff.1 told
      obtain ⟨rfl, rfl⟩ := Prod.mk.inj same
      cases along with
      | cons answered along => exact .call answered (ih _ rest along)
  | fresh secret next ih =>
    match answers, told with
    | .text made :: answers, told =>
      obtain ⟨⟨o, xs⟩, rest, same⟩ := Option.map_eq_some_iff.1 told
      obtain ⟨rfl, rfl⟩ := Prod.mk.inj same
      cases along with
      | cons answered along => exact .fresh answered (ih _ rest along)
  | once mark next => cases answers <;> cases told

/-! ## Protocols of flows -/

/-- What may be done in each state, and what answers to calls do to the state. -/
structure Protocol (σ : Type) where
  /-- The states in which something may still be done. -/
  active : σ → Prop
  allows : σ → Call → Prop
  answers : σ → Call → Except Fault Value → σ → Prop

namespace Flow

variable {P : Protocol σ} {result : σ → α → Prop} {fault fault' : σ → Fault → Prop}
variable {k : α → Flow β} {goal : σ → β → Prop} {outcome : Except Fault α}

/-- A flow keeps to a protocol: from a state on it does only what the protocol allows, however it is
answered, and in the state where it ends its result or its fault is as promised. -/
def Keeps (P : Protocol σ) (result : σ → α → Prop) (fault : σ → Fault → Prop) : Flow α → σ → Prop
  | done a, s => result s a
  | fail e, s => fault s e
  | call c next, s =>
    P.active s ∧ P.allows s c ∧ ∀ reply t, P.answers s c reply t → Keeps P result fault (next reply) t
  | note _ next, s => P.active s ∧ Keeps P result fault next s
  | fresh _ next, s => P.active s ∧ ∀ x, Keeps P result fault (next x) s
  | once _ next, s => P.active s ∧ ∀ first, Keeps P result fault (next first) s

lemma keeps_bind
    (first : Keeps P result fault flow s)
    (second : ∀ t a, result t a → Keeps P goal fault (k a) t) :
    Keeps P goal fault (flow >>= k) s := by
  induction flow generalizing s with
  | done a => exact second s a first
  | fail e => exact first
  | call c next ih => exact ⟨first.1, first.2.1, fun reply t h => ih reply (first.2.2 reply t h)⟩
  | note n next ih => exact ⟨first.1, ih first.2⟩
  | fresh w next ih => exact ⟨first.1, fun x => ih x (first.2 x)⟩
  | once mark next ih => exact ⟨first.1, fun b => ih b (first.2 b)⟩

lemma keeps_attempt {handler : Fault → Flow α}
    (body : Keeps P result fault flow s)
    (interrupted : ∀ t e, fault t e → e.isInterrupt = true → fault' t e)
    (handled : ∀ t e, fault t e → Keeps P result fault' (handler e) t) :
    Keeps P result fault' (flow.attempt handler) s := by
  induction flow generalizing s with
  | done a => exact body
  | fail e =>
    rw [attempt]
    split_ifs with stop
    · exact interrupted s e body stop
    · exact handled s e body
  | call c next ih => exact ⟨body.1, body.2.1, fun reply t h => ih reply (body.2.2 reply t h)⟩
  | note n next ih => exact ⟨body.1, ih body.2⟩
  | fresh w next ih => exact ⟨body.1, fun x => ih x (body.2 x)⟩
  | once mark next ih => exact ⟨body.1, fun b => ih b (body.2 b)⟩

lemma keeps_lift (ok : ∀ a, outcome = .ok a → result s a)
    (error : ∀ e, outcome = .error e → fault s e) :
    Keeps P result fault (liftM outcome : Flow α) s := by
  cases outcome with
  | ok a => exact ok a rfl
  | error e => exact error e rfl

lemma keeps_lift_bind
    (ok : ∀ a, outcome = .ok a → Keeps P goal fault (k a) s)
    (error : ∀ e, outcome = .error e → fault s e) :
    Keeps P goal fault ((liftM outcome : Flow α) >>= k) s := by
  have first : Keeps P (fun t a => t = s ∧ outcome = .ok a) fault (liftM outcome : Flow α) s :=
    keeps_lift (fun _ given => ⟨rfl, given⟩) error
  refine keeps_bind first ?_
  rintro t a ⟨rfl, given⟩
  exact ok a given

lemma keeps_ask {table : String} {request : Request} {result : σ → Value → Prop} (active : P.active s)
    (allowed : P.allows s (.table table request))
    (ok : ∀ v t, P.answers s (.table table request) (.ok v) t → result t v)
    (error : ∀ e t, P.answers s (.table table request) (.error e) t → fault t e) :
    Keeps P result fault (ask table request) s := by
  refine ⟨active, allowed, fun reply t answered => ?_⟩
  cases reply with
  | ok v => exact ok v t answered
  | error e => exact error e t answered

end Flow

end Unbundle.Service
