import Mathlib.Tactic.Linarith
import Unbundle.Cart.Delegated.Handlers
import Unbundle.Proofs.Cart.Shelf

/-!
# Totals that are changed at the same time

A function that finds a total below zero after its own addition sets it to zero at a later moment, whatever
has been added in between. So two changes side by side may leave zero where neither order of them would.
-/

open Unbundle.Value Function Unbundle.Service.Flow

namespace Unbundle

/-! ### Flows side by side -/

namespace Service.Flow

variable {σ α β : Type}

section

variable (R : σ → Exchange → σ → Prop)

/-- A flow takes one step: what it asks for is answered. -/
inductive Step : Flow α → σ → Flow α → σ → Prop
  | call {c : Call} {next : Except Fault Value → Flow α} {reply : Except Fault Value} {s t : σ} :
      R s (.called c reply) t → Step (call c next) s (next reply) t
  | note {n : Note} {next : Flow α} {s : σ} : Step (note n next) s next s
  | fresh {secret : Secret} {next : String → Flow α} {text : String} {s t : σ} :
      R s (.made secret text) t → Step (fresh secret next) s (next text) t
  | once {mark : String} {next : Bool → Flow α} {first : Bool} {s t : σ} :
      R s (.marked mark first) t → Step (once mark next) s (next first) t

/-- How two flows may end, and in which state, if at any time either of them takes its next step. -/
inductive SideBySide : Flow α → Flow β → σ → Except Fault α → Except Fault β → σ → Prop
  | ended {f : Flow α} {g : Flow β} {a : Except Fault α} {b : Except Fault β} {s : σ} :
      f = ofOutcome a → g = ofOutcome b → SideBySide f g s a b s
  | left {f f' : Flow α} {g : Flow β} {a : Except Fault α} {b : Except Fault β} {s t u : σ} :
      Step R f s f' t → SideBySide f' g t a b u → SideBySide f g s a b u
  | right {f : Flow α} {g g' : Flow β} {a : Except Fault α} {b : Except Fault β} {s t u : σ} :
      Step R g s g' t → SideBySide f g' t a b u → SideBySide f g s a b u

end

variable {R : σ → Exchange → σ → Prop} {f : Flow α} {s u : σ} {a : Except Fault α}

lemma lift_bind_of_ok {outcome : Except Fault α} {v : α} {k : α → Flow β} (known : outcome = .ok v) :
    (liftM outcome : Flow α) >>= k = k v := by
  rw [known]
  rfl

lemma not_step_done {v : α} {g : Flow α} : ¬ Step R (done v) s g u := nofun

lemma runs_iff_sideBySide {v : β} : Runs R f s a u ↔ ∃ b, SideBySide R f (done v) s a b u := by
  constructor
  · intro run
    refine ⟨.ok v, ?_⟩
    induction run with
    | done w s => exact .ended rfl rfl
    | fail e s => exact .ended rfl rfl
    | call answered _ ih => exact .left (.call answered) ih
    | note _ ih => exact .left .note ih
    | fresh answered _ ih => exact .left (.fresh answered) ih
    | once answered _ ih => exact .left (.once answered) ih
  · rintro ⟨b, run⟩
    generalize ended : done v = g at run
    induction run with
    | @ended f g a b s same _ =>
      subst same
      cases a with
      | ok w => exact .done w s
      | error e => exact .fail e s
    | left step _ ih =>
      cases step with
      | call answered => exact .call answered (ih ended)
      | note => exact .note (ih ended)
      | fresh answered => exact .fresh answered (ih ended)
      | once answered => exact .once answered (ih ended)
    | right step _ _ =>
      subst ended
      exact absurd step not_step_done

end Service.Flow

namespace Cart

open Service

/-! ### What is left to do -/

/-- What a change of a total has left to do: to add to it, to set it to zero, or nothing. -/
inductive Duty where
  | add (n : ℤ)
  | reset
  | nothing
  deriving DecidableEq, Repr

namespace Duty

def rest : Duty → ℚ → Duty
  | add n, q => if q + n < 0 then reset else nothing
  | _, _ => nothing

def apply : Duty → ℚ → ℚ
  | add n, q => q + n
  | reset, _ => 0
  | nothing, q => q

/-- The totals that two duties side by side may leave. -/
inductive Ends : Duty → Duty → ℚ → ℚ → Prop
  | ended (q : ℚ) : Ends nothing nothing q q
  | left {d e : Duty} {q r : ℚ} : d ≠ nothing → Ends (d.rest q) e (d.apply q) r → Ends d e q r
  | right {d e : Duty} {q r : ℚ} : e ≠ nothing → Ends d (e.rest q) (e.apply q) r → Ends d e q r

/-- The total after a change that nothing comes between. -/
def settled (q : ℚ) (n : ℤ) : ℚ := max 0 (q + n)

variable {d e : Duty} {q r : ℚ} {a b n : ℤ}

lemma settled_of_low (low : q + n < 0) : settled q n = 0 := max_eq_left low.le

lemma settled_of_high (high : ¬ q + n < 0) : settled q n = q + n := max_eq_right (not_lt.1 high)

lemma Ends.symm (ends : Ends d e q r) : Ends e d q r := by
  induction ends with
  | ended q => exact .ended q
  | left some _ ih => exact .right some ih
  | right some _ ih => exact .left some ih

lemma ends_nothing_iff : Ends nothing nothing q r ↔ r = q := by
  constructor
  · rintro (_ | ⟨some, _⟩ | ⟨some, _⟩)
    · rfl
    · exact absurd rfl some
    · exact absurd rfl some
  · rintro rfl
    exact .ended r

lemma ends_reset_iff : Ends reset nothing q r ↔ r = 0 := by
  constructor
  · rintro (_ | ⟨-, rest⟩ | ⟨some, _⟩)
    · exact ends_nothing_iff.1 rest
    · exact absurd rfl some
  · rintro rfl
    exact .left nofun (.ended 0)

lemma ends_add_iff : Ends (add n) nothing q r ↔ r = settled q n := by
  have after : Ends ((add n).rest q) nothing (q + n) r ↔ r = settled q n := by
    rw [rest]
    split_ifs with low
    · rw [ends_reset_iff, settled_of_low low]
    · rw [ends_nothing_iff, settled_of_high low]
  rw [← after]
  constructor
  · rintro (_ | ⟨-, rest⟩ | ⟨some, _⟩)
    · exact rest
    · exact absurd rfl some
  · exact .left nofun

lemma ends_reset_reset (ends : Ends reset reset q r) : r = 0 := by
  rcases ends with _ | ⟨-, ends⟩ | ⟨-, ends⟩
  · exact ends_reset_iff.1 ends.symm
  · exact ends_reset_iff.1 ends

lemma ends_reset_add_iff : Ends reset (add n) q r ↔ r = 0 ∨ r = settled 0 n := by
  constructor
  · rintro (_ | ⟨-, ends⟩ | ⟨-, ends⟩)
    · exact .inr (ends_add_iff.1 ends.symm)
    · rw [rest] at ends
      split_ifs at ends
      · exact .inl (ends_reset_reset ends)
      · exact .inl (ends_reset_iff.1 ends)
  · rintro (rfl | rfl)
    · refine .right nofun ?_
      rw [rest]
      split_ifs
      · exact .left nofun (ends_reset_iff.2 rfl).symm
      · exact ends_reset_iff.2 rfl
    · exact .left nofun (ends_add_iff.2 rfl).symm

lemma ends_rest_add_iff : Ends ((add a).rest q) (add b) (q + a) r ↔
    r = settled (settled q a) b ∨ q + a < 0 ∧ r = 0 := by
  rw [rest]
  split_ifs with low
  · rw [ends_reset_add_iff, settled_of_low low, or_comm, and_iff_right low]
  · rw [settled_of_high low, ← ends_add_iff, or_iff_left fun h => low h.1]
    exact ⟨.symm, .symm⟩

/-- Two changes of a total leave what one of their orders leaves, or zero if one of them goes below. -/
lemma ends_add_add_iff : Ends (add a) (add b) q r ↔
    (r = settled (settled q a) b ∨ q + a < 0 ∧ r = 0) ∨ r = settled (settled q b) a ∨ q + b < 0 ∧ r = 0 := by
  rw [← ends_rest_add_iff, ← ends_rest_add_iff]
  constructor
  · rintro (_ | ⟨-, ends⟩ | ⟨-, ends⟩)
    · exact .inl ends
    · exact .inr ends.symm
  · rintro (ends | ends)
    · exact .left nofun ends
    · exact .right nofun ends.symm

end Duty

/-! ### Duties of flows -/

/-- The total of a product is stored as a number. -/
def Counts (shelf : Tables Spot) (id : String) (q : ℚ) : Prop :=
  ∃ item, shelf (totalSpot id) = some item ∧ numberAt item "total_quantity" = some q

def totalReset : Change := ⟨[], [.set "total_quantity" "zero" (.int 0)]⟩

/-- What a flow has left to do for the total of a product. -/
inductive Does (table : String) (product : Value) : Duty → Flow Unit → Prop
  | add {s : Setting} (n : ℤ) : tableOf s = .ok table →
      Does table product (.add n) (Delegated.changeTotal s product (.int n))
  | reset {next : Except Fault Value → Flow Unit} : (∀ v, next (.ok v) = .done ()) →
      Does table product .reset
        (.call (.table table (.update (productKey product "TOTAL") totalReset none .nothing)) next)
  | nothing : Does table product .nothing (.done ())

section

variable {table : String} {product : Value} {shelf after : Tables Spot} {q : ℚ}
variable {f g : Flow Unit} {d : Duty} {item : Fields}
variable {v : Value} {n : ℤ} {e : Duty} {r : ℚ}

lemma related_lt_zero (value : v.number? = some q) : v.related .lt (.int 0) = .ok (decide (q < 0)) := by
  rw [related_zero value, Except.ok.injEq]
  exact decide_eq_decide.2 compare_lt_iff_lt

lemma exists_changeTotal_eq {s : Setting} (set : tableOf s = .ok table) :
    ∃ next, Delegated.changeTotal s product (.int n) = .call (.table table (.update (productKey product "TOTAL")
        (totalAddition (.int n) (Delegated.regionStamp s)) none .allNew)) next ∧
      ∀ reply item (q : ℚ), reply.field "Attributes" = .ok (.map item) → numberAt item "total_quantity" = some (q + n) →
        Does table product ((Duty.add n).rest q) (next (.ok reply)) := by
  refine ⟨_, by rw [Delegated.changeTotal, set]; rfl, fun reply item q attributes number => ?_⟩
  obtain ⟨v, found, value⟩ := Option.bind_eq_some_iff.1 number
  have total : (map item).getD "total_quantity" (.int 0) = .ok v :=
    getD_of_field (field_of_lookup found)
  change Does _ _ _ (.attempt ((liftM (reply.field "Attributes") : Flow Value) >>= _) _)
  rw [lift_bind_of_ok attributes, lift_bind_of_ok total,
    lift_bind_of_ok (related_lt_zero value), Duty.rest]
  by_cases low : q + n < 0
  · rw [if_pos low, decide_eq_true low]
    exact .reset fun _ => rfl
  · rw [if_neg low, decide_eq_false low]
    exact .nothing

lemma Shelves.of_total {change : Change} {returning : Returning} {reply : Except Fault Value}
    (there : shelf (totalSpot product.str) = some item) (answered : Shelves table shelf
      (.called (.table table (.update (productKey product "TOTAL") change none returning)) reply) after) :
    ∃ v item', reply = .ok v ∧ after = Function.update shelf (totalSpot product.str) (some item') ∧
      change.Turns item item' ∧ (returning = .allNew → v.field "Attributes" = .ok (.map item')) := by
  rcases answered with _ | _ | ⟨⟨⟩, turns, attributes⟩ | _
  change change.Turns ((shelf (totalSpot product.str)).getD _) _ at turns
  rw [there] at turns
  exact ⟨_, _, rfl, rfl, turns, attributes⟩

lemma Does.step (does : Does table product d f) (counts : Counts shelf product.str q)
    (step : Step (Shelves table) f shelf g after) :
    d ≠ .nothing ∧ Does table product (d.rest q) g ∧ Counts after product.str (d.apply q) := by
  obtain ⟨item, there, number⟩ := counts
  cases does with
  | nothing => exact absurd step not_step_done
  | @add s n set =>
    obtain ⟨next, same, told⟩ := exists_changeTotal_eq (n := n) set
    rw [same] at step
    cases step with
    | call answered =>
      obtain ⟨v, item', rfl, rfl, turns, attributes⟩ := answered.of_total there
      have sum := numberAt_of_turns turns (List.mem_singleton_self _) rfl
      rw [amount_of_numberAt number] at sum
      exact ⟨nofun, told v item' q (attributes rfl) sum, item', update_self .., sum⟩
  | reset ends =>
    cases step with
    | call answered =>
      obtain ⟨v, item', rfl, rfl, turns, -⟩ := answered.of_total there
      obtain ⟨w, found, kept⟩ := turns.assigned _ (List.mem_singleton_self _)
      have zero : numberAt item' "total_quantity" = some 0 :=
        (congrArg (·.bind number?) found).trans (Kept.number kept rfl)
      exact ⟨nofun, ends v ▸ .nothing, item', update_self .., zero⟩

lemma exists_number_add (value : v.number? = some q) (n : ℤ) : ∃ w : Value, w.number? = some (q + n) := by
  cases v with
  | int m =>
    obtain rfl := Option.some.inj value
    exact ⟨.int (m + n), congrArg some (Int.cast_add m n)⟩
  | decimal d =>
    cases d with
    | finite negative k e =>
      obtain rfl := Option.some.inj value
      obtain ⟨z, sign⟩ : ∃ z : ℤ, (if negative then -1 else 1) * (k : ℚ) = z :=
        ⟨(if negative then -1 else 1) * k, by split_ifs <;> simp⟩
      rw [← mul_assoc, sign]
      obtain ⟨j, rfl | rfl⟩ := e.eq_nat_or_neg
      · exact ⟨.int (z * 10 ^ j + n), by simp [number?]⟩
      · obtain ⟨sum, exact⟩ : ∃ sum, sum = z + n * 10 ^ j := ⟨_, rfl⟩
        have signed : (if decide (sum < 0) = true then -1 else 1) * (sum.natAbs : ℚ) = sum := by
          by_cases low : sum < 0
          · simp [low, abs_of_neg low]
          · simp [low, abs_of_nonneg (not_lt.1 low)]
        refine ⟨.decimal (.finite (sum < 0) sum.natAbs (-j)), ?_⟩
        rw [number?, Number.Decimal.toRat?, ← mul_assoc, signed, exact, zpow_neg, zpow_natCast]
        push_cast
        field_simp
    | infinite negative => cases value
    | nan signalling => cases value
  | _ => cases value

lemma turns_totalAddition {w now : Value} (number : numberAt item "total_quantity" = some q)
    (sum : w.number? = some (q + n)) :
    (totalAddition (.int n) now).Turns item (put "updated_at" now (put "total_quantity" w item)) := by
  have apart : "total_quantity" ≠ "updated_at" := by decide
  constructor
  · rintro _ (_ | ⟨_, ⟨⟩⟩)
    exact ⟨q, n, w, .inr number, rfl, (lookup_put_of_ne apart).trans lookup_put_self, sum⟩
  · rintro _ (_ | ⟨_, ⟨⟩⟩)
    exact ⟨now, lookup_put_self, .same _⟩
  · intro name other
    obtain ⟨notTotal, notStamp⟩ : name ≠ "total_quantity" ∧ name ≠ "updated_at" := by
      simpa [Change.fields, totalAddition, Assignment.set] using other
    rw [lookup_put_of_ne notStamp, lookup_put_of_ne notTotal]

lemma turns_totalReset : totalReset.Turns item (put "total_quantity" (.int 0) item) := by
  refine ⟨nofun, ?_, fun name other => lookup_put_of_ne fun same => other (same ▸ List.mem_cons_self)⟩
  rintro _ (_ | ⟨_, ⟨⟩⟩)
  exact ⟨.int 0, lookup_put_self, .same _⟩

lemma Does.exists_step (does : Does table product d f) (some : d ≠ .nothing)
    (counts : Counts shelf product.str q) : ∃ g after, Step (Shelves table) f shelf g after := by
  obtain ⟨item, there, number⟩ := counts
  have made : ∀ {change : Change} {returning : Returning} {item' : Fields}, change.Turns item item' →
      Shelves table shelf (.called (.table table (.update (productKey product "TOTAL") change none returning))
        (.ok (.map [("Attributes", .map item')]))) (update shelf (totalSpot product.str) (.some item')) := by
    intro change returning item' turns
    refine .update rfl ?_ fun _ => rfl
    rwa [there]
  cases does with
  | nothing => exact absurd rfl some
  | @add s n set =>
    obtain ⟨next, same, -⟩ := exists_changeTotal_eq (n := n) set
    obtain ⟨v, -, value⟩ := Option.bind_eq_some_iff.1 number
    obtain ⟨w, sum⟩ := exists_number_add value n
    rw [same]
    exact ⟨_, _, .call (made (turns_totalAddition number sum))⟩
  | reset ends => exact ⟨_, _, .call (made turns_totalReset)⟩

lemma Does.eq_nothing {outcome : Except Fault Unit} (does : Does table product d f)
    (ended : f = .ofOutcome outcome) : d = .nothing := by
  cases does with
  | nothing => rfl
  | @add s n set =>
    obtain ⟨next, same, -⟩ := exists_changeTotal_eq (n := n) set
    rw [same] at ended
    cases outcome <;> cases ended
  | reset => cases outcome <;> cases ended

/-- Flows side by side leave a total that their duties may leave. -/
lemma exists_ends {a b : Except Fault Unit}
    (run : SideBySide (Shelves table) f g shelf a b after) (first : Does table product d f)
    (second : Does table product e g) (counts : Counts shelf product.str q) :
    ∃ r, d.Ends e q r ∧ Counts after product.str r := by
  induction run generalizing d e q with
  | ended same same' =>
    obtain rfl := first.eq_nothing same
    obtain rfl := second.eq_nothing same'
    exact ⟨q, .ended q, counts⟩
  | left step _ ih =>
    obtain ⟨some, first, counts⟩ := first.step counts step
    obtain ⟨r, ends, counts⟩ := ih first second counts
    exact ⟨r, .left some ends, counts⟩
  | right step _ ih =>
    obtain ⟨some, second, counts⟩ := second.step counts step
    obtain ⟨r, ends, counts⟩ := ih first second counts
    exact ⟨r, .right some ends, counts⟩

/-- Each total that duties may leave is left by flows that have them. -/
lemma exists_sideBySide (ends : d.Ends e q r) (first : Does table product d f)
    (second : Does table product e g) (counts : Counts shelf product.str q) :
    ∃ a b after, SideBySide (Shelves table) f g shelf a b after ∧ Counts after product.str r := by
  induction ends generalizing f g shelf with
  | ended q =>
    cases first
    cases second
    exact ⟨.ok (), .ok (), shelf, .ended rfl rfl, counts⟩
  | left some _ ih =>
    obtain ⟨f', middle, step⟩ := first.exists_step some counts
    obtain ⟨-, first, counts⟩ := first.step counts step
    obtain ⟨a, b, after, run, counts⟩ := ih first second counts
    exact ⟨a, b, after, .left step run, counts⟩
  | right some _ ih =>
    obtain ⟨g', middle, step⟩ := second.exists_step some counts
    obtain ⟨-, second, counts⟩ := second.step counts step
    obtain ⟨a, b, after, run, counts⟩ := ih first second counts
    exact ⟨a, b, after, .right step run, counts⟩

lemma Counts.unique {id : String} (counts : Counts shelf id q) (counts' : Counts shelf id r) : q = r := by
  obtain ⟨item, there, number⟩ := counts
  obtain ⟨item', there', number'⟩ := counts'
  obtain rfl := Option.some.inj (there.symm.trans there')
  exact Option.some.inj (number.symm.trans number')

end

/-! ### Changes one after the other -/

def LeftInTurn (table : String) (f g : Flow Unit) (shelf : Tables Spot) (id : String) (q : ℚ) : Prop :=
  ∃ a b middle after, Runs (Shelves table) f shelf a middle ∧ Runs (Shelves table) g middle b after ∧
    Counts after id q

section

variable {s s' : Setting} {table : String} {product : Value} {shelf : Tables Spot} {start r : ℚ} {a b : ℤ}

lemma counts_of_runs {n : ℤ} {outcome : Except Fault Unit} {after : Tables Spot} (set : tableOf s = .ok table)
    (counts : Counts shelf product.str start)
    (run : Runs (Shelves table) (Delegated.changeTotal s product (.int n)) shelf outcome after) :
    Counts after product.str (Duty.settled start n) := by
  obtain ⟨b, run⟩ := (runs_iff_sideBySide (v := ())).1 run
  obtain ⟨r, ends, counts⟩ := exists_ends run (.add n set) .nothing counts
  rwa [Duty.ends_add_iff.1 ends] at counts

lemma exists_runs (n : ℤ) (set : tableOf s = .ok table) (counts : Counts shelf product.str start) :
    ∃ outcome after, Runs (Shelves table) (Delegated.changeTotal s product (.int n)) shelf outcome after := by
  obtain ⟨outcome, b, after, run, -⟩ := exists_sideBySide (Duty.ends_add_iff.2 rfl) (.add n set) .nothing counts
  exact ⟨outcome, after, runs_iff_sideBySide.2 ⟨b, run⟩⟩

lemma leftInTurn_iff (set : tableOf s = .ok table) (set' : tableOf s' = .ok table)
    (counts : Counts shelf product.str start) :
    LeftInTurn table (Delegated.changeTotal s product (.int a)) (Delegated.changeTotal s' product (.int b)) shelf
      product.str r ↔ r = Duty.settled (Duty.settled start a) b := by
  constructor
  · rintro ⟨_, _, middle, after, first, second, last⟩
    exact last.unique (counts_of_runs set' (counts_of_runs set counts first) second)
  · rintro rfl
    obtain ⟨_, middle, first⟩ := exists_runs a set counts
    have between := counts_of_runs set counts first
    obtain ⟨_, after, second⟩ := exists_runs b set' between
    exact ⟨_, _, middle, after, first, second, counts_of_runs set' between second⟩

/-- A change takes the total below zero, and another one that comes before the total is set to zero has more to add
than is missing. -/
def IsOvertaken (start : ℚ) (a b : ℤ) : Prop := start + a < 0 ∧ 0 < b ∧ (0 < a ∨ 0 < start + a + b)

/-- Zero is left by no order of two changes exactly if one overtakes the other. -/
lemma not_isOvertaken_iff (low : start + a < 0) : ¬ IsOvertaken start a b ↔
    0 = Duty.settled (Duty.settled start a) b ∨ 0 = Duty.settled (Duty.settled start b) a := by
  have zero : ∀ {x : ℚ}, 0 = max 0 x ↔ x ≤ 0 := eq_comm.trans max_eq_left_iff
  rw [Duty.settled_of_low low, Duty.settled, Duty.settled, Duty.settled, zero, zero, IsOvertaken, and_iff_right low,
    ← max_add_add_right, max_le_iff, zero_add, zero_add, Int.cast_nonpos, Int.cast_nonpos, add_right_comm start]
  simp only [not_and_or, not_or, not_lt]

/-- However the steps of two changes of a total fall, they leave what the changes leave in one of their two orders. That
is so exactly if neither change can be overtaken by the other. -/
theorem no_change_is_lost_iff (set : tableOf s = .ok table) (set' : tableOf s' = .ok table)
    (counts : Counts shelf product.str start) :
    (∀ outcome outcome' after, SideBySide (Shelves table) (Delegated.changeTotal s product (.int a))
        (Delegated.changeTotal s' product (.int b)) shelf outcome outcome' after →
      ∃ q, Counts after product.str q ∧
        (LeftInTurn table (Delegated.changeTotal s product (.int a)) (Delegated.changeTotal s' product (.int b)) shelf
            product.str q ∨
          LeftInTurn table (Delegated.changeTotal s' product (.int b)) (Delegated.changeTotal s product (.int a)) shelf
            product.str q)) ↔
      ¬ IsOvertaken start a b ∧ ¬ IsOvertaken start b a := by
  simp only [leftInTurn_iff set set' counts, leftInTurn_iff set' set counts]
  constructor
  · intro ordered
    have zero : start + a < 0 ∨ start + b < 0 →
        0 = Duty.settled (Duty.settled start a) b ∨ 0 = Duty.settled (Duty.settled start b) a := by
      intro low
      have ends : Duty.Ends (.add a) (.add b) start 0 :=
        Duty.ends_add_add_iff.2 (low.imp (fun low => .inr ⟨low, rfl⟩) fun low => .inr ⟨low, rfl⟩)
      obtain ⟨_, _, after, run, last⟩ := exists_sideBySide ends (.add a set) (.add b set') counts
      obtain ⟨q, last', order⟩ := ordered _ _ after run
      rwa [← last.unique last'] at order
    constructor
    · intro overtaken
      exact (not_isOvertaken_iff overtaken.1).2 (zero (.inl overtaken.1)) overtaken
    · intro overtaken
      exact (not_isOvertaken_iff overtaken.1).2 (zero (.inr overtaken.1)).symm overtaken
  · rintro ⟨first, second⟩ _ _ after run
    obtain ⟨r, ends, last⟩ := exists_ends run (.add a set) (.add b set') counts
    refine ⟨r, last, ?_⟩
    rcases Duty.ends_add_add_iff.1 ends with (order | ⟨low, rfl⟩) | order | ⟨low, rfl⟩
    · exact .inl order
    · exact (not_isOvertaken_iff low).1 first
    · exact .inr order
    · exact ((not_isOvertaken_iff low).1 second).symm

end

def totalShelf (n : ℤ) : Tables Spot :=
  Function.update (fun _ => none) (totalSpot "p") (some [("total_quantity", .int n)])

def changeOfTotal (n : ℤ) : Flow Unit := Delegated.changeTotal shelfSetting (.text "p") (.int n)

lemma counts_totalShelf (n : ℤ) : Counts (totalShelf n) (text "p").str n :=
  ⟨_, update_self .., rfl⟩

/-- Four are taken from three while one is added: zero is what one of the orders leaves. -/
theorem no_change_is_lost_iff_fourOfThree : tableOf shelfSetting = .ok "shelf" ∧
    Counts (totalShelf 3) (text "p").str 3 ∧ ¬ IsOvertaken 3 (-4) 1 ∧ ¬ IsOvertaken 3 1 (-4) ∧
    ∀ outcome outcome' after, SideBySide (Shelves "shelf") (changeOfTotal (-4)) (changeOfTotal 1) (totalShelf 3)
        outcome outcome' after →
      ∃ q, Counts after (text "p").str q ∧
        (LeftInTurn "shelf" (changeOfTotal (-4)) (changeOfTotal 1) (totalShelf 3) (text "p").str q ∨
          LeftInTurn "shelf" (changeOfTotal 1) (changeOfTotal (-4)) (totalShelf 3) (text "p").str q) := by
  have counts : Counts (totalShelf 3) (text "p").str 3 := counts_totalShelf 3
  have first : ¬ IsOvertaken 3 (-4) 1 := by norm_num [IsOvertaken]
  have second : ¬ IsOvertaken 3 1 (-4) := by norm_num [IsOvertaken]
  exact ⟨rfl, counts, first, second, (no_change_is_lost_iff rfl rfl counts).2 ⟨first, second⟩⟩

/-- One is taken from nothing while five are added: the total ends at zero, and either order leaves more. -/
theorem overtaken_addition_is_lost : ∃ outcome outcome' after,
    SideBySide (Shelves "shelf") (changeOfTotal (-1)) (changeOfTotal 5) (totalShelf 0) outcome outcome' after ∧
    Counts after (text "p").str 0 ∧
    (∀ q, LeftInTurn "shelf" (changeOfTotal (-1)) (changeOfTotal 5) (totalShelf 0) (text "p").str q → q = 5) ∧
    ∀ q, LeftInTurn "shelf" (changeOfTotal 5) (changeOfTotal (-1)) (totalShelf 0) (text "p").str q → q = 4 := by
  have set : tableOf shelfSetting = .ok "shelf" := rfl
  have counts : Counts (totalShelf 0) (text "p").str 0 := counts_totalShelf 0
  have ends : Duty.Ends (.add (-1)) (.add 5) 0 0 := Duty.ends_add_add_iff.2 (.inl (.inr (by norm_num)))
  obtain ⟨outcome, outcome', after, run, last⟩ := exists_sideBySide ends (.add (-1) set) (.add 5 set) counts
  refine ⟨outcome, outcome', after, run, last, fun q left => ?_, fun q left => ?_⟩
  · rw [(leftInTurn_iff set set counts).1 left]
    norm_num [Duty.settled]
  · rw [(leftInTurn_iff set set counts).1 left]
    norm_num [Duty.settled]

end Cart

end Unbundle
