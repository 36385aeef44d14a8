import Mathlib.Data.List.Forall2
import Mathlib.Tactic.Common
import Unbundle.Fault

/-!
# Outcomes

How a computation that returned was put together, for sequences of steps and for steps applied to all
members of a list.
-/

open List

namespace Unbundle

variable {ε α β : Type}
variable {x : Except ε α} {f : α → Except ε β} {b : β} {xs : List α} {ys : List β} {R : α → β → Prop}

/-! ### Computations that may stop -/

lemma bind_eq_ok_iff :
    x >>= f = .ok b ↔ ∃ a, x = .ok a ∧ f a = .ok b := by
  cases x with
  | error e => simp [bind, Except.bind]
  | ok a => simp [bind, Except.bind]

lemma exists_ok_of_ne_error (h : ∀ e, x ≠ .error e) : ∃ a, x = .ok a := by
  cases x with
  | error e => exact absurd rfl (h e)
  | ok a => exact ⟨a, rfl⟩

lemma toOption_eq_some_iff {a : α} : x.toOption = some a ↔ x = .ok a := by
  cases x with
  | error e => simp [Except.toOption]
  | ok b => simp [Except.toOption]

/-- A result that is evaluated shows that there is one. -/
lemma exists_ok_of_any {P : α → Prop} [DecidablePred P]
    (h : (x.toOption.any fun a => P a) = true) : ∃ a, x = .ok a ∧ P a := by
  simpa only [Option.any_eq_true, toOption_eq_some_iff, decide_eq_true_eq] using h

lemma ok_bind (a : α) (f : α → Except ε β) : .ok a >>= f = f a := rfl

lemma error_bind (e : ε) (f : α → Except ε β) : .error e >>= f = .error e := rfl

@[simp] lemma pure_eq_ok_iff {a b : α} : (pure a : Except ε α) = .ok b ↔ a = b := by
  simp [pure, Except.pure]

lemma map_eq_ok_iff {f : α → β} :
    x.map f = .ok b ↔ ∃ a, x = .ok a ∧ f a = b := by
  cases x with
  | error e => simp [Except.map]
  | ok a => simp [Except.map]

lemma mapM_eq_ok_iff :
    xs.mapM f = .ok ys ↔ Forall₂ (fun x y => f x = .ok y) xs ys := by
  induction xs generalizing ys with
  | nil =>
    rw [mapM_nil, pure_eq_ok_iff, forall₂_nil_left_iff]
    exact eq_comm
  | cons x xs ih =>
    rw [mapM_cons]
    simp only [bind_eq_ok_iff, pure_eq_ok_iff, ih, forall₂_cons_left_iff]
    constructor
    · rintro ⟨y, hy, ys', hys, rfl⟩
      exact ⟨y, ys', hy, hys, rfl⟩
    · rintro ⟨y, ys', hy, hys, rfl⟩
      exact ⟨y, hy, ys', hys, rfl⟩

lemma exists_left_of_forall₂
    (h : Forall₂ R xs ys) {y : β} (hy : y ∈ ys) : ∃ x ∈ xs, R x y := by
  induction h with
  | nil => cases hy
  | cons related _ ih =>
    rcases mem_cons.1 hy with rfl | hy
    · exact ⟨_, mem_cons_self, related⟩
    · obtain ⟨x, hx, related⟩ := ih hy
      exact ⟨x, mem_cons_of_mem _ hx, related⟩

lemma exists_right_of_forall₂
    (h : Forall₂ R xs ys) {x : α} (hx : x ∈ xs) : ∃ y ∈ ys, R x y :=
  exists_left_of_forall₂ h.flip hx

lemma eq_map_of_forall₂ {f : α → β}
    (h : Forall₂ (fun x y => y = f x) xs ys) : ys = xs.map f := by
  induction h with
  | nil => rfl
  | cons first _ ih => rw [first, ih, map_cons]

lemma exists_forall₂_iff :
    (∃ ys, Forall₂ R xs ys) ↔ ∀ x ∈ xs, ∃ y, R x y := by
  constructor
  · rintro ⟨ys, each⟩ x hx
    obtain ⟨y, -, hy⟩ := exists_right_of_forall₂ each hx
    exact ⟨y, hy⟩
  · intro h
    induction xs with
    | nil => exact ⟨[], .nil⟩
    | cons x xs ih =>
      obtain ⟨y, first⟩ := h x mem_cons_self
      obtain ⟨ys, others⟩ := ih fun x' hx' => h x' (mem_cons_of_mem x hx')
      exact ⟨y :: ys, .cons first others⟩

lemma exists_mapM_iff :
    (∃ ys, xs.mapM f = .ok ys) ↔ ∀ x ∈ xs, ∃ y, f x = .ok y := by
  simp only [mapM_eq_ok_iff, exists_forall₂_iff]

lemma mapM_flatMap {γ : Type} (f : α → List β) (g : β → Except ε γ) (xs : List α) :
    (xs.flatMap f).mapM g = (xs.mapM fun x => (f x).mapM g).map flatten := by
  induction xs with
  | nil => rfl
  | cons x xs ih =>
    rw [flatMap_cons, mapM_append, ih, mapM_cons]
    cases (f x).mapM g with
    | error e => rfl
    | ok ys => cases xs.mapM fun x => (f x).mapM g <;> rfl

lemma exists_filterM_iff {f : α → Except ε Bool} :
    (∃ ys, xs.filterM f = .ok ys) ↔ ∀ x ∈ xs, ∃ b, f x = .ok b := by
  have chosen : (∃ ys, xs.filterM f = .ok ys) ↔ ∃ ys, filterAuxM f xs [] = .ok ys := by
    simp only [filterM, bind_eq_ok_iff]
    constructor
    · rintro ⟨_, ys, found, -⟩
      exact ⟨ys, found⟩
    · rintro ⟨ys, found⟩
      exact ⟨_, ys, found, rfl⟩
  rw [chosen]
  clear chosen
  generalize ([] : List α) = acc
  induction xs generalizing acc with
  | nil => simp [pure, Except.pure]
  | cons x xs ih =>
    simp only [filterAuxM, bind_eq_ok_iff, forall_mem_cons]
    constructor
    · rintro ⟨ys, b, first, others⟩
      exact ⟨⟨b, first⟩, (ih _).1 ⟨ys, others⟩⟩
    · rintro ⟨⟨b, first⟩, others⟩
      obtain ⟨ys, others⟩ := (ih (bif b then x :: acc else acc)).2 others
      exact ⟨ys, b, first, others⟩

lemma eq_filter_of_filterM_eq_ok {f : α → Except ε Bool} {ys : List α} (h : xs.filterM f = .ok ys) :
    ys = xs.filter fun x => (f x).toOption == some true := by
  -- what is kept so far stands before what is kept of the rest, in reverse order
  suffices ∀ kept all, filterAuxM f xs kept = .ok all →
      all = (xs.filter fun x => (f x).toOption == some true).reverse ++ kept by
    obtain ⟨all, kept, h⟩ := bind_eq_ok_iff.1 h
    rw [← pure_eq_ok_iff.1 h, this [] all kept, append_nil, reverse_reverse]
  clear h
  induction xs with
  | nil =>
    intro kept all h
    rw [filterAuxM, pure_eq_ok_iff] at h
    rw [← h, filter_nil, reverse_nil, nil_append]
  | cons x xs ih =>
    intro kept all h
    obtain ⟨keep, chosen, rest⟩ := bind_eq_ok_iff.1 h
    rw [ih _ all rest, filter_cons, chosen]
    cases keep <;> simp [Except.toOption]

lemma subset_of_filterM_eq_ok {f : α → Except ε Bool} {ys : List α} (h : xs.filterM f = .ok ys) :
    ys ⊆ xs :=
  eq_filter_of_filterM_eq_ok h ▸ filter_subset_self xs

/-- Two computations stop with the same fault, or return results that are related. -/
inductive Agree (R : α → β → Prop) : Except ε α → Except ε β → Prop
  | error (e : ε) : Agree R (.error e) (.error e)
  | ok {a : α} {b : β} : R a b → Agree R (.ok a) (.ok b)

lemma Agree.mapError {ε' : Type} {y : Except ε β}
    (h : Agree R x y) (f : ε → ε') : Agree R (x.mapError f) (y.mapError f) := by
  cases h with
  | error e => exact .error (f e)
  | ok related => exact .ok related

/-! ### Faults of the same kind -/

/-- What a computation returns, or the kind of fault that it stops with. -/
def outcome (x : Except Fault α) : Except String α := x.mapError Fault.kind

lemma eq_or_kind_eq {x y : Except Fault α} (h : outcome x = outcome y) :
    x = y ∨ ∃ e e', x = .error e ∧ y = .error e' ∧ e.kind = e'.kind := by
  cases x with
  | error e =>
    cases y with
    | error e' => exact .inr ⟨e, e', rfl, rfl, Except.error.inj h⟩
    | ok b => cases h
  | ok a =>
    cases y with
    | error e' => cases h
    | ok b => exact .inl (congrArg Except.ok (Except.ok.inj h))

lemma outcome_bind {x y : Except Fault α} {f g : α → Except Fault β} (first : outcome x = outcome y)
    (next : ∀ a, outcome (f a) = outcome (g a)) : outcome (x >>= f) = outcome (y >>= g) := by
  rcases eq_or_kind_eq first with rfl | ⟨e, e', rfl, rfl, kind⟩
  · cases x with
    | error e => rfl
    | ok a => exact next a
  · exact congrArg Except.error kind

/-! ### Computations that print -/

namespace Printing

variable {printed printed' : String}
variable {p : Printing α} {f : α → Printing β} {b : β} {e : Fault} {xs : List α}

/-- The outcome of a computation before which something was printed, and all that is printed after it. -/
def after (printed : String) (p : Printing α) : Except Fault α × String :=
  StateT.run (ExceptT.run p) printed

lemma result_eq_after (p : Printing α) : p.result = p.after "" := rfl

@[simp] lemma after_pure (printed : String) (a : α) :
    (pure a : Printing α).after printed = (.ok a, printed) := rfl

@[simp] lemma after_silent (printed : String) (r : Except Fault α) :
    (silent r).after printed = (r, printed) := rfl

@[simp] lemma after_line (printed s : String) :
    (line s).after printed = (.ok (), printed ++ (s ++ "\n")) := rfl

lemma after_bind (printed : String) (p : Printing α) (f : α → Printing β) :
    (p >>= f).after printed =
      match p.after printed with
      | (.ok a, middle) => (f a).after middle
      | (.error e, middle) => (.error e, middle) := by
  rw [after, after, ExceptT.run_bind, StateT.run_bind]
  rcases StateT.run (ExceptT.run p) printed with ⟨e | a, middle⟩ <;> rfl

lemma after_bind_eq_ok_iff :
    (p >>= f).after printed = (.ok b, printed') ↔
      ∃ a middle, p.after printed = (.ok a, middle) ∧ (f a).after middle = (.ok b, printed') := by
  rw [after_bind]
  rcases p.after printed with ⟨e | a, middle⟩ <;> simp

lemma after_bind_eq_error
    (h : (p >>= f).after printed = (.error e, printed')) :
    p.after printed = (.error e, printed') ∨
      ∃ a middle, p.after printed = (.ok a, middle) ∧ (f a).after middle = (.error e, printed') := by
  rw [after_bind] at h
  rcases ran : p.after printed with ⟨e' | a, middle⟩
  · rw [ran] at h
    exact .inl (by simpa using h)
  · rw [ran] at h
    exact .inr ⟨a, middle, rfl, h⟩

@[simp] lemma after_lines (printed : String) (ss : List String) :
    (lines ss).after printed = (.ok (), ss.foldl (fun all s => all ++ (s ++ "\n")) printed) := by
  induction ss generalizing printed with
  | nil => rfl
  | cons s ss ih => exact after_bind_eq_ok_iff.2 ⟨(), _, after_line printed s, ih _⟩

lemma exists_result_of_map {f : α → β}
    (h : (p.result.1.map f).toOption = some b) : ∃ a printed, p.result = (.ok a, printed) ∧ f a = b := by
  rcases returned : p.result with ⟨e | a, printed⟩
  · rw [returned] at h
    cases h
  · rw [returned] at h
    exact ⟨a, printed, rfl, Option.some.inj h⟩

lemma forall₂_of_after_mapM {ys : List β}
    (h : (xs.mapM f).after printed = (.ok ys, printed')) :
    Forall₂ (fun x y => ∃ before later, (f x).after before = (.ok y, later)) xs ys := by
  induction xs generalizing ys printed printed' with
  | nil =>
    obtain rfl : [] = ys := by simpa using congrArg Prod.fst h
    exact .nil
  | cons x xs ih =>
    rw [mapM_cons, after_bind_eq_ok_iff] at h
    obtain ⟨y, middle, first, h⟩ := h
    obtain ⟨ys, later, others, h⟩ := after_bind_eq_ok_iff.1 h
    obtain ⟨rfl, -⟩ := by simpa using h
    exact .cons ⟨_, _, first⟩ (ih others)

lemma exists_error_of_after_mapM
    (h : (xs.mapM f).after printed = (.error e, printed')) :
    ∃ x ∈ xs, ∃ before, (f x).after before = (.error e, printed') := by
  induction xs generalizing printed with
  | nil => cases congrArg Prod.fst h
  | cons x xs ih =>
    rw [mapM_cons] at h
    rcases after_bind_eq_error h with first | ⟨y, middle, -, h⟩
    · exact ⟨x, mem_cons_self, printed, first⟩
    rcases after_bind_eq_error h with others | ⟨ys, later, -, h⟩
    · obtain ⟨x', hx', stopped⟩ := ih others
      exact ⟨x', mem_cons_of_mem x hx', stopped⟩
    · cases congrArg Prod.fst h

/-- What a computation returns, or the kind of fault that it stops with, and what it prints. -/
def outcome (p : Printing α) : Except String α × String := (Unbundle.outcome p.result.1, p.result.2)

lemma silent_ok_bind (a : α) (f : α → Printing β) : (silent (.ok a) >>= f) = f a := rfl

lemma outcome_silent_bind {x y : Except Fault α} {g : α → Printing β}
    (first : Unbundle.outcome x = Unbundle.outcome y) (next : ∀ a, f a = g a) :
    (silent x >>= f).outcome = (silent y >>= g).outcome := by
  obtain rfl : f = g := funext next
  rcases eq_or_kind_eq first with rfl | ⟨e, e', rfl, rfl, kind⟩
  · rfl
  · simp only [outcome]
    exact congrArg (·, "") (congrArg Except.error kind)

lemma exists_result_of_outcome {kind : String}
    (h : Unbundle.outcome (p.result.1.map fun _ => ()) = .error kind) :
    ∃ fault printed, p.result = (.error fault, printed) ∧ fault.kind = kind := by
  rcases stopped : p.result with ⟨e | a, printed⟩
  · rw [stopped] at h
    exact ⟨e, printed, rfl, Except.error.inj h⟩
  · rw [stopped] at h
    cases h

lemma exists_after_mapM
    (h : ∀ x ∈ xs, ∀ printed, ∃ y later, (f x).after printed = (.ok y, later)) (printed : String) :
    ∃ ys later, (xs.mapM f).after printed = (.ok ys, later) := by
  induction xs generalizing printed with
  | nil => exact ⟨[], printed, rfl⟩
  | cons x xs ih =>
    obtain ⟨y, middle, first⟩ := h x mem_cons_self printed
    obtain ⟨ys, later, others⟩ := ih (fun x' hx' => h x' (mem_cons_of_mem x hx')) middle
    refine ⟨y :: ys, later, ?_⟩
    rw [mapM_cons]
    exact after_bind_eq_ok_iff.2 ⟨y, middle, first, after_bind_eq_ok_iff.2 ⟨ys, later, others, rfl⟩⟩

lemma line_eq_lines (s : String) : line s = lines [s] := rfl

lemma lines_bind (ss ts : List String) : (lines ss >>= fun _ => lines ts) = lines (ss ++ ts) := by
  induction ss with
  | nil => rfl
  | cons s ss ih =>
    change (line s >>= fun _ => lines ss) >>= _ = line s >>= fun _ => lines (ss ++ ts)
    rw [bind_assoc, ih]

end Printing

end Unbundle
