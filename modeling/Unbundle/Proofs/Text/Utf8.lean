import Mathlib.Algebra.Group.Nat.Defs
import Mathlib.Tactic.Common
import Unbundle.Text.Basic

/-!
# UTF-8 round trip

The bytes of a text are read back as the text. One character has from one to four bytes; in each case the
first byte asks for the bytes that follow it and the bits add up to the code point again.
-/

namespace Unbundle.Text

variable {hi lo n : Nat}
variable {more acc taken : Nat}

lemma toNat_toUInt8 (h : n < 256) : n.toUInt8.toNat = n := by
  simpa using h

lemma takeTail_cons (bs : List UInt8) (byte : n < 256) (low : lo ≤ n) (high : n ≤ hi) :
    takeTail (more + 1) lo hi acc taken (n.toUInt8 :: bs) =
      takeTail more 0x80 0xbf (acc * 64 + (n - 0x80)) (taken + 1) bs := by
  rw [takeTail, toNat_toUInt8 byte, if_pos ⟨low, high⟩]

@[simp] lemma takeTail_zero (bs : List UInt8) : takeTail 0 lo hi acc taken bs = .ok acc := by
  rw [takeTail]

/-! ### One character -/

lemma firstChar_eq_ok {b : UInt8} {bs : List UInt8}
    (asks : continuation? b.toNat = some (more, lo, hi))
    (taken : takeTail more lo hi (leadBits b.toNat more) 1 bs = .ok n) :
    firstChar b bs = .ok (.ofNat n, more + 1) := by
  rw [firstChar, asks]
  dsimp only
  rw [taken]

lemma leadBits_one (n : Nat) : leadBits (0xc0 + n) 1 = n := Nat.add_sub_cancel_left ..

lemma leadBits_two (n : Nat) : leadBits (0xe0 + n) 2 = n := Nat.add_sub_cancel_left ..

lemma leadBits_three (n : Nat) : leadBits (0xf0 + n) 3 = n := Nat.add_sub_cancel_left ..

lemma firstChar_one (h : n < 0x80) (bs : List UInt8) : firstChar n.toUInt8 bs = .ok (.ofNat n, 1) := by
  apply firstChar_eq_ok
  · rw [toNat_toUInt8 (by omega), continuation?, if_pos h]
  · rw [toNat_toUInt8 (by omega)]
    rfl

lemma firstChar_two (low : 0x80 ≤ n) (high : n < 0x800) (bs : List UInt8) :
    firstChar (0xc0 + n / 64).toUInt8 ((0x80 + n % 64).toUInt8 :: bs) = .ok (.ofNat n, 2) := by
  have first := toNat_toUInt8 (n := 0xc0 + n / 64) (by omega)
  apply firstChar_eq_ok
  · rw [continuation?, if_neg (by omega), if_neg (by omega), if_pos (by omega)]
  · rw [first, leadBits_one, takeTail_cons _ (by omega) (by omega) (by omega)]
    exact congrArg Except.ok (by omega)

/-- The second of three bytes is in the range that the first asks for: no character is written longer than
it has to be, and none is a surrogate. -/
lemma continuation?_three (low : 0x800 ≤ n) (high : n < 0x10000) (scalar : n < 0xd800 ∨ 0xdfff < n) :
    ∃ lo hi, continuation? (0xe0 + n / 4096) = some (2, lo, hi) ∧
      lo ≤ 0x80 + n / 64 % 64 ∧ 0x80 + n / 64 % 64 ≤ hi := by
  rw [continuation?, if_neg (by omega), if_neg (by omega), if_neg (by omega)]
  split_ifs
  · exact ⟨_, _, rfl, by omega, by omega⟩
  · exact ⟨_, _, rfl, by omega, by omega⟩
  · exact ⟨_, _, rfl, by omega, by omega⟩
  all_goals omega

lemma firstChar_three (low : 0x800 ≤ n) (high : n < 0x10000) (scalar : n < 0xd800 ∨ 0xdfff < n)
    (bs : List UInt8) :
    firstChar (0xe0 + n / 4096).toUInt8
      ((0x80 + n / 64 % 64).toUInt8 :: (0x80 + n % 64).toUInt8 :: bs) = .ok (.ofNat n, 3) := by
  obtain ⟨lo, hi, asks, least, most⟩ := continuation?_three low high scalar
  have first := toNat_toUInt8 (n := 0xe0 + n / 4096) (by omega)
  apply firstChar_eq_ok
  · rw [first, asks]
  · rw [first, leadBits_two, takeTail_cons _ (by omega) least most, takeTail_cons _ (by omega) (by omega) (by omega)]
    exact congrArg Except.ok (by omega)

/-- The second of four bytes is in the range that the first asks for: no character is written longer than
it has to be, and none is beyond the last one. -/
lemma continuation?_four (low : 0x10000 ≤ n) (high : n < 0x110000) :
    ∃ lo hi, continuation? (0xf0 + n / 262144) = some (3, lo, hi) ∧
      lo ≤ 0x80 + n / 4096 % 64 ∧ 0x80 + n / 4096 % 64 ≤ hi := by
  rw [continuation?, if_neg (by omega), if_neg (by omega), if_neg (by omega), if_neg (by omega),
    if_neg (by omega), if_neg (by omega)]
  split_ifs
  · exact ⟨_, _, rfl, by omega, by omega⟩
  · exact ⟨_, _, rfl, by omega, by omega⟩
  · exact ⟨_, _, rfl, by omega, by omega⟩
  · omega

lemma firstChar_four (low : 0x10000 ≤ n) (high : n < 0x110000) (bs : List UInt8) :
    firstChar (0xf0 + n / 262144).toUInt8
      ((0x80 + n / 4096 % 64).toUInt8 :: (0x80 + n / 64 % 64).toUInt8 ::
        (0x80 + n % 64).toUInt8 :: bs) = .ok (.ofNat n, 4) := by
  obtain ⟨lo, hi, asks, least, most⟩ := continuation?_four low high
  have first := toNat_toUInt8 (n := 0xf0 + n / 262144) (by omega)
  apply firstChar_eq_ok
  · rw [first, asks]
  · rw [first, leadBits_three, takeTail_cons _ (by omega) least most, takeTail_cons _ (by omega) (by omega) (by omega), takeTail_cons _ (by omega) (by omega) (by omega)]
    exact congrArg Except.ok (by omega)

lemma firstChar_encodeChar (c : Char) : ∃ b bs, encodeChar c = b :: bs ∧
    ∀ rest, firstChar b (bs ++ rest) = .ok (c, bs.length + 1) := by
  have scalar : c.toNat < 0xd800 ∨ 0xdfff < c.toNat ∧ c.toNat < 0x110000 := c.valid
  rw [encodeChar]
  split_ifs with one two three
  · exact ⟨_, _, rfl, fun rest => by simpa using firstChar_one one rest⟩
  · exact ⟨_, _, rfl, fun rest => by simpa using firstChar_two (by omega) two rest⟩
  · exact ⟨_, _, rfl, fun rest => by simpa using firstChar_three (by omega) three (by omega) rest⟩
  · exact ⟨_, _, rfl, fun rest => by simpa using firstChar_four (Nat.le_of_not_lt three) (by omega) rest⟩

/-! ### A text -/

lemma decodeFrom_encode (pos : Nat) (cs : List Char) : decodeFrom pos (encode cs) = .ok cs := by
  induction cs generalizing pos with
  | nil => simp [encode, decodeFrom]
  | cons c cs ih =>
    obtain ⟨b, bs, bytes, first⟩ := firstChar_encodeChar c
    have split : encode (c :: cs) = b :: (bs ++ encode cs) := by
      simp [encode, bytes]
    rw [split, decodeFrom, first]
    simp [ih, Except.map]

/-- The bytes of a text are read as the text. -/
theorem decode_encode (cs : List Char) : decode (encode cs) = .ok cs :=
  decodeFrom_encode 0 cs

lemma decodeSkipping_encode (cs : List Char) : decodeSkipping (encode cs) = cs := by
  induction cs with
  | nil => simp [encode, decodeSkipping]
  | cons c cs ih =>
    obtain ⟨b, bs, bytes, first⟩ := firstChar_encodeChar c
    have split : encode (c :: cs) = b :: (bs ++ encode cs) := by
      simp [encode, bytes]
    rw [split, decodeSkipping, first]
    simp [ih]

lemma unifyBreaks_of_not_mem {cs : List Char} (h : '\r' ∉ cs) : unifyBreaks cs = cs := by
  induction cs with
  | nil => rfl
  | cons c cs ih =>
    have other : c ≠ '\r' := fun eq => h (eq ▸ List.mem_cons_self)
    rw [unifyBreaks, ih fun later => h (List.mem_cons_of_mem c later), if_neg other]
    rintro cs rfl
    exact absurd rfl other

end Unbundle.Text

open List

namespace Unbundle.Text

variable {b : UInt8} {n : Nat} {bs : List UInt8} {c : Char}

/-! ## Line breaks in bytes -/

variable {acc hi lo more taken : Nat} {cs : List Char}

/-! ### Styles of line breaks -/

/-- What a line break is written as, if not as a line feed. -/
inductive BreakStyle where
  /-- A carriage return and a line feed. -/
  | pair
  /-- A carriage return alone. -/
  | single
  deriving DecidableEq, Repr

namespace BreakStyle

def bytes : BreakStyle → List UInt8
  | pair => [0x0d, 0x0a]
  | single => [0x0d]

def chars : BreakStyle → List Char
  | pair => ['\r', '\n']
  | single => ['\r']

/-- Some bytes with another line break for each line feed. -/
def rewriteBytes (s : BreakStyle) (bs : List UInt8) : List UInt8 :=
  bs.flatMap fun b => if b = 0x0a then s.bytes else [b]

/-- A text with another line break for each line feed. -/
def rewriteChars (s : BreakStyle) (cs : List Char) : List Char :=
  cs.flatMap fun c => if c = '\n' then s.chars else [c]

variable (s : BreakStyle)

@[simp] lemma rewriteBytes_nil : s.rewriteBytes [] = [] := rfl

lemma rewriteBytes_feed (bs : List UInt8) :
    s.rewriteBytes (0x0a :: bs) = s.bytes ++ s.rewriteBytes bs := by
  simp [rewriteBytes]

lemma rewriteBytes_cons {b : UInt8} (h : b ≠ 0x0a) (bs : List UInt8) :
    s.rewriteBytes (b :: bs) = b :: s.rewriteBytes bs := by
  simp [rewriteBytes, h]

@[simp] lemma rewriteChars_nil : s.rewriteChars [] = [] := rfl

lemma rewriteChars_feed (cs : List Char) :
    s.rewriteChars ('\n' :: cs) = s.chars ++ s.rewriteChars cs := by
  simp [rewriteChars]

lemma rewriteChars_cons {c : Char} (h : c ≠ '\n') (cs : List Char) :
    s.rewriteChars (c :: cs) = c :: s.rewriteChars cs := by
  simp [rewriteChars, h]

lemma exists_bytes_eq_cons : ∃ rest, s.bytes = 0x0d :: rest := by
  cases s with
  | pair => exact ⟨[0x0a], rfl⟩
  | single => exact ⟨[], rfl⟩

lemma drop_rewriteBytes {n : Nat} {bs : List UInt8} (h : ∀ b ∈ bs.take n, b ≠ 0x0a) :
    (s.rewriteBytes bs).drop n = s.rewriteBytes (bs.drop n) := by
  induction n generalizing bs with
  | zero => simp
  | succ n ih =>
    cases bs with
    | nil => simp
    | cons b bs =>
      rw [take_succ_cons, forall_mem_cons] at h
      rw [rewriteBytes_cons s h.1, drop_succ_cons, drop_succ_cons, ih h.2]

end BreakStyle

/-! ### The first character -/

lemma continuation?_bounds {b : Nat} (asks : continuation? b = some (more, lo, hi)) :
    0x80 ≤ lo ∧ (more = 0 ∨ (more = 1 ∧ 0xc2 ≤ b) ∨
      (more = 2 ∧ 0xe0 ≤ b ∧ (b = 0xe0 → 0xa0 ≤ lo)) ∨
      (more = 3 ∧ 0xf0 ≤ b ∧ (b = 0xf0 → 0x90 ≤ lo))) := by
  by_cases short : b < 0xf0 <;> grind [continuation?]

lemma continuation?_low {b : Nat} (h : continuation? b = some (more, lo, hi)) : 0x80 ≤ lo :=
  (continuation?_bounds h).1

/-- The bytes of a line break continue no character, in whichever style. -/
lemma takeTail_rewriteBytes (s : BreakStyle) (low : 0x80 ≤ lo) (bs : List UInt8) :
    takeTail more lo hi acc taken (s.rewriteBytes bs) = takeTail more lo hi acc taken bs := by
  induction more generalizing lo hi acc taken bs with
  | zero => simp
  | succ more ih =>
    cases bs with
    | nil => simp
    | cons b bs =>
      by_cases feed : b = 0x0a
      · obtain ⟨rest, bytes⟩ := s.exists_bytes_eq_cons
        subst feed
        have outside : ¬(lo ≤ (0x0a : UInt8).toNat ∧ (0x0a : UInt8).toNat ≤ hi) := by
          simp only [UInt8.reduceToNat]
          omega
        have outside' : ¬(lo ≤ (0x0d : UInt8).toNat ∧ (0x0d : UInt8).toNat ≤ hi) := by
          simp only [UInt8.reduceToNat]
          omega
        rw [s.rewriteBytes_feed, bytes, cons_append, takeTail, takeTail, if_neg outside,
          if_neg outside']
      · rw [s.rewriteBytes_cons feed, takeTail, takeTail, ih (Nat.le_refl _)]

lemma firstChar_rewriteBytes (s : BreakStyle) (b : UInt8) (bs : List UInt8) :
    firstChar b (s.rewriteBytes bs) = firstChar b bs := by
  rw [firstChar, firstChar]
  cases asks : continuation? b.toNat with
  | none => rfl
  | some bounds =>
    dsimp only
    rw [takeTail_rewriteBytes s (continuation?_low asks)]

lemma ne_feed_of_low (low : 0x80 ≤ lo) (h : lo ≤ b.toNat) : b ≠ 0x0a := by
  rintro rfl
  simp only [UInt8.reduceToNat] at h
  omega

lemma ne_feed_of_takeTail_eq_ok (low : 0x80 ≤ lo)
    (h : takeTail more lo hi acc taken bs = .ok n) : ∀ b ∈ bs.take more, b ≠ 0x0a := by
  induction more generalizing lo hi acc taken bs with
  | zero => simp
  | succ more ih =>
    cases bs with
    | nil => simp
    | cons b bs =>
      rw [takeTail] at h
      split_ifs at h with inside
      rw [take_succ_cons, forall_mem_cons]
      exact ⟨ne_feed_of_low low inside.1, ih (Nat.le_refl _) h⟩

lemma ne_feed_of_takeTail_eq_error (low : 0x80 ≤ lo) {flaw : Utf8Flaw}
    (h : takeTail more lo hi acc taken bs = .error (flaw, n)) :
    taken ≤ n ∧ ∀ b ∈ bs.take (n - taken), b ≠ 0x0a := by
  induction more generalizing lo hi acc taken bs with
  | zero => simp at h
  | succ more ih =>
    cases bs with
    | nil =>
      obtain ⟨-, rfl⟩ : .cutShort = flaw ∧ taken = n := by simpa [takeTail] using h
      simp
    | cons b bs =>
      rw [takeTail] at h
      split_ifs at h with inside
      · obtain ⟨more, rest⟩ := ih (Nat.le_refl _) h
        have count : n - taken = n - (taken + 1) + 1 := by omega
        rw [count, take_succ_cons, forall_mem_cons]
        exact ⟨by omega, ne_feed_of_low low inside.1, rest⟩
      · obtain ⟨-, rfl⟩ : .badContinuation = flaw ∧ taken = n := by simpa using h
        simp

/-- A first character or an ill-formed part that does not begin with a line feed holds none. -/
lemma ne_feed_of_firstChar
    (h : (∃ c, firstChar b bs = .ok (c, n)) ∨ ∃ flaw, firstChar b bs = .error (flaw, n)) :
    ∀ x ∈ bs.take (n - 1), x ≠ 0x0a := by
  rw [firstChar] at h
  cases asks : continuation? b.toNat with
  | none =>
    obtain rfl : 1 = n := by simpa [asks] using h
    simp
  | some bounds =>
    obtain ⟨more, lo, hi⟩ := bounds
    have low := continuation?_low asks
    simp only [asks] at h
    cases taken : takeTail more lo hi (leadBits b.toNat more) 1 bs with
    | ok code =>
      obtain rfl : more + 1 = n := by simpa [taken] using h
      exact ne_feed_of_takeTail_eq_ok low taken
    | error e =>
      obtain ⟨flaw, m⟩ := e
      obtain rfl : m = n := by simpa [taken] using h
      exact (ne_feed_of_takeTail_eq_error low taken).2

/-! ### Characters of one byte -/

lemma le_of_takeTail_eq_ok (h : takeTail (more + 1) lo hi acc taken bs = .ok n) :
    (acc * 64 + (lo - 0x80)) * 64 ^ more ≤ n := by
  induction more generalizing lo hi acc taken bs with
  | zero =>
    cases bs with
    | nil => simp [takeTail] at h
    | cons b bs =>
      rw [takeTail] at h
      split_ifs at h with inside
      obtain rfl : acc * 64 + (b.toNat - 0x80) = n := by simpa using h
      omega
  | succ more ih =>
    cases bs with
    | nil => simp [takeTail] at h
    | cons b bs =>
      rw [takeTail] at h
      split_ifs at h with inside
      have least := ih h
      calc (acc * 64 + (lo - 0x80)) * 64 ^ (more + 1)
          = ((acc * 64 + (lo - 0x80)) * 64 + (0x80 - 0x80)) * 64 ^ more := by
            rw [pow_succ, mul_comm (64 ^ more), ← mul_assoc, Nat.add_zero]
        _ ≤ ((acc * 64 + (b.toNat - 0x80)) * 64 + (0x80 - 0x80)) * 64 ^ more := by
            refine Nat.mul_le_mul_right _ ?_
            omega
        _ ≤ n := least

lemma le_of_continuation? {b : Nat} (asks : continuation? b = some (more + 1, lo, hi)) :
    0x80 ≤ (leadBits b (more + 1) * 64 + (lo - 0x80)) * 64 ^ more := by
  have bounds := continuation?_bounds asks
  match more with
  | 0 =>
    change 0x80 ≤ ((b - 0xc0) * 64 + (lo - 0x80)) * 64 ^ 0
    omega
  | 1 =>
    change 0x80 ≤ ((b - 0xe0) * 64 + (lo - 0x80)) * 64 ^ 1
    omega
  | 2 =>
    change 0x80 ≤ ((b - 0xf0) * 64 + (lo - 0x80)) * 64 ^ 2
    omega
  | more + 3 => omega

lemma eq_of_firstChar
    (h : firstChar b bs = .ok (c, n)) (nonzero : c.toNat ≠ 0) (small : c.toNat < 0x80) :
    b.toNat = c.toNat := by
  rw [firstChar] at h
  cases asks : continuation? b.toNat with
  | none => simp [asks] at h
  | some bounds =>
    obtain ⟨more, lo, hi⟩ := bounds
    simp only [asks] at h
    cases taken : takeTail more lo hi (leadBits b.toNat more) 1 bs with
    | error e => simp [taken] at h
    | ok code =>
      obtain ⟨rfl, -⟩ : .ofNat code = c ∧ more + 1 = n := by simpa [taken] using h
      have value : (Char.ofNat code).toNat = code := by
        by_cases valid : code.isValidChar
        · rw [Char.ofNat, dif_pos valid]
          rfl
        · rw [Char.ofNat, dif_neg valid] at nonzero
          exact absurd rfl nonzero
      cases more with
      | zero =>
        exact (Except.ok.inj taken).trans value.symm
      | succ more =>
        have large := Nat.le_trans (le_of_continuation? asks) (le_of_takeTail_eq_ok taken)
        omega

lemma firstChar_feed (bs : List UInt8) : firstChar 0x0a bs = .ok ('\n', 1) :=
  firstChar_one (by decide : 0x0a < 0x80) bs

lemma firstChar_return (bs : List UInt8) : firstChar 0x0d bs = .ok ('\r', 1) :=
  firstChar_one (by decide : 0x0d < 0x80) bs

lemma ne_newline_of_firstChar
    (h : firstChar b bs = .ok (c, n)) (other : b ≠ 0x0a) : c ≠ '\n' := by
  rintro rfl
  exact other (UInt8.toNat_inj.1 (eq_of_firstChar h (by decide) (by decide)))

lemma ne_return_of_firstChar
    (h : firstChar b bs = .ok (c, n)) (other : b ≠ 0x0d) : c ≠ '\r' := by
  rintro rfl
  exact other (UInt8.toNat_inj.1 (eq_of_firstChar h (by decide) (by decide)))

/-! ### All characters -/

section

variable {b : UInt8} {bs : List UInt8} {c : Char} {n : Nat} {flaw : Utf8Flaw}

lemma decodeSkipping_of_ok (first : firstChar b bs = .ok (c, n)) :
    decodeSkipping (b :: bs) = c :: decodeSkipping (bs.drop (n - 1)) := by
  rw [decodeSkipping, first]

lemma decodeSkipping_of_error (first : firstChar b bs = .error (flaw, n)) :
    decodeSkipping (b :: bs) = decodeSkipping (bs.drop (n - 1)) := by
  rw [decodeSkipping, first]

lemma toOption_map {ε α β : Type} (f : α → β) (x : Except ε α) :
    (x.map f).toOption = x.toOption.map f := by
  cases x <;> rfl

lemma decodeFrom_of_ok (first : firstChar b bs = .ok (c, n)) (pos : Nat) :
    (decodeFrom pos (b :: bs)).toOption =
      (decodeFrom (pos + n) (bs.drop (n - 1))).toOption.map (c :: ·) := by
  rw [decodeFrom, first]
  exact toOption_map (c :: ·) _

lemma decodeFrom_of_error (first : firstChar b bs = .error (flaw, n)) (pos : Nat) :
    (decodeFrom pos (b :: bs)).toOption = none := by
  rw [decodeFrom, first]
  rfl

end

section

variable (s : BreakStyle)

lemma decodeSkipping_bytes (bs : List UInt8) :
    decodeSkipping (s.bytes ++ bs) = s.chars ++ decodeSkipping bs := by
  cases s with
  | pair =>
    refine (decodeSkipping_of_ok (firstChar_return _)).trans ?_
    exact congrArg _ (decodeSkipping_of_ok (firstChar_feed bs))
  | single => exact decodeSkipping_of_ok (firstChar_return bs)

lemma decodeSkipping_rewriteBytes (bs : List UInt8) :
    decodeSkipping (s.rewriteBytes bs) = s.rewriteChars (decodeSkipping bs) := by
  fun_induction decodeSkipping bs with
  | case1 => simp [decodeSkipping]
  | case2 b bs c n first ih =>
    by_cases feed : b = 0x0a
    · subst feed
      obtain ⟨rfl, rfl⟩ : '\n' = c ∧ 1 = n := by simpa [firstChar_feed] using first
      rw [s.rewriteBytes_feed, decodeSkipping_bytes]
      exact congrArg _ ih
    · have first' := (firstChar_rewriteBytes s b bs).trans first
      rw [s.rewriteBytes_cons feed, decodeSkipping_of_ok first',
        s.drop_rewriteBytes (ne_feed_of_firstChar (.inl ⟨c, first⟩)), ih,
        s.rewriteChars_cons (ne_newline_of_firstChar first feed)]
  | case3 b bs flaw n first ih =>
    have other : b ≠ 0x0a := by
      rintro rfl
      simp [firstChar_feed] at first
    have first' := (firstChar_rewriteBytes s b bs).trans first
    rw [s.rewriteBytes_cons other, decodeSkipping_of_error first',
      s.drop_rewriteBytes (ne_feed_of_firstChar (.inr ⟨flaw, first⟩)), ih]

lemma decodeFrom_bytes (pos : Nat) (bs : List UInt8) :
    ∃ pos', (decodeFrom pos (s.bytes ++ bs)).toOption =
      (decodeFrom pos' bs).toOption.map (s.chars ++ ·) := by
  cases s with
  | pair =>
    refine ⟨pos + 1 + 1, (decodeFrom_of_ok (firstChar_return _) pos).trans ?_⟩
    change ((decodeFrom (pos + 1) (0x0a :: bs)).toOption.map _) = _
    rw [decodeFrom_of_ok (firstChar_feed bs), Option.map_map]
    rfl
  | single => exact ⟨_, decodeFrom_of_ok (firstChar_return bs) pos⟩

/-- Read strictly, rewritten bytes give the rewritten text, or have a flaw if the bytes had one. -/
lemma decodeFrom_rewriteBytes (pos pos' : Nat) (bs : List UInt8) :
    (decodeFrom pos' (s.rewriteBytes bs)).toOption = (decodeFrom pos bs).toOption.map s.rewriteChars := by
  fun_induction decodeFrom pos bs generalizing pos' with
  | case1 => simp [decodeFrom, Except.toOption]
  | case2 pos b bs c n first ih =>
    by_cases feed : b = 0x0a
    · subst feed
      obtain ⟨rfl, rfl⟩ : '\n' = c ∧ 1 = n := by simpa [firstChar_feed] using first
      obtain ⟨next, read⟩ := decodeFrom_bytes s pos' (s.rewriteBytes bs)
      rw [drop_zero] at ih
      rw [s.rewriteBytes_feed, read, ih, toOption_map, Option.map_map, Option.map_map]
      exact congrArg (Option.map · _) (funext fun cs => (s.rewriteChars_feed cs).symm)
    · have first' := (firstChar_rewriteBytes s b bs).trans first
      rw [s.rewriteBytes_cons feed, decodeFrom_of_ok first',
        s.drop_rewriteBytes (ne_feed_of_firstChar (.inl ⟨c, first⟩)), ih, toOption_map, Option.map_map,
        Option.map_map]
      refine congrArg (Option.map · _) (funext fun cs => ?_)
      exact (s.rewriteChars_cons (ne_newline_of_firstChar first feed) cs).symm
  | case3 pos b bs flaw n first =>
    have other : b ≠ 0x0a := by
      rintro rfl
      simp [firstChar_feed] at first
    have first' := (firstChar_rewriteBytes s b bs).trans first
    rw [s.rewriteBytes_cons other, decodeFrom_of_error first']
    rfl

end

/-! ### No carriage returns -/

lemma return_not_mem_decodeSkipping (h : 0x0d ∉ bs) : '\r' ∉ decodeSkipping bs := by
  fun_induction decodeSkipping bs with
  | case1 => simp
  | case2 b bs c n first ih =>
    rw [mem_cons, not_or] at h ⊢
    have unlike := ne_return_of_firstChar first (symm h.1)
    exact ⟨unlike.symm, ih fun later => h.2 (mem_of_mem_drop later)⟩
  | case3 b bs flaw n first ih =>
    rw [mem_cons, not_or] at h
    exact ih fun later => h.2 (mem_of_mem_drop later)

lemma return_not_mem_decodeFrom {pos : Nat} (h : 0x0d ∉ bs)
    (read : (decodeFrom pos bs).toOption = some cs) : '\r' ∉ cs := by
  fun_induction decodeFrom pos bs generalizing cs with
  | case1 =>
    obtain rfl : [] = cs := by simpa [Except.toOption] using read
    simp
  | case2 pos b bs c n first ih =>
    rw [mem_cons, not_or] at h
    rw [toOption_map, Option.map_eq_some_iff] at read
    obtain ⟨later, read, rfl⟩ := read
    rw [mem_cons, not_or]
    exact ⟨(ne_return_of_firstChar first (symm h.1)).symm,
      ih (fun rest => h.2 (mem_of_mem_drop rest)) read⟩
  | case3 pos b bs flaw n first => simp [Except.toOption] at read

/-! ### Unified breaks -/

lemma unifyBreaks_return (h : cs.head? ≠ some '\n') : unifyBreaks ('\r' :: cs) = '\n' :: unifyBreaks cs := by
  rw [unifyBreaks]
  · rfl
  · rintro rest _ rfl
    simp at h

lemma head?_rewriteChars_single (cs : List Char) :
    (BreakStyle.single.rewriteChars cs).head? ≠ some '\n' := by
  cases cs with
  | nil => simp
  | cons c cs =>
    by_cases feed : c = '\n'
    · subst feed
      rw [BreakStyle.rewriteChars_feed]
      simp [BreakStyle.chars]
    · rw [BreakStyle.rewriteChars_cons _ feed]
      simpa using feed

/-- Unifying the breaks takes back what was written in their place. -/
lemma unifyBreaks_rewriteChars (s : BreakStyle) (h : '\r' ∉ cs) : unifyBreaks (s.rewriteChars cs) = cs := by
  induction cs with
  | nil => rfl
  | cons c cs ih =>
    rw [mem_cons, not_or] at h
    have ih := ih h.2
    by_cases feed : c = '\n'
    · subst feed
      cases s with
      | pair =>
        change unifyBreaks ('\r' :: '\n' :: BreakStyle.pair.rewriteChars cs) = _
        rw [unifyBreaks, ih]
      | single =>
        change unifyBreaks ('\r' :: BreakStyle.single.rewriteChars cs) = _
        rw [unifyBreaks_return (head?_rewriteChars_single cs), ih]
    · rw [s.rewriteChars_cons feed, unifyBreaks, ih, if_neg (Ne.symm h.1)]
      rintro rest rfl
      exact absurd rfl h.1

end Unbundle.Text
