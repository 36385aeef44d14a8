import Mathlib.Data.List.TakeDrop
import Mathlib.Tactic.Common
import Unbundle.Proofs.Value.Conversion

/-!
# Written values are read back

A value is read back in each layout, or refused where it nests deeper than the reader follows. This needs
that it has no floating-point numbers, which are rounded, and that the fields of a map have different names,
of which the reader keeps one.
-/

open List Unbundle.Value

namespace Unbundle.Json

/-! ## Tokens read back -/

variable {acc rest : List Char} {n offset start : Nat}

/-! ### Strings -/

lemma hexValue?_digitChar {k : Nat} (h : k < 16) : Text.hexValue? (Nat.digitChar k) = some k := by
  revert k
  decide

lemma hexDigits_four (n : Nat) : Text.hexDigits 4 n = [Nat.digitChar (n / 16 / 16 / 16 % 16),
    Nat.digitChar (n / 16 / 16 % 16), Nat.digitChar (n / 16 % 16), Nat.digitChar (n % 16)] := rfl

lemma hex4?_digits (h : n < 0x10000) :
    hex4? (Nat.digitChar (n / 16 / 16 / 16 % 16)) (Nat.digitChar (n / 16 / 16 % 16))
      (Nat.digitChar (n / 16 % 16)) (Nat.digitChar (n % 16)) = some n := by
  have digit : ∀ k, Text.hexValue? (Nat.digitChar (k % 16)) = some (k % 16) :=
    fun k => hexValue?_digitChar (Nat.mod_lt k (by decide))
  simp only [hex4?, digit, Option.bind_eq_bind, Option.bind_some, Option.pure_def, Option.some.injEq]
  omega

/-- What is written for a character: an escape of one letter, one or two escapes of four digits, or itself. -/
inductive Written (c : Char) : List Char → Prop
  | letter {e : Char} (other : e ≠ 'u') (stands : escape? e = some c) : Written c ['\\', e]
  | digits (small : c.toNat < 0x10000) : Written c (unitEscape c.toNat)
  | pair (large : 0x10000 ≤ c.toNat) : Written c (unitEscape (0xd800 + (c.toNat - 0x10000) / 0x400) ++
      unitEscape (0xdc00 + (c.toNat - 0x10000) % 0x400))
  | plain (noQuote : c ≠ '"') (noSlash : c ≠ '\\') (shown : 0x20 ≤ c.toNat) : Written c [c]

variable {ascii : Bool}

lemma Written.ite {c d e : Char} {cs : List Char} (other : e ≠ 'u') (stands : escape? e = some d)
    (otherwise : c ≠ d → Written c cs) : Written c (if c = d then ['\\', e] else cs) := by
  split_ifs with same
  · exact .letter other (same ▸ stands)
  · exact otherwise same

lemma written_writeChar (ascii : Bool) (c : Char) : Written c (writeChar ascii c) := by
  refine .ite (by decide) rfl fun quote => .ite (by decide) rfl fun slash => .ite (by decide) rfl fun _ =>
    .ite (by decide) rfl fun _ => .ite (by decide) rfl fun _ => .ite (by decide) rfl fun _ =>
    .ite (by decide) rfl fun _ => ?_
  split_ifs with control kept small
  · exact .digits (by omega)
  · exact .plain quote slash (Nat.le_of_not_lt control)
  · exact .digits small
  · exact .pair (Nat.le_of_not_lt small)

lemma readChars_letter {e x : Char} (other : e ≠ 'u') (stands : escape? e = some x) :
    readChars start ('\\' :: e :: rest) offset acc =
      readChars start rest (offset + 2) (x :: acc) := by
  rw [readChars, stands]
  all_goals simp [other]

lemma readChars_digits (small : n < 0x10000) (whole : n < 0xd800 ∨ 0xdfff < n) (more : rest ≠ []) :
    readChars start (unitEscape n ++ rest) offset acc =
      readChars start rest (offset + 6) (.ofNat n :: acc) := by
  obtain ⟨e, rest, rfl⟩ := exists_cons_of_ne_nil more
  rw [unitEscape, hexDigits_four]
  simp only [cons_append, nil_append]
  rw [readChars, hex4?_digits small]
  simp only
  rw [if_neg (by omega), if_neg (by omega)]

lemma readChars_pair (small : n < 0x100000) (more : rest ≠ []) :
    readChars start (unitEscape (0xd800 + n / 0x400) ++ unitEscape (0xdc00 + n % 0x400) ++ rest) offset acc =
      readChars start rest (offset + 12) (.ofNat (0x10000 + n) :: acc) := by
  obtain ⟨e, rest, rfl⟩ := exists_cons_of_ne_nil more
  rw [unitEscape, unitEscape, hexDigits_four, hexDigits_four]
  simp only [cons_append, nil_append]
  rw [readChars, hex4?_digits (by omega)]
  simp only
  rw [if_pos (by omega), lowSurrogate?, hex4?_digits (by omega)]
  simp only [drop]
  rw [if_pos (by omega)]
  simp only
  rw [show 0x10000 + (0xd800 + n / 0x400 - 0xd800) * 0x400 + (0xdc00 + n % 0x400 - 0xdc00) = 0x10000 + n by omega]

lemma readChars_plain {c : Char} (noQuote : c ≠ '"') (noSlash : c ≠ '\\') (shown : 0x20 ≤ c.toNat) :
    readChars start (c :: rest) offset acc = readChars start rest (offset + 1) (c :: acc) := by
  rw [readChars, if_neg (Nat.not_lt.2 shown)]
  all_goals simp [noQuote, noSlash]

lemma readChars_writeChar (start offset : Nat) (c : Char) (acc : List Char) (more : rest ≠ []) :
    readChars start (writeChar ascii c ++ rest) offset acc =
      readChars start rest (offset + (writeChar ascii c).length) (c :: acc) := by
  generalize written : writeChar ascii c = cs
  have form := written_writeChar ascii c
  rw [written] at form
  have valid : c.toNat < 0xd800 ∨ 0xdfff < c.toNat ∧ c.toNat < 0x110000 := c.valid
  cases form with
  | letter other stands => exact readChars_letter other stands
  | digits small =>
    rw [readChars_digits small (by omega) more, Char.ofNat_toNat]
    rfl
  | pair large =>
    rw [readChars_pair (by omega) more, Nat.add_sub_cancel' large, Char.ofNat_toNat]
    rfl
  | plain noQuote noSlash shown => exact readChars_plain noQuote noSlash shown

lemma readChars_flatMap (start offset : Nat) (cs rest acc : List Char) :
    readChars start (cs.flatMap (writeChar ascii) ++ '"' :: rest) offset acc =
      .ok (acc.reverse ++ cs, ⟨rest, offset + (cs.flatMap (writeChar ascii)).length + 1⟩) := by
  induction cs generalizing offset acc with
  | nil =>
    simp [readChars]
  | cons c cs ih =>
    rw [flatMap_cons, append_assoc, readChars_writeChar _ _ _ _ (by simp), ih]
    simp [Nat.add_assoc]

/-! ### Whole numbers -/

/-- What may follow a value: the end of the text, a comma, a line feed or what closes a list or a map. -/
def Ends (rest : List Char) : Prop := ∀ c ∈ rest.head?, c = ',' ∨ c = '\n' ∨ c = ']' ∨ c = '}'

lemma natOfDigits_digits (n : Nat) : natOfDigits (Number.digits n) = n := by
  have same : natOfDigits (Number.digits n) = .ofDigitChars 10 (Nat.toDigits 10 n) 0 := by
    simp only [natOfDigits, Number.digits, Nat.ofDigitChars_eq_foldl, Nat.mul_comm]
  rw [same, Nat.ofDigitChars_ten_toDigits]

lemma isDigit_of_mem_digits {c : Char} (h : c ∈ Number.digits n) : c.isDigit = true :=
  Nat.isDigit_of_mem_toDigits (by decide) (by decide) h

lemma digits_eq_cons (h : n ≠ 0) : ∃ c ds, Number.digits n = c :: ds ∧ c ≠ '0' := by
  induction n using Nat.strongRecOn with
  | ind n ih =>
    by_cases small : n < 10
    · exact ⟨_, _, Nat.toDigits_of_lt_base small, by simpa using h⟩
    · obtain ⟨c, ds, digits, nonzero⟩ := ih (n / 10) (by omega) (by omega)
      refine ⟨c, ds ++ [(n % 10).digitChar], ?_, nonzero⟩
      rw [Number.digits, Nat.toDigits_of_base_le (by decide) (by omega), ← Number.digits, digits]
      rfl

lemma spanDigits_append {ds : List Char} (digits : ∀ c ∈ ds, c.isDigit = true) (ends : Ends rest) :
    spanDigits (ds ++ rest) = (ds, rest) := by
  have stops : ∀ c ∈ rest.head?, c.isDigit = false := by
    intro c hc
    rcases ends c hc with rfl | rfl | rfl | rfl <;> rfl
  rw [spanDigits, span_eq_takeWhile_dropWhile, takeWhile_append_of_pos digits,
    dropWhile_append_of_pos digits]
  cases rest with
  | nil => simp
  | cons c cs => simp [stops c rfl]

lemma wholePart?_digits (n : Nat) (ends : Ends rest) :
    wholePart? (Number.digits n ++ rest) = some (Number.digits n, rest) := by
  by_cases zero : n = 0
  · subst zero
    rfl
  · obtain ⟨c, ds, digits, nonzero⟩ := digits_eq_cons zero
    have all : ∀ d ∈ c :: ds, d.isDigit = true := fun d hd => isDigit_of_mem_digits (digits ▸ hd)
    rw [digits, cons_append, wholePart?, if_pos (all c mem_cons_self), ← cons_append,
      spanDigits_append all ends]
    exact nonzero

lemma fractionPart_of_ends (ends : Ends rest) : fractionPart rest = ([], rest) := by
  cases rest with
  | nil => rfl
  | cons c cs => rcases ends c rfl with rfl | rfl | rfl | rfl <;> rfl

lemma exponentPart?_of_ends (ends : Ends rest) : exponentPart? rest = none := by
  cases rest with
  | nil => rfl
  | cons c cs => rcases ends c rfl with rfl | rfl | rfl | rfl <;> rfl

lemma numeral?_ofInt (n : Int) (ends : Ends rest) :
    numeral? (Number.ofInt n ++ rest) =
      some (⟨n < 0, Number.digits n.natAbs, [], none, (Number.ofInt n).length⟩, rest) := by
  have whole := wholePart?_digits n.natAbs ends
  rw [Number.ofInt]
  split_ifs with negative
  · rw [cons_append, numeral?]
    simp [whole, fractionPart_of_ends ends, exponentPart?_of_ends ends, negative, Nat.add_comm]
  · have nosign : ∀ r, Number.digits n.natAbs ++ rest ≠ '-' :: r := by
      intro r sign
      rw [sign] at whole
      simp [wholePart?] at whole
    rw [numeral?]
    · simp [whole, fractionPart_of_ends ends, exponentPart?_of_ends ends, negative]
    · exact nosign

lemma readName?_ofInt (n : Int) (rest : List Char) (offset : Nat) :
    readName? (Number.ofInt n ++ rest) offset = none := by
  obtain ⟨c, ds, digits⟩ : ∃ c ds, Number.digits n.natAbs = c :: ds :=
    exists_cons_of_ne_nil Nat.toDigits_ne_nil
  have digit : c.isDigit = true := isDigit_of_mem_digits (digits ▸ mem_cons_self)
  have other : ∀ d, d.isDigit = false → d ≠ c := by
    rintro d no rfl
    exact absurd digit (by simp [no])
  rw [readName?, findSome?_eq_none_iff, Number.ofInt, digits]
  intro p hp
  simp only [names, mem_cons, not_mem_nil, or_false] at hp
  split_ifs
  · rcases hp with rfl | rfl | rfl | rfl | rfl | rfl <;>
      simp [Text.dropLead?, other]
  · rcases hp with rfl | rfl | rfl | rfl | rfl | rfl <;>
      simp [Text.dropLead?, other]

lemma readPlain_ofInt {n : Int} (offset : Nat) (ends : Ends rest)
    (short : (Number.digits n.natAbs).length ≤ maxDigits) :
    readPlain (Number.ofInt n ++ rest) offset =
      .ok (.int n, ⟨rest, offset + (Number.ofInt n).length⟩) := by
  have value : (if n < 0 then -(n.natAbs : Int) else n.natAbs) = n := by
    split_ifs <;> omega
  rw [readPlain, readName?_ofInt, numeral?_ofInt n ends]
  simp only [Numeral.isWhole, Numeral.value, isEmpty_nil, Option.isNone_none, Bool.and_self, true_and, if_true, Nat.not_lt.2 short, if_false, natOfDigits_digits, decide_eq_true_eq, value]

/-! ### Steps of the reader -/

variable {cs : List Char} {fuel levels : Nat} {acc : List (String × Value)} {v : Value} {k : String}
variable {level : Nat} {c : Char}

/-! ### Space -/

lemma skipSpace_of_head (stops : ∀ c ∈ cs.head?, isSpace c = false) : (skipSpace cs offset).chars = cs := by
  cases cs with
  | nil => rfl
  | cons c cs => simp [skipSpace, stops c rfl]

lemma skipSpace_append {spaces : List Char} (blank : ∀ c ∈ spaces, isSpace c = true)
    (stops : ∀ c ∈ cs.head?, isSpace c = false) : (skipSpace (spaces ++ cs) offset).chars = cs := by
  induction spaces generalizing offset with
  | nil => exact skipSpace_of_head stops
  | cons s spaces ih =>
    rw [cons_append, skipSpace, if_pos (blank s mem_cons_self)]
    exact ih fun c hc => blank c (mem_cons_of_mem s hc)

variable {l : Layout}

/-- What stands between two items after the comma. -/
def Layout.gap (l : Layout) (level : Nat) : List Char :=
  match l.indent with
  | none => [' ']
  | some _ => l.newline level

lemma Layout.comma_eq (level : Nat) : l.comma level = ',' :: l.gap level := by
  cases indent : l.indent <;> simp [comma, gap, indent]

lemma isSpace_of_mem_newline : ∀ c ∈ l.newline level, isSpace c = true := by
  intro c mem
  cases indent : l.indent with
  | none => simp [Layout.newline, indent] at mem
  | some n =>
    rw [Layout.newline, indent, mem_cons, mem_replicate] at mem
    rcases mem with rfl | ⟨-, rfl⟩ <;> rfl

lemma skipSpace_newline (level : Nat) (stops : ∀ c ∈ cs.head?, isSpace c = false) :
    (skipSpace (l.newline level ++ cs) offset).chars = cs :=
  skipSpace_append isSpace_of_mem_newline stops

lemma skipSpace_gap (level : Nat) (stops : ∀ c ∈ cs.head?, isSpace c = false) :
    (skipSpace (l.gap level ++ cs) offset).chars = cs := by
  refine skipSpace_append (fun c mem => ?_) stops
  cases indent : l.indent with
  | none =>
    rw [Layout.gap, indent, mem_singleton] at mem
    exact mem ▸ rfl
  | some n =>
    rw [Layout.gap, indent] at mem
    exact isSpace_of_mem_newline c mem

lemma ends_close (closes : c = ']' ∨ c = '}') (level : Nat) (cs : List Char) :
    Ends (l.newline level ++ c :: cs) := by
  intro d head
  cases indent : l.indent with
  | none =>
    rw [Layout.newline, indent] at head
    obtain rfl := Option.some.inj head
    exact .inr (.inr closes)
  | some n =>
    rw [Layout.newline, indent] at head
    obtain rfl := Option.some.inj head
    exact .inr (.inl rfl)

/-! ### How values begin -/

/-- A text begins like a value: not with a space, with what closes a list or with a byte order mark. -/
def Begins (cs : List Char) : Prop :=
  ∃ c rest, cs = c :: rest ∧ isSpace c = false ∧ c ≠ ']' ∧ c ≠ '\ufeff'

lemma Begins.append (h : Begins cs) (rest : List Char) : Begins (cs ++ rest) := by
  obtain ⟨c, cs, rfl, space, closes⟩ := h
  exact ⟨c, cs ++ rest, rfl, space, closes⟩

lemma Begins.head? (h : Begins cs) : ∀ c ∈ cs.head?, isSpace c = false := by
  obtain ⟨c, cs, rfl, space, -⟩ := h
  rintro _ ⟨⟩
  exact space

lemma Begins.ne_mark (h : Begins (c :: cs)) : c ≠ '\ufeff' := by
  obtain ⟨_, _, ⟨⟩, -, -, mark⟩ := h
  exact mark

/-- What is written for a value that is neither a list nor a map. -/
inductive WrittenPlain (ascii : Bool) : Value → List Char → Prop
  | null : WrittenPlain ascii .null ['n', 'u', 'l', 'l']
  | yes : WrittenPlain ascii (.bool true) ['t', 'r', 'u', 'e']
  | no : WrittenPlain ascii (.bool false) ['f', 'a', 'l', 's', 'e']
  | int {n : Int} (short : (Number.digits n.natAbs).length ≤ maxDigits) :
      WrittenPlain ascii (.int n) (Number.ofInt n)
  | text (s : String) : WrittenPlain ascii (.text s) (writeString ascii s.toList)

lemma writtenPlain_of_writeAt (plain : v.IsPlain) (noFloat : ∀ x, v ≠ .float x)
    (strict : l.other = refuse) (written : writeAt l level v = .ok cs) : WrittenPlain l.ascii v cs := by
  cases v with
  | null =>
    obtain rfl := Except.ok.inj written
    exact .null
  | bool b =>
    obtain rfl := Except.ok.inj written
    cases b
    · exact .no
    · exact .yes
  | int n =>
    rw [writeAt, writeInt] at written
    split_ifs at written with long
    obtain rfl := Except.ok.inj written
    exact .int (Nat.le_of_not_lt long)
  | float x => exact absurd rfl (noFloat x)
  | text s =>
    obtain rfl := Except.ok.inj written
    exact .text s
  | list _ | map _ => simp [Value.IsPlain] at plain
  | _ =>
    change l.other _ = _ at written
    rw [strict] at written
    cases written

lemma ofInt_eq_cons (n : Int) : ∃ c cs, Number.ofInt n = c :: cs ∧ (c = '-' ∨ c.isDigit = true) := by
  rw [Number.ofInt]
  split_ifs
  · exact ⟨_, _, rfl, .inl rfl⟩
  · obtain ⟨c, cs, digits⟩ := exists_cons_of_ne_nil (Nat.toDigits_ne_nil (n := n.natAbs) (b := 10))
    exact ⟨c, cs, digits, .inr (isDigit_of_mem_digits (digits ▸ mem_cons_self))⟩

lemma isSpace_of_isDigit (digit : c.isDigit = true) : isSpace c = false := by
  rw [← Bool.not_eq_true, isSpace]
  intro space
  simp only [Bool.or_eq_true, beq_iff_eq] at space
  rcases space with ((rfl | rfl) | rfl) | rfl <;> exact absurd digit (by decide)

lemma WrittenPlain.begins (h : WrittenPlain ascii v cs) : Begins cs := by
  cases h with
  | @int n short =>
    obtain ⟨c, cs, digits, first⟩ := ofInt_eq_cons n
    refine ⟨c, cs, digits, ?_, ?_, ?_⟩
    · rcases first with rfl | digit
      · rfl
      · exact isSpace_of_isDigit digit
    all_goals
      rintro rfl
      exact absurd first (by decide)
  | _ => exact ⟨_, _, rfl, rfl, by decide, by decide⟩

/-! ### Steps of the reader -/

lemma readValue_plain {fuel levels offset : Nat} {cs : List Char} (noText : c ≠ '"')
    (noMap : c ≠ '{') (noList : c ≠ '[') :
    readValue (fuel + 1) levels (c :: cs) offset = readPlain (c :: cs) offset := by
  rw [readValue]
  all_goals simp [noText, noMap, noList]

lemma WrittenPlain.exists_readValue (h : WrittenPlain ascii v cs) (fuel levels offset : Nat) (ends : Ends rest) :
    ∃ offset', readValue (fuel + 1) levels (cs ++ rest) offset = .ok (v, ⟨rest, offset'⟩) := by
  cases h with
  | @int n short =>
    refine ⟨_, .trans ?_ (readPlain_ofInt offset ends short)⟩
    obtain ⟨c, cs, digits, first⟩ := ofInt_eq_cons n
    rw [digits]
    apply readValue_plain
    all_goals
      rintro rfl
      exact absurd first (by decide)
  | text s =>
    rw [writeString, cons_append, append_assoc, readValue, singleton_append, readChars_flatMap]
    simp only [reverse_nil, nil_append, String.ofList_toList]
    exact ⟨_, rfl⟩
  | _ =>
    rw [cons_append, readValue_plain (by decide) (by decide) (by decide)]
    simp [readPlain, readName?, names, Text.dropLead?]

section

variable {items : List Value} {after : Rest} {next : List Char}

lemma exists_readValue_items (skips : ∀ {offset}, (skipSpace cs offset).chars = next) (begins : Begins next) :
    ∃ offset', readValue (fuel + 1) (levels + 1) ('[' :: cs) offset = readItems fuel levels next offset' [] := by
  obtain ⟨c, rest, rfl, -, closes, -⟩ := begins
  refine ⟨(skipSpace cs (offset + 1)).offset, ?_⟩
  rw [readValue, skips]
  simp [closes]

lemma exists_readValue_fields (skips : ∀ {offset}, (skipSpace cs offset).chars = '"' :: next) :
    ∃ offset', readValue (fuel + 1) (levels + 1) ('{' :: cs) offset =
      readFields fuel levels ('"' :: next) offset' [] := by
  rw [readValue, skips]
  exact ⟨_, rfl⟩

/-- What follows once an item or the value of a field is read: the end of the list or map, or the next one. -/
def afterPart (close : Char) (whole : Value → Value) (next : Value → List Char → Nat → Step Value) :
    Step Value → Step Value
  | .error e => .error e
  | .ok (v, after) =>
    let after := skipSpace after.chars after.offset
    match after.chars with
    | [] => .error (.problem .noComma after.offset)
    | c :: rest =>
      if c = close then .ok (whole v, ⟨rest, after.offset + 1⟩)
      else if c = ',' then
        let start := skipSpace rest (after.offset + 1)
        next v start.chars start.offset
      else .error (.problem .noComma after.offset)

lemma readItems_eq : readItems (fuel + 1) levels cs offset items =
    afterPart ']' (fun v => .list (v :: items).reverse)
      (fun v cs offset => readItems fuel levels cs offset (v :: items)) (readValue fuel levels cs offset) := by
  rw [readItems]
  rcases readValue fuel levels cs offset with e | ⟨v, after⟩
  · rfl
  · dsimp only [afterPart]
    cases (skipSpace after.chars after.offset).chars with
    | nil => rfl
    | cons c rest =>
      by_cases close : c = ']'
      · simp [close]
      by_cases comma : c = ',' <;> simp [close, comma]

lemma exists_readFields_eq (begins : Begins cs) : ∃ start,
    readFields (fuel + 1) levels (writeString ascii k.toList ++ ':' :: ' ' :: cs) offset acc =
      afterPart '}' (fun v => .map (put k v acc))
        (fun v cs offset => readFields fuel levels cs offset (put k v acc))
        (readValue fuel levels cs start) := by
  have colon : ∀ {offset}, (skipSpace (':' :: ' ' :: cs) offset).chars = ':' :: ' ' :: cs :=
    skipSpace_of_head (by rintro _ ⟨⟩; rfl)
  have blank : ∀ {offset}, (skipSpace (' ' :: cs) offset).chars = cs :=
    fun {_} => @skipSpace_append _ _ [' '] (by simp [isSpace]) begins.head?
  rw [writeString, cons_append, append_assoc, singleton_append, readFields, readChars_flatMap]
  simp only [colon, blank, reverse_nil, nil_append, String.ofList_toList]
  refine ⟨(skipSpace (' ' :: cs) ((skipSpace (':' :: ' ' :: cs)
    (offset + 1 + (k.toList.flatMap (writeChar ascii)).length + 1)).offset + 1)).offset, ?_⟩
  rcases readValue fuel levels cs _ with e | ⟨v, after⟩
  · rfl
  · dsimp only [afterPart]
    cases (skipSpace after.chars after.offset).chars with
    | nil => rfl
    | cons c rest =>
      by_cases close : c = '}'
      · simp [close]
      by_cases comma : c = ',' <;> simp [close, comma]

end

/-! ## Written values are read back -/

variable {fs : List (String × Value)} {step : Step Value} {f : String × Value} {xs : List Value}

/-! ### Lists -/

/-- A step gives a value of some depth, or refuses it if it is too deep. -/
def Gives (levels depth : Nat) (v : Value) (rest : List Char) (step : Step Value) : Prop :=
  (depth ≤ levels → ∃ offset, step = .ok (v, ⟨rest, offset⟩)) ∧
    (levels < depth → ∃ list, step = .error (.tooDeep list))

lemma Gives.succ (h : Gives levels n v rest step) : Gives (levels + 1) (n + 1) v rest step :=
  ⟨fun le => h.1 (Nat.le_of_succ_le_succ le), fun lt => h.2 (Nat.lt_of_succ_lt_succ lt)⟩

lemma gives_zero (h : ∃ offset, step = .ok (v, ⟨rest, offset⟩)) : Gives levels 0 v rest step :=
  ⟨fun _ => h, fun lt => absurd lt (Nat.not_lt_zero _)⟩

section

variable {close : Char} {whole : Value → Value} {following : Value → List Char → Nat → Step Value}

lemma Gives.afterPart {w : Value} {m : Nat} {tail : List Char} (h : Gives levels m v tail step)
    (later : ∀ offset, Gives levels n w rest (afterPart close whole following (.ok (v, ⟨tail, offset⟩)))) :
    Gives levels (max m n) w rest (afterPart close whole following step) := by
  by_cases shallow : m ≤ levels
  · obtain ⟨offset, rfl⟩ := h.1 shallow
    exact ⟨fun le => (later offset).1 (by omega), fun lt => (later offset).2 (by omega)⟩
  · obtain ⟨list, rfl⟩ := h.2 (by omega)
    exact ⟨fun le => by omega, fun _ => ⟨list, rfl⟩⟩

lemma Gives.last {m below : Nat} (h : Gives levels m v (l.newline below ++ close :: rest) step)
    (visible : isSpace close = false) :
    Gives levels (max m 0) (whole v) rest (Json.afterPart close whole following step) := by
  refine h.afterPart fun offset => gives_zero ?_
  have closes : (skipSpace (l.newline below ++ close :: rest) offset).chars = close :: rest :=
    skipSpace_newline below (by rintro _ ⟨⟩; exact visible)
  simp only [Json.afterPart, closes]
  exact ⟨_, rfl⟩

lemma Gives.comma {w : Value} {m : Nat} {others : List Char}
    (h : Gives levels m v (',' :: (l.gap level ++ others)) step) (inside : ',' ≠ close) (visible : ∀ c ∈ others.head?, isSpace c = false)
    (later : ∀ offset, Gives levels n w rest (following v others offset)) :
    Gives levels (max m n) w rest (Json.afterPart close whole following step) := by
  refine h.afterPart fun offset => ?_
  have comma : (skipSpace (',' :: (l.gap level ++ others)) offset).chars = ',' :: (l.gap level ++ others) :=
    skipSpace_of_head (by rintro _ ⟨⟩; rfl)
  simp only [Json.afterPart, comma, skipSpace_gap level visible, if_neg inside]
  exact later _

end

/-- What is written for a value begins like one and is read back, or refused as too deep. -/
structure ReadsBack (l : Layout) (v : Value) : Prop where
  begins : ∀ {level : Nat} {cs : List Char}, writeAt l level v = .ok cs → Begins cs
  gives : ∀ (levels offset : Nat) {level fuel : Nat} {cs rest : List Char},
    writeAt l level v = .ok cs → cs.length ≤ fuel → Ends rest →
    Gives levels v.depth v rest (readValue fuel levels (cs ++ rest) offset)

lemma writeItems_cons_cons_eq_ok {x y : Value} (h : writeItems l level (x :: y :: xs) = .ok cs) :
    ∃ first others, writeAt l level x = .ok first ∧
      writeItems l level (y :: xs) = .ok others ∧
      cs = first ++ ',' :: (l.gap level ++ others) := by
  rw [writeItems] at h
  · obtain ⟨first, head, h⟩ := bind_eq_ok_iff.1 h
    obtain ⟨others, tail, h⟩ := bind_eq_ok_iff.1 h
    refine ⟨first, others, head, tail, ?_⟩
    rw [← pure_eq_ok_iff.1 h, append_assoc, Layout.comma_eq]
    rfl
  · simp

lemma begins_writeItems {x : Value} (back : ReadsBack l x) (written : writeItems l level (x :: xs) = .ok cs) :
    Begins cs := by
  cases xs with
  | nil => exact back.begins written
  | cons y xs =>
    obtain ⟨first, others, head, -, rfl⟩ := writeItems_cons_cons_eq_ok written
    exact (back.begins head).append _

lemma ends_comma (cs : List Char) : Ends (',' :: cs) := by
  rintro c ⟨⟩
  exact .inl rfl

lemma gives_readItems {x : Value} {fuel : Nat} (back : ∀ y ∈ x :: xs, ReadsBack l y)
    (written : writeItems l level (x :: xs) = .ok cs) (enough : cs.length < fuel) (below offset : Nat)
    (rest : List Char) (acc : List Value) :
    Gives levels (depthItems (x :: xs)) (.list (acc.reverse ++ x :: xs)) rest
      (readItems fuel levels (cs ++ (l.newline below ++ ']' :: rest)) offset acc) := by
  obtain ⟨fuel, rfl⟩ := Nat.exists_eq_succ_of_ne_zero (Nat.ne_zero_of_lt enough)
  rw [depthItems]
  induction xs generalizing x fuel cs offset acc with
  | nil =>
    rw [readItems_eq, ← reverse_cons]
    exact ((back x mem_cons_self).gives levels offset written (Nat.le_of_lt_succ enough)
      (ends_close (.inl rfl) below rest)).last rfl
  | cons y ys ih =>
    obtain ⟨head, others, first, later, rfl⟩ := writeItems_cons_cons_eq_ok written
    have back' : ∀ z ∈ y :: ys, ReadsBack l z := fun z hz => back z (mem_cons_of_mem x hz)
    have begins := begins_writeItems (back' y mem_cons_self) later
    simp only [length_append, length_cons] at enough
    obtain ⟨fuel, rfl⟩ : ∃ n, fuel = n + 1 := ⟨fuel - 1, by omega⟩
    rw [append_assoc, cons_append, append_assoc, readItems_eq]
    refine ((back x mem_cons_self).gives levels offset first (by omega) (ends_comma _)).comma (by decide)
      (begins.append _).head? fun offset => ?_
    simpa [depthItems] using ih back' later offset (x :: acc) fuel (by omega)

/-! ### Maps -/

lemma fresh_of_nodup {acc : List (String × Value)} (distinct : ((acc ++ f :: fs).map Prod.fst).Nodup) :
    f.1 ∉ acc.map Prod.fst := by
  rw [map_append] at distinct
  intro mem
  exact disjoint_of_nodup_append distinct mem mem_cons_self

lemma writeFields_singleton_eq_ok (h : writeFields l level [f] = .ok cs) :
    ∃ value, writeAt l level f.2 = .ok value ∧
      cs = writeString l.ascii f.1.toList ++ ':' :: ' ' :: value := by
  rw [writeFields] at h
  obtain ⟨value, here, h⟩ := bind_eq_ok_iff.1 h
  exact ⟨value, here, (pure_eq_ok_iff.1 h).symm⟩

lemma writeFields_cons_cons_eq_ok {g : String × Value} (h : writeFields l level (f :: g :: fs) = .ok cs) :
    ∃ value others, writeAt l level f.2 = .ok value ∧
      writeFields l level (g :: fs) = .ok others ∧
      cs = writeString l.ascii f.1.toList ++ ':' :: ' ' ::
        (value ++ ',' :: (l.gap level ++ others)) := by
  rw [writeFields] at h
  · obtain ⟨value, head, h⟩ := bind_eq_ok_iff.1 h
    obtain ⟨others, tail, h⟩ := bind_eq_ok_iff.1 h
    refine ⟨value, others, head, tail, ?_⟩
    rw [← pure_eq_ok_iff.1 h, Layout.comma_eq]
    simp
  · simp

lemma writeFields_eq_quote (h : writeFields l level (f :: fs) = .ok cs) : ∃ rest, cs = '"' :: rest := by
  cases fs with
  | nil =>
    obtain ⟨value, -, rfl⟩ := writeFields_singleton_eq_ok h
    exact ⟨_, rfl⟩
  | cons g fs =>
    obtain ⟨value, others, -, -, rfl⟩ := writeFields_cons_cons_eq_ok h
    exact ⟨_, rfl⟩

lemma gives_readFields {fuel : Nat} (back : ∀ g ∈ f :: fs, ReadsBack l g.2)
    (written : writeFields l level (f :: fs) = .ok cs) (enough : cs.length < fuel) (below offset : Nat)
    (rest : List Char) (acc : List (String × Value)) (distinct : ((acc ++ f :: fs).map Prod.fst).Nodup) :
    Gives levels (depthFields (f :: fs)) (.map (acc ++ f :: fs)) rest
      (readFields fuel levels (cs ++ (l.newline below ++ '}' :: rest)) offset acc) := by
  obtain ⟨fuel, rfl⟩ := Nat.exists_eq_succ_of_ne_zero (Nat.ne_zero_of_lt enough)
  rw [depthFields]
  induction fs generalizing f fuel cs offset acc with
  | nil =>
    obtain ⟨value, only, rfl⟩ := writeFields_singleton_eq_ok written
    have here := back f mem_cons_self
    simp only [length_append, length_cons] at enough
    rw [append_assoc, cons_append, cons_append]
    obtain ⟨start, same⟩ := exists_readFields_eq ((here.begins only).append _)
    rw [same, ← put_of_not_mem (fresh_of_nodup distinct)]
    exact (here.gives levels start only (by omega) (ends_close (.inr rfl) below rest)).last rfl
  | cons g fs ih =>
    obtain ⟨value, others, first, later, rfl⟩ := writeFields_cons_cons_eq_ok written
    have here := back f mem_cons_self
    have back' : ∀ e ∈ g :: fs, ReadsBack l e.2 := fun e he => back e (mem_cons_of_mem f he)
    obtain ⟨quoted, rfl⟩ := writeFields_eq_quote later
    simp only [length_append, length_cons] at enough
    obtain ⟨fuel, rfl⟩ : ∃ n, fuel = n + 1 := ⟨fuel - 1, by omega⟩
    simp only [append_assoc, cons_append]
    obtain ⟨start, same⟩ := exists_readFields_eq ((here.begins first).append _)
    rw [same]
    refine (here.gives levels start first (by omega) (ends_comma _)).comma (by decide) (by rintro _ ⟨⟩; rfl)
      fun offset => ?_
    rw [put_of_not_mem (fresh_of_nodup distinct)]
    simpa [depthFields] using
      ih back' later offset (acc ++ [f]) (by simpa using distinct) fuel (by simpa using by omega)

/-! ### Values -/

lemma readsBack_of_isPlain (strict : l.other = refuse) (plain : v.IsPlain) (noFloat : ∀ x, v ≠ .float x) :
    ReadsBack l v where
  begins written := (writtenPlain_of_writeAt plain noFloat strict written).begins
  gives levels offset level fuel cs rest written enough ends := by
    have written := writtenPlain_of_writeAt plain noFloat strict written
    obtain ⟨c, cs, rfl, -⟩ := written.begins
    obtain ⟨fuel, rfl⟩ : ∃ n, fuel = n + 1 := ⟨fuel - 1, by rw [length_cons] at enough; omega⟩
    rw [depth_of_isPlain plain]
    exact gives_zero (written.exists_readValue fuel levels offset ends)

lemma writeAt_list_eq_ok {level : Nat} {xs : List Value} {cs : List Char}
    (h : writeAt l level (.list xs) = .ok cs) :
    ∃ inside, cs = '[' :: inside ∧ ((xs = [] ∧ inside = [']']) ∨
      ∃ y ys items, xs = y :: ys ∧ writeItems l (level + 1) (y :: ys) = .ok items ∧
        inside = l.newline (level + 1) ++ (items ++ (l.newline level ++ [']']))) := by
  cases xs with
  | nil => exact ⟨_, (Except.ok.inj h).symm, .inl ⟨rfl, rfl⟩⟩
  | cons y ys =>
    rw [writeAt] at h
    obtain ⟨items, written, h⟩ := bind_eq_ok_iff.1 h
    refine ⟨_, (pure_eq_ok_iff.1 h).symm, .inr ⟨y, ys, items, rfl, written, ?_⟩⟩
    rw [append_assoc, append_assoc]

lemma writeAt_map_eq_ok {level : Nat} {fs : List (String × Value)} {cs : List Char}
    (h : writeAt l level (.map fs) = .ok cs) :
    ∃ inside, cs = '{' :: inside ∧ ((fs = [] ∧ inside = ['}']) ∨
      ∃ g gs fields, fs = g :: gs ∧ writeFields l (level + 1) (g :: gs) = .ok fields ∧
        inside = l.newline (level + 1) ++ (fields ++ (l.newline level ++ ['}']))) := by
  cases fs with
  | nil => exact ⟨_, (Except.ok.inj h).symm, .inl ⟨rfl, rfl⟩⟩
  | cons g gs =>
    rw [writeAt] at h
    obtain ⟨fields, written, h⟩ := bind_eq_ok_iff.1 h
    refine ⟨_, (pure_eq_ok_iff.1 h).symm, .inr ⟨g, gs, fields, rfl, written, ?_⟩⟩
    rw [append_assoc, append_assoc]

lemma readsBack_list (back : ∀ x ∈ xs, ReadsBack l x) : ReadsBack l (.list xs) where
  begins written := by
    obtain ⟨inside, rfl, -⟩ := writeAt_list_eq_ok written
    exact ⟨_, _, rfl, rfl, by decide, by decide⟩
  gives levels offset level fuel cs rest written enough ends := by
    obtain ⟨inside, rfl, inside_eq⟩ := writeAt_list_eq_ok written
    obtain ⟨fuel, rfl⟩ : ∃ n, fuel = n + 1 := ⟨fuel - 1, by rw [length_cons] at enough; omega⟩
    rw [cons_append]
    cases levels with
    | zero => exact ⟨fun le => absurd le (Nat.not_succ_le_zero _), fun _ => ⟨true, by rw [readValue]⟩⟩
    | succ levels =>
      refine .succ ?_
      rcases inside_eq with ⟨rfl, rfl⟩ | ⟨y, ys, items, rfl, inner, rfl⟩
      · exact gives_zero ⟨offset + 2, by rw [readValue]; rfl⟩
      · have begins := begins_writeItems (back y mem_cons_self) inner
        simp only [length_append, length_cons] at enough
        simp only [append_assoc]
        obtain ⟨start, same⟩ := exists_readValue_items (skipSpace_newline (level + 1) (begins.append _).head?)
          (begins.append _)
        rw [same]
        exact gives_readItems back inner (by omega) level start rest []

lemma readsBack_map (back : ∀ f ∈ fs, ReadsBack l f.2) (distinct : (fs.map Prod.fst).Nodup) :
    ReadsBack l (.map fs) where
  begins written := by
    obtain ⟨inside, rfl, -⟩ := writeAt_map_eq_ok written
    exact ⟨_, _, rfl, rfl, by decide, by decide⟩
  gives levels offset level fuel cs rest written enough ends := by
    obtain ⟨inside, rfl, inside_eq⟩ := writeAt_map_eq_ok written
    obtain ⟨fuel, rfl⟩ : ∃ n, fuel = n + 1 := ⟨fuel - 1, by rw [length_cons] at enough; omega⟩
    rw [cons_append]
    cases levels with
    | zero => exact ⟨fun le => absurd le (Nat.not_succ_le_zero _), fun _ => ⟨false, by rw [readValue]⟩⟩
    | succ levels =>
      refine .succ ?_
      rcases inside_eq with ⟨rfl, rfl⟩ | ⟨g, gs, fields, rfl, inner, rfl⟩
      · exact gives_zero ⟨offset + 2, by rw [readValue]; rfl⟩
      · obtain ⟨quoted, rfl⟩ := writeFields_eq_quote inner
        simp only [length_append, length_cons] at enough
        simp only [append_assoc, cons_append]
        obtain ⟨start, same⟩ := exists_readValue_fields (skipSpace_newline (level + 1) (by rintro _ ⟨⟩; rfl))
        rw [same]
        exact gives_readFields back inner (by simpa using by omega) level start rest [] distinct

lemma readsBack (strict : l.other = refuse) (noFloat : v.FloatFree) (distinct : v.DistinctFields) :
    ReadsBack l v := by
  have both := noFloat.and distinct
  clear noFloat distinct
  induction both with
  | list here items ih => exact readsBack_list ih
  | map here fields ih => exact readsBack_map ih (here.2 _ rfl)
  | plain here plain => exact readsBack_of_isPlain strict plain here.1

/-- What is written for a value is read as that value, unless it nests too deep. -/
theorem read_writeAt (strict : l.other = refuse) (noFloat : v.FloatFree) (distinct : v.DistinctFields)
    (written : writeAt l 0 v = .ok cs) :
    (v.depth ≤ maxNesting → read cs = .ok v) ∧
      (maxNesting < v.depth → ∃ list, read cs = .error (.tooDeep list)) := by
  have back := readsBack strict noFloat distinct
  have ends : Ends [] := by rintro _ ⟨⟩
  obtain ⟨shallow, deep⟩ := back.gives maxNesting (skipSpace cs 0).offset written (Nat.le_succ _) ends
  have begins := back.begins written
  have start : (skipSpace cs 0).chars = cs := skipSpace_of_head begins.head?
  rw [append_nil] at shallow deep
  unfold read
  split
  · exact absurd rfl begins.ne_mark
  · refine ⟨fun h => ?_, fun h => ?_⟩
    · obtain ⟨offset, given⟩ := shallow h
      simp only [start, given, skipSpace]
    · obtain ⟨list, refused⟩ := deep h
      exact ⟨list, by simp only [start, refused]; rfl⟩

/-! ### Carriage returns -/

lemma digitChar_ne_return (n : Nat) : '\r' ≠ Nat.digitChar (n % 16) := by
  intro eq
  have digit := hexValue?_digitChar (Nat.mod_lt n (by decide : 0 < 16))
  rw [← eq] at digit
  cases digit

lemma return_not_mem_unitEscape (n : Nat) : '\r' ∉ unitEscape n := by
  rw [unitEscape, hexDigits_four]
  simp

lemma return_not_mem_writeChar (ascii : Bool) (c : Char) : '\r' ∉ writeChar ascii c := by
  have written := written_writeChar ascii c
  revert written
  generalize writeChar ascii c = cs
  rintro (⟨-, stands⟩ | _ | _ | ⟨-, -, shown⟩)
  · rw [mem_cons, mem_singleton, not_or]
    refine ⟨by decide, ?_⟩
    rintro rfl
    cases stands
  · exact return_not_mem_unitEscape _
  · simp [return_not_mem_unitEscape]
  · rw [mem_singleton]
    rintro rfl
    exact absurd shown (by decide)

lemma return_not_mem_writeString (ascii : Bool) (cs : List Char) : '\r' ∉ writeString ascii cs := by
  simp [writeString, return_not_mem_writeChar]

lemma return_not_mem_newline (level : Nat) : '\r' ∉ l.newline level := by
  cases indent : l.indent <;> simp [Layout.newline, indent]

lemma return_not_mem_gap (level : Nat) : '\r' ∉ l.gap level := by
  cases indent : l.indent <;> simp [Layout.gap, indent, return_not_mem_newline]

/-- Whatever the level, no carriage return is written for a value. -/
def NoReturn (l : Layout) (v : Value) : Prop :=
  ∀ {level : Nat} {cs : List Char}, writeAt l level v = .ok cs → '\r' ∉ cs

lemma return_not_mem_writeItems (each : ∀ x ∈ xs, NoReturn l x) (written : writeItems l level xs = .ok cs) :
    '\r' ∉ cs := by
  induction xs generalizing cs with
  | nil =>
    obtain rfl := Except.ok.inj written
    simp
  | cons x xs ih =>
    cases xs with
    | nil => exact each x mem_cons_self written
    | cons y ys =>
      obtain ⟨head, others, here, later, rfl⟩ := writeItems_cons_cons_eq_ok written
      have first := each x mem_cons_self here
      have rest := ih (fun z hz => each z (mem_cons_of_mem x hz)) later
      simp [first, rest, return_not_mem_gap]

lemma return_not_mem_writeFields (each : ∀ f ∈ fs, NoReturn l f.2) (written : writeFields l level fs = .ok cs) :
    '\r' ∉ cs := by
  induction fs generalizing cs with
  | nil =>
    obtain rfl := Except.ok.inj written
    simp
  | cons f fs ih =>
    cases fs with
    | nil =>
      obtain ⟨value, here, rfl⟩ := writeFields_singleton_eq_ok written
      have only := each f mem_cons_self here
      simp [only, return_not_mem_writeString]
    | cons g gs =>
      obtain ⟨value, others, here, later, rfl⟩ := writeFields_cons_cons_eq_ok written
      have first := each f mem_cons_self here
      have rest := ih (fun e he => each e (mem_cons_of_mem f he)) later
      simp [first, rest, return_not_mem_writeString, return_not_mem_gap]

lemma WrittenPlain.return_not_mem {ascii : Bool} (h : WrittenPlain ascii v cs) : '\r' ∉ cs := by
  cases h with
  | @int n short =>
    have digits : '\r' ∉ Number.digits n.natAbs := fun mem =>
      absurd (isDigit_of_mem_digits mem) (by decide)
    rw [Number.ofInt]
    split_ifs
    · simp [digits]
    · exact digits
  | text s => exact return_not_mem_writeString ascii s.toList
  | _ => decide

lemma return_not_mem_writeAt (strict : l.other = refuse) (noFloat : v.FloatFree) : NoReturn l v := by
  induction noFloat with
  | list here items ih =>
    intro level cs written
    obtain ⟨inside, rfl, ⟨-, rfl⟩ | ⟨y, ys, items, rfl, inner, rfl⟩⟩ := writeAt_list_eq_ok written
    · decide
    · have inner := return_not_mem_writeItems ih inner
      simp [inner, return_not_mem_newline]
  | map here fields ih =>
    intro level cs written
    obtain ⟨inside, rfl, ⟨-, rfl⟩ | ⟨g, gs, fields, rfl, inner, rfl⟩⟩ := writeAt_map_eq_ok written
    · decide
    · have inner := return_not_mem_writeFields ih inner
      simp [inner, return_not_mem_newline]
  | plain here plain =>
    exact fun written => (writtenPlain_of_writeAt plain here strict written).return_not_mem

end Unbundle.Json

namespace Unbundle.Value

lemma parsed_of_toJson {v json : Value} (noFloat : v.FloatFree) (distinct : v.DistinctFields)
    (shallow : v.depth ≤ Json.maxNesting) (written : v.toJson = .ok json) : json.parsed = .ok v := by
  rw [toJson, Json.write] at written
  cases chars : Json.writeAt .compact 0 v with
  | error e =>
    rw [chars] at written
    cases written
  | ok cs =>
    rw [chars] at written
    obtain rfl := Except.ok.inj written
    rw [parsed, String.toList_ofList, (Json.read_writeAt rfl noFloat distinct chars).1 shallow]
    rfl

/-- The stored form of a value is read back from its JSON text. -/
lemma DistinctFields.parsed_of_storable {v w json : Value} (distinct : v.DistinctFields)
    (shallow : v.depth ≤ Json.maxNesting) (stored : v.storable = .ok w) (written : w.toJson = .ok json) :
    json.parsed = .ok w := by
  have noFloat : w.FloatFree := by
    refine isConversion_storable.every (by simp) (by simp) (fun {v w} _ isPlain stored => ?_) distinct stored
    cases v with
    | list _ | map _ => simp [IsPlain] at isPlain
    | float x =>
      obtain ⟨d, -, ⟨⟩⟩ := bind_eq_ok_iff.1 stored
      simp
    | _ =>
      cases stored
      simp
  have unique : w.DistinctFields := by
    refine isConversion_storable.every (by simp) (fun {fs gs} here same _ isMap => ?_) (fun _ isPlain stored fs isMap => ?_)
      distinct stored
    · cases isMap
      exact same ▸ here fs rfl
    · exact absurd isMap ((isConversion_storable.plain isPlain stored).2 fs)
  exact parsed_of_toJson noFloat unique (isConversion_storable.depth_eq distinct stored ▸ shallow) written

end Unbundle.Value
