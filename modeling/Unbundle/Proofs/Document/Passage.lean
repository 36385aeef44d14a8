import Unbundle.Document.Logged
import Unbundle.Document.Routed
import Unbundle.Proofs.Service.Runs

/-!
# Passages within the limit

A passage is cut until the service takes it, and both deployments send it so.
-/

open List Unbundle.Text

namespace Unbundle

lemma Text.byteLength_append (cs ds : List Char) : byteLength (cs ++ ds) = byteLength cs + byteLength ds := by
  simp [byteLength, encode]

lemma Text.byteLength_le (cs : List Char) : byteLength cs ≤ 4 * cs.length := by
  induction cs with
  | nil => simp [byteLength, encode]
  | cons c cs ih =>
    have one : byteLength [c] ≤ 4 := by
      rw [byteLength, encode, flatMap_singleton, encodeChar]
      split_ifs <;> simp
    have split := byteLength_append [c] cs
    rw [singleton_append] at split
    rw [length_cons]
    omega

namespace Document

open Service

/-- What is left of a text that is cut to 5000 bytes by hundreds of characters. -/
structure IsCut (cs left : List Char) : Prop where
  leads : left <+: cs
  fits : byteLength left ≤ 5000
  whole : byteLength cs ≤ 5000 → left = cs
  long : 5000 < byteLength cs → 4600 < byteLength left ∧
    ∃ cuts, 0 < cuts ∧ cs.length = left.length + 100 * cuts

lemma isCut_fit (cs : List Char) : IsCut cs (fit cs) := by
  fun_induction fit cs with
  | case2 cs short => exact ⟨prefix_rfl, Nat.le_of_not_lt short, fun _ => rfl, fun long => absurd long short⟩
  | case1 cs long ih =>
    rw [byteLimit, cutLength] at *
    -- a text that is too long has more than a hundred characters, and they are four hundred bytes at most
    have parts := byteLength_append (cs.take (cs.length - 100)) (cs.drop (cs.length - 100))
    rw [take_append_drop] at parts
    have taken := byteLength_le (cs.drop (cs.length - 100))
    have many := byteLength_le cs
    rw [length_drop] at taken
    have length : (cs.take (cs.length - 100)).length = cs.length - 100 := by simp
    refine ⟨ih.leads.trans ( take_prefix ..), ih.fits, fun short => absurd short (Nat.not_le_of_lt long), fun _ => ?_⟩
    by_cases more : 5000 < byteLength (cs.take (cs.length - 100))
    · obtain ⟨bytes, cuts, -, same⟩ := ih.long more
      exact ⟨bytes, cuts + 1, by omega, by omega⟩
    · rw [ih.whole (Nat.le_of_not_lt more)]
      exact ⟨by omega, 1, by omega, by omega⟩

/-- All that is asked for is the mood of what is left of a text. -/
def AsksOnce (cs : List Char) (record : List Exchange) : Prop :=
  ∃ left reply, IsCut cs left ∧ record = [.called (.client "comprehend" "detect_sentiment" []
    [("Text", .ofChars left), ("LanguageCode", .text "en")]) reply]

def Analyzes (flow : Flow Value) (text : String) : Prop :=
  flow.Ensures Recorded [] (fun _ => AsksOnce text.toList) fun _ => AsksOnce text.toList

section

variable {event name : Value} {text : String} {cs : List Char}

lemma AsksOnce.silent {flow : Flow Value} {record : List Exchange} (asked : AsksOnce cs record)
    (silent : flow.Within fun _ => False) :
    flow.Ensures Recorded record (fun _ => AsksOnce cs) fun _ => AsksOnce cs :=
  silent.ensures (fun never => never.elim) asked

lemma ensures_passage {k : Mood → Flow Value} (silent : ∀ mood, (k mood).Within fun _ => False) :
    (Mood.ofPassage (fit cs) >>= k).Ensures Recorded [] (fun _ => AsksOnce cs) fun _ => AsksOnce cs := by
  have once reply record (asked : Recorded [] (.called (.client "comprehend"
      "detect_sentiment" [] [("Text", .ofChars (fit cs)), ("LanguageCode", .text "en")]) reply) record) :
      AsksOnce cs record := ⟨_, reply, isCut_fit cs, asked⟩
  have told : (Mood.ofPassage (fit cs)).Ensures Recorded [] (fun _ => AsksOnce cs) fun _ => AsksOnce cs := by
    refine .bind (ensures_invoke (fun v => once (.ok v)) fun e => once (.error e)) fun _ _ asked => ?_
    exact ensures_lift_bind (fun _ _ => ensures_lift_bind (fun _ _ => ensures_done asked) fun _ _ => asked)
      fun _ _ => asked
  exact told.bind fun mood _ asked => asked.silent (silent mood)

lemma Logged.analyzes (has : event.holdsName "body" = .ok true) (named : nameOf event = .ok name)
    (given : decodedBody event = .ok (.text text)) : Analyzes (analyze event) text := by
  refine .attempt (ensures_note_bind (ensures_ok_bind has (ensures_ok_bind named (ensures_ok_bind given
    (ensures_ok_bind rfl ?_))))) (fun _ _ asked _ => asked)
    fun e record asked _ => ensures_note_bind (asked.silent (within_lift_bind fun json _ => trivial))
  generalize (if name.truthy then name else .text "unknown.txt") = shown
  split_ifs
  · refine ensures_note_bind (ensures_passage fun mood => ?_)
    exact within_lift_bind fun scores _ => within_lift_bind fun json _ => trivial
  · refine ensures_passage fun mood => ?_
    exact within_lift_bind fun scores _ => within_lift_bind fun json _ => trivial

lemma Routed.analyzes (given : passageOf event = .ok (.text text, name)) : Analyzes (analyze event) text :=
  .attempt (ensures_ok_bind given (ensures_ok_bind rfl
    (ensures_passage fun _ => within_lift_bind fun _ _ => trivial))) (fun _ _ asked _ => asked)
    fun _ _ asked _ => asked.silent (within_lift_bind fun _ _ => trivial)

end

/-- Both deployments ask exactly once for the mood of a text, however they are answered, and for that of its lead
that is left when it is cut to the limit. -/
theorem passages_are_cut_to_limit {event event' name name' : Value} {text : String}
    (has : event.holdsName "body" = .ok true) (named : Logged.nameOf event = .ok name)
    (given : Logged.decodedBody event = .ok (.text text)) (given' : Routed.passageOf event' = .ok (.text text, name')) :
    Analyzes (Logged.analyze event) text ∧ Analyzes (Routed.analyze event') text :=
  ⟨Logged.analyzes has named given, Routed.analyzes given'⟩

theorem passages_are_cut_to_limit_long : ∃ text : String, 5000 < byteLength text.toList ∧
    Analyzes (Logged.analyze (.map [("body", .text text)])) text ∧
    Analyzes (Routed.analyze (.map [("content", .text text)])) text := by
  refine ⟨String.ofList (List.replicate 5001 'a'), ?_, passages_are_cut_to_limit rfl rfl rfl rfl⟩
  have bytes (n : Nat) : byteLength (List.replicate n 'a') = n := by
    simp [byteLength, encode, encodeChar]
  rw [String.toList_ofList, bytes]
  decide

end Document

end Unbundle
