import Unbundle.Service.Operation

/-!
# Passages

A passage is the text of a document whose mood is to be told. The service that tells it takes a limited
number of bytes, so a longer passage is cut at its end, a hundred characters at a time.
-/

namespace Unbundle.Document

open Service

def byteLimit : Nat := 5000

def cutLength : Nat := 100

def fit (cs : List Char) : List Char :=
  if byteLimit < Text.byteLength cs then fit (cs.take (cs.length - cutLength)) else cs
termination_by cs.length
decreasing_by
  have : cs ≠ [] := by
    rintro rfl
    simp_all [Text.byteLength, Text.encode]
  have := List.length_pos_iff.2 this
  simp only [List.length_take, cutLength]
  omega

def charsOf (v : Value) : Except Fault (List Char) :=
  match v with
  | .text s => .ok s.toList
  | _ => .error (.noAttribute v.fullKind "encode")

def fromBase64 (v : Value) : Except Fault Value :=
  let bytes (cs : List Char) : Except Fault Value :=
    match Text.ofBase64 cs with
    | .ok bs => .ok (.bytes bs)
    | .error e => .error (.named "Error" e.message)
  match v with
  | .text s =>
    if s.toList.all fun c => c.toNat < 128 then bytes s.toList
    else .error (.refused "string argument should contain only ASCII characters")
  | .bytes bs => bytes (bs.map fun b => Char.ofNat b.toNat)
  | _ => .error (.mistyped
      s!"argument should be a bytes-like object or ASCII string, not '{v.kind}'")

structure Mood where
  sentiment : Value
  scores : Value

def Mood.ofPassage (cs : List Char) : Flow Mood := do
  let reply ← Flow.client "comprehend" "detect_sentiment"
    [("Text", .ofChars cs), ("LanguageCode", .text "en")]
  let sentiment ← reply.field "Sentiment"
  let scores ← reply.field "SentimentScore"
  return ⟨sentiment, scores⟩

def scoreText (scores : Value) (name : String) : Except Fault Value := do
  return .text (← scores.getD name (.float 0.0)).str

def scoreTexts (scores : Value) : Except Fault Fields := do
  let positive ← scoreText scores "Positive"
  let negative ← scoreText scores "Negative"
  let neutral ← scoreText scores "Neutral"
  let mixed ← scoreText scores "Mixed"
  return [("positive", positive), ("negative", negative), ("neutral", neutral), ("mixed", mixed)]

def toPage (document : Value) : Flow Value :=
  Flow.invoke (.client "markdown" "markdown" [document] [])

def handler (handle : Setting → Value → Flow Value) : Handler :=
  ⟨loadNothing, fun s event _ => handle s event⟩

def convertingHandler (handle : Setting → Value → Flow Value) : Handler :=
  ⟨loadLibrary "markdown", fun s event _ => handle s event⟩

end Unbundle.Document
