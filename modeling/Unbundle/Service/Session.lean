import Unbundle.Service.Flow

/-!
# Sessions

A session answers flows from a script: each kind of call has a list of replies that are used up in
order, and a call without a reply left gets an empty map. Identifiers and tokens are numbered. What a
flow did is kept in a trace.
-/

namespace Unbundle.Service

/-- What is left of the script, and what was handed out so far. -/
structure Session where
  replies : List (String × List (Except Fault Value))
  identifiers : Nat
  tokens : Nat
  marks : List String

structure Trace where
  calls : List Call
  log : List (Level × String)
  printed : String

def Trace.empty : Trace := ⟨[], [], ""⟩

namespace Session

def take (name : String) :
    List (String × List (Except Fault Value)) →
      Except Fault Value × List (String × List (Except Fault Value))
  | [] => (.ok (.map []), [])
  | (n, rs) :: rest =>
    if n = name then
      match rs with
      | [] => (.ok (.map []), (n, []) :: rest)
      | r :: rs => (r, (n, rs) :: rest)
    else
      let (r, rest) := take name rest
      (r, (n, rs) :: rest)

/-- The identifier with a number: thirty-two hexadecimal digits in five groups. -/
def identifierText (k : Nat) : String :=
  let ds := Text.hexDigits 32 k
  let cut (i n : Nat) : List Char := (ds.drop i).take n
  String.ofList (Text.join ['-'] [cut 0 8, cut 8 4, cut 12 4, cut 16 4, cut 20 12])

def tokenText (bytes k : Nat) : String := s!"token{bytes}-{k}"

end Session

def Trace.add (t : Trace) : Note → Trace
  | .printed line => { t with printed := t.printed ++ line ++ "\n" }
  | .logged level message => { t with log := t.log ++ [(level, message)] }

def Flow.run : Flow α → Session → Trace → Except Fault α × Session × Trace
  | .done a, s, t => (.ok a, s, t)
  | .fail e, s, t => (.error e, s, t)
  | .call c next, s, t =>
    let (r, replies) := Session.take c.name s.replies
    (next r).run { s with replies } { t with calls := t.calls ++ [c] }
  | .note n next, s, t => next.run s (t.add n)
  | .fresh .identifier next, s, t =>
    (next (Session.identifierText (s.identifiers + 1))).run
      { s with identifiers := s.identifiers + 1 } t
  | .fresh (.token bytes) next, s, t =>
    (next (Session.tokenText bytes (s.tokens + 1))).run { s with tokens := s.tokens + 1 } t
  | .once mark next, s, t =>
    if mark ∈ s.marks then (next false).run s t
    else (next true).run { s with marks := mark :: s.marks } t

end Unbundle.Service
