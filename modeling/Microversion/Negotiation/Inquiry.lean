import Microversion.Negotiation.Basic

/-! # Inquiries

A negotiation takes the range from the response that refused a request, or asks
the server for it. When the range is missing the server is asked, and in all it
is asked twice at most. An inquiry is a negotiation between two answers.
-/

namespace Microversion

/-- A negotiation that waits for the server: how it began, and whether this is the last time that
the server is asked. -/
structure Inquiry where
  negotiator : Negotiator
  sent : Option String
  isLast : Bool
deriving DecidableEq, Repr

namespace Inquiry

/-- How far a negotiation has come. -/
inductive Progress where
  | asking (inquiry : Inquiry)
  | settled (result : Except Error Version)

/-- The major number under which the server is asked. -/
def major (q : Inquiry) : UInt32 := q.negotiator.requested.major

/-- Use a range, or ask the server when a part of it is missing. -/
def take (n : Negotiator) (sent : Option String) (range : Advertised) (otherwise : Progress) :
    Progress :=
  match range.both? with
  | some (min, max) => .settled (n.settleText sent min max)
  | none => otherwise

/-- Begin with the response that refused a request, if there is one. -/
def start (n : Negotiator) (sent : Option String) (refusal : Option Http.Response) : Progress :=
  match refusal with
  | none => .asking ⟨n, sent, false⟩
  | some r => take n sent (.ofResponse r) (.asking ⟨n, sent, true⟩)

/-- Go on with what the server answers. -/
def resume (q : Inquiry) : Except Error Http.Response → Progress
  | .error e => .settled (.error e)
  | .ok r =>
    take q.negotiator q.sent (.ofResponse r) <|
      if q.isLast then .settled (.error (.unsupportedVersion .noRange))
      else .asking { q with isLast := true }

/-- The answers that are still to come at most. -/
def Progress.left : Progress → Nat
  | .settled _ => 0
  | .asking q => if q.isLast then 1 else 2

theorem left_resume_lt (q : Inquiry) (answer : Except Error Http.Response) :
    (q.resume answer).left < (Progress.asking q).left := by
  cases answer with
  | error e =>
    simp only [resume, Progress.left]
    split <;> decide
  | ok r =>
    simp only [resume, take]
    split
    · simp only [Progress.left]
      split <;> decide
    · cases hl : q.isLast <;> simp [Progress.left, hl]

/-- Go on with the answers that `answers` gives, the next of which has the number `asked`. The
result comes with the number of answers used. -/
def finish (answers : Nat → Except Error Http.Response) (asked : Nat) (p : Progress) :
    Except Error Version × Nat :=
  match p with
  | .settled result => (result, asked)
  | .asking q => finish answers (asked + 1) (q.resume (answers asked))
  termination_by p.left
  decreasing_by exact left_resume_lt q _

end Inquiry

namespace Negotiator

/-- A negotiation: its result, the number of times the server was asked, and what is spoken
afterwards. -/
structure Outcome where
  result : Except Error Version
  asked : Nat
  negotiator : Negotiator

/-- What is spoken after a negotiation. -/
def afterResult (n : Negotiator) : Except Error Version → Negotiator
  | .ok v => agreed v
  | .error _ => n

/-- Negotiate, taking what the server says from `answers`. -/
def negotiate (n : Negotiator) (refusal : Option Http.Response) (sent : Option String)
    (answers : Nat → Except Error Http.Response) : Outcome :=
  let (result, asked) := Inquiry.finish answers 0 (Inquiry.start n sent refusal)
  ⟨result, asked, n.afterResult result⟩

end Negotiator

end Microversion
