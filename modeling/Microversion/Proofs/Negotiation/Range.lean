import Microversion.Negotiation.Inquiry

/-! # The range from which a negotiation settles

A negotiation reads one range: that of the refusal, or the first complete one
that the server answers with. It settles from that range and from nothing else.
-/

namespace Microversion

open Http

/-- The range in a response as the server writes it, or another one if it is not complete. -/
def Advertised.orElse (r : Response) (other : Except Error (String × String)) :
    Except Error (String × String) :=
  match (ofResponse r).both? with
  | some ends => .ok ends
  | none => other

namespace Negotiator

/-- The range in an answer, or another one if it is not complete. -/
def answered (answer : Except Error Response) (other : Except Error (String × String)) :
    Except Error (String × String) :=
  answer.bind fun r => Advertised.orElse r other

/-- The server is not asked for its range any more. -/
def noRange : Except Error (String × String) := .error (.unsupportedVersion .noRange)

/-- The range that a negotiation reads, as the server writes it. -/
def rangeText (refusal : Option Response) (answers : Nat → Except Error Response) :
    Except Error (String × String) :=
  match refusal with
  | some r => Advertised.orElse r (answered (answers 0) noRange)
  | none => answered (answers 0) (answered (answers 1) noRange)

/-- The two ends of a range as versions. -/
def parseRange (ends : String × String) : Except Error (Version × Version) :=
  (Version.parse ends.1).bind fun min => (Version.parse ends.2).map fun max => (min, max)

/-- The range that a negotiation reads. -/
def readRange (refusal : Option Response) (answers : Nat → Except Error Response) :
    Except Error (Version × Version) :=
  (rangeText refusal answers).bind parseRange

variable {n : Negotiator} {sent : Option String} {answers : Nat → Except Error Response}

theorem settleText_eq (n : Negotiator) (sent : Option String) (ends : String × String) :
    n.settleText sent ends.1 ends.2 =
      (parseRange ends).bind fun range => n.settle sent range.1 range.2 := by
  unfold settleText parseRange
  cases Version.parse ends.1 with
  | error e => rfl
  | ok min => cases Version.parse ends.2 <;> rfl

/-- Inquiries end with what is settled from a range. -/
def Settles (n : Negotiator) (sent : Option String) (answers : Nat → Except Error Response)
    (asked : Nat) (p : Inquiry.Progress) (range : Except Error (String × String)) : Prop :=
  (Inquiry.finish answers asked p).1 =
    range.bind fun ends => n.settleText sent ends.1 ends.2

theorem settles_error (asked : Nat) (e : Error) :
    Settles n sent answers asked (.settled (.error e)) (.error e) := by
  rw [Settles, Inquiry.finish]
  rfl

theorem settles_take {asked : Nat} {p : Inquiry.Progress}
    {range : Except Error (String × String)} (h : Settles n sent answers asked p range)
    (r : Response) : Settles n sent answers asked (Inquiry.take n sent (.ofResponse r) p)
      (Advertised.orElse r range) := by
  unfold Inquiry.take Advertised.orElse
  cases (Advertised.ofResponse r).both? with
  | none => exact h
  | some ends =>
    rw [Settles, Inquiry.finish]
    rfl

theorem settles_asking {asked : Nat} {q : Inquiry} {range : Except Error (String × String)}
    (h : Settles n sent answers (asked + 1) (q.resume (answers asked)) range) :
    Settles n sent answers asked (.asking q) range := by
  rw [Settles, Inquiry.finish]
  exact h

theorem settles_last (asked : Nat) : Settles n sent answers asked (.asking ⟨n, sent, true⟩)
    (answered (answers asked) noRange) := by
  refine settles_asking ?_
  cases answers asked with
  | error e => exact settles_error _ e
  | ok r => exact settles_take (settles_error _ _) r

theorem settles_first (asked : Nat) : Settles n sent answers asked (.asking ⟨n, sent, false⟩)
    (answered (answers asked) (answered (answers (asked + 1)) noRange)) := by
  refine settles_asking ?_
  cases answers asked with
  | error e => exact settles_error _ e
  | ok r => exact settles_take (settles_last _) r

theorem settles_start (refusal : Option Response) :
    Settles n sent answers 0 (Inquiry.start n sent refusal) (rangeText refusal answers) := by
  cases refusal with
  | none => exact settles_first 0
  | some r => exact settles_take (settles_last 0) r

/-- A negotiation settles from the range that it reads. -/
theorem result_negotiate (n : Negotiator) (refusal : Option Response) (sent : Option String)
    (answers : Nat → Except Error Response) :
    (n.negotiate refusal sent answers).result =
      (readRange refusal answers).bind fun range => n.settle sent range.1 range.2 := by
  have ht : (n.negotiate refusal sent answers).result =
      (rangeText refusal answers).bind fun ends => n.settleText sent ends.1 ends.2 :=
    settles_start refusal
  rw [ht, readRange]
  cases rangeText refusal answers with
  | error e => rfl
  | ok ends => exact settleText_eq n sent ends

end Negotiator

end Microversion
