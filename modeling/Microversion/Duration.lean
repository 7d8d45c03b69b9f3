import Microversion.Json.Record
import Microversion.Json.Printer

/-! # Durations

A duration is a number of nanoseconds. In JSON it is a record of whole seconds
and of nanoseconds, which may carry into the seconds.
-/

namespace Microversion

structure Duration where
  nanoseconds : Nat
deriving DecidableEq, Repr, Inhabited

namespace Duration

def zero : Duration := ⟨0⟩

def ofSeconds (n : Nat) : Duration := ⟨n * 1000000000⟩

def ofMilliseconds (n : Nat) : Duration := ⟨n * 1000000⟩

/-- Whole seconds. -/
def seconds (d : Duration) : Nat := d.nanoseconds / 1000000000

/-- Nanoseconds beyond the whole seconds. -/
def subseconds (d : Duration) : Nat := d.nanoseconds % 1000000000

/-- Whole milliseconds. -/
def milliseconds (d : Duration) : Nat := d.nanoseconds / 1000000

instance : Add Duration := ⟨fun a b => ⟨a.nanoseconds + b.nanoseconds⟩⟩

instance : LE Duration := ⟨fun a b => a.nanoseconds ≤ b.nanoseconds⟩

instance (a b : Duration) : Decidable (a ≤ b) :=
  inferInstanceAs (Decidable (a.nanoseconds ≤ b.nanoseconds))

/-- The longest that one pause lasts: thirty years of 365 days. -/
def longestPause : Duration := .ofSeconds 946080000

/-- The time that passes in a pause of the given length. -/
def elapsed (d : Duration) : Duration := if d ≤ longestPause then d else longestPause

/-- The time that passes in pauses one after the other. -/
def elapsedAll (ds : List Duration) : Duration := ds.foldl (fun t d => t + d.elapsed) .zero

/-- The duration of a record; its seconds fit in 64 bits after the carry. -/
def ofTree? (t : Json.Tree) : Option Duration :=
  match t.record? .refused ["secs", "nanos"] with
  | some [some secs, some nanos] =>
    match secs.natBelow? UInt64.size, nanos.natBelow? UInt32.size with
    | some secs, some nanos =>
      let d : Duration := ⟨secs * 1000000000 + nanos⟩
      if d.seconds < UInt64.size then some d else none
    | _, _ => none
  | _ => none

def toJson (d : Duration) : Json.Value :=
  .object [("secs", .ofNat d.seconds), ("nanos", .ofNat d.subseconds)]

end Duration

end Microversion
