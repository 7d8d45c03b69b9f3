/-! # Runs of characters

A property of characters is written down in runs: the first and the last
character of each, and the value that the property has between them.
-/

namespace Microversion.Domain

/-- The character stands in one of the runs. -/
def inRuns (runs : List (Nat × Nat)) (c : Char) : Bool :=
  runs.any fun (first, last) => first ≤ c.toNat && c.toNat ≤ last

/-- The value of the run in which the character stands. -/
def runValue? {α : Type} (runs : List (Nat × Nat × α)) (c : Char) : Option α :=
  (runs.find? fun (first, last, _) => first ≤ c.toNat && c.toNat ≤ last).map (·.2.2)

end Microversion.Domain
