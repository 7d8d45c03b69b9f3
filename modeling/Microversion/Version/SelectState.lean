/-! # Where a version comes from -/

namespace Microversion

/-- Why a client speaks the version it holds. -/
inductive SelectState where
  /-- Given by the caller. -/
  | user
  /-- Agreed with a server. -/
  | negotiated
  /-- Remembered from an earlier client. -/
  | cached
  /-- Neither given nor remembered. -/
  | default
deriving DecidableEq, Repr

namespace SelectState

def text : SelectState → String
  | user => "user"
  | negotiated => "negotiated"
  | cached => "cached"
  | default => "default"

/-- The state of which `s` is exactly the text. -/
def ofText? (s : String) : Option SelectState :=
  [user, negotiated, cached, default].find? (·.text == s)

@[simp] theorem ofText?_text (s : SelectState) : ofText? s.text = some s := by
  cases s <;> decide

end SelectState

end Microversion
