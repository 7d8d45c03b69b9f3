import Microversion.Text.Utf8

/-! # The environment of a process -/

namespace Microversion

/-- Values by the names of variables. -/
structure Environment where
  entries : List (String × Bytes)
deriving DecidableEq, Repr

namespace Environment

def empty : Environment := ⟨[]⟩

/-- The value of a variable; one that is not text counts as unset. -/
def text? (env : Environment) (name : String) : Option String :=
  (env.entries.lookup name).bind Utf8.decode?

/-- The value of a variable, unless it is empty. -/
def nonempty? (env : Environment) (name : String) : Option String :=
  (env.text? name).filter (· ≠ "")

/-- Give a variable a value. -/
def set (env : Environment) (name : String) (value : Bytes) : Environment :=
  ⟨(name, value) :: env.entries.filter (·.1 != name)⟩

end Environment

end Microversion
