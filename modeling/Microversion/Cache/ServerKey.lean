import Microversion.Url.Parser

/-! # Keys of servers -/

namespace Microversion

/-- The host and the port under which a server's version is remembered, as they are written. -/
structure ServerKey where
  host : Option String
  port : Option String
deriving DecidableEq, Repr

namespace ServerKey

/-- What stands for a part that is absent. -/
def absentPart : String := "none"

def text (k : ServerKey) : String :=
  k.host.getD absentPart ++ ":" ++ k.port.getD absentPart

/-- The host of a URL, and its port when one is written that is not the scheme's own. -/
def ofUrl (u : Url) : ServerKey :=
  ⟨u.hostText?, u.port?.map fun p => String.ofList (Text.decimal p)⟩

/-- The key of the server that a URL names. -/
def parse (s : String) : Except Url.ParseError ServerKey := (Url.parse s).map ofUrl

end ServerKey

end Microversion
