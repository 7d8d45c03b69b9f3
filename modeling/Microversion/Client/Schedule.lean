import Microversion.Client.Task

/-! # Calls side by side

Any number of calls may be in progress on one client. A schedule is a sequence
of events, each of which starts a call or gives one call what it waits for; the
lock goes to one call at a time. What the calls did is kept in a log.
-/

namespace Microversion.Client

/-- A client at work: what it speaks, the calls in progress, and what each of them did. -/
structure System where
  negotiator : Negotiator
  tasks : List Task
  log : List (Nat × Effect)

/-- What happens next, and the token that the session has then. -/
inductive Event where
  /-- A call starts. -/
  | call (token : Option String) (job : Job)
  /-- What the call with the given number waits for has come. -/
  | signal (token : Option String) (number : Nat) (signal : Signal)

namespace System

/-- A client with no call in progress. -/
def idle (n : Negotiator) : System := ⟨n, [], []⟩

/-- No call holds the lock. -/
def isFree (s : System) : Bool := !s.tasks.any Task.holdsLock

/-- A signal can come now: the lock does so only while it is free. -/
def admits (s : System) : Signal → Bool
  | .lock => s.isFree
  | _ => true

/-- What a call has come to takes effect. -/
def settle (s : System) (number : Nat) (tasks : List Task) (p : Progress) : System :=
  ⟨p.negotiator, tasks, s.log ++ p.effects.map (number, ·)⟩

/-- The client after an event, `none` for an event that cannot come. -/
def step (c : Client) (s : System) : Event → Option System
  | .call token job =>
    let p := Task.start c token job s.negotiator
    some (s.settle s.tasks.length (s.tasks ++ [p.task]) p)
  | .signal token number signal =>
    if s.admits signal then
      ((s.tasks[number]?).bind fun t => t.step c token s.negotiator signal).map fun p =>
        s.settle number (s.tasks.set number p.task) p
    else none

/-- The client after all events of a schedule. -/
def run (c : Client) (s : System) : List Event → Option System
  | [] => some s
  | e :: es => (s.step c e).bind fun s => run c s es

end System

end Microversion.Client
