import Microversion.Client.Basic
import Microversion.Url.Parser

/-! # Calls in progress

A call on a client is a task that waits for one thing at a time: the lock under
which versions are negotiated, an answer of the session, or the end of a pause.
`start` and `step` say what happens between two such waits. They see the
negotiator, which all tasks of the client share, and may change it.
-/

namespace Microversion.Client

open Http

/-- A request to be sent for a caller. -/
structure Order where
  method : String
  target : String
  headers : Headers
  body : Option Bytes
deriving DecidableEq, Repr

/-- The caller speaks a version of its own. -/
def Order.hasOwnVersion (o : Order) : Bool := o.headers.contains versionHeader

/-- What a task is for: an exchange, or agreeing on a version ahead of one. -/
inductive Job where
  | send (order : Order)
  | agree
deriving DecidableEq, Repr

/-- What a task achieves. -/
inductive Reply where
  | response (r : Response)
  | version (text : String)
deriving DecidableEq, Repr

/-- The exchange of an attempt: what is sent, and how many redirects were followed. -/
structure Exchange where
  headers : Headers
  target : String
  redirects : Nat
deriving DecidableEq, Repr

/-- The redirects that are followed in one attempt. -/
def maxRedirects : Nat := 10

/-- Why a task negotiates. -/
inductive Purpose where
  /-- To send a first request. -/
  | beforeRequest
  /-- To send a request again that was refused for its version. -/
  | afterRefusal (exchange : Exchange) (refusal : Response)
  /-- To tell the version. -/
  | onDemand
deriving DecidableEq, Repr

/-- What a task waits for. -/
inductive Phase where
  /-- The lock. -/
  | locking (purpose : Purpose)
  /-- The range of the server, while the task holds the lock. -/
  | asking (purpose : Purpose) (inquiry : Inquiry)
  /-- The response to a request. -/
  | exchanging (exchange : Exchange)
  /-- The end of the pause between two attempts. -/
  | pausing
  | finished (result : Except Error Reply)

/-- A call in progress, with the number of its attempt. -/
structure Task where
  job : Job
  attempt : UInt32
  phase : Phase

/-- What a task does to the world. -/
inductive Effect where
  /-- Ask the server for its range. -/
  | discover (request : Request)
  /-- Send a request of the caller. -/
  | send (request : Request)
  /-- Remember a version that was agreed on. -/
  | remember (version : Version)
  | pause (d : Duration)
deriving DecidableEq, Repr

/-- What a task waits for has come. -/
inductive Signal where
  | lock
  | answer (answer : Except Error Response)
  | wake

/-- A task up to its next wait, with the negotiator and the effects on the way. -/
structure Progress where
  task : Task
  negotiator : Negotiator
  effects : List Effect

namespace Progress

/-- Put an effect before all others. -/
def after (effect : Effect) (p : Progress) : Progress := { p with effects := effect :: p.effects }

end Progress

/-- The place of a redirect, seen from the target that it redirects. -/
def redirectTarget (c : Client) (target location : String) : Except Error String :=
  match (Url.parse target).orElseLazy fun _ => Url.parse (Endpoint.join c.endpoint target) with
  | .error e => .error (.invalidUrl e)
  | .ok base =>
    match Url.join base location with
    | .error e => .error (.invalidUrl e)
    | .ok u => .ok u.text

/-- The statuses of redirects that are followed. -/
def isRedirect (status : Nat) : Bool := status == 301 || status == 302 || status == 305

/-- The statuses that are failures: errors, a choice, and a redirect that is not followed. -/
def isFailure (status : Nat) : Bool := 400 ≤ status || status == 300 || isRedirect status

namespace Task

variable (c : Client) (token : Option String)

/-- End an attempt of a task: the task is finished, or pauses before the next attempt. -/
def endAttempt (t : Task) (n : Negotiator) (result : Except Error Reply) : Progress :=
  match t.job with
  | .agree => ⟨{ t with phase := .finished result }, n, []⟩
  | .send _ =>
    match c.budget.verdict t.attempt (.ofResult result) with
    | .finish result => ⟨{ t with phase := .finished result }, n, []⟩
    | .again => ⟨{ t with phase := .pausing }, n, [.pause c.budget.pause]⟩

/-- The request of an exchange. -/
def request (o : Order) (x : Exchange) : Request :=
  ⟨o.method, x.target, x.headers, o.body, c.filter, some c.endpoint⟩

/-- Send the request of an exchange. -/
def exchange (t : Task) (n : Negotiator) (o : Order) (x : Exchange) : Progress :=
  ⟨{ t with phase := .exchanging x }, n, [.send (request c o x)]⟩

/-- Send the first request of an attempt. -/
def firstExchange (t : Task) (n : Negotiator) (o : Order) : Progress :=
  match c.requestHeaders token n o.headers with
  | .error e => t.endAttempt c n (.error e)
  | .ok headers => t.exchange c n o ⟨headers, o.target, 0⟩

/-- Send a refused request again under another version. -/
def resend (t : Task) (n : Negotiator) (o : Order) (x : Exchange) (version : String) : Progress :=
  t.exchange c n o { x with headers := x.headers.insert versionHeader (plainValue version) }

/-- Begin an attempt. -/
def beginAttempt (t : Task) (n : Negotiator) : Progress :=
  match t.job with
  | .agree => ⟨{ t with phase := .locking .onDemand }, n, []⟩
  | .send o =>
    if n.mustNegotiate then ⟨{ t with phase := .locking .beforeRequest }, n, []⟩
    else t.firstExchange c token n o

/-- Go on with a version: the lock is free again. -/
def withVersion (t : Task) (n : Negotiator) (purpose : Purpose) (version : String) : Progress :=
  match t.job, purpose with
  | .send o, .afterRefusal x _ => t.resend c n o x version
  | .send o, _ => t.firstExchange c token n o
  | .agree, _ => t.endAttempt c n (.ok (.version version))

/-- Go on with a negotiation. A request for the range that cannot be made fails like one that is
not answered. -/
def negotiate (t : Task) (n : Negotiator) (purpose : Purpose) : Inquiry.Progress → Progress
  | .settled (.error e) => t.endAttempt c n (.error e)
  | .settled (.ok v) =>
    (t.withVersion c token (.agreed v) purpose v.text).after (.remember v)
  | .asking q =>
    match c.discoveryRequest token q.major with
    | .error e => t.endAttempt c n (.error e)
    | .ok r => ⟨{ t with phase := .asking purpose q }, n, [.discover r]⟩

/-- The version that a refused request carried. -/
def sentVersion (x : Exchange) : Option String :=
  (x.headers.get? versionHeader).bind HeaderValue.text?

/-- The version agreed on while a request that was then refused was on its way under another one. -/
def newerVersion? (t : Task) (n : Negotiator) (x : Exchange) : Option String :=
  match t.job with
  | .agree => none
  | .send o =>
    if n.isNegotiated ∧ !o.hasOwnVersion ∧ sentVersion x ≠ n.headerText? then n.headerText?
    else none

/-- The lock is held: negotiate, unless another task has made that needless. -/
def locked (t : Task) (n : Negotiator) : Purpose → Progress
  | .beforeRequest =>
    if n.mustNegotiate then t.negotiate c token n .beforeRequest (Inquiry.start n none none)
    else t.withVersion c token n .beforeRequest n.currentText
  | .onDemand =>
    if n.isPinnedByUser ∨ n.isNegotiated then t.withVersion c token n .onDemand n.currentText
    else t.negotiate c token n .onDemand (Inquiry.start n none none)
  | .afterRefusal x r =>
    match t.newerVersion? n x with
    | some version => t.withVersion c token n (.afterRefusal x r) version
    | none =>
      t.negotiate c token n (.afterRefusal x r) (Inquiry.start n (sentVersion x) (some r))

/-- Follow a redirect. -/
def redirect (t : Task) (n : Negotiator) (o : Order) (x : Exchange) (r : Response) : Progress :=
  match r.header? "location" with
  | none =>
    let fault := Fault.ofResponse r o.method x.target
    t.endAttempt c n (.error (.http (fault.withMessage "Redirect without a Location header")))
  | some location =>
    match c.redirectTarget x.target location with
    | .error e => t.endAttempt c n (.error e)
    | .ok target => t.exchange c n o { x with target, redirects := x.redirects + 1 }

/-- Go on with the response to a request. -/
def received (t : Task) (n : Negotiator) (o : Order) (x : Exchange) (r : Response) : Progress :=
  if r.status = 406 then ⟨{ t with phase := .locking (.afterRefusal x r) }, n, []⟩
  else if isRedirect r.status ∧ x.redirects < maxRedirects then t.redirect c n o x r
  else if isFailure r.status then
    t.endAttempt c n (.error (.http (.ofResponse r o.method x.target)))
  else t.endAttempt c n (.ok (.response r))

/-- Start a call. -/
def start (job : Job) (n : Negotiator) : Progress :=
  beginAttempt c token ⟨job, 1, .pausing⟩ n

/-- Go on when what the task waits for has come; nothing else moves it. -/
def step (t : Task) (n : Negotiator) (signal : Signal) : Option Progress :=
  match t.phase, signal, t.job with
  | .locking purpose, .lock, _ => some (t.locked c token n purpose)
  | .asking purpose q, .answer answer, _ =>
    some (t.negotiate c token n purpose (q.resume (checkDiscovery q.major answer)))
  | .exchanging _, .answer (.error e), _ => some (t.endAttempt c n (.error e))
  | .exchanging x, .answer (.ok r), .send o => some (t.received c n o x r)
  | .pausing, .wake, _ =>
    some (beginAttempt c token { t with attempt := t.attempt + 1 } n)
  | _, _, _ => none

/-- The task holds the lock while it waits. -/
def holdsLock (t : Task) : Bool :=
  match t.phase with
  | .asking _ _ => true
  | _ => false

/-- The result, once there is one. -/
def result? (t : Task) : Option (Except Error Reply) :=
  match t.phase with
  | .finished result => some result
  | _ => none

end Task

end Microversion.Client
