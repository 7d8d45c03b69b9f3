import Microversion.Proofs.Client.Outgoing
import Microversion.Proofs.Client.World

/-! # What a negotiation leaves behind

A negotiation that fails leaves what is spoken and the files as they were; one that
succeeds settles the client, in any weather. The server is asked twice at most, and
not at all when a refusal tells the range. A task of the client asks and ends in just
this way.
-/

namespace Microversion

namespace Inquiry

/-- No more is asked than there are answers to come. -/
theorem finish_le (answers : ℕ → Except Error Http.Response) (asked : ℕ) (p : Progress) :
    (finish answers asked p).2 ≤ asked + p.left := by
  fun_induction finish answers asked p with
  | case1 asked result => exact Nat.le_add_right _ _
  | case2 asked q ih =>
    have hless := left_resume_lt q (answers asked)
    omega

theorem left_start_le (n : Negotiator) (sent : Option String) (refusal : Option Http.Response) :
    (start n sent refusal).left ≤ if refusal.isSome then 1 else 2 := by
  cases refusal with
  | none => exact Nat.le_refl 2
  | some r =>
    rcases take_cases n sent (.ofResponse r) (.asking ⟨n, sent, true⟩) with
      ⟨min, max, -, ht⟩ | ⟨-, ht⟩ <;> rw [start, ht]
    · exact Nat.zero_le 1
    · exact Nat.le_refl 1

/-- A refusal that tells the range is enough. -/
theorem start_of_range {r : Http.Response} {min max : String}
    (hmin : r.header? Advertised.minHeader = some min)
    (hmax : r.header? Advertised.maxHeader = some max) (n : Negotiator) (sent : Option String) :
    start n sent (some r) = .settled (n.settleText sent min max) := by
  simp only [start, take, Advertised.both?, Advertised.ofResponse, hmin, hmax]

end Inquiry

namespace Client

open Http Storage

/-- The files after a negotiation with the given result, in any weather. -/
def rememberResult (c : Client) (w : Weather) (fs : FileSystem) :
    Except Error Version → FileSystem
  | .ok v => c.rememberIn w v fs
  | .error _ => fs

/-- A negotiation among files. -/
def negotiateIn (c : Client) (w : Weather) (n : Negotiator) (refusal : Option Response)
    (sent : Option String) (answers : ℕ → Except Error Response) (fs : FileSystem) :
    Negotiator.Outcome × FileSystem :=
  let outcome := n.negotiate refusal sent answers
  (outcome, c.rememberResult w fs outcome.result)

/-- A negotiation changes nothing unless it succeeds, and asks no more than it must. -/
structure IsSparing (c : Client) (w : Weather) (n : Negotiator) (refusal : Option Response)
    (fs : FileSystem) (out : Negotiator.Outcome × FileSystem) : Prop where
  failed : ∀ e, out.1.result = .error e → out.1.negotiator = n ∧ out.2 = fs
  agreed : ∀ v, out.1.result = .ok v →
    out.1.negotiator = ⟨.pinned v, .negotiated⟩ ∧ out.2 = c.rememberIn w v fs
  told : ∀ r min max, refusal = some r → r.header? Advertised.minHeader = some min →
    r.header? Advertised.maxHeader = some max → out.1.asked = 0
  once : refusal.isSome → out.1.asked ≤ 1
  twice : out.1.asked ≤ 2

/-- What a question comes to; it fails like one without an answer if there is no request for it. -/
def inquire (c : Client) (major : UInt32) (token : Option String)
    (answer : Except Error Response) : Except Error Response :=
  (c.discoveryRequest token major).bind fun _ => checkDiscovery major answer

/-- The tokens that a session has when questions are asked, and its answers to them. -/
abbrev Talk := ℕ → Option String × Except Error Response

/-- What the questions of a talk come to. -/
def Talk.answers (c : Client) (major : UInt32) (talk : Talk) (i : ℕ) : Except Error Response :=
  c.inquire major (talk i).1 (talk i).2

/-- A task that negotiates, the files, and the questions that it has sent. -/
structure Bargain where
  progress : Progress
  files : FileSystem
  questions : List Request

namespace Bargain

section Run

variable (c : Client) (w : Weather) (talk : Talk)

/-- The task comes further, and what it does on the way reaches the files and the server. -/
def next (p : Progress) (fs : FileSystem) (questions : List Request) : Bargain :=
  ⟨p, p.effects.foldl (c.perform w) fs, questions ++ p.discoveries⟩

/-- The answer to the question with the given number comes, if the task waits for it. -/
def step (i : ℕ) (b : Bargain) : Bargain :=
  if b.progress.task.holdsLock then
    match b.progress.task.step c (talk (i + 1)).1 b.progress.negotiator (.answer (talk i).2) with
    | some p => next c w p b.files b.questions
    | none => b
  else b

/-- Some answers come, the first of which has the given number. -/
def run (i : ℕ) (b : Bargain) : ℕ → Bargain
  | 0 => b
  | k + 1 => run (i + 1) (step c w talk i b) k

end Run

end Bargain

/-- A task has carried out a negotiation, and goes on with its result. -/
structure CarriesOut (c : Client) (t : Task) (n : Negotiator) (purpose : Purpose) (talk : Talk)
    (out : Negotiator.Outcome × FileSystem) (b : Bargain) : Prop where
  progress : b.progress =
    t.negotiate c (talk out.1.asked).1 n purpose (.settled out.1.result)
  negotiator : b.progress.negotiator = out.1.negotiator
  files : b.files = out.2
  questions : b.questions.length ≤ out.1.asked

/-! ## The function -/

theorem asked_negotiate_le (n : Negotiator) (refusal : Option Response) (sent : Option String)
    (answers : ℕ → Except Error Response) :
    (n.negotiate refusal sent answers).asked ≤ if refusal.isSome then 1 else 2 := by
  have hfinish := Inquiry.finish_le answers 0 (Inquiry.start n sent refusal)
  have hstart := Inquiry.left_start_le n sent refusal
  rw [Nat.zero_add] at hfinish
  exact Nat.le_trans hfinish hstart

theorem negotiator_negotiate (n : Negotiator) (refusal : Option Response) (sent : Option String)
    (answers : ℕ → Except Error Response) :
    (n.negotiate refusal sent answers).negotiator =
      n.afterResult (n.negotiate refusal sent answers).result := rfl

theorem isSparing_negotiateIn (c : Client) (w : Weather) (n : Negotiator)
    (refusal : Option Response) (sent : Option String) (answers : ℕ → Except Error Response)
    (fs : FileSystem) :
    IsSparing c w n refusal fs (c.negotiateIn w n refusal sent answers fs) where
  failed e he := by
    dsimp only [negotiateIn] at he ⊢
    rw [negotiator_negotiate, he]
    exact ⟨rfl, rfl⟩
  agreed v hv := by
    dsimp only [negotiateIn] at hv ⊢
    rw [negotiator_negotiate, hv]
    exact ⟨rfl, rfl⟩
  told r min max hr hmin hmax := by
    dsimp only [negotiateIn]
    rw [hr, Negotiator.negotiate, Inquiry.start_of_range hmin hmax, Inquiry.finish]
  once hsome := by
    have hle := asked_negotiate_le n refusal sent answers
    rwa [if_pos hsome] at hle
  twice := Nat.le_trans (asked_negotiate_le n refusal sent answers) (by split <;> decide)

/-! ## The task -/

namespace Task

section WithVersion

variable (c : Client) (token : Option String) (t : Task) (n : Negotiator) (purpose : Purpose)
  (version : String)

/-- Going on with a version ends the attempt, or sends a request. -/
theorem withVersion_cases :
    (∃ result, t.withVersion c token n purpose version = t.endAttempt c n result) ∨
      ∃ o x, t.withVersion c token n purpose version = t.exchange c n o x := by
  unfold withVersion
  split
  · exact .inr ⟨_, _, rfl⟩
  · next o _ _ =>
    rcases firstExchange_cases c token t n o with ⟨e, he⟩ | ⟨headers, -, he⟩
    · exact .inl ⟨_, he⟩
    · exact .inr ⟨_, _, he⟩
  · exact .inl ⟨_, rfl⟩

@[simp] theorem negotiator_withVersion :
    (t.withVersion c token n purpose version).negotiator = n := by
  rcases withVersion_cases c token t n purpose version with ⟨result, h⟩ | ⟨o, x, h⟩ <;>
    rw [h] <;> simp

@[simp] theorem agreed_withVersion : (t.withVersion c token n purpose version).agreed = [] := by
  rcases withVersion_cases c token t n purpose version with ⟨result, h⟩ | ⟨o, x, h⟩ <;>
    rw [h] <;> simp

@[simp] theorem holdsLock_endAttempt (result : Except Error Reply) :
    (t.endAttempt c n result).task.holdsLock = false := by
  rcases phase_endAttempt c t n result with h | ⟨-, h⟩ <;> rw [holdsLock, h]

@[simp] theorem holdsLock_withVersion :
    (t.withVersion c token n purpose version).task.holdsLock = false := by
  rcases withVersion_cases c token t n purpose version with ⟨result, h⟩ | ⟨o, x, h⟩ <;> rw [h]
  · simp
  · rfl

end WithVersion

section Settled

variable (c : Client) (token : Option String) (t : Task) (n : Negotiator) (purpose : Purpose)
  (result : Except Error Version)

theorem holdsLock_settled :
    (t.negotiate c token n purpose (.settled result)).task.holdsLock = false := by
  cases result <;> simp [negotiate]

theorem negotiator_settled :
    (t.negotiate c token n purpose (.settled result)).negotiator = n.afterResult result := by
  cases result <;> simp [negotiate, Negotiator.afterResult]

theorem agreed_settled :
    (t.negotiate c token n purpose (.settled result)).agreed = result.toOption.toList := by
  cases result <;> simp [negotiate, Except.toOption]

theorem discoveries_settled :
    (t.negotiate c token n purpose (.settled result)).discoveries = [] := by
  cases result <;> simp [negotiate, discoveries_withVersion]

end Settled

end Task

namespace Bargain

variable {c : Client} {w : Weather} {talk : Talk} {t : Task} {n : Negotiator} {purpose : Purpose}
  {fs : FileSystem}

theorem run_of_not_holdsLock {b : Bargain} (h : b.progress.task.holdsLock = false) (i k : ℕ) :
    run c w talk i b k = b := by
  induction k generalizing i with
  | zero => rfl
  | succ k ih =>
    have hstep : step c w talk i b = b := by
      rw [step, if_neg (by rw [h]; decide)]
    rw [run, hstep]
    exact ih (i + 1)

/-- A task that has to ask for the range asks for it, and goes on with the answer. -/
theorem run_of_question {q : Inquiry} {r : Request} {i : ℕ} (hn : q.negotiator = n)
    (hr : c.discoveryRequest (talk i).1 q.major = .ok r) (questions : List Request) (k : ℕ) :
    run c w talk i (next c w (t.negotiate c (talk i).1 n purpose (.asking q)) fs questions)
        (k + 1) =
      run c w talk (i + 1)
        (next c w (t.negotiate c (talk (i + 1)).1 n purpose
          (q.resume (talk.answers c n.requested.major i))) fs (questions ++ [r])) k := by
  have hanswer : talk.answers c n.requested.major i = checkDiscovery q.major (talk i).2 := by
    rw [Talk.answers, inquire, ← hn, ← Inquiry.major, hr]
    rfl
  rw [run, hanswer]
  congr 1
  simp only [Task.negotiate, hr]
  rfl

/-- A task carries out the rest of an inquiry. -/
theorem run_of_finish (i : ℕ) (ip : Inquiry.Progress) (questions : List Request) {k : ℕ}
    (hn : ∀ q, ip = .asking q → q.negotiator = n) (hk : ip.left ≤ k) :
    let finish := Inquiry.finish (talk.answers c n.requested.major) i ip
    ∃ sent, sent.length + i ≤ finish.2 ∧
      run c w talk i (next c w (t.negotiate c (talk i).1 n purpose ip) fs questions) k =
        next c w (t.negotiate c (talk finish.2).1 n purpose (.settled finish.1)) fs
          (questions ++ sent) := by
  intro finish
  unfold finish
  fun_induction Inquiry.finish (talk.answers c n.requested.major) i ip generalizing questions k with
  | case1 i result =>
    refine ⟨[], by simp, ?_⟩
    rw [List.append_nil, run_of_not_holdsLock (Task.holdsLock_settled ..)]
  | case2 i q ih =>
    have hq := hn q rfl
    cases hr : c.discoveryRequest (talk i).1 q.major with
    | error e =>
      -- the request cannot be made, which is as good as an answer with the same failure
      have hanswer : talk.answers c n.requested.major i = .error e := by
        rw [Talk.answers, inquire, ← hq, ← Inquiry.major, hr]
        rfl
      rw [hanswer, Inquiry.resume, Inquiry.finish]
      refine ⟨[], by simp, ?_⟩
      have hfail : t.negotiate c (talk i).1 n purpose (.asking q) =
          t.negotiate c (talk (i + 1)).1 n purpose (.settled (.error e)) := by
        simp only [Task.negotiate, hr]
      rw [hfail, List.append_nil, run_of_not_holdsLock (Task.holdsLock_settled ..)]
    | ok r =>
      have hless := Inquiry.left_resume_lt q (talk.answers c n.requested.major i)
      cases k with
      | zero => exact absurd (Nat.lt_of_lt_of_le hless hk) (Nat.not_lt_zero _)
      | succ k =>
        have hnext : ∀ q', q.resume (talk.answers c n.requested.major i) = .asking q' →
            q'.negotiator = n := by
          intro q' hq'
          rw [(Inquiry.eq_of_resume_asking hq').2]
          exact hq
        obtain ⟨sent, hle, hrun⟩ := ih (questions ++ [r]) hnext
          (Nat.le_of_lt_succ (Nat.lt_of_lt_of_le hless hk))
        refine ⟨r :: sent, ?_, ?_⟩
        · rw [List.length_cons]
          omega
        · rw [run_of_question hq hr, hrun, List.append_assoc, List.singleton_append]

theorem files_settled (token : Option String) (result : Except Error Version)
    (questions : List Request) :
    (next c w (t.negotiate c token n purpose (.settled result)) fs questions).files =
      c.rememberResult w fs result := by
  have hagreed := Task.agreed_settled c token t n purpose result
  rw [Progress.agreed] at hagreed
  rw [next, World.foldl_perform, hagreed]
  cases result <;> rfl

theorem questions_settled (token : Option String) (result : Except Error Version)
    (questions : List Request) :
    (next c w (t.negotiate c token n purpose (.settled result)) fs questions).questions =
      questions := by
  rw [next, Task.discoveries_settled, List.append_nil]

/-- A task needs no more than two answers. -/
theorem carriesOut_run (c : Client) (w : Weather) (n : Negotiator) (refusal : Option Response)
    (sent : Option String) (fs : FileSystem) (t : Task) (purpose : Purpose) (talk : Talk) (k : ℕ) :
    CarriesOut c t n purpose talk
      (c.negotiateIn w n refusal sent (talk.answers c n.requested.major) fs)
      (run c w talk 0 (next c w
        (t.negotiate c (talk 0).1 n purpose (Inquiry.start n sent refusal)) fs []) (k + 2)) := by
  have hleft : (Inquiry.start n sent refusal).left ≤ k + 2 :=
    Nat.le_trans (Inquiry.left_start_le n sent refusal) (by split <;> omega)
  have hn : ∀ q, Inquiry.start n sent refusal = .asking q → q.negotiator = n := by
    intro q hq
    rw [Inquiry.eq_of_start_asking hq]
  obtain ⟨asked, hle, hrun⟩ := run_of_finish 0 _ [] hn hleft
  rw [hrun]
  exact {
    progress := rfl
    negotiator := Task.negotiator_settled ..
    files := files_settled ..
    questions := by
      rw [questions_settled]
      exact hle }

end Bargain

/-- A negotiation that fails changes neither what is spoken nor the files, one that succeeds settles
the client in any weather, and the server is asked no more than it must be. So it is with every
task that negotiates, whatever the server answers. -/
theorem isSparing_negotiate (c : Client) (w : Weather) (n : Negotiator)
    (refusal : Option Response) (sent : Option String) (fs : FileSystem) :
    (∀ answers, IsSparing c w n refusal fs (c.negotiateIn w n refusal sent answers fs)) ∧
    ∀ (t : Task) (purpose : Purpose) (talk : Talk) (k : ℕ),
      CarriesOut c t n purpose talk
        (c.negotiateIn w n refusal sent (talk.answers c n.requested.major) fs)
        (Bargain.run c w talk 0 (Bargain.next c w
          (t.negotiate c (talk 0).1 n purpose (Inquiry.start n sent refusal)) fs []) (k + 2)) :=
  ⟨fun answers => isSparing_negotiateIn c w n refusal sent answers fs,
    fun t purpose talk k => Bargain.carriesOut_run c w n refusal sent fs t purpose talk k⟩

end Client

end Microversion
