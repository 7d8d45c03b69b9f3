import Mathlib.Data.List.Infix
import Microversion.Client.Call
import Microversion.Client.Schedule
import Microversion.Proofs.Client.Additional
import Microversion.Proofs.Client.Progress
import Microversion.Proofs.Error.Fault
import Microversion.Proofs.Json.Values
import Microversion.Proofs.Text.Pieces

/-! # What is taken for JSON

A failure is said to be JSON in letters of any case, a success in small letters only:
a call that is given any other spelling ends well, without the value that the server
has sent. Small letters further on in the content type make up for it, and bytes that
are no text hide the content type from both.
-/

namespace Microversion

open Http

namespace Http

namespace HeaderValue

open Json (toAscii)

/-- A character of a value read as text. -/
def isTextChar (c : Char) : Bool := c == '\t' || (32 ≤ c.toNat && c.toNat < 127)

theorem isText_eq (b : UInt8) : isText b = isTextChar (Char.ofNat b.toNat).toLower := by
  have hall : ∀ n < 256, isText (UInt8.ofNat n) = isTextChar (Char.ofNat n).toLower := by
    decide +kernel
  simpa using hall b.toNat b.toNat_lt

/-- Whether a value is text does not depend on the case of its letters. -/
theorem all_isText_eq (bs : Bytes) :
    bs.all isText = ((toAscii bs).map Char.toLower).all isTextChar := by
  simp only [toAscii, List.all_map]
  exact List.all_congr rfl fun b => isText_eq b

theorem lt_of_isText {b : UInt8} (h : isText b = true) : b.toNat < 128 := by
  simp only [isText, Bool.or_eq_true, beq_iff_eq, Bool.and_eq_true, decide_eq_true_eq] at h
  rcases h with rfl | ⟨-, h⟩
  · decide
  · exact Nat.lt_trans (UInt8.lt_iff_toNat_lt.mp h) (by decide)

/-- A value that is text has a character for each byte. -/
theorem text?_eq (v : HeaderValue) :
    v.text? = if v.bytes.all isText then some (String.ofList (toAscii v.bytes)) else none := by
  unfold text?
  split
  · next h =>
    have hbytes : Utf8.encode (String.ofList (toAscii v.bytes)) = v.bytes := by
      rw [Utf8.encode_ofList]
      exact Json.bytesOf_toAscii fun b hb => lt_of_isText (List.all_eq_true.mp h b hb)
    calc Utf8.decode? v.bytes
        = Utf8.decode? (Utf8.encode (String.ofList (toAscii v.bytes))) := by rw [hbytes]
      _ = some (String.ofList (toAscii v.bytes)) := Utf8.decode?_encode _
  · rfl

end HeaderValue

end Http

namespace Client

open Json (toAscii)
open HeaderValue

/-- The content type of the response is that of JSON with parameters, in letters of any case. -/
structure SaysJson (r : Response) (name params : Bytes) : Prop where
  type : ∃ v, r.headers.get? "content-type" = some v ∧ v.bytes = name ++ params
  spelled : (toAscii name).map Char.toLower = jsonType.toList

/-- The name stands in small letters at the front, or somewhere in the parameters. -/
def Shown (name params : Bytes) : Prop :=
  toAscii name = jsonType.toList ∨ jsonType.toList <:+: toAscii params

/-- What is read where a response said to be JSON has the given value in its body: the value, only
if the type is shown in small letters. A failure is known to be JSON in any case. -/
structure Reading (r : Response) (name params : Bytes) (value : Json.Value) : Prop where
  decoded : params.all isText = true → Shown name params → jsonValue r = value
  ignored : params.all isText = true → ¬Shown name params → jsonValue r = .null
  hidden : params.all isText = false → jsonValue r = .array []
  fault : params.all isText = true → Fault.IsJson r

/-- Two responses have the same letters in their content types, and are otherwise equal. -/
structure SameButCase (r r' : Response) : Prop where
  status : r.status = r'.status
  body : r.body = r'.body
  others : Headers.AgreeExcept "content-type" r.headers r'.headers
  type : ∃ v v', r.headers.get? "content-type" = some v ∧
    r'.headers.get? "content-type" = some v' ∧
    (toAscii v.bytes).map Char.toLower = (toAscii v'.bytes).map Char.toLower

section Types

variable {r r' : Response} {name params : Bytes} {value : Json.Value} {v : HeaderValue}

/-- The name of the type overlaps with itself nowhere. -/
theorem eq_of_border : ∀ t ∈ jsonType.toList.inits,
    t.map Char.toLower <:+ jsonType.toList → t = [] ∨ t = jsonType.toList := by
  decide

/-- Small letters do not begin in the one part and end in the other. -/
theorem infix_iff_shown (h : (toAscii name).map Char.toLower = jsonType.toList) :
    jsonType.toList <:+: toAscii (name ++ params) ↔ Shown name params := by
  have hlength : (toAscii name).length = jsonType.toList.length := by
    rw [← h, List.length_map]
  have happend : toAscii (name ++ params) = toAscii name ++ toAscii params := List.map_append
  rw [happend, List.infix_append_iff]
  constructor
  · rintro (hname | hparams | ⟨front, back, hsplit, hfront, hback⟩)
    · exact .inl (hname.eq_of_length hlength.symm).symm
    · exact .inr hparams
    · -- what stands at the end of the name there is the beginning of the type
      have hborder := eq_of_border front ((List.mem_inits _ _).mpr ⟨back, hsplit.symm⟩)
        (h ▸ hfront.map Char.toLower)
      rcases hborder with rfl | hall
      · exact .inr (hsplit ▸ hback.isInfix)
      · exact .inl ((hall ▸ hfront).eq_of_length hlength.symm).symm
  · rintro (hname | hparams)
    · exact .inl (hname ▸ List.infix_refl _)
    · exact .inr (.inl hparams)

theorem contentType?_of_get? (h : r.headers.get? "content-type" = some v) :
    r.contentType? =
      if v.bytes.all isText then some (String.ofList (toAscii v.bytes)) else none := by
  have hheader : r.contentType? = (r.headers.get? "content-type").bind text? := rfl
  rw [hheader, h, Option.bind_some, text?_eq]

theorem SaysJson.all_isText (h : SaysJson r name params) : name.all isText = true := by
  rw [all_isText_eq, h.spelled]
  decide

/-- The content type is unknown exactly if the parameters hold bytes that are no text. -/
theorem SaysJson.contentType?_eq (h : SaysJson r name params) :
    r.contentType? =
      if params.all isText then some (String.ofList (toAscii (name ++ params))) else none := by
  obtain ⟨v, hv, hbytes⟩ := h.type
  rw [contentType?_of_get? hv, hbytes, List.all_append, h.all_isText, Bool.true_and]

theorem SaysJson.isJson (h : SaysJson r name params) (htext : params.all isText = true) :
    Fault.IsJson r := by
  have htype := h.contentType?_eq
  rw [htext, if_pos rfl] at htype
  have hparts : (toAscii name).map Char.toLower = "application/".toList ++ "json".toList :=
    h.spelled.trans (by decide)
  obtain ⟨before, word, hname, -, hword⟩ := List.map_eq_append_iff.mp hparts
  refine ⟨_, before, word, toAscii params, htype, ?_, hword⟩
  rw [String.toList_ofList, ← hname]
  exact List.map_append

theorem reading_of_saysJson (h : SaysJson r name params)
    (hcontent : r.status ≠ 204 ∧ r.status ≠ 205) (hvalue : Json.Value.parse? r.body = some value) :
    Reading r name params value := by
  have htype := h.contentType?_eq
  have hread : ∀ type, r.contentType? = some type →
      jsonValue r = if jsonType.toList <:+: type.toList then value else .null := by
    intro type htype
    rw [jsonValue, if_neg (not_or.mpr hcontent), htype, hvalue]
    simp only [Text.occursIn_iff, Option.getD_some]
  constructor
  case decoded =>
    intro htext hshown
    rw [htext, if_pos rfl] at htype
    rw [hread _ htype, String.toList_ofList, if_pos ((infix_iff_shown h.spelled).mpr hshown)]
  case ignored =>
    intro htext hshown
    rw [htext, if_pos rfl] at htype
    rw [hread _ htype, String.toList_ofList, if_neg (mt (infix_iff_shown h.spelled).mp hshown)]
  case hidden =>
    intro htext
    rw [htext, if_neg Bool.false_ne_true] at htype
    rw [jsonValue, if_neg (not_or.mpr hcontent), htype]
  case fault => exact h.isJson

end Types

section Faults

variable {r r' : Response}

theorem SameButCase.header?_eq (h : SameButCase r r') {name : String}
    (hne : String.ofList (name.toList.map Char.toLower) ≠ "content-type") :
    r.header? name = r'.header? name := by
  simp only [Response.header?, Headers.get?, h.others.values_eq hne]

theorem SameButCase.kind_eq (h : SameButCase r r') :
    Fault.BodyKind.of (r.contentType?.getD "") = Fault.BodyKind.of (r'.contentType?.getD "") := by
  obtain ⟨v, v', hv, hv', hletters⟩ := h.type
  rw [contentType?_of_get? hv, contentType?_of_get? hv', all_isText_eq, all_isText_eq, hletters]
  split
  · simp only [Option.getD_some, Fault.BodyKind.of, String.toList_ofList, hletters]
  · rfl

/-- A failure says the same in any case of the letters of its content type. -/
theorem SameButCase.ofResponse_eq (h : SameButCase r r') (method url : String) :
    Fault.ofResponse r method url = Fault.ofResponse r' method url := by
  have hid : Fault.requestId? r = Fault.requestId? r' := by
    have hnew : r.header? Fault.requestIdHeader = r'.header? Fault.requestIdHeader :=
      h.header?_eq (by decide)
    have hold : r.header? Fault.legacyRequestIdHeader = r'.header? Fault.legacyRequestIdHeader :=
      h.header?_eq (by decide)
    simp only [Fault.requestId?, List.filterMap_cons, List.filterMap_nil, hnew, hold]
  have hafter : Fault.retryAfter? r = Fault.retryAfter? r' := by
    rw [Fault.retryAfter?, h.header?_eq (by decide), Fault.retryAfter?]
  unfold Fault.ofResponse
  rw [h.status, h.body, hid, hafter, h.kind_eq]

end Faults

namespace System

variable {c : Client} {s s' : System} {k : ℕ} {t : Task} {o : Order} {x : Exchange}
  {r : Response} {result : Except Error Reply}

/-- Nothing happens to a call that has ended. -/
theorem getElem?_of_step {e : Event} (h : s.step c e = some s') (ht : s.tasks[k]? = some t)
    (hp : t.phase = .finished result) : s'.tasks[k]? = some t := by
  rw [step_eq] at h
  obtain ⟨m, hm, rfl⟩ := Option.map_eq_some_iff.mp h
  have hmakes := makes_of_move? hm
  rw [getElem?_tasks_after hmakes.number_le]
  split
  · next hk =>
    have hawaits := Task.awaits_of_step hmakes.step
    rcases hmakes.origin with ho | ⟨ho, -⟩
    · rw [← hk, ht] at ho
      cases ho
      rw [hp] at hawaits
      cases hsignal : m.signal <;> rw [hsignal] at hawaits <;> cases hawaits
    · rw [hk, ho, List.getElem?_eq_none (Nat.le_refl _)] at ht
      cases ht
  · exact ht

theorem getElem?_of_run {es : List Event} (h : run c s es = some s')
    (ht : s.tasks[k]? = some t) (hp : t.phase = .finished result) : s'.tasks[k]? = some t := by
  induction es generalizing s with
  | nil =>
    cases h
    exact ht
  | cons e es ih =>
    obtain ⟨middle, hstep, hrun⟩ := Option.bind_eq_some_iff.mp h
    exact ih hrun (getElem?_of_step hstep ht hp)

/-- A call that is given a success ends with it. -/
theorem exists_step_of_isSuccess (ht : s.tasks[k]? = some t) (hj : t.job = .send o)
    (hp : t.phase = .exchanging x) (hr : r.isSuccess = true) (token : Option String) :
    ∃ s', s.step c (.signal token k (.answer (.ok r))) = some s' ∧
      s'.tasks[k]? = some { t with phase := .finished (.ok (.response r)) } := by
  obtain ⟨hlt, -⟩ := List.getElem?_eq_some_iff.mp ht
  let p : Progress := ⟨{ t with phase := .finished (.ok (.response r)) }, s.negotiator, []⟩
  have hstep : t.step c token s.negotiator (.answer (.ok r)) = some p := by
    simp only [Task.step, hp, hj]
    exact congrArg some (Task.received_of_isSuccess c t s.negotiator o x hr)
  refine ⟨s.settle k (s.tasks.set k p.task) p, ?_, ?_⟩
  · simp only [step, admits, if_true, ht, Option.bind_some, hstep, Option.map_some]
  · exact List.getElem?_set_self hlt

/-- A call that is given a success with a JSON body ends with the response, whatever happens
afterwards. Which value it reads there depends on the case of the letters in the content type,
while what a failure says never does. -/
theorem reads_of_answer {name params : Bytes} {value : Json.Value} (ht : s.tasks[k]? = some t)
    (hj : t.job = .send o) (hp : t.phase = .exchanging x) (hr : r.isSuccess = true)
    (hcontent : r.status ≠ 204 ∧ r.status ≠ 205) (hjson : SaysJson r name params)
    (hvalue : Json.Value.parse? r.body = some value) :
    (∀ token, ∃ s', s.step c (.signal token k (.answer (.ok r))) = some s' ∧
      ∀ es s'', run c s' es = some s'' →
        s''.tasks[k]?.bind Task.result? = some (.ok (.response r))) ∧
    Reading r name params value ∧
    ∀ f f', SameButCase f f' → ∀ method url,
      Fault.ofResponse f method url = Fault.ofResponse f' method url := by
  refine ⟨?_, reading_of_saysJson hjson hcontent hvalue, ?_⟩
  · intro token
    obtain ⟨s', hstep, htask⟩ := exists_step_of_isSuccess ht hj hp hr token
    refine ⟨s', hstep, ?_⟩
    intro es s'' hrun
    rw [getElem?_of_run hrun htask rfl]
    rfl
  · intro f f' hsame method url
    exact hsame.ofResponse_eq method url

end System

section Samples

/-- A success with a small JSON body and the given content type. -/
def typed (type : String) : Response :=
  ⟨200, ⟨[("content-type", plainValue type)]⟩, Utf8.encode "\x7b\"a\":1\x7d"⟩

def oneMember : Json.Value := .object [("a", .ofNat 1)]

theorem parse?_typed (type : String) : Json.Value.parse? (typed type).body = some oneMember := by
  rfl

theorem saysJson_typed : SaysJson (typed "Application/JSON; charset=utf-8")
    (Utf8.encode "Application/JSON") (Utf8.encode "; charset=utf-8") :=
  ⟨⟨_, rfl, rfl⟩, by decide⟩

/-- A call for nodes is given a body that it does not read. -/
theorem System.reads_of_capitals :
    ∃ s t x, run (plain ⟨.pinned .initial, .default⟩) (.idle ⟨.pinned .initial, .default⟩)
        [.call none (.send (jsonOrder "GET" "/v1/nodes" none .empty))] = some s ∧
      s.tasks[0]? = some t ∧ t.job = .send (jsonOrder "GET" "/v1/nodes" none .empty) ∧
      t.phase = .exchanging x ∧
      let r := typed "Application/JSON; charset=utf-8"
      (∃ s', s.step (plain ⟨.pinned .initial, .default⟩) (.signal none 0 (.answer (.ok r))) =
        some s' ∧ s'.tasks[0]?.bind Task.result? = some (.ok (.response r))) ∧
      jsonValue r = .null ∧ Fault.IsJson r ∧ Json.Value.parse? r.body = some oneMember := by
  obtain ⟨s, t, x, hrun, ht, hj, hp⟩ : ∃ s t x,
      run (plain ⟨.pinned .initial, .default⟩) (.idle ⟨.pinned .initial, .default⟩)
        [.call none (.send (jsonOrder "GET" "/v1/nodes" none .empty))] = some s ∧
      s.tasks[0]? = some t ∧ t.job = .send (jsonOrder "GET" "/v1/nodes" none .empty) ∧
      t.phase = .exchanging x :=
    ⟨_, _, _, rfl, rfl, rfl, rfl⟩
  have hvalue := parse?_typed "Application/JSON; charset=utf-8"
  obtain ⟨hends, hreading, -⟩ := reads_of_answer (c := plain ⟨.pinned .initial, .default⟩)
    ht hj hp rfl (by decide) saysJson_typed hvalue
  obtain ⟨s', hstep, hresult⟩ := hends none
  have hnot : ¬Shown (Utf8.encode "Application/JSON") (Utf8.encode "; charset=utf-8") := by
    unfold Shown
    decide
  refine ⟨s, t, x, hrun, ht, hj, hp, ⟨s', hstep, hresult [] s' rfl⟩, ?_, ?_, hvalue⟩
  · exact hreading.ignored (by decide) hnot
  · exact hreading.fault (by decide)

/-- The same body is read or not, as the case of the letters has it. -/
theorem not_reads_capitals :
    (typed "Application/JSON").isSuccess = true ∧
    ((typed "Application/JSON").status ≠ 204 ∧ (typed "Application/JSON").status ≠ 205) ∧
    SaysJson (typed "Application/JSON") (Utf8.encode "Application/JSON") [] ∧
    Json.Value.parse? (typed "Application/JSON").body = some oneMember ∧
    SameButCase (typed "Application/JSON") (typed "application/json") ∧
    jsonValue (typed "application/json") = oneMember ∧
    jsonValue (typed "Application/JSON") = .null ∧ Json.Value.null ≠ oneMember := by
  have hjson : SaysJson (typed "Application/JSON") (Utf8.encode "Application/JSON") [] :=
    ⟨⟨_, rfl, rfl⟩, by decide⟩
  have hsame : SameButCase (typed "Application/JSON") (typed "application/json") :=
    ⟨rfl, rfl, rfl, _, _, rfl, rfl, by decide⟩
  refine ⟨rfl, by decide, hjson, parse?_typed _, hsame, rfl, rfl, ?_⟩
  rintro ⟨⟩

end Samples

end Client

end Microversion
