import Microversion.Client.Task

/-! # The version header of a request

A version written into a header is read back from it. The headers of a request
say the version of the call if it has one, and else the version that the client
speaks; token, agent and additional headers leave the version header alone.
-/

namespace Microversion

open Http

namespace Client

/-- A printable character of ASCII. -/
def isPlain (c : Char) : Bool := 32 ≤ c.toNat && c.toNat < 127

theorem isText_utf8EncodeChar {c : Char} (h : isPlain c = true) :
    (String.utf8EncodeChar c).all HeaderValue.isText = true := by
  simp only [isPlain, Bool.and_eq_true, decide_eq_true_eq] at h
  have hv : c.val.toNat ≤ 127 := Nat.le_of_lt_succ (Nat.lt_succ_of_lt h.2)
  have hb : (UInt8.ofNat c.val.toNat).toNat = c.toNat := Nat.mod_eq_of_lt (by omega)
  simp only [String.utf8EncodeChar, hv, if_true, List.all_cons, List.all_nil, Bool.and_true,
    HeaderValue.isText, Bool.or_eq_true, Bool.and_eq_true, decide_eq_true_eq,
    UInt8.le_iff_toNat_le, UInt8.lt_iff_toNat_lt, hb]
  exact .inr h

theorem text?_plainValue {cs : List Char} (h : ∀ c ∈ cs, isPlain c = true) :
    (plainValue (String.ofList cs)).text? = some (String.ofList cs) := by
  have hall : (Utf8.encode (String.ofList cs)).all HeaderValue.isText = true := by
    simp only [Utf8.encode, String.toByteArray_ofList, List.utf8Encode, List.data_toByteArray,
      List.all_flatMap]
    exact List.all_eq_true.mpr fun c hc => isText_utf8EncodeChar (h c hc)
  rw [HeaderValue.text?, plainValue, if_pos hall, Utf8.decode?_encode]

theorem isPlain_of_isDigit {c : Char} (h : c.isDigit = true) : isPlain c = true := by
  simp only [Char.isDigit, Bool.and_eq_true, decide_eq_true_eq, ge_iff_le,
    UInt32.le_iff_toNat_le] at h
  simp only [isPlain, Bool.and_eq_true, decide_eq_true_eq, Char.toNat]
  exact ⟨Nat.le_trans (by decide) h.1, Nat.lt_of_le_of_lt h.2 (by decide)⟩

theorem isPlain_of_mem_chars {v : Version} {c : Char} (h : c ∈ v.chars) : isPlain c = true := by
  simp only [Version.chars, List.mem_append, List.mem_cons] at h
  rcases h with h | rfl | h
  · exact isPlain_of_isDigit (Text.isDigit_of_mem_decimal h)
  · decide
  · exact isPlain_of_isDigit (Text.isDigit_of_mem_decimal h)

@[simp] theorem text?_plainValue_version (v : Version) :
    (plainValue v.text).text? = some v.text :=
  text?_plainValue fun _ => isPlain_of_mem_chars

/-- Whatever a version header can say is read back from it. -/
theorem text?_plainValue_of_headerText {r : Requested} {text : String}
    (h : r.headerText? = some text) : (plainValue text).text? = some text := by
  cases r with
  | pinned v => obtain rfl := Option.some.inj h; exact text?_plainValue_version v
  | latest =>
    obtain rfl := Option.some.inj h
    exact @text?_plainValue ['l', 'a', 't', 'e', 's', 't'] (List.all_eq_true.mp rfl)
  | anyOf vs => cases h

/-- A response that says nothing but the range of its server. -/
def rangeResponse (status : Nat) (min max : Version) : Response :=
  ⟨status, ⟨[(Advertised.minHeader, plainValue min.text),
    (Advertised.maxHeader, plainValue max.text)]⟩, []⟩

@[simp] theorem ofResponse_rangeResponse (status : Nat) (min max : Version) :
    Advertised.ofResponse (rangeResponse status min max) = ⟨some min.text, some max.text⟩ := by
  have hmin : (rangeResponse status min max).header? Advertised.minHeader =
      (plainValue min.text).text? := rfl
  have hmax : (rangeResponse status min max).header? Advertised.maxHeader =
      (plainValue max.text).text? := rfl
  rw [Advertised.ofResponse, hmin, hmax, text?_plainValue_version, text?_plainValue_version]

end Client

namespace Http.Headers

theorem get?_insert_self (hs : Headers) (name : String) (v : HeaderValue) :
    (hs.insert name v).get? name = some v := by
  simp [get?]

/-- A name that has a value keeps all of its values when another one is offered. -/
theorem values_orInsert {hs : Headers} {name : String} (h : hs.contains name = true)
    (other : String) (v : HeaderValue) : (hs.orInsert other v).values name = hs.values name := by
  by_cases he : name = other
  · subst he; rw [values_orInsert_of_contains v h]
  · exact hs.values_orInsert_of_ne v he

theorem contains_congr {hs hs' : Headers} {name : String} (h : hs.values name = hs'.values name) :
    hs.contains name = hs'.contains name := by
  simp only [contains, get?, h]

theorem values_foldl_orInsert (es : List (String × HeaderValue)) {hs : Headers} {name : String}
    (h : hs.contains name = true) :
    (es.foldl (fun hs e => hs.orInsert e.1 e.2) hs).values name = hs.values name := by
  induction es generalizing hs with
  | nil => rfl
  | cons e es ih =>
    have hv := values_orInsert h e.1 e.2
    rw [List.foldl_cons, ih (by rw [contains_congr hv, h]), hv]

end Http.Headers

namespace Client

theorem values_withAdditional (c : Client) {hs : Headers} {name : String}
    (h : hs.contains name = true) : (c.withAdditional hs).values name = hs.values name := by
  have hf := Headers.values_foldl_orInsert c.additional.entries h
  unfold withAdditional
  cases c.requestId with
  | none => exact hf
  | some id => exact (Headers.values_orInsert (by rw [Headers.contains_congr hf, h]) _ _).trans hf

/-- A token is added where there is none, and the name of the client after it. -/
theorem exists_of_withCredentials {token : Option String} {hs hs' : Headers}
    (h : withCredentials token hs = .ok hs') :
    ∃ middle, hs' = middle.orInsert agentHeader (plainValue agent) ∧
      (middle = hs ∨ hs.contains tokenHeader = false ∧ ∃ v, middle = hs.insert tokenHeader v) := by
  unfold withCredentials at h
  split at h
  · next text =>
    split at h
    · exact ⟨hs, (Except.ok.inj h).symm, .inl rfl⟩
    · next hfree =>
      cases hv : headerValue text with
      | error e =>
        rw [hv] at h
        cases h
      | ok v =>
        rw [hv] at h
        exact ⟨_, (Except.ok.inj h).symm, .inr ⟨Bool.eq_false_iff.mpr hfree, _, rfl⟩⟩
  · exact ⟨hs, (Except.ok.inj h).symm, .inl rfl⟩

theorem values_withCredentials {token : Option String} {hs hs' : Headers} {name : String}
    (h : withCredentials token hs = .ok hs') (ht : name ≠ tokenHeader) (ha : name ≠ agentHeader) :
    hs'.values name = hs.values name := by
  obtain ⟨middle, rfl, rfl | ⟨-, v, rfl⟩⟩ := exists_of_withCredentials h
  · exact Headers.values_orInsert_of_ne _ _ ha
  · rw [Headers.values_orInsert_of_ne _ _ ha, Headers.values_insert_of_ne _ _ ht]

section RequestHeaders

variable {c : Client} {token : Option String} {n : Negotiator} {own hs : Headers}

/-- The version and the token come before the headers that the client was set up with. -/
theorem exists_of_requestHeaders (h : c.requestHeaders token n own = .ok hs) :
    ∃ out, withCredentials token (withVersion n own) = .ok out ∧ hs = c.withAdditional out := by
  unfold requestHeaders at h
  cases hw : withCredentials token (withVersion n own) with
  | error e =>
    rw [hw] at h
    cases h
  | ok out =>
    rw [hw] at h
    exact ⟨out, rfl, (Except.ok.inj h).symm⟩

theorem values_requestHeaders (h : c.requestHeaders token n own = .ok hs)
    (hc : (withVersion n own).contains versionHeader = true) :
    hs.values versionHeader = (withVersion n own).values versionHeader := by
  obtain ⟨out, hw, rfl⟩ := exists_of_requestHeaders h
  have hv := values_withCredentials hw (by decide : versionHeader ≠ tokenHeader)
    (by decide : versionHeader ≠ agentHeader)
  rw [values_withAdditional c (by rw [Headers.contains_congr hv, hc]), hv]

/-- A call that speaks a version of its own is sent with what it says. -/
theorem values_requestHeaders_of_own (h : c.requestHeaders token n own = .ok hs)
    (ho : own.contains versionHeader = true) :
    hs.values versionHeader = own.values versionHeader := by
  have hw : withVersion n own = own := by
    unfold withVersion
    split
    · exact Headers.values_orInsert_of_contains _ ho
    · rfl
  have hv := values_requestHeaders h (by rw [hw, ho])
  rwa [hw] at hv

/-- Any other call is sent with the version that the client speaks. -/
theorem values_requestHeaders_of_spoken (h : c.requestHeaders token n own = .ok hs)
    (ho : own.contains versionHeader = false) {text : String} (ht : n.headerText? = some text) :
    hs.values versionHeader = [plainValue text] := by
  have hw : (withVersion n own).values versionHeader = [plainValue text] := by
    simp only [withVersion, ht, Headers.values_orInsert_self ho]
  rw [values_requestHeaders h (Headers.contains_iff.mpr (by simp [hw])), hw]

end RequestHeaders

end Client

end Microversion
