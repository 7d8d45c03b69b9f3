import Microversion.Error.Fault
import Microversion.Proofs.Text.Pieces

/-! # Faults in either form

A JSON body may hold the object of a fault or a text of it. What is known of the failure
is the same in both cases, but for a fault without details, which has the body in their
place. A body of any other form says nothing.
-/

namespace Microversion.Fault

open Http

/-- The members of the object of a fault. -/
abbrev Members := List (String × Json.Value)

/-- The response is said to be JSON, in letters of any case. -/
def IsJson (r : Response) : Prop :=
  ∃ type before word after, r.contentType? = some type ∧
    type.toList = before ++ word ++ after ∧ word.map Char.toLower = "json".toList

/-- The only member of an object is the object of a fault, or a text of it. -/
inductive Encloses : Json.Value → Members → Prop where
  | object (key : String) (fault : Members) : Encloses (.object [(key, .object fault)]) fault
  | text (key : String) {text : String} {fault : Members}
      (h : Json.Value.parseText? text = some (.object fault)) :
      Encloses (.object [(key, .string text)]) fault

/-- The response has the fault in its body. -/
def Shows (r : Response) (fault : Members) : Prop :=
  ∃ value, Json.Value.parseText? (Utf8.decodeLossy r.body) = some value ∧ Encloses value fault

/-- A text stands under the key. -/
def Says (fault : Members) (key text : String) : Prop :=
  Table.get? key fault = some (.string text) ∧ text ≠ ""

/-- What is said under the first key under which anything is said. -/
inductive FirstSaid (fault : Members) : List String → Option String → Prop where
  | nothing : FirstSaid fault [] none
  | here {key text : String} {keys : List String} (h : Says fault key text) :
      FirstSaid fault (key :: keys) (some text)
  | later {key : String} {keys : List String} {said : Option String}
      (h : ∀ text, ¬Says fault key text) (hkeys : FirstSaid fault keys said) :
      FirstSaid fault (key :: keys) said

/-- What is known of a failure is what the fault says of it. -/
structure Conveys (r : Response) (fault : Members) (f : Fault) : Prop where
  message : ∃ said, FirstSaid fault ["message", "faultstring"] said ∧
    f.message = said.getD (StatusKind.ofStatus r.status).message
  details : ∃ said, FirstSaid fault ["details", "debuginfo"] said ∧
    f.details = some (said.getD (Utf8.decodeLossy r.body))

section Members

variable {r : Response} {fault : Members} {value : Json.Value} {key text : String}

theorem of_eq_json_iff {type : String} : BodyKind.of type = .json ↔
    ∃ before word after, type.toList = before ++ word ++ after ∧
      word.map Char.toLower = "json".toList := by
  have hof : BodyKind.of type = .json ↔
      "json".toList <:+: type.toList.map Char.toLower := by
    rw [← Text.occursIn_iff]
    unfold BodyKind.of
    dsimp only
    split
    · next hjson => exact iff_of_true rfl hjson
    · next hjson =>
      refine iff_of_false ?_ hjson
      split <;> simp
  rw [hof]
  constructor
  · rintro ⟨before, after, h⟩
    obtain ⟨front, back, htype, hfront, -⟩ := List.map_eq_append_iff.mp h.symm
    obtain ⟨before', word, rfl, -, hword⟩ := List.map_eq_append_iff.mp hfront
    exact ⟨before', word, back, htype, hword⟩
  · rintro ⟨before, word, after, htype, hword⟩
    rw [htype, List.map_append, List.map_append, hword]
    exact List.infix_append _ _ _

theorem encloses_iff : Encloses value fault ↔ members? value = some fault := by
  constructor
  · rintro (⟨key, fault⟩ | ⟨key, h⟩)
    · rfl
    · rw [members?, h]
  · intro h
    unfold members? at h
    split at h
    · cases h
      exact .object _ _
    · next text =>
      split at h
      · next hparse =>
        cases h
        exact .text _ hparse
      · cases h
    · cases h

theorem shows_iff : Shows r fault ↔
    (Json.Value.parseText? (Utf8.decodeLossy r.body)).bind members? = some fault := by
  rw [Option.bind_eq_some_iff]
  simp only [Shows, encloses_iff]

theorem text?_eq_some_iff : text? fault key = some text ↔ Says fault key text := by
  have hstring : ∀ value : Json.Value, value.string? = some text ↔ value = .string text := by
    intro value
    cases value <;> simp [Json.Value.string?]
  simp [text?, Says, Option.filter_eq_some_iff, Option.bind_eq_some_iff, hstring,
    Json.Value.member?]

/-- Of two keys the second one counts where nothing is said under the first. -/
theorem firstSaid_or (fault : Members) (key other : String) :
    FirstSaid fault [key, other] ((text? fault key).or (text? fault other)) := by
  have hlast : FirstSaid fault [other] (text? fault other) := by
    cases h : text? fault other with
    | none => exact .later (fun text hsays => by simp [text?_eq_some_iff.mpr hsays] at h) .nothing
    | some text => exact .here (text?_eq_some_iff.mp h)
  cases h : text? fault key with
  | none => exact .later (fun text hsays => by simp [text?_eq_some_iff.mpr hsays] at h) hlast
  | some text => exact .here (text?_eq_some_iff.mp h)

end Members

section Response

variable {r : Response} {fault : Members}

/-- What a JSON response says. -/
theorem ofResponse_of_isJson (h : IsJson r) (method url : String) :
    ofResponse r method url =
      ({ ofStatus r.status method url with
        requestId := requestId? r, retryAfter := retryAfter? r } : Fault).addJson
          (Utf8.decodeLossy r.body) := by
  obtain ⟨type, before, word, after, htype, hparts⟩ := h
  have hkind := of_eq_json_iff.mpr ⟨before, word, after, hparts⟩
  rw [ofResponse, htype, Option.getD_some, hkind]

theorem addJson_of_shows (h : Shows r fault) (f : Fault) :
    f.addJson (Utf8.decodeLossy r.body) =
      { f with
        message := (message? fault).getD f.message
        details := some ((details? fault).getD (Utf8.decodeLossy r.body)) } := by
  rw [addJson, shows_iff.mp h]

theorem addJson_of_not_shows (h : ∀ fault, ¬Shows r fault) (f : Fault) :
    f.addJson (Utf8.decodeLossy r.body) = f := by
  rw [addJson, Option.eq_none_iff_forall_ne_some.mpr fun fault hf => h fault (shows_iff.mpr hf)]

/-- A JSON response conveys the fault in its body, and whichever form the fault has there, the same
is known but for the details. A body without a fault says nothing. -/
theorem conveys_of_isJson (hjson : IsJson r) (method url : String) :
    (∀ fault, Shows r fault → Conveys r fault (ofResponse r method url)) ∧
    (∀ fault body, Shows r fault → Shows { r with body } fault →
      { ofResponse r method url with details := none } =
        { ofResponse { r with body } method url with details := none }) ∧
    ((∀ fault, ¬Shows r fault) →
      (ofResponse r method url).message = (StatusKind.ofStatus r.status).message ∧
        (ofResponse r method url).details = none) := by
  have hresponse := ofResponse_of_isJson hjson method url
  refine ⟨?_, ?_, ?_⟩
  · intro fault hshows
    rw [hresponse, addJson_of_shows hshows]
    constructor
    case message => exact ⟨_, firstSaid_or fault "message" "faultstring", rfl⟩
    case details => exact ⟨_, firstSaid_or fault "details" "debuginfo", rfl⟩
  · intro fault body hshows hshows'
    rw [hresponse, addJson_of_shows hshows,
      ofResponse_of_isJson (r := { r with body }) hjson, addJson_of_shows hshows']
    rfl
  · intro hnone
    rw [hresponse, addJson_of_not_shows hnone]
    exact ⟨rfl, rfl⟩

end Response

section Samples

/-- A fault of an older service. -/
def nodeNotFound : Members := [("debuginfo", .null), ("faultstring", .string "No such node")]

/-- The object of the fault. -/
def notFoundObject : String :=
  "\x7b\"error\":\x7b\"faultstring\":\"No such node\",\"debuginfo\":null\x7d\x7d"

/-- The fault as a text. -/
def notFoundText : String :=
  "\x7b\"error_message\":\"\x7b\\\"faultstring\\\":\\\"No such node\\\"," ++
    "\\\"debuginfo\\\":null\x7d\"\x7d"

/-- A response with the body. -/
def notFound (body : String) : Response :=
  ⟨404, Headers.empty.insert "content-type" ⟨Utf8.encode "Application/JSON; charset=utf-8", false⟩,
    Utf8.encode body⟩

theorem text_notFound (body : String) : Utf8.decodeLossy (notFound body).body = body :=
  Utf8.decodeLossy_of_decode (Utf8.decode?_encode body)

theorem shows_notFoundObject : Shows (notFound notFoundObject) nodeNotFound := by
  refine ⟨.object [("error", .object nodeNotFound)], ?_, .object _ _⟩
  rw [text_notFound]
  rfl

theorem shows_notFoundText : Shows (notFound notFoundText) nodeNotFound := by
  let text := "\x7b\"faultstring\":\"No such node\",\"debuginfo\":null\x7d"
  refine ⟨.object [("error_message", .string text)], ?_, .text _ rfl⟩
  rw [text_notFound]
  rfl

theorem isJson_notFound (body : String) : IsJson (notFound body) := by
  refine ⟨"Application/JSON; charset=utf-8", "Application/".toList, "JSON".toList,
    "; charset=utf-8".toList, ?_, by decide, by decide⟩
  rfl

theorem not_shows_emptyList (fault : Members) : ¬Shows (notFound "[]") fault := by
  rintro ⟨value, hparse, hencloses⟩
  rw [text_notFound] at hparse
  cases (show some (Json.Value.array []) = some value from hparse)
  cases hencloses

/-- The object and the text say the same, and each of them is in the details as a whole. -/
theorem conveys_notFound :
    IsJson (notFound notFoundObject) ∧ IsJson (notFound "[]") ∧
    Shows (notFound notFoundObject) nodeNotFound ∧ Shows (notFound notFoundText) nodeNotFound ∧
    let object := ofResponse (notFound notFoundObject) "GET" "/v1/nodes/a"
    let text := ofResponse (notFound notFoundText) "GET" "/v1/nodes/a"
    let empty := ofResponse (notFound "[]") "GET" "/v1/nodes/a"
    Conveys (notFound notFoundObject) nodeNotFound object ∧
    { object with details := none } = { text with details := none } ∧
    object.message = "No such node" ∧ object.details = some notFoundObject ∧
    text.message = "No such node" ∧ text.details = some notFoundText ∧
    empty.message = (StatusKind.ofStatus 404).message ∧ empty.details = none := by
  have hobject := shows_notFoundObject
  have htext := shows_notFoundText
  obtain ⟨hconveys, hsame, -⟩ :=
    conveys_of_isJson (isJson_notFound notFoundObject) "GET" "/v1/nodes/a"
  obtain ⟨-, -, hempty⟩ := conveys_of_isJson (isJson_notFound "[]") "GET" "/v1/nodes/a"
  refine ⟨isJson_notFound _, isJson_notFound _, hobject, htext, hconveys _ hobject,
    hsame _ _ hobject htext, ?_, ?_, ?_, ?_, hempty not_shows_emptyList⟩
  · rfl
  · rfl
  · rfl
  · rfl

end Samples

end Microversion.Fault
