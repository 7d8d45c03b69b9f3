import Microversion.Proofs.Client.Additional
import Microversion.Proofs.Table

/-! # Headers of many spellings

The headers of the settings are collected by the spellings of their names, of which
the last value stays, and are put into fields in the order of the spellings. So a field
has the last value of the greatest spelling, which need not be the last value given.
-/

namespace Microversion.Client

open Http Headers

/-- The headers that a setting gives. -/
def Setting.headers : Setting → List (String × String)
  | .header name value => [(name, value)]
  | .config c => c.headers
  | _ => []

/-- The headers that settings give one after the other. -/
def given (settings : List Setting) : List (String × String) := settings.flatMap Setting.headers

theorem headers_apply (s : Settings) (setting : Setting) :
    (s.apply setting).headers = s.headers.extend setting.headers := by
  cases setting <;> rfl

theorem headers_ofList (settings : List Setting) :
    (Settings.ofList settings).headers = Table.ofList (given settings) := by
  have hfold : ∀ s : Settings,
      (settings.foldl Settings.apply s).headers = s.headers.extend (given settings) := by
    induction settings with
    | nil => exact fun s => rfl
    | cons setting settings ih =>
      intro s
      rw [List.foldl_cons, ih, headers_apply]
      exact List.foldl_append.symm
  exact hfold .initial

/-! ## Fields -/

section Fields

variable {hs hs' : Headers} {name key value : String} {w : HeaderValue} {es : Table String}

/-- The text is the name of the field, in whatever case. -/
def spells (name key : String) : Bool := headerName? key == some name

theorem spells_iff : spells name key = true ↔ headerName? key = some name := beq_iff_eq

theorem eq_plainValue_of_headerValue (h : headerValue value = .ok w) : w = plainValue value := by
  unfold headerValue at h
  split at h
  · next v hv =>
    cases h
    unfold HeaderValue.ofText? HeaderValue.ofBytes? at hv
    split at hv
    · exact (Option.some.inj hv).symm
    · cases hv
  · cases h

theorem plainValue_injective : Function.Injective plainValue := by
  intro value value' h
  exact Utf8.encode_inj.mp (congrArg HeaderValue.bytes h)

theorem headerValue_eq_of_foldlM (h : es.foldlM addField hs = .ok hs') {e : String × String}
    (he : e ∈ es) : headerValue e.2 = .ok (plainValue e.2) := by
  induction es generalizing hs with
  | nil => cases he
  | cons f es ih =>
    rw [List.foldlM_cons] at h
    obtain ⟨middle, hmiddle, h⟩ := exists_of_bind h
    rcases List.mem_cons.mp he with rfl | he
    · obtain ⟨-, w, -, hw, -⟩ := exists_of_addField hmiddle
      rw [hw, eq_plainValue_of_headerValue hw]
    · exact ih h he

theorem ne_of_last?_eq_none (h : Table.last? (spells name) es = none) :
    ∀ e ∈ es, headerName? e.1 ≠ some name := by
  intro e he hname
  exact Table.last?_ne_none he (spells_iff.mpr hname) h

end Fields

/-! ## The surviving value -/

section Surviving

variable {s : Settings} {settings : List Setting} {found : Except Error (Option String)}
  {shared : Option Cache} {now : Nat} {fs : Storage.FileSystem} {c : Client}
  {name key value : String}

theorem foldlM_addField_of_build (h : build s found shared now fs = .ok c) :
    s.headers.foldlM addField .empty = .ok c.additional := by
  rw [← headerFields_eq]
  exact additional_of_build h

theorem values_of_none (h : build s found shared now fs = .ok c)
    (hnone : Table.last? (spells name) s.headers = none) : c.additional.values name = [] :=
  values_foldlM_addField _ (foldlM_addField_of_build h) (ne_of_last?_eq_none hnone)

theorem values_of_last? (h : build s found shared now fs = .ok c)
    (hlast : Table.last? (spells name) s.headers = some (key, value)) :
    c.additional.values name = [plainValue value] := by
  obtain ⟨hspells, before, after, hentries, hafter⟩ := Table.exists_of_last? hlast
  apply values_additional_of_build h
  refine ⟨before, key, value, after, hentries, spells_iff.mp hspells, ?_, ?_⟩
  · exact headerValue_eq_of_foldlM (foldlM_addField_of_build h) (Table.mem_of_last? hlast)
  · exact ne_of_last?_eq_none hafter

/-- What becomes of headers given one after the other: a field has the last value of the greatest
spelling of its name, which is the last value of all if that was given under this spelling. -/
structure Keeps (es : List (String × String)) (name : String) (hs : Headers) : Prop where
  absent : Table.last? (spells name) es = none → hs.values name = []
  kept : ∀ e, Table.last? (spells name) es = some e →
    ∃ key value, Table.Survives (spells name) es key value ∧ hs.values name = [plainValue value]
  last : ∀ e, Table.last? (spells name) es = some e →
    (∀ other ∈ es, spells name other.1 = true → other.1 ≤ e.1) →
      hs.values name = [plainValue e.2]
  /-- The last value stands only if it is the one of the greatest spelling. -/
  differs : ∀ e key value, Table.last? (spells name) es = some e →
    Table.Survives (spells name) es key value →
      (hs.values name = [plainValue e.2] ↔ e.2 = value)

/-- The headers of settings are collected, and of several spellings the greatest one counts. -/
theorem keeps_of_build (h : build (.ofList settings) found shared now fs = .ok c) (name : String) :
    Keeps (given settings) name c.additional := by
  have hkept : ∀ e, Table.last? (spells name) (given settings) = some e →
      ∃ key value, Table.Survives (spells name) (given settings) key value ∧
        c.additional.values name = [plainValue value] := by
    intro e he
    cases hlast : Table.last? (spells name) (Settings.ofList settings).headers with
    | none =>
      rw [headers_ofList, Table.last?_ofList_eq_none_iff, he] at hlast
      cases hlast
    | some kept =>
      obtain ⟨key, value⟩ := kept
      have hvalues := values_of_last? h hlast
      rw [headers_ofList] at hlast
      exact ⟨key, value, Table.survives_of_last? hlast, hvalues⟩
  constructor
  case absent =>
    intro hnone
    apply values_of_none h
    rw [headers_ofList, Table.last?_ofList_eq_none_iff, hnone]
  case kept => exact hkept
  case last =>
    intro e he hgreatest
    obtain ⟨key, value, hsurvives, hvalues⟩ := hkept e he
    rw [hvalues, ((Table.survives_of_greatest he hgreatest).unique hsurvives).2]
  case differs =>
    intro e key value he hsurvives
    obtain ⟨key', value', hsurvives', hvalues⟩ := hkept e he
    obtain ⟨rfl, rfl⟩ := hsurvives.unique hsurvives'
    rw [hvalues, List.singleton_inj, plainValue_injective.eq_iff, eq_comm]

/-- A team that is named in three settings. -/
def thriceNamed : List Setting :=
  [.endpoint "http://ironic:6385", .withoutCache, .header "X-Team" "green",
    .header "x-team" "red", .config { Config.empty with headers := [("x-team", "blue")] }]

/-- A team that is named in two spellings, of which the one in capitals comes first in order. -/
def twiceSpelled : List Setting :=
  [.endpoint "http://ironic:6385", .withoutCache, .header "x-team" "red",
    .header "X-Team" "blue"]

/-- The client of a team. -/
def clientOf (team : String) : Client :=
  ⟨"http://ironic:6385", .default, .resolved .unset, ⟨[("x-team", plainValue team)]⟩, none, none,
    none, ⟨.pinned .initial, .default⟩⟩

theorem keeps_thriceNamed :
    build (.ofList thriceNamed) (.ok none) none 0 .empty = .ok (clientOf "blue") ∧
      Table.last? (spells "x-team") (given thriceNamed) = some ("x-team", "blue") ∧
      (clientOf "blue").additional.values "x-team" = [plainValue "blue"] := by
  have hb : build (.ofList thriceNamed) (.ok none) none 0 .empty = .ok (clientOf "blue") := rfl
  have hlast : Table.last? (spells "x-team") (given thriceNamed) = some ("x-team", "blue") := rfl
  refine ⟨hb, hlast, (keeps_of_build hb "x-team").last _ hlast ?_⟩
  decide

/-- Blue is given last, and the client is one of red. -/
theorem keeps_twiceSpelled :
    build (.ofList twiceSpelled) (.ok none) none 0 .empty = .ok (clientOf "red") ∧
      Table.last? (spells "x-team") (given twiceSpelled) = some ("X-Team", "blue") ∧
      (clientOf "red").additional.values "x-team" ≠ [plainValue "blue"] :=
  ⟨rfl, rfl, by decide⟩

end Surviving

end Microversion.Client
