import Microversion.Proofs.Client.Dialogue
import Microversion.Proofs.Resource.Paging
import Microversion.Proofs.Url.Segment

/-! # Which item an operation is about

The identifier of an item stands in the target of an operation as it was given. So the
request goes to the item if the identifier has no mark of its own in a URL, and else to
something that is not the item.
-/

namespace Microversion

namespace Resource

open Client Http

/-- The identifier of the item that the operation is about. -/
def Operation.id? : Operation → Option String
  | .get id => some id
  | .create _ => none
  | .update id _ => some id
  | .delete id => some id

/-- The path of a collection without its first slash. -/
def collectionPath (kind : Kind) : List Char := "v1/".toList ++ kind.path.toList

/-- The URL is the one of the item: the path of the collection and one segment more, which stands
for the identifier. -/
def IsItem (kind : Kind) (id : String) (u : Url) : Prop :=
  u.EndsIn ('/' :: collectionPath kind) id.toList

/-- Where a request for an item goes: to the server, and there to the item and to no other exactly
if the identifier is unmarked. -/
structure Addresses (base : Url) (kind : Kind) (id : String) (u : Url) : Prop where
  scheme : u.scheme = base.scheme
  authority : u.authority = base.authority
  item : IsItem kind id u ↔ Url.IsUnmarked id.toList
  only : IsItem kind id u → ∀ kind' id', IsItem kind' id' u → kind' = kind ∧ id' = id

section Items

variable {kind kind' : Kind} {id id' : String} {u : Url}

theorem toList_itemTarget (kind : Kind) (id : String) :
    (itemTarget kind id).toList = '/' :: (collectionPath kind ++ '/' :: id.toList) := by
  simp only [itemTarget, collectionTarget, collectionPath, String.toList_append, List.append_assoc]
  rfl

theorem path_injective (h : kind.path = kind'.path) : kind = kind' := by
  revert h
  cases kind <;> cases kind' <;> decide

/-- A URL is that of one item at most. -/
theorem IsItem.unique (h : IsItem kind id u) (h' : IsItem kind' id' u) :
    kind' = kind ∧ id' = id := by
  obtain ⟨-, -, seg, hseg, hchars, hdecode⟩ := h
  obtain ⟨-, -, seg', hseg', hchars', hdecode'⟩ := h'
  have hlast := congrArg (Text.splitLast? '/') (hchars'.symm.trans hchars)
  rw [Text.splitLast?_append _ hseg', Text.splitLast?_append _ hseg, Option.some.injEq,
    Prod.mk.injEq, List.cons.injEq, collectionPath, collectionPath, List.append_cancel_left_eq,
    String.toList_inj] at hlast
  obtain ⟨⟨-, hpath⟩, rfl⟩ := hlast
  exact ⟨path_injective hpath,
    String.toList_inj.mp (Utf8.bytesOf_inj.mp (hdecode'.symm.trans hdecode))⟩

end Items

section Reading

variable {text scheme : List Char} {a : Url.Authority}

/-- The characters of a collection's path stay as they are and make no query and no fragment. -/
theorem plain_collectionPath (kind : Kind) :
    Url.unbroken (collectionPath kind) = collectionPath kind ∧
      ∀ c ∈ collectionPath kind, (c != '?' && c != '#') = true := by
  constructor
  · cases kind <;> decide
  · apply List.all_eq_true.mp
    cases kind <;> decide

theorem segments_collectionPath (kind : Kind) :
    (Url.closeInner [] (Text.splitAll '/' ((collectionPath kind).map fun c =>
      if Url.isSlash .special c then '/' else c))).reverse.flatMap ('/' :: ·) =
        '/' :: collectionPath kind := by
  cases kind <;> decide

/-- What is left of an identifier is read below the directories of its collection. -/
theorem exists_read (h : Url.IsBase text scheme a []) (kind : Kind) (id : String) :
    ∃ dirs, dirs.reverse.flatMap ('/' :: ·) = '/' :: collectionPath kind ∧
      Url.parseChars none (text ++ (itemTarget kind id).toList) =
        .ok (Url.below scheme a dirs (Url.unbroken (Text.dropEndWhile Url.isEdge id.toList))) := by
  obtain ⟨hunbroken, hmark⟩ := plain_collectionPath kind
  have hslash : Url.isBreak '/' = false := by decide
  refine ⟨_, segments_collectionPath kind, ?_⟩
  rw [toList_itemTarget, h.reads, Url.dropEndWhile_append_slash, Url.unbroken_append,
    Url.unbroken_cons, hslash, if_neg Bool.false_ne_true, hunbroken, Url.below_append hmark]

end Reading

section Addressing

variable {s : Settings} {found : Except Error (Option String)} {shared : Option Cache} {now : Nat}
  {fs : Storage.FileSystem} {c : Client} {base : Url} {op : Operation} {kind : Kind} {id : String}
  {version : Option String} {o : Order}

theorem Operation.target_of_order (h : op.order kind version = .ok o) (hid : op.id? = some id) :
    o.target = itemTarget kind id := by
  unfold Operation.order at h
  cases hheaders : versionHeaders version with
  | error e =>
    rw [hheaders] at h
    cases h
  | ok headers =>
    rw [hheaders] at h
    cases h
    cases op <;> cases hid <;> rfl

/-- A URL with a path of its own has the same server and the item's path in the place of its. -/
theorem addresses_of_isBase {text : List Char} {a : Url.Authority}
    (h : Url.IsBase text base.scheme a []) (ha : base.authority = some a) (hid : id ≠ "")
    (kind : Kind) :
    ∃ u, Url.parseChars none (text ++ (itemTarget kind id).toList) = .ok u ∧
      Addresses base kind id u := by
  obtain ⟨dirs, hdirs, hread⟩ := exists_read h kind id
  refine ⟨_, hread, rfl, ha.symm, ⟨?_, ?_⟩, ?_⟩
  · exact Url.isUnmarked_of_endsIn fun hnil => hid (String.toList_eq_nil_iff.mp hnil)
  · intro hunmarked
    unfold IsItem
    rw [← hdirs]
    exact Url.endsIn_of_isUnmarked hunmarked
  · intro hitem kind' id' hitem'
    exact hitem.unique hitem'

/-- An operation on an item sends its request, until it is redirected, to the server of the endpoint
and there to the item with the identifier exactly if that is unmarked. -/
theorem addresses_of_run (h : build s found shared now fs = .ok c)
    (hbase : Url.parse (c.endpoint ++ "/") = .ok base) (hkind : base.kind = .special)
    (hpath : base.path = .rooted [[]]) (hquery : base.query = none)
    (hfragment : base.fragment = none) (horder : op.order kind version = .ok o)
    (hid : op.id? = some id) (hne : id ≠ "") {es : List Event} {s' : System} {k : Nat} {t : Task}
    (hrun : System.run c (.idle c.start) es = some s') (ht : s'.tasks[k]? = some t)
    (hj : t.job = .send o) (a : UInt32) (before after : List Utterance) (r : Request)
    (hsent : exchanges k a (System.history c (.idle c.start) es) = before ++ .sent r :: after)
    (hbefore : ∀ u ∈ before, u.isRedirect = false) (endpoint : Option String) :
    ∃ url u, Session.resolve endpoint r = .ok url ∧ Url.parse url = .ok u ∧
      Addresses base kind id u := by
  obtain ⟨url, -, hurl⟩ := (built_of_build h).exists_url
  have htrim : Endpoint.dropSlashes c.endpoint.toList = c.endpoint.toList :=
    hurl ▸ Endpoint.dropSlashes_trim url
  have hslash : (c.endpoint ++ "/").toList = c.endpoint.toList ++ ['/'] := String.toList_append
  rw [Url.parse, hslash] at hbase
  obtain ⟨authority, dirs, hbelow, hdirs⟩ := Url.exists_isBase hbase hkind hquery hfragment
  obtain rfl : dirs = [] := by
    rw [hpath, Url.Path.rooted.injEq] at hdirs
    exact List.reverse_eq_nil_iff.mp (List.append_left_eq_self.mp hdirs.symm)
  obtain ⟨u, hu, haddresses⟩ := addresses_of_isBase hbelow (hbelow.authority_eq hbase) hne kind
  obtain ⟨⟨x, hrequest⟩, -⟩ := System.prompts_of_run hrun ht hj hsent
  have htarget : r.target = itemTarget kind id :=
    (target_eq_of_not_isRedirect (fun _ _ _ hx => (System.prompts_of_run hrun ht hj hx).2) hsent
      hbefore).trans (Operation.target_of_order horder hid)
  have hchars : r.target.toList = '/' :: (collectionPath kind ++ '/' :: id.toList) := by
    rw [htarget, toList_itemTarget]
  have hendpoint : r.base = some c.endpoint := hrequest ▸ rfl
  refine ⟨_, u, resolve_of_slash hchars hendpoint endpoint, ?_, haddresses⟩
  rw [Url.parse, Endpoint.toList_join htrim hchars, ← toList_itemTarget]
  exact hu

section Samples

/-- A client of an endpoint without a path. -/
def rootClient : Client := pagingClient "http://ironic:6385"

/-- What the only call of the client sends in its first attempt. -/
def firstSent (o : Order) : List Utterance :=
  exchanges 0 1 (System.history rootClient (.idle rootClient.start) [.call none (.send o)])

/-- An identifier with a blank, letters beyond ASCII and a percent sign that no digits follow. -/
def oddId : String := "50% größer"

theorem isUnmarked_oddId : Url.IsUnmarked oddId.toList := by
  have hall : oddId.toList.all (fun c => !Url.isAnySlash c && (c != '?' && c != '#') &&
      !Url.isBreak c) = true := by decide
  have hchars : ∀ c ∈ oddId.toList,
      (Url.isAnySlash c = false ∧ c ≠ '?' ∧ c ≠ '#') ∧ Url.isBreak c = false := by
    simpa using hall
  constructor
  case slash => exact fun c hc => (hchars c hc).1.1
  case mark => exact fun c hc => (hchars c hc).1.2
  case unbroken => exact fun c hc => (hchars c hc).2
  case last =>
    rintro c ⟨⟩
    decide
  case escape => exact Url.decodePercent_eq_bytesOf_iff.mp (by decide)
  case dots => decide

theorem addresses_of_oddId :
    build (pagingSettings "http://ironic:6385/v1/") (.ok none) none 0 .empty = .ok rootClient ∧
      (Operation.update oddId (.array [])).id? = some oddId ∧ oddId ≠ "" ∧
      ∃ base o s t r u, Url.parse (rootClient.endpoint ++ "/") = .ok base ∧ base.kind = .special ∧
        base.path = .rooted [[]] ∧ base.query = none ∧ base.fragment = none ∧
        (Operation.update oddId (.array [])).order .volumeConnector (some "1.50") = .ok o ∧
        System.run rootClient (.idle rootClient.start) [.call none (.send o)] = some s ∧
        s.tasks[0]? = some t ∧ t.job = .send o ∧ firstSent o = [.sent r] ∧
        Session.resolve none r = .ok "http://ironic:6385/v1/volume/connectors/50% größer" ∧
        Url.parse "http://ironic:6385/v1/volume/connectors/50% größer" = .ok u ∧
        u.authority = base.authority ∧ IsItem .volumeConnector oddId u := by
  have hb : build (pagingSettings "http://ironic:6385/v1/") (.ok none) none 0 .empty =
      .ok rootClient := rfl
  have hbase : Url.parse (rootClient.endpoint ++ "/") = .ok ⟨"http".toList,
      some ⟨[], none, .domain "ironic".toList, some 6385⟩, .rooted [[]], none, none⟩ := by
    decide +kernel
  have hne : oddId ≠ "" := by decide
  obtain ⟨o, ho, s, hs, t, ht, hj, r, hr, hresolve⟩ :
      ∃ o, (Operation.update oddId (.array [])).order .volumeConnector (some "1.50") = .ok o ∧
      ∃ s, System.run rootClient (.idle rootClient.start) [.call none (.send o)] = some s ∧
      ∃ t, s.tasks[0]? = some t ∧ t.job = .send o ∧
      ∃ r, firstSent o = [.sent r] ∧
        Session.resolve none r = .ok "http://ironic:6385/v1/volume/connectors/50% größer" :=
    ⟨_, rfl, _, rfl, _, rfl, rfl, _, rfl, rfl⟩
  obtain ⟨url, u, hurl, hu, haddresses⟩ := addresses_of_run hb hbase rfl rfl rfl rfl ho rfl
    hne hs ht hj 1 [] [] r hr (by simp) none
  rw [hresolve, Except.ok.injEq] at hurl
  subst hurl
  exact ⟨hb, rfl, hne, _, o, s, t, r, u, hbase, rfl, rfl, rfl, rfl, ho, hs, ht, hj, hr, hresolve,
    hu, haddresses.authority, haddresses.item.mpr isUnmarked_oddId⟩

/-- An identifier with points in it leads to an item of another collection. -/
theorem not_isItem_of_points :
    ∃ o r u, (Operation.delete "../ports/p1").order .node none = .ok o ∧ firstSent o = [.sent r] ∧
      Session.resolve none r = .ok "http://ironic:6385/v1/nodes/../ports/p1" ∧
      Url.parse "http://ironic:6385/v1/nodes/../ports/p1" = .ok u ∧
      IsItem .port "p1" u ∧ ¬IsItem .node "../ports/p1" u := by
  have hu : Url.parse "http://ironic:6385/v1/nodes/../ports/p1" = .ok ⟨"http".toList,
      some ⟨[], none, .domain "ironic".toList, some 6385⟩,
      .rooted ["v1".toList, "ports".toList, "p1".toList], none, none⟩ := by decide +kernel
  have hport : IsItem .port "p1" ⟨"http".toList,
      some ⟨[], none, .domain "ironic".toList, some 6385⟩,
      .rooted ["v1".toList, "ports".toList, "p1".toList], none, none⟩ :=
    ⟨rfl, rfl, "p1".toList, by decide, by decide, by decide⟩
  refine ⟨_, _, _, rfl, rfl, rfl, hu, hport, ?_⟩
  intro hnode
  exact absurd (hport.unique hnode).1 (by decide)

end Samples

end Addressing

end Resource

end Microversion
