import Mathlib.Data.List.Basic
import Microversion.Proofs.Domain.AsciiForm
import Microversion.Proofs.Text.Pieces
import Microversion.Proofs.Url.Authority

/-! # The texts of hosts

The host of a special scheme is known by its text: a domain is not written like an
address, and two addresses are not written alike, although zeros are left out of them.
-/

namespace Microversion

namespace Text

section Digits

variable {b m n : ℕ} {c : Char}

theorem exists_of_mem_toDigits (hb : 1 < b) (h : c ∈ Nat.toDigits b n) :
    ∃ d < b, c = Nat.digitChar d := by
  induction n using Nat.strongRecOn with
  | ind n ih =>
    by_cases hn : n < b
    · rw [Nat.toDigits_of_lt_base hn, List.mem_singleton] at h
      exact ⟨n, hn, h⟩
    · rw [Nat.toDigits_of_base_le hb (Nat.not_lt.mp hn), List.mem_append, List.mem_singleton] at h
      rcases h with h | h
      · exact ih (n / b) (Nat.div_lt_self (by omega) hb) h
      · exact ⟨n % b, Nat.mod_lt n (by omega), h⟩

theorem digitChar_injOn (hm : m < 16) (hn : n < 16) (h : Nat.digitChar m = Nat.digitChar n) :
    m = n := by
  have hall : ∀ m < 16, ∀ n < 16, Nat.digitChar m = Nat.digitChar n → m = n := by decide
  exact hall m hm n hn h

theorem lt_base_iff (hb : 1 < b) : n < b ↔ (Nat.toDigits b n).length ≤ 1 := by
  rw [Nat.length_toDigits_le_iff hb Nat.one_pos, Nat.pow_one]

/-- A number is known by its digits in any base up to sixteen. -/
theorem toDigits_injective (hb : 1 < b) (hle : b ≤ 16) : Function.Injective (Nat.toDigits b) := by
  intro m n h
  induction m using Nat.strongRecOn generalizing n with
  | ind m ih =>
    have hiff : m < b ↔ n < b := by rw [lt_base_iff hb, lt_base_iff hb, h]
    by_cases hm : m < b
    · have hn : n < b := hiff.mp hm
      rw [Nat.toDigits_of_lt_base hm, Nat.toDigits_of_lt_base hn, List.cons.injEq] at h
      exact digitChar_injOn (by omega) (by omega) h.1
    · have hn : ¬n < b := mt hiff.mpr hm
      rw [Nat.toDigits_of_base_le hb (Nat.not_lt.mp hm),
        Nat.toDigits_of_base_le hb (Nat.not_lt.mp hn)] at h
      obtain ⟨hfront, hlast⟩ := List.append_inj' h rfl
      have hdiv : m / b = n / b := ih (m / b) (Nat.div_lt_self (by omega) hb) hfront
      have hmod : m % b = n % b :=
        digitChar_injOn (Nat.lt_of_lt_of_le (Nat.mod_lt m (by omega)) hle)
          (Nat.lt_of_lt_of_le (Nat.mod_lt n (by omega)) hle) (List.cons.inj hlast).1
      calc m = b * (m / b) + m % b := (Nat.div_add_mod m b).symm
        _ = b * (n / b) + n % b := by rw [hdiv, hmod]
        _ = n := Nat.div_add_mod n b

theorem decimal_injective : Function.Injective decimal :=
  toDigits_injective (by decide) (by decide)

end Digits

end Text

namespace Url

/-! ## IPv4 addresses -/

section Ipv4

variable {a b : ℕ}

/-- The four numbers of an address. -/
def ipv4Bytes (address : ℕ) : List ℕ :=
  [address / 0x1000000, address / 0x10000 % 256, address / 256 % 256, address % 256]

theorem splitAll_ipv4Chars (a : ℕ) :
    Text.splitAll '.' (ipv4Chars a) = (ipv4Bytes a).map Text.decimal := by
  refine Text.splitAll_joinWith (List.cons_ne_nil _ _) ?_
  intro piece hpiece hpoint
  obtain ⟨n, -, rfl⟩ := List.mem_map.mp hpiece
  exact absurd (Text.isDigit_of_mem_decimal hpoint) (by decide)

theorem ipv4Chars_injective : Function.Injective ipv4Chars := by
  intro a b h
  have hpieces := congrArg (Text.splitAll '.') h
  rw [splitAll_ipv4Chars, splitAll_ipv4Chars] at hpieces
  have hbytes := List.map_injective_iff.mpr Text.decimal_injective hpieces
  simp only [ipv4Bytes, List.cons.injEq] at hbytes
  omega

/-- What ends in a number is read as an address. -/
theorem endsInNumber_ipv4Chars (a : ℕ) : endsInNumber (ipv4Chars a) = true := by
  have hparts : ipv4Parts (ipv4Chars a) = (ipv4Bytes a).map Text.decimal := by
    have hlast : (Text.splitAll '.' (ipv4Chars a)).getLast? ≠ some [] := by
      rw [splitAll_ipv4Chars]
      exact fun h => Text.decimal_ne_nil _ (Option.some.inj h)
    rw [ipv4Parts, if_neg fun h => hlast h.2, splitAll_ipv4Chars]
  have hdigits : (Text.decimal (a % 256)).all Char.isDigit = true :=
    List.all_eq_true.mpr fun c hc => Text.isDigit_of_mem_decimal hc
  have hne : (Text.decimal (a % 256)).isEmpty = false :=
    List.isEmpty_eq_false_iff.mpr (Text.decimal_ne_nil _)
  rw [endsInNumber, hparts]
  show (!(Text.decimal (a % 256)).isEmpty && (Text.decimal (a % 256)).all Char.isDigit ||
    (ipv4Part? (Text.decimal (a % 256))).isSome) = true
  rw [hdigits, hne]
  rfl

theorem head?_ipv4Chars_ne_bracket (a : ℕ) : (ipv4Chars a).head? ≠ some '[' := by
  have hhead : (ipv4Chars a).head? = (Text.decimal (a / 0x1000000)).head? := by
    show (Text.decimal (a / 0x1000000) ++ ['.'] ++ _).head? = _
    rw [List.append_assoc, List.head?_append_of_ne_nil _ (Text.decimal_ne_nil _)]
  rw [hhead]
  intro h
  exact absurd (Text.isDigit_of_mem_decimal (List.mem_of_head? h)) (by decide)

end Ipv4

/-! ## IPv6 addresses -/

section Ipv6

variable {pieces qs ns : List ℕ}

/-- The hexadecimal digits of a piece. -/
def hexChars (n : ℕ) : List Char := Nat.toDigits 16 n

theorem hexChars_injective : Function.Injective hexChars :=
  Text.toDigits_injective (by decide) (by decide)

theorem hexChars_ne_nil (n : ℕ) : hexChars n ≠ [] := Nat.toDigits_ne_nil

theorem colon_not_mem_hexChars (n : ℕ) : ':' ∉ hexChars n := by
  intro h
  obtain ⟨d, hd, hcolon⟩ := Text.exists_of_mem_toDigits (by decide) h
  have hall : ∀ d < 16, ':' ≠ Nat.digitChar d := by decide
  exact hall d hd hcolon

/-- A run of zeros that is found stands where it is said to stand. -/
theorem exists_of_longestRun (i : ℕ) (ns : List ℕ) (h : 0 < (longestRun i ns).2) :
    ∃ before after, ns = before ++ (List.replicate (longestRun i ns).2 0 ++ after) ∧
      (longestRun i ns).1 = i + before.length := by
  induction ns generalizing i with
  | nil => cases h
  | cons n ns ih =>
    rw [longestRun] at h ⊢
    dsimp only at h ⊢
    split at h
    · next hle =>
      rw [if_pos hle]
      have hzeros : (n :: ns).takeWhile (· == 0) = List.replicate (zeroRun (n :: ns)) 0 := by
        refine List.eq_replicate_of_mem fun m hm => ?_
        have hzero := List.mem_takeWhile_imp hm
        exact beq_iff_eq.mp hzero
      refine ⟨[], (n :: ns).dropWhile (· == 0), ?_, rfl⟩
      rw [← hzeros, List.nil_append, List.takeWhile_append_dropWhile]
    · next hlt =>
      rw [if_neg hlt]
      obtain ⟨before, after, hns, hstart⟩ := ih (i + 1) h
      refine ⟨n :: before, after, ?_, ?_⟩
      · rw [List.cons_append, ← hns]
      · rw [hstart, List.length_cons]
        omega

/-- The groups between colons. -/
def colonGroups (ns : List ℕ) : List Char := Text.joinWith [':'] (ns.map hexChars)

theorem ipv6Chars_eq (pieces : List ℕ) :
    ipv6Chars pieces = if (longestRun 0 pieces).2 < 2 then colonGroups pieces
      else colonGroups (pieces.take (longestRun 0 pieces).1) ++ ':' :: ':' ::
        colonGroups (pieces.drop ((longestRun 0 pieces).1 + (longestRun 0 pieces).2)) := rfl

/-- The pieces of the groups; without any there is still an empty piece. -/
theorem splitAll_colonGroups (ns : List ℕ) :
    Text.splitAll ':' (colonGroups ns) = if ns = [] then [[]] else ns.map hexChars := by
  split
  · next h =>
    subst h
    rfl
  · next h =>
    refine Text.splitAll_joinWith (by simpa using h) ?_
    intro piece hpiece
    obtain ⟨n, -, rfl⟩ := List.mem_map.mp hpiece
    exact colon_not_mem_hexChars n

/-- What the text of an address says: the groups before the gap and those after it. -/
def sides (cs : List Char) : List (List Char) × List (List Char) :=
  ((Text.splitAll ':' cs).takeWhile (!·.isEmpty),
    ((Text.splitAll ':' cs).dropWhile (!·.isEmpty)).filter (!·.isEmpty))

theorem isEmpty_hexChars (ns : List ℕ) : ∀ cs ∈ ns.map hexChars, (!cs.isEmpty) = true := by
  intro cs hcs
  obtain ⟨n, -, rfl⟩ := List.mem_map.mp hcs
  simpa using hexChars_ne_nil n

theorem sides_colonGroups (hne : ns ≠ []) : sides (colonGroups ns) = (ns.map hexChars, []) := by
  unfold sides
  rw [splitAll_colonGroups, if_neg hne, List.takeWhile_eq_self_iff.mpr (isEmpty_hexChars ns),
    List.dropWhile_eq_nil_iff.mpr (isEmpty_hexChars ns), List.filter_nil]

theorem sides_gap (ns ms : List ℕ) :
    sides (colonGroups ns ++ ':' :: ':' :: colonGroups ms) =
      (ns.map hexChars, ms.map hexChars) := by
  have hgap : Text.splitAll ':' (colonGroups ns ++ ':' :: ':' :: colonGroups ms) =
      Text.splitAll ':' (colonGroups ns) ++ [] :: Text.splitAll ':' (colonGroups ms) := by
    rw [Text.splitAll_append]
    rfl
  have hafter : (Text.splitAll ':' (colonGroups ms)).filter (!·.isEmpty) = ms.map hexChars := by
    rw [splitAll_colonGroups]
    split
    · next h =>
      subst h
      rfl
    · exact List.filter_eq_self.mpr (isEmpty_hexChars ms)
  unfold sides
  rw [hgap, splitAll_colonGroups ns]
  split
  · next h =>
    subst h
    simp [hafter]
  · rw [List.takeWhile_append_of_pos (isEmpty_hexChars ns),
      List.dropWhile_append_of_pos (isEmpty_hexChars ns)]
    simp [hafter]

/-- The text of an address has the groups on both sides of the zeros that it leaves out. -/
theorem exists_sides (h : pieces.length = 8) :
    ∃ before after,
      pieces = before ++ (List.replicate (8 - (before.length + after.length)) 0 ++ after) ∧
      sides (ipv6Chars pieces) = (before.map hexChars, after.map hexChars) := by
  rw [ipv6Chars_eq]
  split
  · refine ⟨pieces, [], ?_, sides_colonGroups ?_⟩
    · simp [h]
    · rintro rfl
      cases h
  · next hrun =>
    obtain ⟨before, after, hpieces, hstart⟩ := exists_of_longestRun 0 pieces (by omega)
    rw [Nat.zero_add] at hstart
    generalize (longestRun 0 pieces).2 = length at hpieces hrun
    generalize (longestRun 0 pieces).1 = start at hstart
    subst hpieces hstart
    refine ⟨before, after, ?_, ?_⟩
    · simp only [List.length_append, List.length_replicate] at h
      have hlength : 8 - (before.length + after.length) = length := by omega
      rw [hlength]
    · rw [List.take_left, ← List.drop_drop, List.drop_left, List.drop_left' List.length_replicate,
        sides_gap]

theorem eq_of_ipv6Chars (hp : pieces.length = 8) (hq : qs.length = 8)
    (h : ipv6Chars pieces = ipv6Chars qs) : pieces = qs := by
  obtain ⟨before, after, hpieces, hsides⟩ := exists_sides hp
  obtain ⟨before', after', hqs, hsides'⟩ := exists_sides hq
  rw [h, hsides', Prod.mk.injEq] at hsides
  have hinj := List.map_injective_iff.mpr hexChars_injective
  obtain rfl := hinj hsides.1
  obtain rfl := hinj hsides.2
  rw [hpieces, hqs]

end Ipv6

/-! ## Hosts -/

/-- A host of a special scheme as it is after reading. -/
inductive Host.IsRead : Host → Prop where
  | domain {name : List Char} (hne : name ≠ []) (hbracket : '[' ∉ name)
      (hnumber : endsInNumber name = false) : IsRead (.domain name)
  | ipv4 (address : ℕ) : IsRead (.ipv4 address)
  | ipv6 {pieces : List ℕ} (h : pieces.length = 8) : IsRead (.ipv6 pieces)

section Hosts

variable {cs : List Char} {host other : Host}

theorem length_of_ipv6? {pieces : List ℕ} (h : ipv6? cs = some pieces) : pieces.length = 8 := by
  unfold ipv6? at h
  split at h
  · cases h
  · split at h
    · cases h
    · dsimp only at h
      split at h
      · split at h
        · split at h
          · next hlength =>
            cases h
            exact hlength
          · cases h
        · cases h
      · split at h
        · split at h
          · cases h
            simp only [List.length_append, List.length_replicate]
            omega
          · cases h
        · cases h

theorem isRead_of_bracketed? (h : bracketed? cs = some (.ok host)) : host.IsRead := by
  unfold bracketed? at h
  split at h
  · rw [Option.some.injEq] at h
    split at h
    · split at h
      · next hpieces =>
        cases h
        exact .ipv6 (length_of_ipv6? hpieces)
      · cases h
    · cases h
  · cases h

theorem isForbidden_of_isPlain {c : Char} (h : Domain.isPlain c = true) :
    isForbidden c = false := by
  have hall : ∀ n < 0x80, Domain.isPlain (Char.ofNat n) = true →
      isForbidden (Char.ofNat n) = false := by decide
  have hc := hall c.toNat (Domain.toNat_lt_of_isPlain h)
  rw [Char.ofNat_toNat] at hc
  exact hc h

/-- A domain is ASCII and holds no forbidden character. -/
theorem isForbidden_of_domain? {name : List Char} (h : domain? cs = some name) :
    ∀ c ∈ name, c.toNat < 0x80 ∧ isForbidden c = false := by
  obtain ⟨text, -, hform⟩ := Option.bind_eq_some_iff.mp h
  exact Domain.not_denied_of_asciiForm? hform fun c => isForbidden_of_isPlain

example : domain? "B%C3%9Ccher.example".toList = some "xn--bcher-kva.example".toList := by
  decide +kernel

theorem bracket_not_mem_of_domain? {name : List Char} (h : domain? cs = some name) :
    '[' ∉ name := by
  intro hbracket
  cases (isForbidden_of_domain? h '[' hbracket).2

theorem Host.isRead_of_parse (h : Host.parse cs = .ok host) : host.IsRead := by
  unfold Host.parse at h
  split at h
  · next hbracketed =>
    subst h
    exact isRead_of_bracketed? hbracketed
  · split at h
    · cases h
    · cases h
    · next name hne hname =>
      split at h
      · split at h
        · cases h
          exact .ipv4 _
        · cases h
      · next hnumber =>
        cases h
        exact .domain hne (bracket_not_mem_of_domain? hname) (Bool.not_eq_true _ ▸ hnumber)

/-- Hosts are known by their texts. -/
theorem Host.IsRead.eq_of_chars (h : host.IsRead) (ho : other.IsRead)
    (hchars : host.chars = other.chars) : host = other := by
  have hbracket : ∀ {name : List Char} {pieces : List ℕ}, '[' ∉ name →
      name ≠ Host.chars (.ipv6 pieces) := by
    rintro name pieces hnot rfl
    exact hnot List.mem_cons_self
  have hnumber : ∀ {name : List Char} {address : ℕ}, endsInNumber name = false →
      name ≠ Host.chars (.ipv4 address) := by
    rintro name address hnot rfl
    rw [Host.chars, endsInNumber_ipv4Chars] at hnot
    cases hnot
  have hdigit : ∀ {address : ℕ} {pieces : List ℕ},
      Host.chars (.ipv4 address) ≠ Host.chars (.ipv6 pieces) := by
    intro address pieces heq
    exact head?_ipv4Chars_ne_bracket address (congrArg List.head? heq)
  cases h with
  | domain hne hnot hnum =>
    cases ho with
    | domain => exact congrArg _ hchars
    | ipv4 => exact absurd hchars (hnumber hnum)
    | ipv6 => exact absurd hchars (hbracket hnot)
  | ipv4 address =>
    cases ho with
    | domain _ _ hnum => exact absurd hchars.symm (hnumber hnum)
    | ipv4 => exact congrArg _ (ipv4Chars_injective hchars)
    | ipv6 => exact absurd hchars hdigit
  | ipv6 h =>
    cases ho with
    | domain _ hnot _ => exact absurd hchars.symm (hbracket hnot)
    | ipv4 => exact absurd hchars.symm hdigit
    | ipv6 h' =>
      have hinner := List.append_cancel_right (List.cons.inj hchars).2
      exact congrArg _ (eq_of_ipv6Chars h h' hinner)

theorem Host.IsRead.isEmpty_eq (h : host.IsRead) : host.isEmpty = false := by
  cases h with
  | @domain name hne _ _ =>
    cases name with
    | nil => exact absurd rfl hne
    | cons c name => rfl
  | ipv4 => rfl
  | ipv6 => rfl

end Hosts

/-! ## Hosts of URLs -/

section Urls

variable {scheme cs : List Char} {a : Authority} {u : Url} {s : String}

theorem exists_of_bind {ε α β : Type} {x : Except ε α} {f : α → Except ε β} {b : β}
    (h : x.bind f = .ok b) : ∃ a, x = .ok a ∧ f a = .ok b := by
  cases x with
  | error e => cases h
  | ok a => exact ⟨a, rfl, h⟩

theorem isRead_of_readHost {name rest : List Char} {password : Option (List Char)}
    (h : readHost scheme name password cs = .ok (a, rest)) : a.host.IsRead := by
  unfold readHost at h
  dsimp only at h
  split at h
  · cases h
  · obtain ⟨host, hhost, h⟩ := exists_of_bind h
    obtain ⟨port, -, h⟩ := exists_of_bind h
    split at h
    · cases h
    · cases h
      exact Host.isRead_of_parse hhost

theorem exists_of_afterSlashes (h : afterSlashes scheme cs = .ok u) :
    ∃ a rest, readAuthority scheme cs = .ok (a, rest) ∧ u.authority = some a := by
  unfold afterSlashes at h
  cases hr : readAuthority scheme cs with
  | error e =>
    rw [hr] at h
    cases h
  | ok read =>
    rw [hr] at h
    cases h
    exact ⟨read.1, read.2, rfl, rfl⟩

/-- A URL of a special scheme has a host that has been read. -/
theorem exists_authority (h : parse s = .ok u) (hkind : u.kind = .special) :
    ∃ a, u.authority = some a ∧ a.host.IsRead := by
  obtain ⟨rest, hsplit⟩ := exists_splitScheme? h hkind
  rw [parse, parseChars_of_special hsplit hkind] at h
  obtain ⟨a, after, ha, hu⟩ := exists_of_afterSlashes h
  rw [readAuthority_special hkind] at ha
  obtain ⟨user, -, ha⟩ := exists_of_bind ha
  exact ⟨a, hu, isRead_of_readHost ha⟩

end Urls

end Url

end Microversion
