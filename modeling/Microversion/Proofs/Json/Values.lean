import Microversion.Proofs.Json.Strings

/-! # Reading values back

The pretty-printed text of a value is read as the value's tree wherever it stands:
numbers digit by digit up to a byte that cannot go on with them, strings piece by
piece, and objects member by member.
-/

namespace Microversion.Json

open Utf8

section Numbers

theorem ne_of_digit {d b : UInt8} (hd : isDigitByte d = true) (hb : isDigitByte b = false) :
    d ≠ b := by
  rintro rfl
  rw [hd] at hb
  contradiction

theorem bytesOf_of_ascii {cs : List Char} (h : ∀ c ∈ cs, c.toNat < 128) :
    bytesOf cs = cs.map fun c => UInt8.ofNat c.toNat := by
  induction cs with
  | nil => rfl
  | cons c cs ih =>
    rw [bytesOf_cons, utf8EncodeChar_of_lt (h c List.mem_cons_self),
      ih fun c hc => h c (List.mem_cons_of_mem _ hc)]
    rfl

theorem lt_of_isDigit {c : Char} (h : c.isDigit = true) : c.toNat < 128 :=
  Nat.lt_of_le_of_lt (Char.isDigit_iff_toNat.mp h).2 (by decide)

theorem isDigitByte_of_isDigit {c : Char} (h : c.isDigit = true) :
    isDigitByte (UInt8.ofNat c.toNat) = true := by
  have hlt := lt_of_isDigit h
  obtain ⟨hlow, hhigh⟩ := Char.isDigit_iff_toNat.mp h
  simp only [isDigitByte, Bool.and_eq_true, decide_eq_true_eq, UInt8.le_iff_toNat_le,
    UInt8.toNat_ofNat', Nat.mod_eq_of_lt (show c.toNat < 2 ^ 8 by omega)]
  exact ⟨hlow, hhigh⟩

theorem toAscii_map {cs : List Char} (h : ∀ c ∈ cs, c.toNat < 128) :
    toAscii (cs.map fun c => UInt8.ofNat c.toNat) = cs := by
  rw [toAscii, List.map_map]
  refine List.map_congr_left (fun c hc => ?_) |>.trans (List.map_id cs)
  have hlt := h c hc
  simp only [Function.comp_apply, UInt8.toNat_ofNat',
    Nat.mod_eq_of_lt (show c.toNat < 2 ^ 8 by omega), Char.ofNat_toNat, id]

theorem bytesOf_toAscii {bs : Bytes} (h : ∀ b ∈ bs, b.toNat < 128) : bytesOf (toAscii bs) = bs := by
  have hchar : ∀ n < 128, (Char.ofNat n).toNat = n := by decide
  have hascii : ∀ c ∈ toAscii bs, c.toNat < 128 := by
    intro c hc
    obtain ⟨b, hb, rfl⟩ := List.mem_map.mp hc
    rw [hchar _ (h b hb)]
    exact h b hb
  rw [bytesOf_of_ascii hascii, toAscii, List.map_map]
  refine (List.map_congr_left fun b hb => ?_).trans (List.map_id bs)
  rw [Function.comp_apply, hchar _ (h b hb), UInt8.ofNat_toNat, id]

/-- Only zero starts with the digit zero. -/
theorem exists_decimal_eq_cons {n : Nat} (h : 0 < n) :
    ∃ c cs, Text.decimal n = c :: cs ∧ c ≠ '0' := by
  induction n using Nat.strongRecOn with
  | ind n ih =>
    rw [Text.decimal, Nat.toDigits_eq_if (by decide)]
    split
    · next hlt =>
      refine ⟨_, _, rfl, ?_⟩
      have : ∀ n < 10, 0 < n → n.digitChar ≠ '0' := by decide
      exact this n hlt h
    · obtain ⟨c, cs, heq, hc⟩ := ih (n / 10) (by omega) (by omega)
      exact ⟨c, cs ++ [(n % 10).digitChar], by rw [Text.decimal] at heq; rw [heq]; rfl, hc⟩

/-- A number may end in front of these bytes. -/
def Delimits (rest : Bytes) : Prop :=
  ∀ b ∈ rest.head?, isDigitByte b = false ∧ b ≠ 0x2E ∧ b ≠ 0x65 ∧ b ≠ 0x45

theorem span_digits {cs : List Char} (h : ∀ c ∈ cs, c.isDigit = true) {rest : Bytes}
    (hrest : Delimits rest) :
    (bytesOf cs ++ rest).takeWhile isDigitByte = bytesOf cs ∧
      (bytesOf cs ++ rest).dropWhile isDigitByte = rest := by
  have hall : ∀ b ∈ bytesOf cs, isDigitByte b = true := by
    rw [bytesOf_of_ascii fun c hc => lt_of_isDigit (h c hc)]
    simp only [List.mem_map, forall_exists_index, and_imp]
    rintro b c hc rfl
    exact isDigitByte_of_isDigit (h c hc)
  rw [List.takeWhile_append_of_pos hall, List.dropWhile_append_of_pos hall]
  cases rest with
  | nil => simp
  | cons b rest =>
    have hb := (hrest b rfl).1
    simp [hb]

theorem whole?_decimal (n : Nat) {rest : Bytes} (hrest : Delimits rest) :
    whole? (bytesOf (Text.decimal n) ++ rest) = some (Text.decimal n, rest) := by
  have hdigits : ∀ c ∈ Text.decimal n, c.isDigit = true := fun c hc =>
    Text.isDigit_of_mem_decimal hc
  rcases Nat.eq_zero_or_pos n with rfl | hpos
  · rfl
  · obtain ⟨c, cs, heq, hc⟩ := exists_decimal_eq_cons hpos
    have hascii : ∀ c ∈ Text.decimal n, c.toNat < 128 := fun c hc => lt_of_isDigit (hdigits c hc)
    obtain ⟨htake, hdrop⟩ := span_digits hdigits hrest
    unfold whole?
    split
    · next heq' =>
      rw [bytesOf_of_ascii hascii, heq, List.map_cons, List.cons_append] at heq'
      obtain ⟨h0, -⟩ := List.cons_eq_cons.mp heq'
      have hlt := hascii c (heq ▸ List.mem_cons_self)
      refine absurd (Char.toNat_inj.mp ?_) hc
      have := congrArg UInt8.toNat h0
      rwa [UInt8.toNat_ofNat', Nat.mod_eq_of_lt (show c.toNat < 2 ^ 8 by omega)] at this
    · rw [htake, hdrop]
      split
      · next heq' =>
        rw [bytesOf_of_ascii hascii, heq] at heq'
        simp at heq'
      · rw [bytesOf_of_ascii hascii, toAscii_map hascii]

theorem fraction?_of_delimits {rest : Bytes} (hrest : Delimits rest) :
    fraction? rest = some ([], rest) := by
  unfold fraction?
  split
  · exact absurd rfl (hrest _ rfl).2.1
  · rfl

theorem power?_of_delimits {rest : Bytes} (hrest : Delimits rest) :
    power? rest = some (none, rest) := by
  cases rest with
  | nil => rfl
  | cons b rest =>
    obtain ⟨-, -, hlower, hupper⟩ := hrest b rfl
    simp [power?, hlower, hupper]

/-- The literal as which the decimal text of a number is read. -/
def decimalLiteral (n : Nat) : Literal := ⟨false, Text.decimal n, [], none⟩

theorem int?_decimalLiteral {n : Nat} (h : n < UInt64.size) :
    (decimalLiteral n).int? = some (n : Int) := by
  have hvalue : Nat.ofDigitChars 10 (Text.decimal n) 0 = n :=
    Nat.ofDigitChars_toDigits (by decide) (by decide)
  simp [Literal.int?, decimalLiteral, hvalue, h]

/-- The decimal text of a number starts with a digit. -/
theorem exists_bytesOf_decimal (n : Nat) : ∃ b bs,
    bytesOf (Text.decimal n) = b :: bs ∧ isDigitByte b = true := by
  obtain ⟨c, cs, heq⟩ := List.exists_cons_of_ne_nil (Text.decimal_ne_nil n)
  have hc : c.isDigit = true := Text.isDigit_of_mem_decimal (heq ▸ List.mem_cons_self)
  rw [heq, bytesOf_cons, utf8EncodeChar_of_lt (lt_of_isDigit hc)]
  exact ⟨_, _, rfl, isDigitByte_of_isDigit hc⟩

theorem literal?_decimal (n : Nat) {rest : Bytes} (hrest : Delimits rest) :
    literal? (bytesOf (Text.decimal n) ++ rest) = some (decimalLiteral n, rest) := by
  obtain ⟨b, bs, heq, hb⟩ := exists_bytesOf_decimal n
  have hwhole := whole?_decimal n hrest
  rw [heq, List.cons_append] at hwhole ⊢
  unfold literal?
  split
  next negative bs' hmatch =>
    split at hmatch
    · next hminus =>
      obtain ⟨rfl, -⟩ := List.cons_eq_cons.mp hminus
      exact absurd hb (by decide)
    · cases hmatch
      simp only [hwhole, fraction?_of_delimits hrest, power?_of_delimits hrest]
      rfl

end Numbers

section Values

theorem isSpace_of_digit {d : UInt8} (h : isDigitByte d = true) : isSpace d = false := by
  simp only [isSpace, Bool.or_eq_false_iff, beq_eq_false_iff_ne]
  exact ⟨⟨⟨ne_of_digit h rfl, ne_of_digit h rfl⟩, ne_of_digit h rfl⟩, ne_of_digit h rfl⟩

theorem skipSpace_of_not {b : UInt8} (h : isSpace b = false) (bs : Bytes) :
    skipSpace (b :: bs) = b :: bs := List.dropWhile_cons_of_neg (by simp [h])

theorem skipSpace_newline (indent : Nat) (bs : Bytes) :
    skipSpace (bytesOf (Value.newline indent) ++ bs) = skipSpace bs := by
  have hspace : bytesOf (Value.newline indent) =
      0x0A :: List.replicate (2 * indent) 0x20 := by
    rw [bytesOf_of_ascii]
    · simp [Value.newline]
    · simp [Value.newline]
  rw [skipSpace, hspace]
  exact List.dropWhile_append_of_pos (by simp [isSpace])

theorem value?_of_digit {d : UInt8} (h : isDigitByte d = true) (fuel : Nat) (bs : Bytes) :
    Tree.value? (fuel + 1) (d :: bs) =
      (literal? (d :: bs)).map fun (n, after) => (.number n, after) := by
  rw [Tree.value?, skipSpace_of_not (isSpace_of_digit h)]
  split
  case h_7 => rfl
  all_goals
    next heq =>
      obtain ⟨rfl, -⟩ := List.cons_eq_cons.mp heq
      exact absurd h (by decide)

/-- The text of a value, wherever it stands, is read as the tree when as many steps may be taken
as it has bytes. -/
def Value.Reads (v : Value) (t : Tree) : Prop :=
  ∀ (indent fuel : Nat) (rest : Bytes), Delimits rest →
    (bytesOf (Value.prettyChars indent v)).length ≤ fuel →
      Tree.value? fuel (bytesOf (Value.prettyChars indent v) ++ rest) = some (t, rest)

theorem reads_ofNat (n : Nat) : (Value.ofNat n).Reads (.number (decimalLiteral n)) := by
  intro indent fuel rest hrest hfuel
  have htext : Value.prettyChars indent (.ofNat n) = Text.decimal n := by
    simp [Value.ofNat, Value.prettyChars, Number.text]
  rw [htext] at hfuel ⊢
  obtain ⟨b, bs, heq, hb⟩ := exists_bytesOf_decimal n
  have hread := literal?_decimal n hrest
  rw [heq] at hfuel hread ⊢
  obtain ⟨fuel, rfl⟩ : ∃ k, fuel = k + 1 := ⟨fuel - 1, by simp at hfuel; omega⟩
  rw [List.cons_append] at hread ⊢
  rw [value?_of_digit hb, hread]
  rfl

theorem bytesOf_quoted (s : String) :
    bytesOf (quoted s) = 0x22 :: (bytesOf (s.toList.flatMap escapeChar) ++ [0x22]) := by
  simp only [quoted, List.cons_append, bytesOf_cons, bytesOf_append, bytesOf_nil]
  rfl

theorem reads_string (s : String) : (Value.string s).Reads (.string (piecesOf s)) := by
  intro indent fuel rest _ hfuel
  have htext : Value.prettyChars indent (.string s) = quoted s := by simp [Value.prettyChars]
  rw [htext, bytesOf_quoted] at hfuel ⊢
  obtain ⟨fuel, rfl⟩ : ∃ k, fuel = k + 1 := ⟨fuel - 1, by simp at hfuel; omega⟩
  rw [List.cons_append, List.append_assoc, Tree.value?, skipSpace_of_not (by decide)]
  simp only [List.singleton_append, pieces?_quoted, Option.map_some]

theorem value?_of_space {b : UInt8} (h : isSpace b = true) (fuel : Nat) (bs : Bytes) :
    Tree.value? fuel (b :: bs) = Tree.value? fuel bs := by
  cases fuel with
  | zero => rw [Tree.value?, Tree.value?]
  | succ fuel =>
    have hskip : skipSpace (b :: bs) = skipSpace bs := List.dropWhile_cons_of_pos h
    rw [Tree.value?, Tree.value?, hskip]

/-- The text of the members of an object after its opening brace. -/
def Value.membersChars (indent : Nat) : List (String × Value) → List Char
  | [] => Value.prettyMembers indent []
  | (k, v) :: ms =>
    Value.newline (indent + 1) ++ (quoted k ++ ':' :: ' ' ::
      (Value.prettyChars (indent + 1) v ++ Value.prettyMembers indent ms))

theorem prettyMembers_cons (indent : Nat) (m : String × Value) (ms : List (String × Value)) :
    Value.prettyMembers indent (m :: ms) = ',' :: Value.membersChars indent (m :: ms) := by
  simp [Value.prettyMembers, Value.membersChars]

theorem bytesOf_prettyMembers_nil (indent : Nat) :
    bytesOf (Value.prettyMembers indent []) = bytesOf (Value.newline indent) ++ [0x7D] := by
  rw [Value.prettyMembers, bytesOf_append]
  rfl

theorem delimits_prettyMembers (indent : Nat) (ms : List (String × Value)) (rest : Bytes) :
    Delimits (bytesOf (Value.prettyMembers indent ms) ++ rest) := by
  have hdelimits : ∀ {c : Char} {cs : List Char}, c = '\n' ∨ c = ',' →
      Delimits (bytesOf (c :: cs) ++ rest) := by
    rintro c cs (rfl | rfl) b hb
    all_goals
      cases hb
      decide
  cases ms with
  | nil => exact hdelimits (.inl rfl)
  | cons m ms =>
    rw [prettyMembers_cons]
    exact hdelimits (.inr rfl)

/-- What is read of the members from the end of the value of one of them on. -/
def Tree.afterMember? (fuel : Nat) (member : List Piece × Tree) (tail : Bytes) :
    Option (List (List Piece × Tree) × Bytes) :=
  match skipSpace tail with
  | 0x2C :: rest => (Tree.members? fuel rest).map fun (ms, after) => (member :: ms, after)
  | 0x7D :: after => some ([member], after)
  | _ => none

theorem members?_of_member {k : String} {v : Value} {t : Tree} (hv : v.Reads t)
    (indent fuel : Nat) (hfuel : (bytesOf (Value.prettyChars indent v)).length ≤ fuel)
    {tail : Bytes} (htail : Delimits tail) :
    Tree.members? (fuel + 1) (bytesOf (Value.newline indent) ++ (bytesOf (quoted k) ++
        0x3A :: 0x20 :: (bytesOf (Value.prettyChars indent v) ++ tail))) =
      Tree.afterMember? fuel (piecesOf k, t) tail := by
  have hvalue := hv indent fuel tail htail hfuel
  rw [Tree.members?, skipSpace_newline, bytesOf_quoted, List.cons_append, List.append_assoc,
    skipSpace_of_not (by decide)]
  simp only [List.singleton_append, pieces?_quoted, skipSpace_of_not (show isSpace 0x3A = false
    by decide), value?_of_space (show isSpace 0x20 = true by decide), hvalue]
  rfl

theorem bytesOf_membersChars_cons (indent : Nat) (k : String) (v : Value)
    (ms : List (String × Value)) :
    bytesOf (Value.membersChars indent ((k, v) :: ms)) =
      bytesOf (Value.newline (indent + 1)) ++ (bytesOf (quoted k) ++ 0x3A :: 0x20 ::
        (bytesOf (Value.prettyChars (indent + 1) v) ++
          bytesOf (Value.prettyMembers indent ms))) := by
  simp only [Value.membersChars, bytesOf_append, bytesOf_cons]
  rfl

/-- A member of an object with the tree as which its value is read. -/
structure Field where
  key : String
  value : Value
  tree : Tree
  reads : value.Reads tree

namespace Field

def member (f : Field) : String × Value := (f.key, f.value)

def read (f : Field) : List Piece × Tree := (piecesOf f.key, f.tree)

end Field

theorem members?_membersChars {fields : List Field} (hne : fields ≠ []) (indent fuel : Nat)
    (rest : Bytes)
    (hfuel : (bytesOf (Value.membersChars indent (fields.map Field.member))).length ≤ fuel) :
    Tree.members? fuel (bytesOf (Value.membersChars indent (fields.map Field.member)) ++ rest) =
      some (fields.map Field.read, rest) := by
  induction fields generalizing fuel with
  | nil => exact absurd rfl hne
  | cons f fields ih =>
    have htail := delimits_prettyMembers indent (fields.map Field.member) rest
    rw [List.map_cons, Field.member, bytesOf_membersChars_cons] at hfuel ⊢
    simp only [List.length_append, List.length_cons] at hfuel
    obtain ⟨fuel, rfl⟩ : ∃ k, fuel = k + 1 := ⟨fuel - 1, by omega⟩
    simp only [List.append_assoc, List.cons_append]
    rw [members?_of_member f.reads (indent + 1) fuel (by omega) htail, Tree.afterMember?]
    cases fields with
    | nil =>
      rw [List.map_nil, bytesOf_prettyMembers_nil, List.append_assoc, skipSpace_newline,
        List.singleton_append, skipSpace_of_not (by decide)]
      rfl
    | cons g fields =>
      have ih := ih (List.cons_ne_nil g fields) fuel
      have hcomma : bytesOf (Value.prettyMembers indent ((g :: fields).map Field.member)) =
          0x2C :: bytesOf (Value.membersChars indent ((g :: fields).map Field.member)) := by
        rw [List.map_cons, prettyMembers_cons]
        rfl
      rw [hcomma, List.length_cons] at hfuel
      rw [hcomma, List.cons_append, skipSpace_of_not (by decide)]
      show (Tree.members? fuel _).map _ = _
      rw [ih (by omega)]
      rfl

theorem prettyChars_object_cons (indent : Nat) (m : String × Value) (ms : List (String × Value)) :
    Value.prettyChars indent (.object (m :: ms)) =
      '{' :: Value.membersChars indent (m :: ms) := by
  simp [Value.prettyChars, Value.membersChars]

theorem members?_of_skipSpace {b : UInt8} {bs cs : Bytes} (h : skipSpace bs = b :: cs)
    (hb : isSpace b = false) (fuel : Nat) :
    Tree.members? fuel (b :: cs) = Tree.members? fuel bs := by
  cases fuel with
  | zero => rw [Tree.members?, Tree.members?]
  | succ fuel => rw [Tree.members?, Tree.members?, h, skipSpace_of_not hb]

/-- An object is read member by member. -/
theorem reads_object (fields : List Field) :
    (Value.object (fields.map Field.member)).Reads (.object (fields.map Field.read)) := by
  intro indent fuel rest _ hfuel
  have hpos : 0 < (bytesOf (Value.prettyChars indent
      (.object (fields.map Field.member)))).length := by
    cases fields with
    | nil => rw [List.map_nil, Value.prettyChars]; decide
    | cons f fields =>
      rw [List.map_cons, prettyChars_object_cons]
      exact Nat.succ_pos _
  obtain ⟨fuel, rfl⟩ : ∃ k, fuel = k + 1 := ⟨fuel - 1, by omega⟩
  cases fields with
  | nil =>
    rw [List.map_nil, Value.prettyChars, Tree.value?]
    rfl
  | cons f fields =>
    have hbrace : bytesOf (Value.prettyChars indent (.object ((f :: fields).map Field.member))) =
        0x7B :: bytesOf (Value.membersChars indent ((f :: fields).map Field.member)) := by
      rw [List.map_cons, prettyChars_object_cons]
      rfl
    rw [hbrace, List.length_cons] at hfuel
    have hread := members?_membersChars (List.cons_ne_nil f fields) indent fuel rest (by omega)
    obtain ⟨bs, hskip⟩ : ∃ bs, skipSpace (bytesOf (Value.membersChars indent
        ((f :: fields).map Field.member)) ++ rest) = 0x22 :: bs := by
      rw [List.map_cons, Field.member, bytesOf_membersChars_cons, List.append_assoc,
        skipSpace_newline, bytesOf_quoted]
      exact ⟨_, skipSpace_of_not (by decide) _⟩
    rw [hbrace, List.cons_append, Tree.value?, skipSpace_of_not (by decide)]
    simp only [hskip]
    show (Tree.members? fuel (0x22 :: bs)).map _ = _
    rw [members?_of_skipSpace hskip (by decide), hread]
    rfl

/-- The whole text of a value is read as its tree. -/
theorem parse?_pretty {v : Value} {t : Tree} (h : v.Reads t) :
    Tree.parse? (Utf8.encode v.pretty) = some t := by
  have htext : Utf8.encode v.pretty = bytesOf (Value.prettyChars 0 v) := Utf8.encode_ofList _
  have hread := h 0 (2 * (Utf8.encode v.pretty).length + 2) [] (by simp [Delimits])
    (by rw [htext]; omega)
  rw [List.append_nil, ← htext] at hread
  rw [Tree.parse?, hread]
  rfl

end Values

end Microversion.Json
