import Microversion.Text.Blank
import Microversion.Url.Basic

/-! # Reading URLs

`Url.parse` reads an absolute URL, `Url.join` one that may be relative to a
base. Blanks and control characters at the ends are dropped first. Tabs and line
breaks anywhere count for nothing, except that one after a colon may end the
drive letter that opens the path of a file.
-/

namespace Microversion.Url

/-! ## Breaks -/

/-- Tabs and line breaks. -/
def isBreak (c : Char) : Bool := c == '\t' || c == '\n' || c == '\r'

/-- The text without its breaks. -/
def unbroken (cs : List Char) : List Char := cs.filter (!isBreak ·)

/-- The text with one line feed for the breaks after a colon and without all other breaks;
`colon` tells whether a colon stands before the text. -/
def markBreaks : Bool → List Char → List Char
  | _, [] => []
  | colon, c :: cs =>
    if isBreak c then
      if colon then '\n' :: markBreaks false cs else markBreaks false cs
    else c :: markBreaks (c == ':') cs

theorem unbroken_cons (c : Char) (cs : List Char) :
    unbroken (c :: cs) = if isBreak c then unbroken cs else c :: unbroken cs := by
  cases h : isBreak c <;> simp [unbroken, h]

/-- Nothing but breaks is dropped. -/
theorem unbroken_markBreaks (colon : Bool) (cs : List Char) :
    unbroken (markBreaks colon cs) = unbroken cs := by
  induction cs generalizing colon with
  | nil => rfl
  | cons c cs ih =>
    rw [unbroken_cons, markBreaks]
    split
    · split
      · rw [unbroken_cons, ih]
        rfl
      · exact ih false
    · next hc => rw [unbroken_cons, if_neg hc, ih]

/-! ## Paths -/

/-- A slash; a backslash counts as one where a scheme has a host of its own. -/
def isSlash (kind : SchemeKind) (c : Char) : Bool :=
  c == '/' || (c == '\\' && kind != .other)

/-- The segment is a point, plain or percent-encoded. -/
def isSingleDot (seg : List Char) : Bool :=
  ["." , "%2e", "%2E"].any (·.toList == seg)

/-- The segment is two points, each plain or percent-encoded. -/
def isDoubleDot (seg : List Char) : Bool :=
  ["..", "%2e%2e", "%2e%2E", "%2E%2e", "%2E%2E", "%2e.", "%2E.", ".%2e", ".%2E"].any
    (·.toList == seg)

/-- A letter and a colon or a bar. -/
def isDrive : List Char → Bool
  | [a, b] => a.isAlpha && (b == ':' || b == '|')
  | _ => false

/-- A drive letter in its normal form, which has the colon. -/
def isNormalDrive (seg : List Char) : Bool := isDrive seg && seg.getLast? == some ':'

/-- A slash of either kind. -/
def isAnySlash (c : Char) : Bool := c == '/' || c == '\\'

/-- The text starts with a drive letter that is a whole segment. -/
def startsWithDrive : List Char → Bool
  | [a, b] => isDrive [a, b]
  | a :: b :: c :: _ => isDrive [a, b] && (isAnySlash c || c == '?' || c == '#')
  | _ => false

/-- Remove the last segment, which comes first; one that starts with a drive letter stays. -/
def ascend : List (List Char) → List (List Char)
  | [] => []
  | seg :: segs => if startsWithDrive seg then seg :: segs else segs

/-- Add a segment after the others, the last of which comes first. A drive letter that is the
first segment of a file's path is written with a colon. -/
def descend (kind : SchemeKind) (segs : List (List Char)) (seg : List Char) :
    List (List Char) :=
  match segs, seg with
  | [], [a, b] => if kind = .file ∧ isDrive [a, b] then [[a, ':']] else [seg]
  | segs, seg => seg :: segs

/-- End a segment: points move through the path, any other segment is added to it. -/
def close (kind : SchemeKind) (segs : List (List Char)) (seg : List Char) (slash : Bool) :
    List (List Char) :=
  if isDoubleDot seg then if slash then ascend segs else [] :: ascend segs
  else if isSingleDot seg then if slash then segs else [] :: segs
  else descend kind segs seg

/-- A drive letter that a break ends, and what follows the break. -/
def splitDrive? : List Char → Option (List Char × List Char)
  | a :: b :: '\n' :: c :: rest =>
    if isNormalDrive [a, b] then some ([a, b], c :: rest) else none
  | _ => none

/-- End a piece of the text between slashes. What follows the drive letter that a break ends at
the start of a path is a segment of its own, whatever it says. -/
def closePiece (kind : SchemeKind) (segs : List (List Char)) (piece : List Char) (slash : Bool) :
    List (List Char) :=
  match segs, splitDrive? piece with
  | [], some (drive, rest) => [encode inPathSet (unbroken rest), drive]
  | segs, _ => close kind segs (encode inPathSet (unbroken piece)) slash

/-- End the pieces one after the other; a slash follows each but the last. -/
def closeAll (kind : SchemeKind) : List (List Char) → List (List Char) → List (List Char)
  | segs, [] => segs
  | segs, piece :: more => closeAll kind (closePiece kind segs piece !more.isEmpty) more

/-- A drive letter that stands between slashes, or at an end of the text, opens the path. -/
def opensWithDrive : List (List Char) → List (List Char) → Bool
  | _, [] => false
  | segs, piece :: more =>
    (segs.isEmpty && isDrive (unbroken piece)) ||
      opensWithDrive (closePiece .file segs piece !more.isEmpty) more

/-- The text of a path, which a query or fragment ends. -/
def pathText (cs : List Char) : List Char := cs.takeWhile fun c => c != '?' && c != '#'

/-- What follows the path. -/
def afterPath (cs : List Char) : List Char :=
  unbroken (cs.dropWhile fun c => c != '?' && c != '#')

/-- The pieces of the path between its slashes. -/
def pathPieces (kind : SchemeKind) (cs : List Char) : List (List Char) :=
  Text.splitAll '/' ((pathText cs).map fun c => if isSlash kind c then '/' else c)

/-- The segments of the path below `segs`. -/
def walk (kind : SchemeKind) (segs : List (List Char)) (cs : List Char) : List (List Char) :=
  (closeAll kind segs.reverse (pathPieces kind cs)).reverse

/-- The path of a file does not start with empty segments. -/
def trimEmpty (segs : List (List Char)) : List (List Char) :=
  match segs.dropWhile (·.isEmpty) with
  | [] => [[]]
  | segs => segs

/-- The path below `segs`, and what follows it. -/
def readPath (kind : SchemeKind) (segs : List (List Char)) (cs : List Char) :
    List (List Char) × List Char :=
  let segs := walk kind segs cs
  (if kind = .file then trimEmpty segs else segs, afterPath cs)

/-- The path after an authority; only a scheme that is not special may have none. -/
def pathAfterAuthority (kind : SchemeKind) (cs : List Char) : List (List Char) × List Char :=
  match cs with
  | [] => if kind = .other then ([], []) else readPath kind [] []
  | c :: rest =>
    if isSlash kind c then readPath kind [] rest
    else if kind = .other ∧ (c = '?' ∨ c = '#') then ([], cs)
    else readPath kind [] cs

/-! ## Query and fragment -/

def readFragment : List Char → Option (List Char)
  | '#' :: cs => some (encode inFragmentSet cs)
  | _ => none

/-- The query and fragment of the text that follows a path. -/
def readQuery (kind : SchemeKind) : List Char → Option (List Char) × Option (List Char)
  | '?' :: cs =>
    let set := if kind = .other then inQuerySet else inSpecialQuerySet
    (some (encode set (cs.takeWhile (· != '#'))), readFragment (cs.dropWhile (· != '#')))
  | cs => (none, readFragment cs)

/-- A URL from its parts and the text after its path. -/
def assemble (scheme : List Char) (authority : Option Authority) (path : Path)
    (rest : List Char) : Url :=
  let (query, fragment) := readQuery (schemeKind scheme) rest
  ⟨scheme, authority, path, query, fragment⟩

/-! ## Authorities -/

/-- A character that ends an authority. -/
def endsAuthority (kind : SchemeKind) (c : Char) : Bool :=
  c == '/' || c == '?' || c == '#' || (c == '\\' && kind != .other)

/-- User name and password of the text before the last at sign. -/
def readUser (cs : List Char) : List Char × Option (List Char) :=
  match Text.splitFirst? ':' cs with
  | none => (encode inUserinfoSet cs, none)
  | some (name, []) => (encode inUserinfoSet name, none)
  | some (name, password) => (encode inUserinfoSet name, some (encode inUserinfoSet password))

/-- User name and password, and the text from the host on. -/
def splitUser (kind : SchemeKind) (cs : List Char) :
    Except ParseError (List Char × Option (List Char) × List Char) :=
  let region := cs.takeWhile (!endsAuthority kind ·)
  let after := cs.dropWhile (!endsAuthority kind ·)
  match Text.splitLast? '@' region with
  | none => .ok ([], none, cs)
  | some ([], host) =>
    if host.isEmpty ∧ !after.isEmpty then .error .emptyHost else .ok ([], none, host ++ after)
  | some (user, host) =>
    let (name, password) := readUser user
    .ok (name, password, host ++ after)

/-- The length of a host: a colon ends it unless it stands between brackets. -/
def hostLength (kind : SchemeKind) : Bool → List Char → Nat
  | _, [] => 0
  | inside, c :: cs =>
    if (c == ':' && !inside) || endsAuthority kind c then 0
    else hostLength kind (if c == '[' then true else if c == ']' then false else inside) cs + 1

/-- The port after a colon, and what follows it; the default port is left out. -/
def readPort (scheme : List Char) (cs : List Char) :
    Except ParseError (Option Nat × List Char) :=
  let digits := cs.takeWhile Char.isDigit
  let rest := cs.dropWhile Char.isDigit
  let value := Nat.ofDigitChars 10 digits 0
  let ends := match rest with
    | [] => true
    | c :: _ => c == '/' || c == '\\' || c == '?' || c == '#'
  if !ends ∨ 65535 < value then .error .invalidPort
  else if digits.isEmpty ∨ defaultPort? scheme = some value then .ok (none, rest)
  else .ok (some value, rest)

/-- The authority after two slashes, and what follows it. -/
def readAuthority (scheme : List Char) (cs : List Char) :
    Except ParseError (Authority × List Char) := do
  let kind := schemeKind scheme
  let (name, password, cs) ← splitUser kind cs
  let count := hostLength kind false cs
  let text := cs.take count
  let rest := cs.drop count
  if kind = .special ∧ text.isEmpty then throw .emptyHost
  let host ← if kind = .other then Host.parsePlain text else Host.parse text
  let (port, rest) ←
    match rest with
    | ':' :: digits => if host.isEmpty then throw .emptyHost else readPort scheme digits
    | rest => pure (none, rest)
  if host.isEmpty ∧ (!name.isEmpty ∨ password.isSome) then throw .emptyHost
  return (⟨name, password, host, port⟩, rest)

/-- The URL that follows a scheme and two slashes. -/
def afterSlashes (scheme : List Char) (cs : List Char) : Except ParseError Url := do
  let (authority, rest) ← readAuthority scheme cs
  let (segs, rest) := pathAfterAuthority (schemeKind scheme) rest
  return assemble scheme (some authority) (.rooted segs) rest

/-! ## Files -/

def fileScheme : List Char := "file".toList

/-- A file URL with the given host. -/
def fileUrl (host : Host) (segs : List (List Char)) (rest : List Char) : Url :=
  assemble fileScheme (some ⟨[], none, host, none⟩) (.rooted segs) rest

/-- The host of a base of the scheme `file`. -/
def fileHost (base : Option Url) : Host :=
  match base.bind (·.authority) with
  | some a => a.host
  | none => .domain []

/-- The first segment of a base when it is a drive letter with a colon. -/
def baseDrive (base : Option Url) : Option (List Char) :=
  match base.map (·.path.segments) with
  | some (seg :: _) => if isNormalDrive seg then some seg else none
  | _ => none

/-- The host that needs no name in a file URL. -/
def localHost : Host := .domain "localhost".toList

/-- A file URL after its two slashes. A host may follow, which counts for nothing when a drive
letter opens the path. Where no host or the local one stands, the path is read from its slash on,
so that a drive letter after it is a segment like any other. -/
def fileAfterSlashes (cs : List Char) : Except ParseError Url := do
  let ends (c : Char) := isAnySlash c || c == '?' || c == '#'
  let text := unbroken (cs.takeWhile (!ends ·))
  if text.isEmpty ∨ isDrive text then return withoutHost cs
  let host ← Host.parse text
  let rest := cs.dropWhile (!ends ·)
  if host = localHost then return withoutHost rest
  let path := afterSlash rest
  let host := if opensWithDrive [] (pathPieces .file path) then .domain [] else host
  return fileUrl host (trimEmpty (walk .file [] path)) (afterPath rest)
where
  /-- The URL whose path is the text from its slash on. -/
  withoutHost (cs : List Char) : Url :=
    let (segs, rest) := readPath .file [] cs
    fileUrl (.domain []) segs rest
  /-- The text after the slash that may open a path. -/
  afterSlash : List Char → List Char
    | c :: cs => if isAnySlash c then cs else c :: cs
    | [] => []

/-- The path of a relative reference below the path of a file. A drive letter at the end of the
base stays: alone it is followed by a slash, and below other segments the first segment of the
reference lengthens it. -/
def readBelowFile (base : List (List Char)) (cs : List Char) : List (List Char) × List Char :=
  match base.getLast? with
  | some last =>
    if !isNormalDrive last then readPath .file base.dropLast cs
    else if base.length = 1 then readPath .file base cs
    else
      let ends (c : Char) := isAnySlash c || c == '?' || c == '#'
      let first := cs.takeWhile (!ends ·)
      let rest := cs.dropWhile (!ends ·)
      if isSingleDot first ∨ (isDoubleDot first ∧ rest.head?.any isAnySlash) then
        readPath .file base cs
      else if isDoubleDot first then (trimEmpty base, unbroken rest)
      else readPath .file base.dropLast (last ++ cs)
  | none => readPath .file [] cs

/-- A file URL, relative to a base of the same scheme if there is one. The breaks after colons
are still in the text. -/
def readFile (base : Option Url) (cs : List Char) : Except ParseError Url :=
  match cs with
  | a :: b :: rest =>
    if isAnySlash a ∧ isAnySlash b then fileAfterSlashes rest else below base cs
  | cs => below base cs
where
  /-- A path that starts with at most one slash. -/
  below (base : Option Url) (cs : List Char) : Except ParseError Url :=
    match cs, base with
    | [], some base => .ok { base with fragment := none }
    | '?' :: _, some base => .ok (assemble fileScheme base.authority base.path (unbroken cs))
    | '#' :: _, some base => .ok { base with fragment := readFragment (unbroken cs) }
    | [], none =>
      let (segs, rest) := readPath .file [] cs
      .ok (fileUrl (.domain []) segs rest)
    | c :: rest, base =>
      if isAnySlash c then
        if startsWithDrive (unbroken rest) then
          let (segs, rest) := readPath .file [] rest
          .ok (fileUrl (.domain []) segs rest)
        else
          match baseDrive base with
          | some drive =>
            let (segs, rest) := readPath .file [drive] rest
            .ok (fileUrl (.domain []) segs rest)
          | none =>
            let (segs, rest) := readPath .file [] rest
            .ok (fileUrl (fileHost base) segs rest)
      else
        match base with
        | some u =>
          if startsWithDrive (unbroken cs) then
            let (segs, rest) := readPath .file [] cs
            .ok (fileUrl (.domain []) segs rest)
          else
            let (segs, rest) := readBelowFile u.path.segments cs
            .ok (fileUrl (fileHost base) segs rest)
        | none =>
          let (segs, rest) := readPath .file [] cs
          .ok (fileUrl (.domain []) segs rest)

/-! ## Whole URLs -/

/-- The scheme in lower case and the text after its colon. -/
def splitScheme? (cs : List Char) : Option (List Char × List Char) :=
  match cs with
  | [] => none
  | c :: _ =>
    let isPart (d : Char) := d.isAlphanum || d == '+' || d == '-' || d == '.'
    match cs.dropWhile isPart with
    | ':' :: rest =>
      if c.isAlpha then some ((cs.takeWhile isPart).map Char.toLower, rest) else none
    | _ => none

/-- A reference of the scheme of its base, resolved in the base's hierarchy. -/
def readRelative (base : Url) (cs : List Char) : Except ParseError Url :=
  let kind := base.kind
  match cs with
  | [] => .ok { base with fragment := none }
  | '?' :: _ => .ok (assemble base.scheme base.authority base.path cs)
  | '#' :: _ => .ok { base with fragment := readFragment cs }
  | c :: rest =>
    if isAnySlash c then
      match rest with
      | d :: after =>
        if isAnySlash d then
          if c = '/' ∧ d = '/' then afterSlashes base.scheme after
          else afterSlashes base.scheme (cs.dropWhile isAnySlash)
        else below kind [] rest
      | [] => below kind [] rest
    else below kind base.path.segments.dropLast cs
where
  below (kind : SchemeKind) (segs : List (List Char)) (cs : List Char) :
      Except ParseError Url :=
    let (segs, rest) := readPath kind segs cs
    .ok (assemble base.scheme base.authority (.rooted segs) rest)

/-- The URL that follows a scheme, which is not the one of files, and its colon. -/
def afterScheme (base : Option Url) (scheme : List Char) (cs : List Char) :
    Except ParseError Url :=
  if schemeKind scheme = .special then
    let slashes := (cs.takeWhile isAnySlash).length
    match base.filter (·.scheme = scheme) with
    | some base =>
      if slashes < 2 then readRelative base cs else afterSlashes scheme (cs.drop slashes)
    | none => afterSlashes scheme (cs.drop slashes)
  else
    match cs with
    | '/' :: '/' :: rest => afterSlashes scheme rest
    | '/' :: rest =>
      let (segs, rest) := readPath .other [] rest
      .ok (assemble scheme none (.rooted segs) rest)
    | cs =>
      let ends (c : Char) := c == '?' || c == '#'
      .ok (assemble scheme none (.flat (encode isControl (cs.takeWhile (!ends ·))))
        (cs.dropWhile (!ends ·)))

/-- Control characters and spaces, which are dropped at the ends. -/
def isEdge (c : Char) : Bool := c.toNat ≤ 0x20

/-- The characters of a URL that count, and the breaks after its colons. -/
def marked (cs : List Char) : List Char :=
  markBreaks false (Text.dropEndWhile isEdge (cs.dropWhile isEdge))

/-- The URL written by the characters, relative to a base if there is one. -/
def parseChars (base : Option Url) (cs : List Char) : Except ParseError Url :=
  let cs := marked cs
  match splitScheme? cs, base with
  | some (scheme, rest), base =>
    if schemeKind scheme = .file then
      readFile (base.filter (·.scheme = scheme)) (rest.dropWhile isBreak)
    else afterScheme base scheme (unbroken rest)
  | none, none => .error .relativeWithoutBase
  | none, some base =>
    match cs with
    | '#' :: _ => .ok { base with fragment := readFragment (unbroken cs) }
    | cs =>
      if base.isFlat then .error .relativeWithFlatBase
      else if base.kind = .file then readFile (some base) cs
      else readRelative base (unbroken cs)

/-- The absolute URL written by a text. -/
def parse (s : String) : Except ParseError Url := parseChars none s.toList

/-- The URL that a text names as seen from `base`. -/
def join (base : Url) (s : String) : Except ParseError Url := parseChars (some base) s.toList

end Microversion.Url
