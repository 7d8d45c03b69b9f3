import Microversion.Storage.Errno
import Microversion.Storage.Path
import Microversion.Text.Utf8

/-! # A file system

Files, directories, symbolic links and devices by their location. Relative paths
start at the root.
-/

namespace Microversion.Storage

inductive Node where
  | file (content : Bytes)
  | directory
  | link (target : String)
  /-- A device that holds nothing: it swallows what is written or, when it is full, refuses it. -/
  | sink (full : Bool)
deriving DecidableEq, Repr

/-- Where a node stands: the names on the way from the root, each after a slash. -/
structure Location where
  text : String
deriving DecidableEq, Repr

namespace Location

def root : Location := ⟨""⟩

/-- The location of a name in a directory. -/
def child (here : Location) (name : String) : Location := ⟨here.text ++ "/" ++ name⟩

/-- The directory that a location lies in; the root lies in itself. -/
def parent (here : Location) : Location :=
  match Text.splitLast? '/' here.text.toList with
  | some (before, _) => ⟨String.ofList before⟩
  | none => root

end Location

/-- What stands at each location but the root, which is a directory. -/
structure FileSystem where
  nodes : List (Location × Node)
deriving DecidableEq, Repr

namespace FileSystem

def empty : FileSystem := ⟨[]⟩

def node? (fs : FileSystem) (here : Location) : Option Node :=
  if here = .root then some .directory
  else (fs.nodes.find? (·.1 = here)).map (·.2)

def erase (fs : FileSystem) (here : Location) : FileSystem :=
  ⟨fs.nodes.filter (·.1 != here)⟩

def put (fs : FileSystem) (here : Location) (node : Node) : FileSystem :=
  ⟨(here, node) :: (fs.erase here).nodes⟩

/-- The most bytes of a name. -/
def maxNameLength : Nat := 255

/-- The most bytes of a path. -/
def maxPathLength : Nat := 4095

/-- The most links on a way. -/
def maxLinks : Nat := 40

/-- Where the parts lead from a directory, and what stands after the last of them. A link is
followed unless it comes last and `follow` refuses what stands after it; the end of its target
counts then as well. The last name need not exist. -/
def walk (fs : FileSystem) (follow : Ending → Bool) : Nat → Location → List String → Ending →
    Except Errno (Location × Ending)
  | _, here, [], ending => .ok (here, ending)
  | links, here, part :: rest, ending =>
    if part = ".." then walk fs follow links here.parent rest ending
    else if maxNameLength < part.utf8ByteSize then .error .nameTooLong
    else
      let there := here.child part
      let last : Bool := rest.isEmpty && ending != .point
      match fs.node? there with
      | none => if last then .ok (there, ending) else .error .noEntry
      | some .directory => walk fs follow links there rest ending
      | some (.link target) =>
        if last ∧ !follow ending then .ok (there, ending)
        else
          match links with
          | 0 => .error .linkLoop
          | links + 1 =>
            let path := Path.ofText target
            walk fs follow links (if path.absolute then .root else here) (path.parts ++ rest)
              (if rest.isEmpty ∧ ending = .bare then path.ending else ending)
      | some _ => if last then .ok (there, ending) else .error .notDirectory
  termination_by links _ parts => (links, parts.length)

/-- The location of a path, which need not exist, and what stands after its last part. -/
def locate (fs : FileSystem) (follow : Ending → Bool) (p : Path) :
    Except Errno (Location × Ending) :=
  if p.parts.any (·.toList.contains '\x00') then .error .zeroInPath
  else if maxPathLength < p.size then .error .nameTooLong
  else fs.walk follow maxLinks .root p.parts p.ending

/-- The content of a file. -/
def read (fs : FileSystem) (p : Path) : Except Errno Bytes :=
  match fs.locate (fun _ => true) p with
  | .error e => .error e
  | .ok (there, ending) =>
    match fs.node? there with
    | some .directory => .error .isDirectory
    | none => .error .noEntry
    | some (.link _) => .error .linkLoop
    | some (.file content) => if ending = .bare then .ok content else .error .notDirectory
    | some (.sink _) => if ending = .bare then .ok [] else .error .notDirectory

/-- The path leads to a directory. -/
def isDirectory (fs : FileSystem) (p : Path) : Bool :=
  match fs.locate (fun _ => true) p with
  | .error _ => false
  | .ok (there, _) => fs.node? there = some .directory ∧ p.size ≠ 0

/-- Make a directory in an existing one. -/
def makeDirectory (fs : FileSystem) (p : Path) : Except Errno FileSystem :=
  match fs.locate (fun _ => false) p with
  | .error e => .error e
  | .ok (there, _) =>
    match fs.node? there with
    | some _ => .error .alreadyExists
    | none => .ok (fs.put there .directory)

/-- Make a directory and those on the way to it, `depth` of them at most; what was made stays when
a later one fails. -/
def makeDirectories (fs : FileSystem) : Nat → Path → FileSystem × Except Errno Unit
  | 0, _ => (fs, .ok ())
  | depth + 1, p =>
    let settle (fs : FileSystem) (e : Errno) : FileSystem × Except Errno Unit :=
      (fs, if fs.isDirectory p then .ok () else .error e)
    match fs.makeDirectory p with
    | .ok fs => (fs, .ok ())
    | .error .noEntry =>
      match p.parent? with
      | none => (fs, .error .noEntry)
      | some parent =>
        match makeDirectories fs depth parent with
        | (fs, .error e) => (fs, .error e)
        | (fs, .ok ()) =>
          match fs.makeDirectory p with
          | .ok fs => (fs, .ok ())
          | .error e => settle fs e
    | .error e => settle fs e

/-- Make a directory with all that lead to it, unless it is there. -/
def ensureDirectory (fs : FileSystem) (p : Path) : FileSystem × Except Errno Unit :=
  if fs.isDirectory p ∨ p.size = 0 then (fs, .ok ())
  else fs.makeDirectories (p.parts.length + 1) p

/-- Open a file for writing, empty: an existing file loses its content. -/
def openEmpty (fs : FileSystem) (p : Path) : Except Errno (FileSystem × Location) :=
  match fs.locate (· != .slash) p with
  | .error e => .error e
  | .ok (there, ending) =>
    if ending = .slash then .error .isDirectory
    else
      match fs.node? there with
      | some .directory => .error .isDirectory
      | some (.link _) => .error .linkLoop
      | some (.sink _) => .ok (fs, there)
      | some (.file _) => .ok (fs.put there (.file []), there)
      | none => .ok (fs.put there (.file []), there)

/-- Give an open file its content. -/
def write (fs : FileSystem) (there : Location) (content : Bytes) : Except Errno FileSystem :=
  match fs.node? there with
  | some (.sink full) => if full ∧ !content.isEmpty then .error .noSpace else .ok fs
  | _ => .ok (fs.put there (.file content))

/-- Move a file to another path, where it takes the place of a file or link. -/
def rename (fs : FileSystem) (source target : Path) : Except Errno FileSystem :=
  match fs.locate (fun _ => false) source, fs.locate (fun _ => false) target with
  | .error e, _ => .error e
  | _, .error e => .error e
  | .ok (there, _), .ok (place, ending) =>
    match fs.node? there with
    | none => .error .noEntry
    | some node =>
      if ending = .point then .error .busy
      else if ending = .slash then .error .notDirectory
      else if fs.node? place = some .directory then .error .isDirectory
      else if there = place then .ok fs
      else .ok ((fs.erase there).put place node)

/-- Remove a file or a link. -/
def remove (fs : FileSystem) (p : Path) : Except Errno FileSystem :=
  match fs.locate (fun _ => false) p with
  | .error e => .error e
  | .ok (there, ending) =>
    match fs.node? there with
    | none => .error .noEntry
    | some .directory => .error .isDirectory
    | some _ => if ending = .slash then .error .notDirectory else .ok (fs.erase there)

/-- Make a link. -/
def makeLink (fs : FileSystem) (p : Path) (target : String) : Except Errno FileSystem :=
  let path := Path.ofText target
  if path.parts.any (·.toList.contains '\x00') then .error .zeroInPath
  else if target = "" then .error .noEntry
  else if maxPathLength < path.size then .error .nameTooLong
  else
    match fs.locate (fun _ => false) p with
    | .error e => .error e
    | .ok (there, ending) =>
      match fs.node? there with
      | some _ => .error .alreadyExists
      | none => if ending = .slash then .error .noEntry else .ok (fs.put there (.link target))

end FileSystem

end Microversion.Storage
