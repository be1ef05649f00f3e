import Stencil.File.Error
import Stencil.File.Path

namespace Stencil.File

inductive Node where
  | file (content : ByteArray)
  | dir (entries : List (OsText × Node))

namespace Node

def empty : Node := .dir []

def isDir : Node → Bool
  | .dir _ => true
  | .file _ => false

def putEntry (name : OsText) (node : Node) : List (OsText × Node) → List (OsText × Node)
  | [] => [(name, node)]
  | (other, old) :: entries =>
    if name = other then (name, node) :: entries else (other, old) :: putEntry name node entries

def dropEntry (name : OsText) (entries : List (OsText × Node)) : List (OsText × Node) :=
  entries.filter fun entry => entry.1 != name

end Node

/-- A place in a tree: the node there, and the directories above it, the nearest first, each with
the name that was taken in it. -/
structure Place where
  node : Node
  above : List (OsText × List (OsText × Node))

namespace Place

def up (p : Place) : Place :=
  match p.above with
  | [] => p
  | (name, entries) :: above => ⟨.dir (Node.putEntry name p.node entries), above⟩

def top (p : Place) : Node :=
  let rec go (node : Node) : List (OsText × List (OsText × Node)) → Node
    | [] => node
    | (name, entries) :: above => go (.dir (Node.putEntry name node entries)) above
  go p.node p.above

def nameBound : Nat := 255

/-- Follows one segment. What is done about a missing entry is up to `missing`. -/
def step (missing : Except Error Node) (p : Place) (segment : OsText) : Except Error Place :=
  match p.node with
  | .file _ => .error .notADirectory
  | .dir entries =>
    if Path.isIdle segment then .ok p
    else if segment = Path.dotDot then .ok p.up
    else if nameBound < OsText.size segment then .error .nameTooLong
    else
      match entries.lookup segment with
      | some node => .ok ⟨node, (segment, entries) :: p.above⟩
      | none => missing.map fun node => ⟨node, (segment, entries) :: p.above⟩

def walk (p : Place) : List OsText → Except Error Place
  | [] => .ok p
  | segment :: segments =>
    match step (.error .notFound) p segment with
    | .error e => .error e
    | .ok next => walk next segments

def make (p : Place) : List OsText → Option Error × Place
  | [] => (none, p)
  | segment :: segments =>
    match step (.ok .empty) p segment with
    | .error e => (some e, p)
    | .ok next => make next segments

end Place

structure Tree where
  root : Node
  current : Path

namespace Tree

def fresh (current : Path) : Tree :=
  { root := (Place.make ⟨.empty, []⟩ current.segments).2.top, current }

def start (t : Tree) (p : Path) : Place :=
  let root : Place := ⟨t.root, []⟩
  if p.isAbsolute then root
  else
    match root.walk t.current.segments with
    | .ok place => place
    | .error _ => root

def pathBound : Nat := 4096

def checkPath (p : Path) : Except Error Unit :=
  if p.contains (.char '\x00') then .error .unexpectedNul
  else if p.isEmpty then .error .notFound
  else if pathBound ≤ OsText.size p then .error .nameTooLong
  else .ok ()

def find (t : Tree) (p : Path) : Except Error Node := do
  checkPath p
  let place ← (t.start p).walk p.segments
  .ok place.node

def contains (t : Tree) (p : Path) : Bool :=
  match t.find p with
  | .ok _ => true
  | .error _ => false

def isDir (t : Tree) (p : Path) : Bool :=
  match t.find p with
  | .ok node => node.isDir
  | .error _ => false

def readText (t : Tree) (p : Path) : Except Error String := do
  match ← t.find p with
  | .dir _ => .error .isADirectory
  | .file content =>
    match String.fromUTF8? content with
    | some text => .ok text
    | none => .error .notText

/-- Makes a directory and those above it. What was made before a fault stays. A name with a dot
behind it at the end is not made: its directory has to be there. -/
def makeDirs (t : Tree) (p : Path) : Option Error × Tree :=
  match checkPath p with
  | .error e => if p.isEmpty then (none, t) else (some e, t)
  | .ok () =>
    let segments := if p.isAbsolute then p.segments else t.current.segments ++ p.segments
    let named := (Path.trimIdle segments).length
    let dotted := (segments.filter fun s => !s.isEmpty).getLast? == some Path.dot
    let made := if dotted then named - 1 else named
    let (fault, place) := Place.make ⟨t.root, []⟩ (segments.take made)
    let left := { t with root := place.top }
    match fault with
    | some e => (some e, left)
    | none =>
      match place.walk (if dotted then segments.drop made else []) with
      | .error e => (some e, left)
      | .ok found => if found.node.isDir then (none, left) else (some .alreadyExists, t)

/-- Changes the entries of the directory that a path lies in, which is made if it is missing. -/
def edit (t : Tree) (p : Path)
    (change : OsText → List (OsText × Node) → List (OsText × Node)) : Tree :=
  let segments := if p.isAbsolute then p.segments else t.current.segments ++ p.segments
  match (Path.trimIdle segments).reverse with
  | [] => t
  | name :: before =>
    if name = Path.dotDot then t else
    match Place.make ⟨t.root, []⟩ before.reverse with
    | (none, ⟨.dir entries, above⟩) =>
      { t with root := Place.top ⟨.dir (change name entries), above⟩ }
    | _ => t

def write (t : Tree) (p : Path) (content : ByteArray) : Tree :=
  t.edit p fun name => Node.putEntry name (.file content)

def remove (t : Tree) (p : Path) : Tree :=
  if t.contains p then t.edit p Node.dropEntry else t

def entries? (t : Tree) (p : Path) : Option (List (OsText × Node)) :=
  match t.find p with
  | .ok (.dir entries) => some entries
  | _ => none

end Tree

end Stencil.File
