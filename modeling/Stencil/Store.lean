import Stencil.File.Tree
import Stencil.Table
import Stencil.Text.Quoted
import Stencil.Text.Search

namespace Stencil

/-- A store answers a name with a text, with nothing, or with an error. A chain gives the first
answer that is not nothing. -/
inductive Store where
  | embedded (resources : List (String × String))
  | directory (root : Path)
  | chain (stores : List Store)
  | failing (error : File.Error)
  /-- A store that does not answer the first so many times. -/
  | flaky (left : Nat) (error : File.Error) (inner : Store)

namespace Store

def ofResources (resources : List (String × String)) : Store :=
  embedded (Table.ofPairs resources)

def hasDrive (name : String) : Bool :=
  match name.toList with
  | drive :: ':' :: _ => drive.isAlpha
  | _ => false

def segments (name : String) : List String :=
  (Text.splitChar '/' name).flatMap (Text.splitChar '\\')

/-- Whether a name might lead out of the directory of a store. -/
def isUnsafe (name : String) : Bool :=
  name.isEmpty || name.toList.contains '\x00' || (segments name).contains ".." ||
    Text.startsWith name "/" || Text.startsWith name "\\" || hasDrive name

def unsafeName (name : String) : File.Error :=
  ⟨.invalidInput, "unsafe resource name: " ++ Text.quoted name⟩

/-- Reads a file below a directory. What is not there is no error. -/
def readBelow (root : Path) (files : File.Tree) (name : String) :
    Except File.Error (Option String) :=
  if isUnsafe name then .error (unsafeName name)
  else
    match files.readText (root.join (Path.ofString name)) with
    | .ok text => .ok (some text)
    | .error e => if e.kind = .notFound then .ok none else .error e

mutual

def read (files : File.Tree) (name : String) :
    Store → Except File.Error (Option String) × Store
  | embedded resources => (.ok (Table.get? name resources), embedded resources)
  | directory root => (readBelow root files name, directory root)
  | chain stores =>
    let (answer, stores) := readFirst files name stores
    (answer, chain stores)
  | failing e => (.error e, failing e)
  | flaky 0 e inner =>
    let (answer, inner) := read files name inner
    (answer, flaky 0 e inner)
  | flaky (left + 1) e inner => (.error e, flaky left e inner)

/-- The first answer that is not nothing. Stores after it are not asked. -/
def readFirst (files : File.Tree) (name : String) :
    List Store → Except File.Error (Option String) × List Store
  | [] => (.ok none, [])
  | store :: stores =>
    match read files name store with
    | (.ok none, store) =>
      let (answer, stores) := readFirst files name stores
      (answer, store :: stores)
    | (answer, store) => (answer, store :: stores)

end

def describeChain (stores : List Store) : String :=
  "ResourceChain \x7b stores: " ++ toString stores.length ++ " \x7d"

end Store

structure Library where
  store : Store
  files : File.Tree

def Library.read (name : String) (l : Library) : Except File.Error (Option String) × Library :=
  let (answer, store) := l.store.read l.files name
  (answer, { l with store })

end Stencil
