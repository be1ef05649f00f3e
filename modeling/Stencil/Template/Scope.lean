import Stencil.Template.Display
import Stencil.Template.Reference
import Stencil.Template.Trouble

namespace Stencil.Template

open Json (Value)

inductive Signal where
  | running
  | skipping
  | leaving
  deriving DecidableEq, Repr

structure LoopState where
  itemName : String
  keyName : Option String
  key : String
  item : Value
  index : Nat
  total : Nat
  signal : Signal

namespace LoopState

def counter? (l : LoopState) (name : List Char) : Option Value :=
  if name = "index".toList then some (.ofNat (l.index + 1))
  else if name = "index0".toList then some (.ofNat l.index)
  else if name = "first".toList then some (.bool (l.index == 0))
  else if name = "last".toList then some (.bool (l.index + 1 == l.total))
  else none

def find? (l : LoopState) (path : List Char) : Option Value :=
  if l.keyName.map String.toList = some path then some (.string l.key)
  else
    let (first, rest) := cutAt '.' path
    if first = "loop".toList then l.counter? (rest.getD [])
    else if first = l.itemName.toList then
      match rest with
      | none => some l.item
      | some rest => part? l.item rest
    else none

end LoopState

/-- A loop is a frame, and so is a macro, which does not see the frames around it. -/
inductive FrameKind where
  | page
  | included
  | loop (state : LoopState)
  | expansion (space name : String)

structure Frame where
  kind : FrameKind
  bindings : List (String × Value)

namespace Frame

def loop? (f : Frame) : Option LoopState :=
  match f.kind with
  | .loop state => some state
  | _ => none

def isClosed (f : Frame) : Bool :=
  match f.kind with
  | .page | .expansion _ _ => true
  | .included | .loop _ => false

def isLoop (f : Frame) : Bool :=
  f.loop?.isSome

def bind (f : Frame) (name : String) (v : Value) : Frame :=
  { f with bindings := Table.insert name v f.bindings }

def findBinding? (f : Frame) (path : List Char) : Option Value :=
  let (first, rest) := cutAt '.' path
  match Table.get? (String.ofList first) f.bindings, rest with
  | some v, none => some v
  | some v, some rest => part? v rest
  | none, _ => none

def find? (f : Frame) (path : List Char) : Option Value :=
  match f.findBinding? path with
  | some v => some v
  | none => f.loop?.bind (·.find? path)

end Frame

def findVariable? (globals : List (String × Value)) (path : List Char) : Option Value :=
  let (first, rest) := cutAt '.' path
  match Table.get? (String.ofList first) globals, rest with
  | some v, none => some v
  | some v, some rest => part? v rest
  | none, _ => none

/-- The value of a path: the innermost frame that has it decides. -/
def find? (globals : List (String × Value)) : List Frame → List Char → Option Value
  | [], path => findVariable? globals path
  | f :: fs, path =>
    match f.find? path with
    | some v => some v
    | none => if f.isClosed then findVariable? globals path else find? globals fs path

mutual

def resolve (globals : List (String × Value)) (frames : List Frame) (template : String) :
    (depth : Nat) → String → Except Trouble Value
  | 0, path => .error (.unknown path template)
  | depth + 1, path =>
    if path.toList.contains '[' then do
      let inner := lookups (path.length + 1) path.toList
      let evaluated ← resolveBrackets globals frames template depth path inner path
      let evaluated := dotted evaluated
      match find? globals frames evaluated.toList with
      | some v => .ok v
      | none => .error (.unknownIndex path template evaluated)
    else
      match find? globals frames path.toList with
      | some v => .ok v
      | none => .error (.unknown path template)

def resolveBrackets (globals : List (String × Value)) (frames : List Frame) (template : String) :
    (depth : Nat) → (path : String) → List (List Char) → String → Except Trouble String
  | 0, _, _, evaluated => .ok evaluated
  | _ + 1, _, [], evaluated => .ok evaluated
  | depth + 1, path, inside :: others, evaluated =>
    let index := String.ofList inside
    match resolve globals frames template depth index with
    | .error trouble => .error (.badIndex path trouble)
    | .ok (.string s) =>
      resolveBrackets globals frames template depth path others
        (replaceBracket evaluated index ("\"" ++ s ++ "\""))
    | .ok (.number n) =>
      resolveBrackets globals frames template depth path others
        (replaceBracket evaluated index (String.ofList n.text))
    | .ok _ => .error (.indexKind index path)

end

def assignHere (name : String) (v : Value) : List Frame → List Frame
  | [] => []
  | f :: fs => f.bind name v :: fs

def assignOutside (name : String) (v : Value) : List Frame → List Frame
  | [] => []
  | f :: fs => if f.isLoop then f :: assignOutside name v fs else f.bind name v :: fs

def updateLoop (change : LoopState → LoopState) : List Frame → Option (List Frame)
  | [] => none
  | f :: fs => f.loop?.map fun state => { f with kind := .loop (change state) } :: fs

/-- Moves the innermost loop to its next item; what was assigned for the last one is forgotten. -/
def nextItem (next : Option (String × Value)) : List Frame → Option (List Frame)
  | [] => none
  | f :: fs => f.loop?.map fun state =>
    let state := { state with index := state.index + 1, signal := .running }
    let state := match next with
      | some (key, item) => { state with key, item }
      | none => state
    ⟨.loop state, []⟩ :: fs

def innermostSignal : List Frame → Signal
  | [] => .running
  | f :: _ => match f.loop? with
    | some state => state.signal
    | none => .running

end Stencil.Template
