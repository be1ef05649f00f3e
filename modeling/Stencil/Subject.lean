import Stencil.Json.Shape
import Stencil.Json.Printer
import Stencil.Text.Search

namespace Stencil

open Json (Value Fault)

structure Subject where
  canonicalName : String
  annotations : List String
  deriving DecidableEq, Repr, Inhabited

namespace Subject

def cutAtLastDot : List Char → Option (List Char × List Char)
  | [] => none
  | c :: cs =>
    match cutAtLastDot cs with
    | some (before, after) => some (c :: before, after)
    | none => if c = '.' then some ([], cs) else none

def simpleName (s : Subject) : String :=
  match cutAtLastDot s.canonicalName.toList with
  | some (_, after) => String.ofList after
  | none => s.canonicalName

def packageName (s : Subject) : String :=
  match cutAtLastDot s.canonicalName.toList with
  | some (before, _) => String.ofList before
  | none => ""

def carries (s : Subject) (name : String) : Bool :=
  s.annotations.contains name

def members (s : Subject) : List (String × Value) :=
  [("canonical_name", .string s.canonicalName), ("annotations", .ofStrings s.annotations)]

def value (s : Subject) : Value :=
  .ofPairs s.members

def print (s : Subject) : String :=
  (Value.object s.members).print

structure Draft where
  canonicalName : Option String := none
  annotations : Option (List String) := none

def Draft.finish (d : Draft) : Except Fault Subject :=
  match d.canonicalName with
  | some name => .ok ⟨name, d.annotations.getD []⟩
  | none => .error .mismatched

/-- Reads a known member, which may stand only once, or passes over another one. -/
def readMember (name : String) (d : Draft) (cs : List Char) : Except Fault (Draft × List Char) :=
  if name = "canonical_name" then
    if d.canonicalName.isSome then .error .mismatched
    else do
      let (name, rest) ← Json.wantString (← Json.readColon cs)
      .ok ({ d with canonicalName := some name }, rest)
  else if name = "annotations" then
    if d.annotations.isSome then .error .mismatched
    else do
      let (annotations, rest) ← Json.wantStrings (← Json.readColon cs)
      .ok ({ d with annotations := some annotations }, rest)
  else do
    let cs ← Json.readColon cs
    let rest ← Json.skipValue (Json.depthFor cs) cs
    .ok (d, rest)

def readMembers : (bound : Nat) → Bool → Draft → List Char → Except Fault (Draft × List Char)
  | 0, _, _, _ => .error .malformed
  | bound + 1, first, d, cs =>
    match Json.memberSeparator first cs with
    | .error fault => .error fault
    | .ok (.closed rest) => .ok (d, rest)
    | .ok (.more rest) => do
      let (name, rest) ← Json.readString rest
      let (d, rest) ← readMember (String.ofList name) d rest
      readMembers bound false d rest

def readFields (cs : List Char) : Except Fault (Draft × List Char) := do
  match ← Json.listSeparator true cs with
  | .closed _ => .error .mismatched
  | .more rest =>
    let (name, rest) ← Json.wantString rest
    match ← Json.listSeparator false rest with
    | .closed rest => .ok ({ canonicalName := some name }, rest)
    | .more rest =>
      let (annotations, rest) ← Json.wantStrings rest
      .ok (⟨some name, some annotations⟩, ← Json.closeList rest)

/-- The subject that a JSON text describes: an object, or a list of the fields in order. -/
def parse (text : String) : Except Fault Subject := do
  match Json.skipSpace text.toList with
  | '\x7b' :: rest =>
    let (d, rest) ← readMembers (Json.depthFor rest) true {} rest
    let subject ← d.finish
    Json.readEnd rest
    .ok subject
  | '[' :: rest =>
    let (d, rest) ← readFields rest
    let subject ← d.finish
    Json.readEnd rest
    .ok subject
  | other => .error (Json.mismatchAt other)

end Subject

end Stencil
