import Stencil.Json.Printer

namespace Stencil

open Json (Value)

structure SourceArtifact where
  name : String
  text : String
  deriving DecidableEq, Repr

structure ResourceArtifact where
  name : String
  content : List UInt8
  deriving DecidableEq, Repr

inductive Artifact where
  | source (artifact : SourceArtifact)
  | resource (artifact : ResourceArtifact)
  deriving DecidableEq, Repr

namespace Artifact

inductive Kind where
  | source
  | resource
  deriving DecidableEq, Repr

def Kind.text : Kind → String
  | source => "source"
  | resource => "resource"

def Kind.value (k : Kind) : Value :=
  .string k.text

def kind : Artifact → Kind
  | source _ => .source
  | resource _ => .resource

def name : Artifact → String
  | source a => a.name
  | resource a => a.name

def source? : Artifact → Option SourceArtifact
  | source a => some a
  | resource _ => none

def resource? : Artifact → Option ResourceArtifact
  | source _ => none
  | resource a => some a

/-- Members in the order in which they are written. -/
def members (a : Artifact) : List (String × Value) :=
  ("type", a.kind.value) :: ("name", .string a.name) ::
    match a with
    | source a => [("source_text", .string a.text)]
    | resource a => [("content", .array (a.content.map fun b => .ofNat b.toNat))]

def value (a : Artifact) : Value :=
  .ofPairs a.members

def print (a : Artifact) : String :=
  (Value.object a.members).print

end Artifact

end Stencil
