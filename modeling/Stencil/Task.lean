import Stencil.Artifact
import Stencil.Resolver
import Stencil.Subject

namespace Stencil

variable {ρ π ω : Type}

/-- What a task is for. A purpose may keep a state `π` of its own, and sees rounds of a type `ρ`. -/
structure Purpose (ρ π : Type) where
  name : String
  template : String
  analyze : ρ → Subject → π → Bool × π
  artifactName : Subject → π → String × π
  context : Subject → Subject → π → Context × π

/-- The name of a purpose that has none of its own: what stands after the last double colon in the
name of its type. -/
def Purpose.nameOfType (type : String) : String :=
  ((Text.split type "::").getLast?).getD type

structure Task (ρ π ω : Type) where
  purpose : Purpose ρ π
  /-- The type because of which the task is considered. -/
  initiator : Subject
  /-- The type that the artifact is for. -/
  annotated : Subject
  resolver : Resolver ω

namespace Task

def forSubject (purpose : Purpose ρ π) (annotated : Subject) (resolver : Resolver ω) :
    Task ρ π ω :=
  ⟨purpose, annotated, annotated, resolver⟩

def span (t : Task ρ π ω) : Span :=
  ⟨t.purpose.name, t.initiator.canonicalName, t.annotated.canonicalName⟩

def describe (t : Task ρ π ω) : String :=
  "TemplateGenerationTask \x7b purpose: " ++ Text.quoted t.purpose.name ++
    ", template: " ++ Text.quoted t.purpose.template ++
    ", initiator_type: " ++ Text.quoted t.initiator.canonicalName ++
    ", annotated_type: " ++ Text.quoted t.annotated.canonicalName ++ " \x7d"

def ask {α : Type} (question : π → α × π) : Traced (Depot ω × π) α := fun (d, p) =>
  let (answer, p) := question p
  ((answer, d, p), [])

def enter (state : TaskState) : Traced (Depot ω × π) Unit :=
  Traced.signal (.recorded state)

def synthesize (t : Task ρ π ω) : Traced (Depot ω × π) (Except Failure Artifact) := do
  enter .resolveTemplate
  let name ← ask (t.purpose.artifactName t.annotated)
  if name.isEmpty then pure (.error (.unnamed t.purpose.name))
  else do
    Traced.emit (.generating name t.purpose.template)
    match ← Traced.onFirst (t.resolver.resolve t.purpose.template) with
    | .error failure => pure (.error failure)
    | .ok edition => do
      enter .render
      let context ← ask (t.purpose.context t.initiator t.annotated)
      match edition.template.render context with
      | .error failure => pure (.error failure)
      | .ok text => do
        enter .complete
        pure (.ok (.source ⟨name, text⟩))

def perform (t : Task ρ π ω) (round : ρ) :
    Traced (Depot ω × π) (Except Failure (Option Artifact)) := do
  enter .analyze
  if ← ask (t.purpose.analyze round t.annotated) then do
    match ← t.synthesize with
    | .ok artifact => do
      Traced.emit (.generated artifact.name)
      pure (.ok (some artifact))
    | .error failure => do
      enter .failed
      Traced.emit (.failed failure)
      pure (.error failure)
  else do
    enter .skipped
    Traced.emit .notRequired
    pure (.ok none)

def execute (t : Task ρ π ω) (round : ρ) :
    Traced (Depot ω × π) (Except Failure (Option Artifact)) := do
  Traced.signal (.opened t.span)
  let result ← t.perform round
  Traced.signal .closed
  pure result

end Task

end Stencil
