import Stencil.File.Error
import Stencil.Text.Search

namespace Stencil

inductive Failure where
  | absent (template : String)
  | unreadable (template : String) (cause : File.Error)
  | malformed (template report : String)
  | unrenderable (template report : String)
  | unnamed (purpose : String)
  deriving DecidableEq, Repr

namespace Failure

inductive Kind where
  | notFound
  | read
  | parse
  | render
  | invalidArtifact
  deriving DecidableEq, Repr

def Kind.text : Kind → String
  | notFound => "resource_not_found"
  | read => "resource_read"
  | parse => "template_parse"
  | render => "render"
  | invalidArtifact => "invalid_artifact"

def kind : Failure → Kind
  | absent _ => .notFound
  | unreadable _ _ => .read
  | malformed _ _ => .parse
  | unrenderable _ _ => .render
  | unnamed _ => .invalidArtifact

def template? : Failure → Option String
  | absent template | unreadable template _ | malformed template _ | unrenderable template _ =>
    some template
  | unnamed _ => none

def message : Failure → String
  | absent template => "template for artifact generation is not found: " ++ template
  | unreadable template cause =>
    "failed to read template resource " ++ template ++ ": " ++ cause.message
  | malformed template report => "failed to parse template " ++ template ++ ": " ++ report
  | unrenderable template report => "failed to render template " ++ template ++ ": " ++ report
  | unnamed purpose => "generation purpose " ++ purpose ++ " produced an empty artifact name"

def cause? : Failure → Option File.Error
  | unreadable _ cause => some cause
  | _ => none

/-- Adds a cause to a report, unless the report says the same already. -/
def addCause (report cause : String) : String :=
  if Text.contains report cause then report else report ++ ": " ++ cause

def report (message : String) (causes : List String) : String :=
  causes.foldl addCause message

def chain (f : Failure) : String :=
  report f.message (f.cause?.toList.map File.Error.message)

end Failure

end Stencil
