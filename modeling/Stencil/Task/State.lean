namespace Stencil

inductive TaskState where
  | start
  | analyze
  | skipped
  | resolveTemplate
  | render
  | complete
  | failed
  deriving DecidableEq, Repr, Inhabited

namespace TaskState

def text : TaskState → String
  | start => "start"
  | analyze => "analyze"
  | skipped => "skipped"
  | resolveTemplate => "resolve_template"
  | render => "render"
  | complete => "complete"
  | failed => "failed"

def isTerminal : TaskState → Bool
  | skipped | complete | failed => true
  | start | analyze | resolveTemplate | render => false

end TaskState

end Stencil
