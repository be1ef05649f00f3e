import Stencil.Failure
import Stencil.Json.Value
import Stencil.Task.State
import Stencil.Text.OsText

namespace Stencil

open Json (Value)

inductive Level where
  | error
  | warn
  | info
  | debug
  | trace
  deriving DecidableEq, Repr

def Level.text : Level → String
  | error => "ERROR"
  | warn => "WARN"
  | info => "INFO"
  | debug => "DEBUG"
  | trace => "TRACE"

/-- An event belongs to the task in whose course it happens, and to the state that the task is in
then. -/
inductive Event where
  | lookup (template : String) (hit : Bool)
  | compiled (template : String) (size : Nat)
  | notCompiled (key : String) (kind : Failure.Kind)
  | notRequired
  | generating (artifact template : String)
  | generated (artifact : String)
  | failed (failure : Failure)
  | configured (directories : List OsText) (escaping : Bool)
  | installed (format output filter : String)

namespace Event

def level : Event → Level
  | configured _ _ | installed _ _ _ => .info
  | _ => .debug

def target : Event → String
  | lookup _ _ | notCompiled _ _ => "artifact_gen::template::cache"
  | compiled _ _ => "artifact_gen::template::resolver"
  | notRequired | generating _ _ | generated _ | failed _ => "artifact_gen::task"
  | configured _ _ => "artifact_gen::config"
  | installed _ _ _ => "artifact_gen::logging"

def message : Event → String
  | lookup _ _ => "template cache lookup"
  | compiled _ _ => "template compiled"
  | notCompiled _ _ => "template compilation failed; nothing cached"
  | notRequired => "artifact not required this round"
  | generating _ _ => "generating artifact"
  | generated _ => "artifact generated"
  | failed _ => "generation failed"
  | configured _ _ => "template resolver configured"
  | installed _ _ _ => "logging initialized"

def fields : Event → List (String × Value)
  | lookup template hit =>
    [("template", .string template), ("lookup", .string (if hit then "hit" else "miss"))]
  | compiled template size => [("template", .string template), ("source_len", .ofNat size)]
  | notCompiled key kind => [("cache_key", .string key), ("error_kind", .string kind.text)]
  | notRequired => []
  | generating artifact template =>
    [("artifact", .string artifact), ("template", .string template)]
  | generated artifact => [("artifact", .string artifact)]
  | failed failure =>
    [("error_kind", .string failure.kind.text), ("error", .string failure.message)]
  | configured directories escaping =>
    [("template_dirs", .string ("[" ++ ", ".intercalate (directories.map OsText.quoted) ++ "]")),
      ("autoescape", .bool escaping)]
  | installed format output filter =>
    [("format", .string format), ("output", .string output), ("filter", .string filter)]

end Event

structure Span where
  purpose : String
  initiator : String
  annotated : String
  deriving DecidableEq, Repr

namespace Span

def name : String := "generation_task"

def level : Level := .debug

def target : String := "artifact_gen::task"

def fields (s : Span) (state : TaskState) : List (String × Value) :=
  [("purpose", .string s.purpose), ("initiator", .string s.initiator),
    ("annotated", .string s.annotated), ("state", .string state.text)]

end Span

inductive Signal where
  | opened (span : Span)
  | recorded (state : TaskState)
  | event (e : Event)
  | closed

namespace Signal

/-- The course that is open after a signal, with its state. -/
def follow (current : Option (Span × TaskState)) : Signal → Option (Span × TaskState)
  | opened span => some (span, .start)
  | recorded state => current.map fun (span, _) => (span, state)
  | event _ => current
  | closed => none

def inCourse (current : Option (Span × TaskState)) :
    List Signal → List (Signal × Option (Span × TaskState))
  | [] => []
  | s :: signals => (s, current) :: inCourse (s.follow current) signals

end Signal

/-- A step that changes a state and leaves signals, in the order in which they were given. -/
def Traced (σ α : Type) := σ → (α × σ) × List Signal

namespace Traced

variable {σ ρ α β : Type}

def pure (a : α) : Traced σ α := fun s => ((a, s), [])

def bind (step : Traced σ α) (next : α → Traced σ β) : Traced σ β := fun s =>
  let ((a, s), before) := step s
  let ((b, s), after) := next a s
  ((b, s), before ++ after)

instance : Monad (Traced σ) where
  pure := pure
  bind := bind

def get : Traced σ σ := fun s => ((s, s), [])

def modify (change : σ → σ) : Traced σ Unit := fun s => (((), change s), [])

def signal (s : Signal) : Traced σ Unit := fun state => (((), state), [s])

def emit (e : Event) : Traced σ Unit := signal (.event e)

def onSecond (step : Traced σ α) : Traced (ρ × σ) α := fun (r, s) =>
  let ((a, s), signals) := step s
  ((a, r, s), signals)

def onFirst (step : Traced ρ α) : Traced (ρ × σ) α := fun (r, s) =>
  let ((a, r), signals) := step r
  ((a, r, s), signals)

end Traced

end Stencil
