import Stencil.Json.Printer
import Stencil.Logging.Filter

namespace Stencil.Logging

open Json (Value)

structure Record where
  level : Level
  target : String
  message : String
  fields : List (String × Value)
  span : Option (Span × TaskState)
  spans : List (Span × TaskState)

namespace Record

def spanValue (course : Span × TaskState) : Value :=
  .ofPairs (("name", .string Span.name) :: course.1.fields course.2)

def value (r : Record) : Value :=
  let always := [("level", Value.string r.level.text), ("target", .string r.target),
    ("fields", .ofPairs (("message", .string r.message) :: r.fields))]
  match r.span with
  | none => .ofPairs always
  | some course =>
    .ofPairs (always ++
      [("span", spanValue course), ("spans", .array (r.spans.map spanValue))])

def ofSignal? (f : Filter) (s : Signal) (course : Option (Span × TaskState)) : Option Record :=
  let shown := course.filter fun _ => f.lets Span.target Span.level
  match s with
  | .event e =>
    if f.lets e.target e.level then
      some ⟨e.level, e.target, e.message, e.fields, shown, shown.toList⟩
    else none
  | .closed => shown.map fun _ => ⟨Span.level, Span.target, "close", [], shown, []⟩
  | _ => none

/-- The records of signals, none of which belongs to a course that began before. -/
def ofSignals (f : Filter) (signals : List Signal) : List Record :=
  (Signal.inCourse none signals).filterMap fun (s, course) => ofSignal? f s course

end Record

end Stencil.Logging
