import Stencil.Logging.Pattern
import Stencil.Text.Search
import Stencil.Trace

namespace Stencil.Logging

inductive Threshold where
  | off
  | from (level : Level)
  deriving DecidableEq, Repr

def levelRank : Level → Nat
  | .error => 1
  | .warn => 2
  | .info => 3
  | .debug => 4
  | .trace => 5

def Threshold.rank : Threshold → Nat
  | off => 0
  | .from level => levelRank level

def Threshold.ofNumber? : Nat → Option Threshold
  | 0 => some .off
  | 1 => some (.from .error)
  | 2 => some (.from .warn)
  | 3 => some (.from .info)
  | 4 => some (.from .debug)
  | 5 => some (.from .trace)
  | _ => none

def Threshold.ofWord? (word : String) : Option Threshold :=
  match Text.lowerAscii word with
  | "" => some (.from .error)
  | "off" => some .off
  | "error" => some (.from .error)
  | "warn" => some (.from .warn)
  | "info" => some (.from .info)
  | "debug" => some (.from .debug)
  | "trace" => some (.from .trace)
  | _ => none

def number? (text : String) : Option Nat :=
  let digits := match text.toList with
    | '+' :: rest => rest
    | cs => cs
  if digits.isEmpty || !digits.all Char.isDigit then none else (String.ofList digits).toNat?

def Threshold.ofText? (text : String) : Option Threshold :=
  ((number? text).bind ofNumber?).or (ofWord? text)

structure Directive where
  target : Option String
  threshold : Threshold
  deriving DecidableEq, Repr

inductive FilterFault where
  | badLevel
  | badField
  | noDirective
  deriving DecidableEq, Repr

/-- The texts of the causes. A bad level is told twice: by the directive and by the level. Of a bad
field the report on its pattern is left out. -/
def FilterFault.causes : FilterFault → List String
  | badLevel =>
    let text := "error parsing level filter: expected one of \"off\", \"error\", \"warn\", " ++
      "\"info\", \"debug\", \"trace\", or a number 0-5"
    [text, text]
  | badField => ["invalid field filter"]
  | noDirective => ["invalid filter directive"]

namespace Directive

/-- Where in a directive a reader is. Offsets count characters. -/
inductive Part where
  | start
  | word (offset : Nat)
  | span
  | spanField (offset : Nat)
  | afterFields
  | afterSpan
  | level (offset : Nat)

/-- Characters with which a directive may begin: letters and digits of all scripts, and a few
signs. -/
def mayBegin (c : Char) : Bool :=
  c == '-' || c == ':' || c == '_' || Text.isAlphanumeric c

structure Draft where
  target : Option String := none
  aboutSpan : Bool := false

def slice (written : List Char) (first last : Nat) : String :=
  String.ofList ((written.drop first).take (last - first))

def checkField (field : String) : Except FilterFault Unit :=
  if field.isEmpty then .error .noDirective
  else
    match Text.splitChar '=' field with
    | _ :: value :: _ => if Pattern.isValue value.toList then .ok () else .error .badField
    | _ => .ok ()

def step (written : List Char) (offset : Nat) (c : Char) :
    Part × Draft → Except FilterFault (Part × Draft)
  | (.start, d) =>
    if c == '[' then .ok (.span, { d with aboutSpan := true })
    else if mayBegin c then .ok (.word offset, d)
    else .error .noDirective
  | (.word first, d) =>
    if c == '=' then
      .ok (.level (offset + 1), { d with target := some (slice written first offset) })
    else if c == '[' then
      .ok (.span, ⟨some (slice written first offset), true⟩)
    else .ok (.word first, d)
  | (.span, d) =>
    if c == ']' then .ok (.afterSpan, d)
    else if c == '\x7b' then .ok (.spanField (offset + 1), d)
    else .ok (.span, d)
  | (.spanField first, d) =>
    if c == '\x7d' || c == ',' then do
      checkField (slice written first offset)
      .ok (if c == ',' then .spanField (offset + 1) else .afterFields, d)
    else .ok (.spanField first, d)
  | (.afterFields, d) => if c == ']' then .ok (.afterSpan, d) else .error .noDirective
  | (.afterSpan, d) => if c == '=' then .ok (.level (offset + 1), d) else .error .noDirective
  | (.level first, d) => .ok (.level first, d)

def steps (written : List Char) : (offset : Nat) → List Char → Part × Draft →
    Except FilterFault (Part × Draft)
  | _, [], state => .ok state
  | offset, c :: cs, state => do steps written (offset + 1) cs (← step written offset c state)

/-- The directive of a text; one about spans is none of the events' business. Offsets are found
without the white space around the text, but count from its start. -/
def parse (text : String) : Except FilterFault (Option Directive) := do
  let written := text.toList
  let (part, d) ← steps written 0 (Text.trim text).toList (.start, {})
  let finish (target : Option String) (threshold : Threshold) : Option Directive :=
    if d.aboutSpan then none else some ⟨target, threshold⟩
  match part with
  | .word first =>
    let word := slice written first written.length
    if word.isEmpty then .ok (finish none (.from .trace))
    else
      match Threshold.ofText? word with
      | some threshold => .ok (finish none threshold)
      | none => .ok (finish (some word) (.from .trace))
  | .level first =>
    let word := slice written first written.length
    if word.isEmpty then .ok (finish d.target (.from .trace))
    else
      match Threshold.ofText? word with
      | some threshold => .ok (finish d.target threshold)
      | none => .error .badLevel
  | .afterSpan => .ok (finish d.target (.from .trace))
  | _ => .error .noDirective

def fits (d : Directive) (target : String) : Bool :=
  match d.target with
  | none => true
  | some name => Text.startsWith target name

def weight (d : Directive) : Nat :=
  match d.target with
  | none => 0
  | some name => name.utf8ByteSize + 1

end Directive

abbrev Filter := List Directive

namespace Filter

def parse (text : String) : Except FilterFault Filter := do
  let written := (Text.splitChar ',' text).filter fun part => !part.isEmpty
  let directives := (← written.mapM Directive.parse).filterMap id
  .ok (if written.isEmpty then [⟨none, .from .error⟩] else directives)

/-- The directive that decides about a target: the one with the longest name that fits, and of those
with one name the last. -/
def deciding? (f : Filter) (target : String) : Option Directive :=
  (f.filter (·.fits target)).foldl (fun best d =>
    match best with
    | some b => if b.weight ≤ d.weight then some d else best
    | none => some d) none

def lets (f : Filter) (target : String) (level : Level) : Bool :=
  match f.deciding? target with
  | some d => levelRank level ≤ d.threshold.rank
  | none => false

end Filter

end Stencil.Logging
