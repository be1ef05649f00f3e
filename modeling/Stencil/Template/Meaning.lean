import Stencil.Template.Function
import Stencil.Template.Scope

namespace Stencil.Template

open Json (Value Number)

structure Definition where
  name : String
  params : List (String × Option Expr)
  body : List Node

structure Scene where
  template : String
  globals : List (String × Value)
  nodes : List Node
  blocks : List (String × List Node)
  definitions : List Definition
  escaping : Bool

/-- A step of a rendering. The frames survive a trouble that is caught. -/
abbrev Eval := ReaderT Scene (ExceptT Trouble (StateM (List Frame)))

namespace Eval

def settle {α : Type} (result : Except Trouble α) : Eval α :=
  match result with
  | .ok x => pure x
  | .error trouble => throw trouble

def because {α : Type} (wrap : Trouble → Trouble) (step : Eval α) : Eval α :=
  tryCatch step fun trouble => throw (wrap trouble)

def verbatim {α : Type} (step : Eval α) : Eval α :=
  withReader (fun scene => { scene with escaping := false }) step

def lookup (path : String) : Eval Value := do
  let scene ← read
  settle (resolve scene.globals (← get) scene.template (2 * path.length + 2) path)

end Eval

open Eval

/-- The three readings of an expression. -/
structure Meaning where
  value : Eval Value
  truth : Eval Bool
  number : Eval (Option Number)

/-- A condition before negation; a `final` one is not negated. -/
structure Verdict where
  holds : Bool
  final : Bool := false

/-- The three readings of a term; a value comes with the word whether it may be escaped. -/
structure Sense where
  value : Eval (Value × Bool)
  truth : Eval Verdict
  number : Eval (Option Number)

structure Application where
  name : String
  args : List (String × Meaning)

def evalArguments : List (String × Meaning) → Eval Arguments
  | [] => pure []
  | (name, meaning) :: others => do
    let v ← verbatim meaning.value
    let rest ← evalArguments others
    pure ((name, v) :: rest)

def evalList : List Meaning → Eval (List Value)
  | [] => pure []
  | meaning :: others => do
    let v ← meaning.value
    let rest ← evalList others
    pure (v :: rest)

def applyFunction (a : Application) : Eval Value :=
  match function? a.name with
  | none => throw (.unknownFunction a.name)
  | some f => because (.callFailed a.name) do
    settle (f (← evalArguments a.args))

def applyFilter (v : Value) (a : Application) : Eval Value :=
  match filter? a.name with
  | none => throw (.unknownFilter a.name)
  | some f => because (.filterFailed a.name) do
    settle (f v (← evalArguments a.args))

def isMarker (name : String) : Bool :=
  name == "safe" || name == "default"

def applyFilters : List Application → Value × Bool → Eval (Value × Bool)
  | [], result => pure result
  | a :: others, (v, escapable) =>
    if isMarker a.name then applyFilters others (v, escapable)
    else do
      let v ← applyFilter v a
      applyFilters others (v, true)

def escapeIn (scene : Scene) (escapable : Bool) (filters : List Application) (v : Value) : Value :=
  match v with
  | .string s =>
    if scene.escaping && escapable && (filters.getLast?.map (·.name)) != some "safe" then
      .string (escapeText s)
    else v
  | _ => v

def finish (negated : Bool) (filters : List Application) (base : Value × Bool) : Eval Value := do
  let (v, escapable) ← applyFilters filters base
  if negated then pure (.bool !v.isTrue)
  else pure (escapeIn (← read) escapable filters v)

def default? (filters : List Application) : Option (Eval Value) :=
  match filters with
  | a :: _ =>
    if a.name == "default" then
      some <| match a.args.find? (·.1 == "value") with
        | some (_, meaning) => meaning.value
        | none => throw .defaultWithoutValue
    else none
  | [] => none

/-- The value of a variable with filters. The negation of an undefined variable is true. -/
def pathValue (path : String) (negated : Bool) (filters : List Application) : Eval Value := do
  let found : Except Trouble Value ← tryCatch (do pure (.ok (← lookup path)))
    fun trouble => pure (.error trouble)
  match found, default? filters with
  | .ok .null, some default => finish negated filters (← default, true)
  | .ok v, _ => finish negated filters (v, true)
  | .error _, some default => finish negated filters (← default, true)
  | .error trouble, none => if negated then pure (.bool true) else throw trouble

def joinable? : Value → Option String
  | .string s => some s
  | .number n => some (String.ofList n.text)
  | _ => none

def callValue (a : Application) : Eval Value :=
  applyFunction a

def callNumber (a : Application) : Eval (Option Number) := do
  match ← callValue a with
  | .number n => pure (some n)
  | _ => throw (.callNotANumber a.name)

def pathNumber (path : String) : Eval (Option Number) := do
  match ← lookup path with
  | .number n => pure (some n)
  | _ => throw (.notANumber path)

def mathNumber (op : MathOp) (byZero : Trouble) (left right : Meaning) : Eval (Option Number) := do
  let x ← left.number
  let y ← right.number
  match x, y with
  | some x, some y => settle (op.apply byZero x y)
  | _, _ => pure none

/-- The value of arithmetic keeps nothing of a trouble but its own text. -/
def mathValue (number : Eval (Option Number)) : Eval (Value × Bool) := do
  match ← because .bare number with
  | some n => pure (.number n, false)
  | none => pure (.string "NaN", false)

def compareTruth (op : CompareOp) (left right : Meaning) : Eval Verdict := do
  match op with
  | .equal | .notEqual =>
    let x ← left.value
    let y ← right.value
    match x, y with
    | .number x, .number y => pure { holds := op.holds x.toFloat y.toFloat }
    | .number _, _ => pure { holds := false, final := true }
    | _, .number _ => pure { holds := false, final := true }
    | x, y => pure { holds := x.same y == (op == .equal) }
  | _ =>
    let x ← left.number
    let y ← right.number
    match x, y with
    | some x, some y => pure { holds := op.holds x.toFloat y.toFloat }
    | _, _ => throw .comparisonToNaN

def membership (item container : Meaning) (negated : Bool) : Eval Bool := do
  let x ← verbatim item.value
  let inside ← match ← verbatim container.value, x with
    | .array items, x => pure (items.any (·.same x))
    | .string s, .string part => pure (Text.contains s part)
    | .string _, x => throw (.membershipItem x "string")
    | .object members, .string name => pure (Table.contains name members)
    | .object _, x => throw (.membershipItem x "object")
    | _, _ => throw .membershipContainer
  pure (inside != negated)

def testTruth (path : String) (negated : Bool) (name : String) (args : List Meaning) :
    Eval Bool := do
  match test? name with
  | none => throw (.unknownTest name)
  | some test =>
    let args ← because (.testFailed name) (verbatim (evalList args))
    let found : Option Value ← tryCatch (do pure (some (← lookup path))) fun _ => pure none
    let holds ← because (.testFailed name) (settle (test found args))
    pure (holds != negated)

def numberTruth (number : Eval (Option Number)) : Eval Verdict := do
  match ← number with
  | some n => pure { holds := n.toFloat != 0 }
  | none => pure { holds := false }

def literal? : Term → Option Value
  | .text s => some (.string s)
  | .int n => some (.ofInt n)
  | .float x => some (.ofFloat x)
  | .bool b => some (.bool b)
  | _ => none

def findDefinition (space name : String) : Eval Definition := do
  let scene ← read
  if space == "self" && !scene.definitions.isEmpty then
    match scene.definitions.find? (·.name == name) with
    | some definition => pure definition
    | none => throw (.unknownExpansion space name scene.template)
  else throw (.unknownSpace space scene.template)

def bindParameters (name : String) (args : List (String × Meaning)) :
    List (String × Option Expr) → Eval (List (String × Value))
  | [] => pure []
  | (param, default) :: others => do
    let v ← match args.find? (·.1 == param), default with
      | some (_, meaning), _ => verbatim meaning.value
      | none, some default => pure ((literal? default.term).getD .null)
      | none, none => throw (.missingArgument name param)
    let rest ← bindParameters name args others
    pure (Table.insert param v rest)

def within (frame : Frame) (body : Eval String) : Eval String := do
  modify (frame :: ·)
  let text ← body
  modify List.tail
  pure text

def expansion (again : List Node → Eval String) (space name : String)
    (args : List (String × Meaning)) : Eval String := do
  let definition ← findDefinition space name
  let bindings ← bindParameters name args definition.params
  within ⟨.expansion space name, bindings⟩ (again definition.body)

def unusable : Eval (Option Number) :=
  throw .mathOnOther

def plainValue (v : Value) : Eval (Value × Bool) :=
  pure (v, false)

def boolSense (truth : Eval Verdict) (number : Eval (Option Number)) : Sense :=
  { value := do pure (.bool (← truth).holds, false), truth, number }

def joinedText (parts : List Term) : String :=
  " ~ ".intercalate <| parts.map fun
    | .text s => "'" ++ s ++ "'"
    | .path p => p
    | _ => "unknown"

def meaningOf (term : Term) (sense : Sense) (negated : Bool) (filters : List Application) :
    Meaning :=
  let truth : Eval Bool := do
    let verdict ← sense.truth
    pure (verdict.holds != (negated && !verdict.final))
  let value : Eval Value := match term with
    | .path path => pathValue path negated filters
    | .both _ _ | .either _ _ | .compare _ _ _ => do
      finish negated filters (.bool (← truth), false)
    | _ => do finish negated filters (← sense.value)
  { value
    truth := match term with
      | .path _ => do
        let v ← tryCatch value fun _ => pure (.bool false)
        pure v.isTrue
      | .joined _ => do pure (← value).isTrue
      | _ => truth
    number :=
      if filters.isEmpty then sense.number
      else do
        match ← value with
        | .number n => pure (some n)
        | _ => throw .mathOnOther }

mutual

def Term.sense (again : List Node → Eval String) : Term → Sense
  | .text s =>
    { value := pure (.string s, true)
      truth := pure { holds := !s.isEmpty }
      number := throw (.mathOnText s) }
  | .int n =>
    { value := plainValue (.ofInt n)
      truth := numberTruth (pure (some (.int (.nearest n))))
      number := pure (some (.int (.nearest n))) }
  | .float x =>
    { value := plainValue (.ofFloat x)
      truth := numberTruth (pure (Number.ofFloat? x))
      number := pure (Number.ofFloat? x) }
  | .bool b =>
    { value := plainValue (.bool b)
      truth := pure { holds := b }
      number := throw (.mathOnBool b) }
  | .path p =>
    { value := do pure (← lookup p, true)
      truth := do pure { holds := (← lookup p).isTrue }
      number := pathNumber p }
  | .math op left right =>
    let number :=
      mathNumber op (.moduloByZero left right) (left.meaning again) (right.meaning again)
    { value := mathValue number, truth := numberTruth number, number }
  | .compare op left right =>
    boolSense (compareTruth op (left.meaning again) (right.meaning again)) unusable
  | .both left right =>
    boolSense (do
      if ← (left.meaning again).truth then pure { holds := ← (right.meaning again).truth }
      else pure { holds := false }) unusable
  | .either left right =>
    boolSense (do
      if ← (left.meaning again).truth then pure { holds := true }
      else pure { holds := ← (right.meaning again).truth }) unusable
  | .among item container negated =>
    boolSense (do
      pure { holds := ← membership (item.meaning again) (container.meaning again) negated })
      unusable
  | .test path negated name args =>
    boolSense (do pure { holds := ← testTruth path negated name (meanings again args) })
      (throw (.mathOnTest name))
  | .call call =>
    let a := call.application again
    { value := do pure (← callValue a, true)
      truth := do
        match ← callValue a with
        | .bool b => pure { holds := b }
        | _ => throw (.callNotABool a.name)
      number := callNumber a }
  | .expand space name args =>
    let text := expansion again space name (lastOfEach (namedMeanings again args))
    { value := do pure (.string (← text), false)
      truth := do pure { holds := !(← text).isEmpty }
      number := unusable }
  | .list items =>
    { value := do pure (.array (← evalList (meanings again items)), false)
      truth := pure { holds := false }
      number := unusable }
  | .joined parts =>
    { value := do pure (.string (← joinParts again parts), false)
      truth := do pure { holds := !(← joinParts again parts).isEmpty }
      number := throw (.mathOnJoined (joinedText parts)) }

def joinParts (again : List Node → Eval String) : List Term → Eval String
  | [] => pure ""
  | part :: others => do
    let text ← match part with
      | .text s => pure s
      | .int n => pure (toString n)
      | .float x => pure (Decimal.plain.text x)
      | .path p =>
        match joinable? (← lookup p) with
        | some s => pure s
        | none => throw (.joinedPath p)
      | .call call =>
        match joinable? (← callValue (call.application again)) with
        | some s => pure s
        | none => throw (.joinedCall call.name)
      | _ => pure ""
    let rest ← joinParts again others
    pure (text ++ rest)

def Expr.meaning (again : List Node → Eval String) : Expr → Meaning
  | .mk term negated filters =>
    meaningOf term (term.sense again) negated (applications again filters)

def Call.application (again : List Node → Eval String) : Call → Application
  | .mk name args => ⟨name, lastOfEach (namedMeanings again args)⟩

def meanings (again : List Node → Eval String) : List Expr → List Meaning
  | [] => []
  | e :: es => e.meaning again :: meanings again es

def namedMeanings (again : List Node → Eval String) :
    List (String × Expr) → List (String × Meaning)
  | [] => []
  | (name, e) :: es => (name, e.meaning again) :: namedMeanings again es

def applications (again : List Node → Eval String) : List Call → List Application
  | [] => []
  | c :: cs => c.application again :: applications again cs

end

end Stencil.Template
