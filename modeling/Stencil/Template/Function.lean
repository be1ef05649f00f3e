import Stencil.Template.Arithmetic
import Stencil.Template.Filter

namespace Stencil.Template

open Json (Value Number)

namespace Function

def onlyNumber (argument known : String) (v : Value) : Trouble :=
  .refused ("Function " ++ ticked "range" ++ " received " ++ argument ++ "=" ++ v.print ++
    " but " ++ ticked known ++ " can only be a number")

def bound (argument known : String) (default : Except Trouble Nat) (args : Arguments) :
    Except Trouble Nat :=
  match args.get? argument with
  | none => default
  | some v =>
    match Filter.size.read? v with
    | some n => .ok n
    | none => .error (onlyNumber argument known v)

/-- Whole numbers from `start` up to but not including the end. A step of zero gives none, where
Tera counts for ever. -/
def countUp (start stop step : Nat) : List Nat :=
  if step = 0 then []
  else (List.range ((stop - start + step - 1) / step)).map fun i => start + i * step

def range (args : Arguments) : Except Trouble Value := do
  let start ← bound "start" "start" (.ok 0) args
  let step ← bound "step_by" "step" (.ok 1) args
  let stop ← bound "end" "end" (.error (.refused ("Function " ++ ticked "range" ++
    " was called without a " ++ ticked "end" ++ " argument"))) args
  if stop < start then
    .error (.refused ("Function " ++ ticked "range" ++ " was called with a " ++ ticked "start" ++
      " argument greater than the " ++ ticked "end" ++ " one"))
  else .ok (.array ((countUp start stop step).map Value.ofNat))

def throw (args : Arguments) : Except Trouble Value :=
  .error <| .refused <| match args.get? "message" with
    | some (.string message) => message
    | some v => "Function " ++ ticked "throw" ++ " received message=" ++ v.print ++ " but " ++
        ticked "message" ++ " can only be a string"
    | none => "Function " ++ ticked "throw" ++ " was called without a " ++ ticked "message" ++
        " argument"

end Function

def function? (name : String) : Option (Arguments → Except Trouble Value) :=
  match name with
  | "range" => some Function.range
  | "throw" => some Function.throw
  | _ => none

namespace Test

def complaint (test : String) (text : String) : Trouble :=
  .refused ("Tester " ++ ticked test ++ " was called " ++ text)

def admits (test : String) (most : Nat) (args : List Value) : Except Trouble Unit :=
  if args.length ≤ most then .ok ()
  else if most = 0 then
    .error (complaint test "with some args but this test doesn't take args")
  else
    .error (complaint test ("with " ++ toString args.length ++ " args, the max number is " ++
      toString most))

def value (test : String) (v : Option Value) : Except Trouble Value :=
  match v with
  | some v => .ok v
  | none => .error (complaint test "on an undefined variable")

def float? (v : Option Value) : Option Float :=
  (v.bind Value.number?).map Number.toFloat

def stringIn (test side : String) (v : Option Value) : Except Trouble String :=
  match v.bind Value.string? with
  | some s => .ok s
  | none => .error (complaint test (side ++ " that isn't a string"))

def onVariable : String := "on a variable"

def withParameter : String := "with a parameter"

def odd (test : String) (v : Option Value) (args : List Value) : Except Trouble Bool := do
  admits test 0 args
  let v ← value test v
  match float? (some v) with
  | some x => .ok (floatRemainder x 2 != 0)
  | none => .error (complaint "odd" "on a variable that isn't a number")

def divisible (v : Option Value) (args : List Value) : Except Trouble Bool := do
  let test := "divisibleby"
  admits test 1 args
  let v ← value test v
  match float? (some v), float? args.head? with
  | some x, some y => .ok (floatRemainder x y == 0)
  | some _, none => .error (complaint test "with a parameter that isn't a number")
  | none, _ => .error (complaint test "on a variable that isn't a number")

def isKind (test : String) (kind : Value → Bool) (v : Option Value) (args : List Value) :
    Except Trouble Bool := do
  admits test 0 args
  .ok (kind (← value test v))

def onTexts (test : String) (holds : String → String → Bool) (v : Option Value)
    (args : List Value) : Except Trouble Bool := do
  admits test 1 args
  let v ← value test v
  let s ← stringIn test onVariable (some v)
  let part ← stringIn test withParameter args.head?
  .ok (holds s part)

def containing (v : Option Value) (args : List Value) : Except Trouble Bool := do
  let test := "containing"
  admits test 1 args
  match ← value test v with
  | .string s => .ok (Text.contains s (← stringIn test withParameter args.head?))
  | .array items => .ok (items.any fun item => args.head?.any (item.same ·))
  | .object members =>
    .ok (Table.contains (← stringIn test withParameter args.head?) members)
  | _ => .error (.refused ("Tester " ++ ticked test ++
      " can only be used on string, array or map"))

end Test

/-- The test of a name. The value is missing if the variable is undefined. -/
def test? (name : String) : Option (Option Value → List Value → Except Trouble Bool) :=
  match name with
  | "defined" => some fun v args => do
    Test.admits name 0 args
    .ok v.isSome
  | "undefined" => some fun v args => do
    Test.admits name 0 args
    .ok v.isNone
  | "string" => some (Test.isKind name fun v => v.string?.isSome)
  | "number" => some (Test.isKind name fun v => v.number?.isSome)
  | "odd" => some (Test.odd name)
  | "even" => some fun v args => do .ok (!(← Test.odd name v args))
  | "divisibleby" => some Test.divisible
  | "iterable" => some (Test.isKind name fun v => v.array?.isSome || v.object?.isSome)
  | "object" => some (Test.isKind name fun v => v.object?.isSome)
  | "starting_with" => some (Test.onTexts name Text.startsWith)
  | "ending_with" => some (Test.onTexts name Text.endsWith)
  | "containing" => some Test.containing
  | _ => none

end Stencil.Template
