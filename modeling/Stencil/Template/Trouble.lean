import Stencil.Template.Describe

namespace Stencil.Template

open Json (Value)

def MathOp.sign : MathOp → String
  | .add => "+"
  | .sub => "-"
  | .mul => "x"
  | .div => "/"
  | .rem => "%"

def ticked (s : String) : String :=
  "\x60" ++ s ++ "\x60"

inductive Trouble where
  | unknown (path template : String)
  /-- The same of a path in which brackets have been evaluated. -/
  | unknownIndex (path template evaluated : String)
  | badIndex (path : String) (cause : Trouble)
  | indexKind (index path : String)
  | notANumber (path : String)
  | callNotANumber (function : String)
  | mathOnText (text : String)
  | mathOnBool (value : Bool)
  | mathOnJoined (written : String)
  | mathOnTest (test : String)
  | mathOnOther
  | outOfBounds (op : MathOp) (left right : Int) (range : String)
  | moduloByZero (left right : Expr)
  | comparisonToNaN
  | callNotABool (function : String)
  | membershipContainer
  | membershipItem (item : Value) (container : String)
  | joinedPath (path : String)
  | joinedCall (function : String)
  | loopContainer (container : Term)
  | keyWithoutObject (container : String)
  | objectWithoutKey (container : String)
  | notIterable (container : String)
  | leavesNoLoop (word : String)
  | unknownExpansion (space name template : String)
  | unknownSpace (space template : String)
  | missingArgument (name argument : String)
  | nestedTooDeep
  | topLevelInherited
  | missingTemplates (names : List String)
  | defaultWithoutValue
  | unknownFilter (name : String)
  | unknownTest (name : String)
  | unknownFunction (name : String)
  | filterFailed (name : String) (cause : Trouble)
  | testFailed (name : String) (cause : Trouble)
  | callFailed (name : String) (cause : Trouble)
  | filterInput (filter : String) (value : Value) (wanted : String)
  | filterArgument (filter argument : String) (value : Value) (wanted : String)
  | refused (message : String)
  /-- A trouble without its causes. -/
  | bare (trouble : Trouble)

namespace Trouble

def message : Trouble → String
  | unknown path template =>
    "Variable " ++ ticked path ++ " not found in context while rendering '" ++ template ++ "'"
  | unknownIndex path template evaluated =>
    "Variable " ++ ticked path ++ " not found in context while rendering '" ++ template ++
      "': the evaluated version was " ++ ticked evaluated ++ ". Maybe the index is out of bounds?"
  | badIndex path cause => "Variable " ++ path ++ " can not be evaluated because: " ++ cause.message
  | indexKind index path =>
    "Only variables evaluating to String or Number can be used as index (" ++ ticked index ++
      " of " ++ ticked path ++ ")"
  | notANumber path =>
    "Variable " ++ ticked path ++ " was used in a math operation but is not a number"
  | callNotANumber function =>
    "Function " ++ ticked function ++
      " was used in a math operation but is not returning a number"
  | mathOnText text => "Tried to do math with a string: " ++ ticked text
  | mathOnBool value =>
    "Tried to do math with a boolean: " ++ ticked (if value then "true" else "false")
  | mathOnJoined written => "Tried to do math with a string concatenation: " ++ written
  | mathOnTest test => "Tried to do math with a test: " ++ test
  | mathOnOther => "Tried to do math with an expression not resulting in a number"
  | outOfBounds op left right range =>
    toString left ++ " " ++ op.sign ++ " " ++ toString right ++
      " results in an out of bounds " ++ range
  | moduloByZero left right =>
    "Tried to do a modulo by zero: " ++ left.describe ++ "/" ++ right.describe
  | comparisonToNaN => "Comparison to NaN"
  | callNotABool function =>
    "Function " ++ ticked function ++ " was used in a logic operation but is not returning a bool"
  | membershipContainer =>
    "The " ++ ticked "in" ++ " operator only supports strings, arrays and objects."
  | membershipItem item container =>
    "Tried to check if " ++ item.describe ++ " is in a " ++ container ++ ", but it isn't a string"
  | joinedPath path =>
    "Tried to concat a value that is not a string or a number from ident " ++ path
  | joinedCall function =>
    "Tried to concat a value that is not a string or a number from function call " ++ function
  | loopContainer container =>
    "Forloop containers have to be an ident or a function call (tried to iterate on '" ++
      container.describe ++ "')"
  | keyWithoutObject container =>
    "Tried to iterate using key value on variable " ++ ticked container ++
      ", but it isn't an object/map"
  | objectWithoutKey container =>
    "Tried to iterate using key value on variable " ++ ticked container ++
      ", but it is missing a key"
  | notIterable container =>
    "Tried to iterate on a container (" ++ ticked container ++ ") that has a unsupported type"
  | leavesNoLoop word => "Attempted " ++ ticked word ++ " while not in " ++ ticked "for loop"
  | unknownExpansion space name template =>
    "Macro " ++ ticked (space ++ "::" ++ name) ++ " not found in template " ++ ticked template
  | unknownSpace space template =>
    "Macro namespace " ++ ticked space ++ " was not found in template " ++ ticked template ++
      ". Have you maybe forgotten to import it, or misspelled it?"
  | missingArgument name argument =>
    "Macro " ++ ticked name ++ " is missing the argument " ++ ticked argument
  | nestedTooDeep => "Macros and blocks are nested too deep"
  | topLevelInherited => "Tried to use super() in the top level block"
  | missingTemplates names => "Template '[" ++ ", ".intercalate names ++ "]' not found"
  | defaultWithoutValue =>
    "The " ++ ticked "default" ++ " filter requires a " ++ ticked "value" ++ " argument."
  | unknownFilter name => "Filter '" ++ name ++ "' not found"
  | unknownTest name => "Test '" ++ name ++ "' not found"
  | unknownFunction name => "Function '" ++ name ++ "' not found"
  | filterFailed name _ => "Filter call '" ++ name ++ "' failed"
  | testFailed name _ => "Test call '" ++ name ++ "' failed"
  | callFailed name _ => "Function call '" ++ name ++ "' failed"
  | filterInput filter value wanted =>
    "Filter " ++ ticked filter ++ " was called on an incorrect value: got " ++
      ticked value.print ++ " but expected a " ++ wanted
  | filterArgument filter argument value wanted =>
    "Filter " ++ ticked filter ++ " received an incorrect type for arg " ++ ticked argument ++
      ": got " ++ ticked value.print ++ " but expected a " ++ wanted
  | refused message => message
  | bare trouble => trouble.message

def messages : Trouble → List String
  | filterFailed name cause => (filterFailed name cause).message :: cause.messages
  | testFailed name cause => (testFailed name cause).message :: cause.messages
  | callFailed name cause => (callFailed name cause).message :: cause.messages
  | trouble => [trouble.message]

end Trouble

end Stencil.Template
