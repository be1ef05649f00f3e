import Stencil.Template.Token
import Stencil.Template.Tree

namespace Stencil.Template

/-- Joins operands with operators of two ranks, each from left to right; `pending` is the sum that
the current product will be joined to. -/
def climb {op α : Type} (binds : op → Bool) (join : op → α → α → α) :
    (pending : Option (α × op)) → (current : α) → List (op × α) → α
  | none, current, [] => current
  | some (left, o), current, [] => join o left current
  | pending, current, (o, x) :: rest =>
    if binds o then climb binds join pending (join o current x) rest
    else
      let left := match pending with
        | none => current
        | some (left, p) => join p left current
      climb binds join (some (left, o)) x rest

def MathOp.binds : MathOp → Bool
  | .mul | .div | .rem => true
  | .add | .sub => false

def mathOps : List (String × MathOp) :=
  [("+", .add), ("-", .sub), ("*", .mul), ("/", .div), ("%", .rem)]

def compareOps : List (String × CompareOp) :=
  [("<=", .lessEqual), (">=", .greaterEqual), (">", .greater), ("<", .less), ("==", .equal),
   ("!=", .notEqual)]

def booleans : List (String × Bool) :=
  [("true", true), ("false", false), ("True", true), ("False", false)]

inductive Junction where
  | both
  | either
  deriving DecidableEq, Repr

def Junction.binds : Junction → Bool
  | .both => true
  | .either => false

def Junction.join : Junction → Expr → Expr → Expr
  | .both, l, r => .ofTerm (.both l r)
  | .either, l, r => .ofTerm (.either l r)

def readSpacedWord? (word : String) (cs : List Char) : Option (List Char) := do
  readSpace? (← readWord? word cs)

def readJunction? (cs : List Char) : Option (Junction × List Char) :=
  match readSpacedWord? "or" cs with
  | some rest => some (.either, rest)
  | none => (readSpacedWord? "and" cs).map fun rest => (.both, rest)

def readNegation (cs : List Char) : Bool × List Char :=
  match readSpacedWord? "not" cs with
  | some rest => (true, rest)
  | none => (false, cs)

def mathTerm (op : MathOp) (l r : Term) : Term :=
  .math op (.ofTerm l) (.ofTerm r)

def mathExpr (op : MathOp) (l r : Expr) : Expr :=
  .ofTerm (.math op l r)

/-- Parts of a joined text: neighbouring strings become one, and an empty one is left out. -/
def mergeTexts : (pending : String) → List Term → List Term
  | pending, [] => if pending.isEmpty then [] else [.text pending]
  | pending, .text s :: parts => mergeTexts (pending ++ s) parts
  | pending, part :: parts =>
    if pending.isEmpty then part :: mergeTexts "" parts
    else .text pending :: part :: mergeTexts "" parts

def joinTerms (parts : List Term) : Term :=
  match mergeTexts "" parts with
  | [] => .text ""
  | [.text s] => .text s
  | parts => .joined parts

mutual

/-- Operands joined by `and` and `or`. As everywhere in the grammar, alternatives are tried in order
and the first that fits is final, and repetitions take as much as they can. -/
def readLogic? : (depth : Nat) → List Char → Option (Expr × List Char)
  | 0, _ => none
  | depth + 1, cs => do
    let (first, rest) ← readLogicValue? depth cs
    let (others, rest) := readLogicRest depth rest
    some (climb Junction.binds Junction.join none first others, rest)

def readLogicRest : (depth : Nat) → List Char → List (Junction × Expr) × List Char
  | 0, cs => ([], cs)
  | depth + 1, cs =>
    match readJunction? (skipSpace cs) with
    | none => ([], cs)
    | some (junction, after) =>
      match readLogicValue? depth (skipSpace after) with
      | none => ([], cs)
      | some (value, rest) =>
        let (others, rest) := readLogicRest depth rest
        ((junction, value) :: others, rest)

def readLogicValue? : (depth : Nat) → List Char → Option (Expr × List Char)
  | 0, _ => none
  | depth + 1, cs =>
    let (negated, after) := readNegation cs
    match readMembership? depth after with
    | some (t, rest) => some (.mk t negated [], rest)
    | none =>
      match readComparison? depth after with
      | some (.mk t _ filters, rest) => some (.mk t negated filters, rest)
      | none => do
        let rest ← readWord? "(" cs
        let (.mk t _ filters, rest) ← readLogic? depth (skipSpace rest)
        let rest ← readWord? ")" (skipSpace rest)
        some (.mk t false filters, rest)

def readMembership? : (depth : Nat) → List Char → Option (Term × List Char)
  | 0, _ => none
  | depth + 1, cs => do
    let (item, rest) ← match readJoinedFiltered? depth cs with
      | some found => some found
      | none => readFiltered? depth cs
    let (negated, rest) := readNegation (skipSpace rest)
    let rest ← readWord? "in" (skipSpace rest)
    let rest := skipSpace rest
    let (container, rest) ← match readJoinedFiltered? depth rest with
      | some found => some found
      | none =>
        match readListFiltered? depth rest with
        | some found => some found
        | none => (readPath? depth rest).map fun (path, rest) =>
          (.ofTerm (.path (String.ofList path)), rest)
    some (.among item container negated, rest)

def readComparison? : (depth : Nat) → List Char → Option (Expr × List Char)
  | 0, _ => none
  | depth + 1, cs => do
    let (left, rest) ← readSide? depth cs
    match readOneOf? compareOps (skipSpace rest) with
    | none => some (left, rest)
    | some (op, after) =>
      match readSide? depth (skipSpace after) with
      | none => some (left, rest)
      | some (right, rest) => some (.ofTerm (.compare op left right), rest)

def readSide? : (depth : Nat) → List Char → Option (Expr × List Char)
  | 0, _ => none
  | depth + 1, cs =>
    match readJoinedFiltered? depth cs with
    | some found => some found
    | none => do
      let (first, rest) ← readFiltered? depth cs
      let (others, rest) := readFilteredRest depth rest
      some (climb MathOp.binds mathExpr none first others, rest)

def readFilteredRest : (depth : Nat) → List Char → List (MathOp × Expr) × List Char
  | 0, cs => ([], cs)
  | depth + 1, cs =>
    match readOneOf? mathOps (skipSpace cs) with
    | none => ([], cs)
    | some (op, after) =>
      match readFiltered? depth (skipSpace after) with
      | none => ([], cs)
      | some (value, rest) =>
        let (others, rest) := readFilteredRest depth rest
        ((op, value) :: others, rest)

def readFiltered? : (depth : Nat) → List Char → Option (Expr × List Char)
  | 0, _ => none
  | depth + 1, cs => do
    let (t, rest) ← readBasic? depth cs
    let (filters, rest) := readFilters depth rest
    some (.mk t false filters, rest)

def readJoinedFiltered? : (depth : Nat) → List Char → Option (Expr × List Char)
  | 0, _ => none
  | depth + 1, cs => do
    let (t, rest) ← match readJoined? depth cs with
      | some found => some found
      | none => (readString? cs).map fun (text, rest) => (.text (String.ofList text), rest)
    let (filters, rest) := readFilters depth rest
    some (.mk t false filters, rest)

def readFilters : (depth : Nat) → List Char → List Call × List Char
  | 0, cs => ([], cs)
  | depth + 1, cs =>
    match readWord? "|" (skipSpace cs) with
    | none => ([], cs)
    | some after =>
      match readFilter? depth (skipSpace after) with
      | none => ([], cs)
      | some (filter, rest) =>
        let (filters, rest) := readFilters depth rest
        (filter :: filters, rest)

def readFilter? : (depth : Nat) → List Char → Option (Call × List Char)
  | 0, _ => none
  | depth + 1, cs =>
    match readCall? depth cs with
    | some found => some found
    | none => (readName? cs).map fun (name, rest) => (.mk (String.ofList name) [], rest)

def readBasic? : (depth : Nat) → List Char → Option (Term × List Char)
  | 0, _ => none
  | depth + 1, cs => do
    let (first, rest) ← readOperand? depth cs
    let (others, rest) := readBasicRest depth rest
    some (climb MathOp.binds mathTerm none first others, rest)

def readBasicRest : (depth : Nat) → List Char → List (MathOp × Term) × List Char
  | 0, cs => ([], cs)
  | depth + 1, cs =>
    match readOneOf? mathOps (skipSpace cs) with
    | none => ([], cs)
    | some (op, after) =>
      match readOperand? depth (skipSpace after) with
      | none => ([], cs)
      | some (value, rest) =>
        let (others, rest) := readBasicRest depth rest
        ((op, value) :: others, rest)

def readOperand? : (depth : Nat) → List Char → Option (Term × List Char)
  | 0, _ => none
  | depth + 1, cs =>
    let inner := do
      let rest ← readWord? "(" cs
      let (t, rest) ← readBasic? depth (skipSpace rest)
      let rest ← readWord? ")" (skipSpace rest)
      some (t, rest)
    match inner with
    | some found => some found
    | none => readAtom? depth cs

/-- A value without operators. Booleans are tried first, so no name may begin like one. -/
def readAtom? : (depth : Nat) → List Char → Option (Term × List Char)
  | 0, _ => none
  | depth + 1, cs =>
    match readOneOf? booleans cs with
    | some (b, rest) => some (.bool b, rest)
    | none =>
      match readTest? depth cs with
      | some found => some found
      | none =>
        match readExpansion? depth cs with
        | some found => some found
        | none =>
          match readCall? depth cs with
          | some (call, rest) => some (.call call, rest)
          | none =>
            match readPath? depth cs with
            | some (path, rest) => some (.path (String.ofList path), rest)
            | none =>
              match readFloat? cs with
              | some (digits, rest) => some (.float (floatValue digits), rest)
              | none => (readInt? cs).map fun (digits, rest) => (.int (intValue digits), rest)

def readTest? : (depth : Nat) → List Char → Option (Term × List Char)
  | 0, _ => none
  | depth + 1, cs => do
    let (path, rest) ← readPath? depth cs
    let rest ← readWord? "is" (skipSpace rest)
    let rest := skipSpace rest
    let negatedTest := do
      let rest ← readWord? "not" rest
      readTestCall? depth (skipSpace rest)
    match negatedTest with
    | some ((name, args), rest) => some (.test (String.ofList path) true name args, rest)
    | none => do
      let ((name, args), rest) ← readTestCall? depth rest
      some (.test (String.ofList path) false name args, rest)

def readTestCall? : (depth : Nat) → List Char → Option ((String × List Expr) × List Char)
  | 0, _ => none
  | depth + 1, cs => do
    let (name, rest) ← readName? cs
    let args := do
      let after ← readWord? "(" (skipSpace rest)
      let (first, after) ← readArgument? depth (skipSpace after)
      let (others, after) := readArguments depth after
      let after ← readWord? ")" (skipSpace after)
      some (first :: others, after)
    match args with
    | some (args, rest) => some ((String.ofList name, args), rest)
    | none => some ((String.ofList name, []), rest)

def readArguments : (depth : Nat) → List Char → List Expr × List Char
  | 0, cs => ([], cs)
  | depth + 1, cs =>
    match readWord? "," (skipSpace cs) with
    | none => ([], cs)
    | some after =>
      match readArgument? depth (skipSpace after) with
      | none => ([], cs)
      | some (arg, rest) =>
        let (args, rest) := readArguments depth rest
        (arg :: args, rest)

def readArgument? : (depth : Nat) → List Char → Option (Expr × List Char)
  | 0, _ => none
  | depth + 1, cs =>
    match readLogic? depth cs with
    | some found => some found
    | none => readListFiltered? depth cs

def readCall? : (depth : Nat) → List Char → Option (Call × List Char)
  | 0, _ => none
  | depth + 1, cs => do
    let (name, rest) ← readName? cs
    let (args, rest) ← readNamedArguments? depth (skipSpace rest)
    some (.mk (String.ofList name) args, rest)

def readExpansion? : (depth : Nat) → List Char → Option (Term × List Char)
  | 0, _ => none
  | depth + 1, cs => do
    let (space, rest) ← readName? cs
    let rest ← readWord? "::" (skipSpace rest)
    let (name, rest) ← readName? (skipSpace rest)
    let (args, rest) ← readNamedArguments? depth (skipSpace rest)
    some (.expand (String.ofList space) (String.ofList name) args, rest)

def readNamedArguments? :
    (depth : Nat) → List Char → Option (List (String × Expr) × List Char)
  | 0, _ => none
  | depth + 1, cs => do
    let rest := skipSpace (← readWord? "(" cs)
    let (args, rest) := match readNamedArgument? depth rest with
      | none => ([], rest)
      | some ((name, value), rest) =>
        let (args, rest) := readMoreNamedArguments depth rest
        let rest := match readWord? "," (skipSpace rest) with
          | some rest => rest
          | none => rest
        ((name, value) :: args, rest)
    let rest ← readWord? ")" (skipSpace rest)
    some (args, rest)

def readMoreNamedArguments : (depth : Nat) → List Char → List (String × Expr) × List Char
  | 0, cs => ([], cs)
  | depth + 1, cs =>
    match readWord? "," (skipSpace cs) with
    | none => ([], cs)
    | some after =>
      match readNamedArgument? depth (skipSpace after) with
      | none => ([], cs)
      | some ((name, value), rest) =>
        let (args, rest) := readMoreNamedArguments depth rest
        ((name, value) :: args, rest)

def readNamedArgument? : (depth : Nat) → List Char → Option ((String × Expr) × List Char)
  | 0, _ => none
  | depth + 1, cs => do
    let (name, rest) ← readName? cs
    let rest ← readWord? "=" (skipSpace rest)
    let (value, rest) ← readArgument? depth (skipSpace rest)
    some ((String.ofList name, value), rest)

def readJoined? : (depth : Nat) → List Char → Option (Term × List Char)
  | 0, _ => none
  | depth + 1, cs => do
    let (first, rest) ← readPart? depth cs
    match readParts? depth rest with
    | ([], _) => none
    | (others, rest) => some (joinTerms (first :: others), rest)

def readParts? : (depth : Nat) → List Char → List Term × List Char
  | 0, cs => ([], cs)
  | depth + 1, cs =>
    match readWord? "~" (skipSpace cs) with
    | none => ([], cs)
    | some after =>
      match readPart? depth (skipSpace after) with
      | none => ([], cs)
      | some (part, rest) =>
        let (parts, rest) := readParts? depth rest
        (part :: parts, rest)

def readPart? : (depth : Nat) → List Char → Option (Term × List Char)
  | 0, _ => none
  | depth + 1, cs =>
    match readCall? depth cs with
    | some (call, rest) => some (.call call, rest)
    | none =>
      match readFloat? cs with
      | some (digits, rest) => some (.float (floatValue digits), rest)
      | none =>
        match readInt? cs with
        | some (digits, rest) => some (.int (intValue digits), rest)
        | none =>
          match readString? cs with
          | some (text, rest) => some (.text (String.ofList text), rest)
          | none => (readPath? depth cs).map fun (path, rest) =>
            (.path (String.ofList path), rest)

def readListFiltered? : (depth : Nat) → List Char → Option (Expr × List Char)
  | 0, _ => none
  | depth + 1, cs => do
    let rest ← readWord? "[" cs
    let (items, rest) := readItems depth (skipSpace rest)
    let rest ← readWord? "]" (skipSpace rest)
    let (filters, rest) := readFilters depth rest
    some (.mk (.list items) false filters, rest)

def readItems : (depth : Nat) → List Char → List Expr × List Char
  | 0, cs => ([], cs)
  | depth + 1, cs =>
    match readLogicValue? depth (skipSpace cs) with
    | none => ([], cs)
    | some (item, rest) =>
      match readWord? "," (skipSpace rest) with
      | none => ([item], rest)
      | some after =>
        let (items, rest) := readItems depth after
        (item :: items, rest)

end

end Stencil.Template
