import Stencil.Json.Lexeme
import Stencil.Text.Alphanumeric
import Stencil.Text.Blank

namespace Stencil.Logging.Pattern

inductive Escape where
  | literal (code : Nat)
  | set
  | anchor
  deriving DecidableEq, Repr

def hexEscape? (digits : Nat) (cs : List Char) : Option (Escape × Nat) := do
  let values ← (cs.take digits).mapM Json.hexValue?
  let code := values.foldl (fun n v => n * 16 + v) 0
  if values.length = digits && Nat.isValidChar code then some (.literal code, digits + 1) else none

/-- What follows a backslash, and of how many characters it is. Boundaries of words are refused:
they are known for ASCII text only. -/
def escape? : List Char → Option (Escape × Nat)
  | [] => none
  | c :: cs =>
    match c with
    | 'x' => hexEscape? 2 cs
    | 'u' => hexEscape? 4 cs
    | 'U' => hexEscape? 8 cs
    | 'p' | 'P' =>
      match cs with
      | letter :: _ => if "clmnpszCLMNPSZ".toList.contains letter then some (.set, 2) else none
      | [] => none
    | 'd' | 'D' | 's' | 'S' | 'w' | 'W' => some (.set, 1)
    | 'A' | 'z' => some (.anchor, 1)
    | 'a' => some (.literal 0x07, 1)
    | 'f' => some (.literal 0x0C, 1)
    | 't' => some (.literal 0x09, 1)
    | 'n' => some (.literal 0x0A, 1)
    | 'r' => some (.literal 0x0D, 1)
    | 'v' => some (.literal 0x0B, 1)
    | c =>
      if c.toNat < 0x80 && !c.isAlphanum && c != '<' && c != '>' then some (.literal c.toNat, 1)
      else none

section Classes

def asciiNames : List String :=
  ["alnum", "alpha", "ascii", "blank", "cntrl", "digit", "graph", "lower", "print", "punct",
    "space", "upper", "word", "xdigit"]

def asciiClass? : List Char → Option Nat
  | ':' :: cs =>
    let (negated, cs) := match cs with
      | '^' :: rest => (1, rest)
      | _ => (0, cs)
    let name := cs.takeWhile (· != ':')
    if asciiNames.contains (String.ofList name) && (cs.drop name.length).take 2 == [':', ']'] then
      some (name.length + negated + 3)
    else none
  | _ => none

/-- How many characters after an opening bracket belong to the opening: the caret of a class of what
is not listed, and hyphens or a bracket that stand for themselves there. -/
def opening (cs : List Char) : Nat :=
  let caret := if cs.head? = some '^' then 1 else 0
  let hyphens := ((cs.drop caret).takeWhile (· == '-')).length
  let bracket := if hyphens = 0 && (cs.drop caret).head? = some ']' then 1 else 0
  caret + hyphens + bracket

def member? : List Char → Option (Option Nat × Nat)
  | '\\' :: cs =>
    match escape? cs with
    | some (.literal code, n) => some (some code, n + 1)
    | some (.set, n) => some (none, n + 1)
    | _ => none
  | c :: _ => some (some c.toNat, 1)
  | [] => none

def range? (cs : List Char) : Option Nat := do
  let (first, n) ← member? cs
  match cs.drop n with
  | '-' :: c :: rest =>
    if c = ']' || c = '-' then some n
    else
      let (last, m) ← member? (c :: rest)
      if (← first) ≤ (← last) then some (n + 1 + m) else none
  | _ => some n

/-- How many characters a class has after its opening; `depth` counts the classes around it, and
`skip` the characters that are read already. -/
def classFrom : (depth skip : Nat) → List Char → Option Nat
  | _, _, [] => none
  | depth, skip + 1, _ :: cs => (classFrom depth skip cs).map (· + 1)
  | depth, 0, ']' :: cs =>
    match depth with
    | 0 => some 1
    | depth + 1 => (classFrom depth 0 cs).map (· + 1)
  | depth, 0, '[' :: cs =>
    match asciiClass? cs with
    | some n => (classFrom depth n cs).map (· + 1)
    | none => (classFrom (depth + 1) (opening cs) cs).map (· + 1)
  | depth, 0, c :: cs =>
    -- Two of these signs are an operation on classes.
    if ['&', '-', '~'].contains c && cs.head? = some c then (classFrom depth 1 cs).map (· + 1)
    else (range? (c :: cs)).bind fun n => (classFrom depth (n - 1) cs).map (· + 1)

end Classes

section Groups

inductive Head where
  | group (name : Option String) (length : Nat)
  | flags (length : Nat)

def isName : List Char → Bool
  | [] => false
  | c :: cs =>
    (c == '_' || Text.isAlphanumeric c && !c.isDigit) &&
      cs.all fun d => ['_', '.', '[', ']'].contains d || Text.isAlphanumeric d

def areFlags (cs : List Char) : Bool :=
  cs.all ("imsUuRx-".toList.contains ·) && decide cs.Nodup && cs.getLast? != some '-'

def head? : List Char → Option Head
  | '?' :: '=' :: _ => none
  | '?' :: '!' :: _ => none
  | '?' :: '<' :: cs => named 2 cs
  | '?' :: 'P' :: '<' :: cs => named 3 cs
  | '?' :: cs =>
    let flags := cs.takeWhile fun c => c != ':' && c != ')'
    if !areFlags flags then none
    else
      match cs.drop flags.length with
      | ':' :: _ => some (.group none (flags.length + 2))
      | ')' :: _ => if flags.isEmpty then none else some (.flags (flags.length + 2))
      | _ => none
  | _ => some (.group none 0)
where
  named (before : Nat) (cs : List Char) : Option Head :=
    let name := cs.takeWhile (· != '>')
    if isName name && name.length < cs.length then
      some (.group (some (String.ofList name)) (before + name.length + 1))
    else none

end Groups

structure Reading where
  groups : Nat := 0
  names : List String := []
  repeatable : Bool := false

/-- Whether the rest of a pattern can be read; `skip` counts the characters that are read already. A
brace would begin a count of repetitions, which needs its other brace. -/
def isPatternFrom (r : Reading) : (skip : Nat) → List Char → Bool
  | _, [] => r.groups == 0
  | skip + 1, _ :: cs => isPatternFrom r skip cs
  | 0, c :: cs =>
    match c with
    | '(' =>
      match head? cs with
      | some (.group name n) =>
        !name.any r.names.contains &&
          isPatternFrom ⟨r.groups + 1, name.toList ++ r.names, false⟩ n cs
      | some (.flags n) => isPatternFrom { r with repeatable := false } n cs
      | none => false
    | ')' => r.groups != 0 && isPatternFrom { r with groups := r.groups - 1, repeatable := true } 0 cs
    | '|' => isPatternFrom { r with repeatable := false } 0 cs
    | '*' | '+' | '?' => r.repeatable && isPatternFrom r 0 cs
    | '\x7b' => false
    | '[' =>
      match classFrom 0 (opening cs) cs with
      | some n => isPatternFrom { r with repeatable := true } n cs
      | none => false
    | '\\' =>
      match escape? cs with
      | some (_, n) => isPatternFrom { r with repeatable := true } n cs
      | none => false
    | _ => isPatternFrom { r with repeatable := true } 0 cs

def isPattern (cs : List Char) : Bool :=
  isPatternFrom {} 0 cs

def isFloat (cs : List Char) : Bool :=
  let whole := cs.takeWhile Char.isDigit
  let rest := cs.dropWhile Char.isDigit
  let (fraction, rest) := match rest with
    | '.' :: rest => (rest.takeWhile Char.isDigit, rest.dropWhile Char.isDigit)
    | _ => ([], rest)
  let exponent := match rest with
    | [] => true
    | e :: '+' :: ds | e :: '-' :: ds | e :: ds =>
      (e == 'e' || e == 'E') && !ds.isEmpty && ds.all Char.isDigit
  let number := !(whole ++ fraction).isEmpty && exponent
  number || ["inf", "infinity", "nan"].contains (Text.lowerAscii (String.ofList cs))

/-- Whether a text can be the value of a field: a number or a pattern. Only a number begins with a
plus sign. -/
def isValue : List Char → Bool
  | '+' :: cs => isFloat cs
  | cs => isPattern cs

end Stencil.Logging.Pattern
