namespace Stencil.Template

def isSpace (c : Char) : Bool :=
  c == ' ' || c == '\t' || c == '\r' || c == '\n'

def skipSpace (cs : List Char) : List Char :=
  cs.dropWhile isSpace

def readSpace? : List Char → Option (List Char)
  | [] => none
  | c :: cs => if isSpace c then some (skipSpace cs) else none

def readExact? : (token : List Char) → List Char → Option (List Char)
  | [], cs => some cs
  | _ :: _, [] => none
  | t :: ts, c :: cs => if t = c then readExact? ts cs else none

def readWord? (word : String) (cs : List Char) : Option (List Char) :=
  readExact? word.toList cs

def readOneOf? {α : Type} : List (String × α) → List Char → Option (α × List Char)
  | [], _ => none
  | (word, value) :: others, cs =>
    match readWord? word cs with
    | some rest => some (value, rest)
    | none => readOneOf? others cs

def isNameStart (c : Char) : Bool :=
  c.isAlpha || c == '_'

def isNameChar (c : Char) : Bool :=
  c.isAlphanum || c == '_'

def takeRun (p : Char → Bool) (cs : List Char) : List Char × List Char :=
  (cs.takeWhile p, cs.dropWhile p)

def readName? : List Char → Option (List Char × List Char)
  | [] => none
  | c :: cs =>
    if isNameStart c then
      let (more, rest) := takeRun isNameChar cs
      some (c :: more, rest)
    else none

def readDigits? : List Char → Option (List Char × List Char)
  | [] => none
  | c :: cs =>
    if c = '0' then some (['0'], cs)
    else if c.isDigit then
      let (more, rest) := takeRun Char.isDigit cs
      some (c :: more, rest)
    else none

def readInt? (cs : List Char) : Option (List Char × List Char) :=
  match cs with
  | '-' :: cs => (readDigits? cs).map fun (ds, rest) => ('-' :: ds, rest)
  | cs => readDigits? cs

def readFloat? (cs : List Char) : Option (List Char × List Char) := do
  let (whole, rest) ← readInt? cs
  let rest ← readWord? "." rest
  match takeRun Char.isDigit rest with
  | ([], _) => none
  | (fraction, rest) => some (whole ++ '.' :: fraction, rest)

def readUpTo? (quote : Char) : List Char → Option (List Char × List Char)
  | [] => none
  | c :: cs =>
    if c = quote then some ([], cs)
    else (readUpTo? quote cs).map fun (text, rest) => (c :: text, rest)

def isQuote (c : Char) : Bool :=
  c == '"' || c == '\'' || c == '\x60'

def readString? : List Char → Option (List Char × List Char)
  | [] => none
  | c :: cs => if isQuote c then readUpTo? c cs else none

def digitsValue (ds : List Char) : Nat :=
  ds.foldl (fun n d => n * 10 + (d.toNat - '0'.toNat)) 0

def intValue : List Char → Int
  | '-' :: ds => -(digitsValue ds : Int)
  | ds => digitsValue ds

def floatValue (cs : List Char) : Float :=
  let (negative, ds) := match cs with
    | '-' :: ds => (true, ds)
    | ds => (false, ds)
  let digits := ds.filter (· != '.')
  let fraction := (ds.dropWhile (· != '.')).length - 1
  let x := Float.ofScientific (digitsValue digits) true fraction
  if negative then -x else x

mutual

/-- A variable with the parts after it, in the characters in which it is written. A part stands
after a point, or in brackets: a number, a string or another variable. -/
def readPath? : (depth : Nat) → List Char → Option (List Char × List Char)
  | 0, _ => none
  | depth + 1, cs => do
    let (name, rest) ← readName? cs
    let (parts, rest) := readParts depth rest
    some (name ++ parts, rest)

def readParts : (depth : Nat) → List Char → List Char × List Char
  | 0, cs => ([], cs)
  | depth + 1, cs =>
    match cs with
    | '.' :: after =>
      match takeRun isNameChar after with
      | ([], _) => ([], cs)
      | (part, rest) =>
        let (parts, rest) := readParts depth rest
        ('.' :: (part ++ parts), rest)
    | '[' :: after =>
      match readIndex? depth after with
      | some (index, ']' :: rest) =>
        let (parts, rest) := readParts depth rest
        ('[' :: (index ++ ']' :: parts), rest)
      | _ => ([], cs)
    | _ => ([], cs)

def readIndex? : (depth : Nat) → List Char → Option (List Char × List Char)
  | 0, _ => none
  | depth + 1, cs =>
    match readInt? cs with
    | some found => some found
    | none =>
      match cs with
      | [] => none
      | q :: after =>
        if isQuote q then
          (readUpTo? q after).map fun (text, rest) => (q :: (text ++ [q]), rest)
        else readPath? depth cs

end

end Stencil.Template
