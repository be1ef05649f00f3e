import Stencil.Template.Expression

namespace Stencil.Template

inductive Setting where
  | page
  | loop
  | block
  | macroBody
  | section
  deriving DecidableEq, Repr

def Setting.admitsBlocks : Setting → Bool
  | .loop | .macroBody => false
  | .page | .block | .section => true

def atTag : List Char → Bool
  | '\x7b' :: c :: _ => c == '\x7b' || c == '%' || c == '#'
  | _ => false

def takeText : List Char → List Char × List Char
  | [] => ([], [])
  | c :: cs =>
    if atTag (c :: cs) then ([], c :: cs)
    else
      let (text, rest) := takeText cs
      (c :: text, rest)

def opening (trimmed plain : String) : List (String × Bool) :=
  [(trimmed, true), (plain, false)]

def readTagStart? (cs : List Char) : Option (Bool × List Char) :=
  readOneOf? (opening "\x7b%-" "\x7b%") cs

def readTagEnd? (cs : List Char) : Option (Bool × List Char) :=
  readOneOf? (opening "-%\x7d" "%\x7d") cs

def readPrintStart? (cs : List Char) : Option (Bool × List Char) :=
  readOneOf? (opening "\x7b\x7b-" "\x7b\x7b") cs

def readPrintEnd? (cs : List Char) : Option (Bool × List Char) :=
  readOneOf? (opening "-\x7d\x7d" "\x7d\x7d") cs

def readTag? {α : Type} (inside : List Char → Option (α × List Char)) (cs : List Char) :
    Option ((Trim × α) × List Char) := do
  let (left, rest) ← readTagStart? cs
  let (value, rest) ← inside (skipSpace rest)
  let (right, rest) ← readTagEnd? (skipSpace rest)
  some ((⟨left, right⟩, value), rest)

def readWordTag? (word : String) (cs : List Char) : Option (Trim × List Char) := do
  let ((trim, _), rest) ← readTag? (fun cs => (readWord? word cs).map ((), ·)) cs
  some (trim, rest)

def readEndTag? (word : String) (cs : List Char) : Option (Trim × List Char) := do
  let inside := fun cs => do
    let rest ← readWord? word cs
    match readName? (skipSpace rest) with
    | some (_, rest) => some ((), rest)
    | none => some ((), rest)
  let ((trim, _), rest) ← readTag? inside cs
  some (trim, rest)

def depthFor (cs : List Char) : Nat :=
  16 * (cs.length + 1)

def takeComment : List Char → Option (List Char × Bool × List Char)
  | [] => none
  | c :: cs =>
    match readOneOf? (opening "-#\x7d" "#\x7d") (c :: cs) with
    | some (right, rest) => some ([], right, rest)
    | none => (takeComment cs).map fun (text, right, rest) => (c :: text, right, rest)

/-- A comment. It may not be empty. -/
def readComment? (cs : List Char) : Option (Trim × List Char) := do
  let (left, rest) ← readOneOf? (opening "\x7b#-" "\x7b#") cs
  match ← takeComment rest with
  | ([], _) => none
  | (_, right, rest) => some (⟨left, right⟩, rest)

/-- Text up to the tag that ends it, which is nowhere read in another way. -/
def takeRaw : List Char → Option (List Char × Trim × List Char)
  | [] => none
  | c :: cs =>
    match readWordTag? "endraw" (c :: cs) with
    | some (closing, rest) => some ([], closing, rest)
    | none => (takeRaw cs).map fun (text, closing, rest) => (c :: text, closing, rest)

def readRaw? (cs : List Char) : Option (Node × List Char) := do
  let (opening, rest) ← readWordTag? "raw" cs
  let (text, closing, rest) ← takeRaw rest
  some (.raw opening (String.ofList text) closing, rest)

def readStrings : (bound : Nat) → List Char → List String × List Char
  | 0, cs => ([], cs)
  | bound + 1, cs =>
    match readString? (skipSpace cs) with
    | none => ([], cs)
    | some (text, rest) =>
      match readWord? "," (skipSpace rest) with
      | none => ([String.ofList text], rest)
      | some after =>
        let (texts, rest) := readStrings bound after
        (String.ofList text :: texts, rest)

def readTemplateNames? (cs : List Char) : Option (List String × List Char) :=
  match readString? cs with
  | some (text, rest) => some ([String.ofList text], rest)
  | none => do
    let rest ← readWord? "[" cs
    let (texts, rest) := readStrings (depthFor rest) rest
    let rest ← readWord? "]" (skipSpace rest)
    some (texts, rest)

def readInclude? (cs : List Char) : Option (Node × List Char) := do
  let inside := fun cs => do
    let rest ← readSpacedWord? "include" cs
    let (names, rest) ← readTemplateNames? rest
    let ignoring := do
      let after ← readWord? "ignore" (skipSpace rest)
      readWord? "missing" (skipSpace after)
    match ignoring with
    | some rest => some ((names, true), rest)
    | none => some ((names, false), rest)
  let ((trim, names, optional), rest) ← readTag? inside cs
  some (.include trim names optional, rest)

def readPrint? (cs : List Char) : Option (Node × List Char) := do
  let (left, rest) ← readPrintStart? cs
  let (value, rest) ← readArgument? (depthFor rest) (skipSpace rest)
  let (right, rest) ← readPrintEnd? (skipSpace rest)
  some (.print ⟨left, right⟩ value, rest)

def readInherited? (cs : List Char) : Option (Node × List Char) := do
  let (_, rest) ← readPrintStart? cs
  let rest ← readWord? "super()" (skipSpace rest)
  let (_, rest) ← readPrintEnd? (skipSpace rest)
  some (.inherited, rest)

def readAssignment? (cs : List Char) : Option ((String × Expr) × List Char) := do
  let (name, rest) ← readName? cs
  let rest ← readWord? "=" (skipSpace rest)
  let rest := skipSpace rest
  let (value, rest) ← readArgument? (depthFor rest) rest
  some ((String.ofList name, value), rest)

def readAssign? (cs : List Char) : Option (Node × List Char) := do
  let inside := fun cs =>
    match readSpacedWord? "set" cs with
    | some rest => (readAssignment? rest).map fun (pair, rest) => ((pair, false), rest)
    | none => do
      let rest ← readSpacedWord? "set_global" cs
      (readAssignment? rest).map fun (pair, rest) => ((pair, true), rest)
  let ((trim, (name, value), everywhere), rest) ← readTag? inside cs
  some (.assign trim name value everywhere, rest)

def readCondition? (word : String) (cs : List Char) : Option ((Trim × Expr) × List Char) :=
  readTag? (fun cs => do
    let rest ← readSpacedWord? word cs
    readLogic? (depthFor rest) rest) cs

def readLoopHead? (cs : List Char) :
    Option ((Option String × String × Expr) × List Char) := do
  let rest ← readSpacedWord? "for" cs
  let (first, rest) ← readName? rest
  let second := do
    let after ← readWord? "," rest
    readName? (skipSpace after)
  let (key, item, rest) := match second with
    | some (name, rest) => (some (String.ofList first), String.ofList name, rest)
    | none => (none, String.ofList first, rest)
  let rest ← readSpace? rest
  let rest ← readSpacedWord? "in" rest
  let depth := depthFor rest
  let (container, rest) ← match readFiltered? depth rest with
    | some found => some found
    | none => readListFiltered? depth rest
  some ((key, item, container), rest)

def readSectionHead? (cs : List Char) : Option (Call × List Char) := do
  let rest ← readSpacedWord? "filter" cs
  readFilter? (depthFor rest) rest

def readBlockHead? (cs : List Char) : Option (String × List Char) := do
  let rest ← readSpacedWord? "block" cs
  (readName? rest).map fun (name, rest) => (String.ofList name, rest)

def readLiteral? (cs : List Char) : Option (Expr × List Char) :=
  match readOneOf? booleans cs with
  | some (b, rest) => some (.ofTerm (.bool b), rest)
  | none =>
    match readString? cs with
    | some (text, rest) => some (.ofTerm (.text (String.ofList text)), rest)
    | none =>
      match readFloat? cs with
      | some (digits, rest) => some (.ofTerm (.float (floatValue digits)), rest)
      | none => (readInt? cs).map fun (digits, rest) => (.ofTerm (.int (intValue digits)), rest)

def readParameter? (cs : List Char) : Option ((String × Option Expr) × List Char) := do
  let (name, rest) ← readName? cs
  let default := do
    readLiteral? (← readWord? "=" rest)
  match default with
  | some (value, rest) => some ((String.ofList name, some value), rest)
  | none => some ((String.ofList name, none), rest)

def readMoreParameters : (bound : Nat) → List Char → List (String × Option Expr) × List Char
  | 0, cs => ([], cs)
  | bound + 1, cs =>
    match readWord? "," (skipSpace cs) with
    | none => ([], cs)
    | some after =>
      match readParameter? (skipSpace after) with
      | none => ([], cs)
      | some ((name, default), rest) =>
        let (others, rest) := readMoreParameters bound rest
        ((name, default) :: others, rest)

def readDefineHead? (cs : List Char) :
    Option ((String × List (String × Option Expr)) × List Char) := do
  let rest ← readSpacedWord? "macro" cs
  let (name, rest) ← readName? rest
  let rest := skipSpace (← readWord? "(" (skipSpace rest))
  let (params, rest) := match readParameter? rest with
    | none => ([], rest)
    | some ((first, default), rest) =>
      let (others, rest) := readMoreParameters (depthFor rest) rest
      ((first, default) :: others, rest)
  let rest ← readWord? ")" (skipSpace rest)
  some ((String.ofList name, params), rest)

def readText? (cs : List Char) : Option (Node × List Char) :=
  match takeText cs with
  | ([], _) => none
  | (text, rest) => some (.text (String.ofList text), rest)

def readFirst? {α : Type} : List (List Char → Option (α × List Char)) → List Char →
    Option (α × List Char)
  | [], _ => none
  | reader :: readers, cs =>
    match reader cs with
    | some found => some found
    | none => readFirst? readers cs

def readLeaf? (setting : Setting) (cs : List Char) : Option (Node × List Char) :=
  let printing := match setting with
    | .block => [readInherited?, readPrint?]
    | _ => [readPrint?]
  let leaving := match setting with
    | .loop =>
      [fun cs => (readWordTag? "break" cs).map fun (trim, rest) => (Node.quit trim, rest),
       fun cs => (readWordTag? "continue" cs).map fun (trim, rest) => (Node.next trim, rest)]
    | _ => []
  let comment := fun cs => (readComment? cs).map fun (trim, rest) => (Node.comment trim, rest)
  readFirst? (readInclude? :: (printing ++ [comment, readAssign?] ++ leaving)) cs

mutual

def readNodes : (depth : Nat) → Setting → List Char → List Node × List Char
  | 0, _, cs => ([], cs)
  | depth + 1, setting, cs =>
    match readNode? depth setting cs with
    | none => ([], cs)
    | some (node, rest) =>
      let (nodes, rest) := readNodes depth setting rest
      (node :: nodes, rest)

def readNode? : (depth : Nat) → Setting → List Char → Option (Node × List Char)
  | 0, _, _ => none
  | depth + 1, setting, cs =>
    match readLeaf? setting cs with
    | some found => some found
    | none =>
      match readBranch? depth setting cs with
      | some found => some found
      | none =>
        match readLoop? depth cs with
        | some found => some found
        | none =>
          match readSection? depth cs with
          | some found => some found
          | none =>
            let block := if setting.admitsBlocks then readBlock? depth cs else none
            match block with
            | some found => some found
            | none => readFirst? [readRaw?, readText?] cs

def readBranch? : (depth : Nat) → Setting → List Char → Option (Node × List Char)
  | 0, _, _ => none
  | depth + 1, setting, cs => do
    let ((trim, condition), rest) ← readCondition? "if" cs
    let (body, rest) := readNodes depth setting rest
    let (arms, rest) := readArms depth setting rest
    let (otherwise, rest) := match readWordTag? "else" rest with
      | none => (none, rest)
      | some (trim, after) =>
        let (body, rest) := readNodes depth setting after
        (some (Final.mk trim body), rest)
    let (closing, rest) ← readWordTag? "endif" rest
    some (.branch (.mk trim condition body :: arms) otherwise closing, rest)

def readArms : (depth : Nat) → Setting → List Char → List Arm × List Char
  | 0, _, cs => ([], cs)
  | depth + 1, setting, cs =>
    match readCondition? "elif" cs with
    | none => ([], cs)
    | some ((trim, condition), rest) =>
      let (body, rest) := readNodes depth setting rest
      let (arms, rest) := readArms depth setting rest
      (.mk trim condition body :: arms, rest)

def readLoop? : (depth : Nat) → List Char → Option (Node × List Char)
  | 0, _ => none
  | depth + 1, cs => do
    let ((opening, key, item, container), rest) ← readTag? readLoopHead? cs
    let (body, rest) := readNodes depth .loop rest
    let (finals, rest) := readFinals depth rest
    let (closing, rest) ← readWordTag? "endfor" rest
    some (.loop opening key item container body finals.getLast? finals.dropLast.flatten closing,
      rest)

def readFinals : (depth : Nat) → List Char → List (List Node) × List Char
  | 0, cs => ([], cs)
  | depth + 1, cs =>
    match readWordTag? "else" cs with
    | none => ([], cs)
    | some (_, rest) =>
      let (body, rest) := readNodes depth .loop rest
      let (finals, rest) := readFinals depth rest
      (body :: finals, rest)

def readSection? : (depth : Nat) → List Char → Option (Node × List Char)
  | 0, _ => none
  | depth + 1, cs => do
    let ((opening, filter), rest) ← readTag? readSectionHead? cs
    let (body, rest) := readNodes depth .section rest
    let (closing, rest) ← readWordTag? "endfilter" rest
    some (.section opening filter body closing, rest)

def readBlock? : (depth : Nat) → List Char → Option (Node × List Char)
  | 0, _ => none
  | depth + 1, cs => do
    let ((opening, name), rest) ← readTag? readBlockHead? cs
    let (body, rest) := readNodes depth .block rest
    let (closing, rest) ← readEndTag? "endblock" rest
    some (.block opening name body closing, rest)

end

def readDefinition? (cs : List Char) : Option (Node × List Char) := do
  let ((opening, name, params), rest) ← readTag? readDefineHead? cs
  let (body, rest) := readNodes (depthFor rest) .macroBody rest
  let (closing, rest) ← readEndTag? "endmacro" rest
  some (.define opening name params body closing, rest)

def readPage : (bound : Nat) → List Char → List Node × List Char
  | 0, cs => ([], cs)
  | bound + 1, cs =>
    match readFirst? [readNode? (depthFor cs) .page, readDefinition?] cs with
    | none => ([], cs)
    | some (node, rest) =>
      let (nodes, rest) := readPage bound rest
      (node :: nodes, rest)

def readExtend? (cs : List Char) : Option (Node × List Char) := do
  let inside := fun cs => do
    let rest ← readSpacedWord? "extends" cs
    (readString? rest).map fun (name, rest) => (String.ofList name, rest)
  let ((trim, name), rest) ← readTag? inside (skipSpace cs)
  some (.extend trim name, skipSpace rest)

def readLoad? (cs : List Char) : Option (Node × List Char) := do
  let inside := fun cs => do
    let rest ← readSpacedWord? "import" cs
    let (template, rest) ← readString? rest
    let rest ← readSpace? rest
    let rest ← readSpacedWord? "as" rest
    let (space, rest) ← readName? rest
    some ((String.ofList template, String.ofList space), rest)
  let ((trim, template, space), rest) ← readTag? inside (skipSpace cs)
  some (.load trim template space, skipSpace rest)

def readLoads : (bound : Nat) → List Char → List Node × List Char
  | 0, cs => ([], cs)
  | bound + 1, cs =>
    match readLoad? cs with
    | none => ([], cs)
    | some (node, rest) =>
      let (nodes, rest) := readLoads bound rest
      (node :: nodes, rest)

def readTop (cs : List Char) : List Node × List Char :=
  match readExtend? cs with
  | some (parent, rest) =>
    let (loads, rest) := readLoads (depthFor rest) rest
    (parent :: loads, rest)
  | none =>
    match readLoads (depthFor cs) cs with
    | ([], _) => ([], cs)
    | (loads, rest) =>
      match readExtend? rest with
      | some (parent, rest) => (loads ++ [parent], rest)
      | none => (loads, rest)

def skipComments : (bound : Nat) → List Char → List Char
  | 0, cs => cs
  | bound + 1, cs =>
    match readComment? cs with
    | none => cs
    | some (_, rest) => skipComments bound rest

def readTemplate? (source : String) : Option (List Node) :=
  let cs := source.toList
  let (top, rest) := readTop (skipComments (depthFor cs) cs)
  match readPage (depthFor rest) rest with
  | (nodes, []) => some (top ++ nodes)
  | (_, _ :: _) => none

end Stencil.Template
