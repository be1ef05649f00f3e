import Stencil.Yaml.Token

namespace Stencil.Yaml

/-- A scalar without quotation marks is told from one with them, since only the first may mean
something else than a text. -/
inductive Node where
  | scalar (text : String) (plain : Bool)
  | list (items : List Node)
  | map (entries : List (Node × Node))

namespace Node

def blank : Node := .scalar "" true

mutual

/-- Reads a node. Collections told by indentation are read only if `block` allows them; a list at
the indentation of the map around it, only if `unindented` does. -/
def read : (depth : Nat) → (block unindented : Bool) → List Token → Option (Node × List Token)
  | 0, _, _, _ => none
  | depth + 1, block, unindented, tokens =>
    match tokens with
    | .scalar text plain :: rest => some (.scalar text plain, rest)
    | .flowListStart :: rest => (readFlowItems depth true rest).map fun (items, rest) =>
        (.list items, rest)
    | .flowMapStart :: rest => (readFlowEntries depth true rest).map fun (entries, rest) =>
        (.map entries, rest)
    | .listStart :: rest =>
      if block then (readItems depth rest).map fun (items, rest) => (.list items, rest) else none
    | .mapStart :: rest =>
      if block then (readEntries depth rest).map fun (entries, rest) => (.map entries, rest)
      else none
    | .entry :: _ =>
      if unindented then (readUnindented depth tokens).map fun (items, rest) => (.list items, rest)
      else none
    | _ => none

def readUnless (depth : Nat) (block unindented : Bool) (others : List Token)
    (tokens : List Token) : Option (Node × List Token) :=
  match depth with
  | 0 => none
  | depth + 1 =>
    match tokens with
    | [] => none
    | t :: _ =>
      if others.contains t then some (blank, tokens) else read depth block unindented tokens

def readItems : (depth : Nat) → List Token → Option (List Node × List Token)
  | 0, _ => none
  | depth + 1, tokens =>
    match tokens with
    | .entry :: rest => do
      let (item, rest) ← readUnless depth true false [.entry, .blockEnd] rest
      let (items, rest) ← readItems depth rest
      some (item :: items, rest)
    | .blockEnd :: rest => some ([], rest)
    | _ => none

def readUnindented : (depth : Nat) → List Token → Option (List Node × List Token)
  | 0, _ => none
  | depth + 1, tokens =>
    match tokens with
    | .entry :: rest => do
      let (item, rest) ← readUnless depth true false [.entry, .key, .value, .blockEnd] rest
      let (items, rest) ← readUnindented depth rest
      some (item :: items, rest)
    | rest => some ([], rest)

def readEntries : (depth : Nat) → List Token → Option (List (Node × Node) × List Token)
  | 0, _ => none
  | depth + 1, tokens =>
    match tokens with
    | .key :: rest => do
      let (name, rest) ← readUnless depth true true [.key, .value, .blockEnd] rest
      let (value, rest) ← match rest with
        | .value :: rest => readUnless depth true true [.key, .value, .blockEnd] rest
        | rest => some (blank, rest)
      let (entries, rest) ← readEntries depth rest
      some ((name, value) :: entries, rest)
    | .blockEnd :: rest => some ([], rest)
    | _ => none

def readFlowItems : (depth : Nat) → Bool → List Token → Option (List Node × List Token)
  | 0, _, _ => none
  | depth + 1, first, tokens =>
    match tokens with
    | .flowListEnd :: rest => some ([], rest)
    | tokens => do
      let tokens ← afterComma? first tokens
      match tokens with
      | .flowListEnd :: rest => some ([], rest)
      | .key :: rest =>
        let (pair, rest) ← readFlowPair depth [.value, .comma, .flowListEnd] rest
        let (items, rest) ← readFlowItems depth false rest
        some (.map [pair] :: items, rest)
      | tokens =>
        let (item, rest) ← read depth false false tokens
        let (items, rest) ← readFlowItems depth false rest
        some (item :: items, rest)

def readFlowEntries : (depth : Nat) → Bool → List Token → Option (List (Node × Node) × List Token)
  | 0, _, _ => none
  | depth + 1, first, tokens =>
    match tokens with
    | .flowMapEnd :: rest => some ([], rest)
    | tokens => do
      let tokens ← afterComma? first tokens
      match tokens with
      | .flowMapEnd :: rest => some ([], rest)
      | .key :: rest =>
        let (pair, rest) ← readFlowPair depth [.value, .comma, .flowMapEnd] rest
        let (entries, rest) ← readFlowEntries depth false rest
        some (pair :: entries, rest)
      | tokens =>
        let (name, rest) ← read depth false false tokens
        let (entries, rest) ← readFlowEntries depth false rest
        some ((name, blank) :: entries, rest)

def readFlowPair (depth : Nat) (others : List Token) (tokens : List Token) :
    Option ((Node × Node) × List Token) :=
  match depth with
  | 0 => none
  | depth + 1 => do
    let (name, rest) ← readUnless depth false false others tokens
    let (value, rest) ← match rest with
      | .value :: rest => readUnless depth false false others.tail rest
      | rest => some (blank, rest)
    some ((name, value), rest)

def afterComma? (first : Bool) (tokens : List Token) : Option (List Token) :=
  if first then some tokens
  else
    match tokens with
    | .comma :: rest => some rest
    | _ => none

end

def readContent (tokens : List Token) : Option (Node × List Token) :=
  match tokens with
  | [] => some (blank, [])
  | .documentEnd :: _ => some (blank, tokens)
  | .documentStart :: _ => some (blank, tokens)
  | tokens => read (4 * tokens.length + 4) true false tokens

/-- The one document of a text. There must not be a second one, and an end mark stands only after a
document. -/
def parse? (text : String) : Option Node := do
  let (node, rest) ← match ← tokens? text.toList with
    | [] => some (blank, [])
    | .documentStart :: rest => readContent rest
    | .documentEnd :: _ => none
    | rest => readContent rest
  if (rest.dropWhile (· == .documentEnd)).isEmpty then some node else none

end Node

end Stencil.Yaml
