namespace Stencil.Text

def hasInfix (sub : List Char) : List Char → Bool
  | [] => sub.isEmpty
  | c :: cs => sub.isPrefixOf (c :: cs) || hasInfix sub cs

def contains (s sub : String) : Bool :=
  hasInfix sub.toList s.toList

def startsWith (s start : String) : Bool :=
  start.toList.isPrefixOf s.toList

def endsWith (s ending : String) : Bool :=
  ending.toList.isSuffixOf s.toList

/-- The parts between the occurrences of a non-empty pattern, found from the left and without
overlap; `skip` counts the characters of an occurrence that are still to be passed over. -/
def piecesFrom (pattern : List Char) : (skip : Nat) → List Char → List (List Char)
  | _, [] => [[]]
  | skip + 1, _ :: cs => piecesFrom pattern skip cs
  | 0, c :: cs =>
    if pattern.isPrefixOf (c :: cs) then [] :: piecesFrom pattern (pattern.length - 1) cs
    else
      match piecesFrom pattern 0 cs with
      | [] => [[c]]
      | piece :: rest => (c :: piece) :: rest

/-- The parts between the occurrences of a pattern. The empty pattern stands before and after every
character, so it leaves an empty part at either end. -/
def pieces (pattern cs : List Char) : List (List Char) :=
  if pattern.isEmpty then [] :: (cs.map ([·]) ++ [[]]) else piecesFrom pattern 0 cs

def split (s pattern : String) : List String :=
  (pieces pattern.toList s.toList).map String.ofList

def splitChar (sep : Char) (s : String) : List String :=
  (piecesFrom [sep] 0 s.toList).map String.ofList

def joinWith (sep : String) (parts : List String) : String :=
  sep.intercalate parts

def replace (s old new : String) : String :=
  joinWith new (split s old)

def dropReturn (line : List Char) : List Char :=
  match line.reverse with
  | '\r' :: rest => rest.reverse
  | _ => line

/-- Lines end in a line feed, or in a carriage return and a line feed. The last line may lack its
end; a carriage return without a line feed is part of the line. -/
def lines (s : String) : List String :=
  let parts := piecesFrom ['\n'] 0 s.toList
  let last := parts.getLast?.getD []
  let ended := parts.dropLast.map dropReturn
  (if last.isEmpty then ended else ended ++ [last]).map String.ofList

end Stencil.Text
