namespace Stencil.Text

def isBlank (c : Char) : Bool :=
  let n := c.toNat
  (0x09 ≤ n && n ≤ 0x0D) || n == 0x20 || n == 0x85 || n == 0xA0 || n == 0x1680 ||
    (0x2000 ≤ n && n ≤ 0x200A) || n == 0x2028 || n == 0x2029 || n == 0x202F || n == 0x205F ||
    n == 0x3000

def dropBlanks (cs : List Char) : List Char :=
  cs.dropWhile isBlank

def dropTrailingBlanks (cs : List Char) : List Char :=
  (dropBlanks cs.reverse).reverse

def trimStart (s : String) : String :=
  String.ofList (dropBlanks s.toList)

def trimEnd (s : String) : String :=
  String.ofList (dropTrailingBlanks s.toList)

def trim (s : String) : String :=
  String.ofList (dropTrailingBlanks (dropBlanks s.toList))

/-- Lower case of the letters `A` to `Z`; every other character stays. -/
def lowerAscii (s : String) : String :=
  s.map Char.toLower

def upperAscii (s : String) : String :=
  s.map Char.toUpper

end Stencil.Text
