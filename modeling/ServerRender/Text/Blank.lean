/-!
# Blank characters

The characters with the Unicode property White_Space, and trimming by them.
-/

namespace ServerRender.Text

/-- White_Space holds of twenty-five characters, six of them ASCII. -/
def isBlank (c : Char) : Bool :=
  let code := c.toNat
  (0x9 ≤ code && code ≤ 0xD) || code == 0x20 || code == 0x85 || code == 0xA0 || code == 0x1680 ||
    (0x2000 ≤ code && code ≤ 0x200A) || code == 0x2028 || code == 0x2029 || code == 0x202F ||
    code == 0x205F || code == 0x3000

def trimStart (text : List Char) : List Char :=
  text.dropWhile isBlank

def trimEnd (text : List Char) : List Char :=
  (text.reverse.dropWhile isBlank).reverse

def trim (text : List Char) : List Char :=
  trimEnd (trimStart text)

/-- Trimming of a string on both ends. -/
def trimmed (text : String) : String :=
  String.ofList (trim text.toList)

end ServerRender.Text
