/-! # Blank characters

The blank characters are those with the Unicode property `White_Space`. Every
reader of this library that trims text removes exactly these characters from
its ends. -/

namespace RestModel.Text

/-- The code points with the Unicode property `White_Space`. -/
def isBlank (c : Char) : Bool :=
  let code := c.toNat
  (9 ≤ code && code ≤ 13) || code == 32 || code == 133 || code == 160 || code == 5760 ||
    (8192 ≤ code && code ≤ 8202) || code == 8232 || code == 8233 || code == 8239 ||
    code == 8287 || code == 12288

def trimEndChars (text : List Char) : List Char :=
  (text.reverse.dropWhile isBlank).reverse

def trimChars (text : List Char) : List Char :=
  trimEndChars (text.dropWhile isBlank)

def trimStart (text : String) : String :=
  String.ofList (text.toList.dropWhile isBlank)

def trim (text : String) : String :=
  String.ofList (trimChars text.toList)

def isBlankText (text : String) : Bool :=
  text.toList.all isBlank

def nonBlank? (text : String) : Option String :=
  if isBlankText text then none else some (trim text)

end RestModel.Text
