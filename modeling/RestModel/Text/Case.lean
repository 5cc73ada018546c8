import RestModel.Text.CaseTable

/-! # Letter case

Upper and lower case of a character, and its small letters. -/

namespace RestModel.Text

def isAsciiAlphanumeric (c : Char) : Bool := c.isAlphanum

def isUppercase (c : Char) : Bool :=
  if c.toNat < 128 then c.isUpper else inTable uppercaseTable c.toNat

def isLowercase (c : Char) : Bool :=
  if c.toNat < 128 then c.isLower else inTable lowercaseTable c.toNat

/-- The small letters of a character. A capital I with a dot above is the only
character with two of them; a character without small letters stands for itself. -/
def smallLetters (c : Char) : List Char :=
  if c.toNat < 128 then
    [c.toLower]
  else if c.toNat = 304 then
    ['i', Char.ofNat 775]
  else
    match smallLetterTable.find? (·.span.contains c.toNat) with
    | some shift => [Char.ofNat (c.toNat + shift.distance).toNat]
    | none => [c]

def asciiUpper (text : String) : String := text.map Char.toUpper

def asciiLower (text : String) : String := text.map Char.toLower

end RestModel.Text
