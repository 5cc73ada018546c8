import RestModel.Text.WordTable

/-! # Words

The characters with which an identifier may start and go on, and letters and
numbers in general. -/

namespace RestModel.Text

def inRanges (table : List (Nat × Nat)) (code : Nat) : Bool :=
  table.any fun (first, last) => first ≤ code && code ≤ last

/-- Whether a character has the Unicode property `XID_Start`. -/
def startsWord (c : Char) : Bool :=
  if c.toNat < 128 then c.isAlpha else inRanges wordStartTable c.toNat

/-- Whether a character has the Unicode property `XID_Continue`. -/
def continuesWord (c : Char) : Bool :=
  if c.toNat < 128 then c.isAlphanum || c == '_'
  else inRanges wordStartTable c.toNat || inRanges wordRestTable c.toNat

def isLetterOrNumber (c : Char) : Bool :=
  if c.toNat < 128 then c.isAlphanum
  else inRanges wordStartTable c.toNat || inRanges otherLetterTable c.toNat

end RestModel.Text
