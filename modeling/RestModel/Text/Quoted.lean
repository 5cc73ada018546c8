import RestModel.Text.PrintTable

/-! # Texts in debugging output -/

namespace RestModel.Text

/-- A number in base sixteen, in small letters without leading zeros. -/
def hexText (value : Nat) : List Char :=
  Nat.toDigits 16 value

def debugChar (c : Char) : List Char :=
  match c with
  | '\t' => ['\\', 't']
  | '\n' => ['\\', 'n']
  | '\r' => ['\\', 'r']
  | '"' => ['\\', '"']
  | '\\' => ['\\', '\\']
  | c =>
      if c.toNat = 0 then
        ['\\', '0']
      else if inRows extendingTable c.toNat || c.toNat < 32 || inRows unprintableTable c.toNat then
        ['\\', 'u', '\x7b'] ++ hexText c.toNat ++ ['\x7d']
      else
        [c]

def debugQuoted (text : String) : String :=
  "\"" ++ String.ofList (text.toList.flatMap debugChar) ++ "\""

end RestModel.Text
