import RestModel.Json.Basic

/-! # Writing JSON

A value is written on one line, or with one member or item to a line and two
blanks of indentation per level. Characters beyond ASCII are written as they
are. -/

namespace RestModel.Json

def hexDigit (value : Nat) : Char :=
  if value < 10 then Char.ofNat (48 + value) else Char.ofNat (87 + value)

def escapedChar (c : Char) : List Char :=
  match c.toNat with
  | 8 => ['\\', 'b']
  | 9 => ['\\', 't']
  | 10 => ['\\', 'n']
  | 12 => ['\\', 'f']
  | 13 => ['\\', 'r']
  | 34 => ['\\', '"']
  | 92 => ['\\', '\\']
  | code =>
      if code < 32 then
        ['\\', 'u', '0', '0', hexDigit (code / 16), hexDigit (code % 16)]
      else
        [c]

def quoted (text : String) : String :=
  "\"" ++ String.ofList (text.toList.flatMap escapedChar) ++ "\""

def numberText : JsonNumber → String
  | .integer value => toString value
  | .decimal mantissa exponent => toString mantissa ++ "e" ++ toString exponent

mutual
def compact : Json → String
  | .null => "null"
  | .bool true => "true"
  | .bool false => "false"
  | .number value => numberText value
  | .string text => quoted text
  | .array items => "[" ++ compactItems true items ++ "]"
  | .object members => "\x7b" ++ compactMembers true members ++ "\x7d"

/-- The items of an array; `first` says that no item precedes them. -/
def compactItems (first : Bool) : List Json → String
  | [] => ""
  | item :: rest => (if first then "" else ",") ++ item.compact ++ compactItems false rest

def compactMembers (first : Bool) : List (String × Json) → String
  | [] => ""
  | (key, value) :: rest =>
      (if first then "" else ",") ++ quoted key ++ ":" ++ value.compact ++
        compactMembers false rest
end

def lineStart (level : Nat) : String :=
  "\n" ++ String.ofList (List.replicate (2 * level) ' ')

mutual
/-- A value over several lines, where `level` counts the enclosing values. -/
def prettyAt (level : Nat) : Json → String
  | .null => "null"
  | .bool true => "true"
  | .bool false => "false"
  | .number value => numberText value
  | .string text => quoted text
  | .array [] => "[]"
  | .object [] => "\x7b\x7d"
  | .array (item :: rest) =>
      "[" ++ lineStart (level + 1) ++ prettyAt (level + 1) item ++
        prettyItems (level + 1) rest ++ lineStart level ++ "]"
  | .object ((key, value) :: rest) =>
      "\x7b" ++ lineStart (level + 1) ++ quoted key ++ ": " ++ prettyAt (level + 1) value ++
        prettyMembers (level + 1) rest ++ lineStart level ++ "\x7d"

def prettyItems (level : Nat) : List Json → String
  | [] => ""
  | item :: rest => "," ++ lineStart level ++ prettyAt level item ++ prettyItems level rest

def prettyMembers (level : Nat) : List (String × Json) → String
  | [] => ""
  | (key, value) :: rest =>
      "," ++ lineStart level ++ quoted key ++ ": " ++ prettyAt level value ++
        prettyMembers level rest
end

def pretty (value : Json) : String := value.prettyAt 0

end RestModel.Json
