import RestModel.Json.Basic
import RestModel.Text.Digits

/-! # Reading JSON

The reader accepts exactly the texts of the format, with two limits: arrays and
objects nest less than a fixed number of levels, and a number is refused if the
nearest number of 64-bit floating point is infinite. Of two members of one key
the later one counts. -/

namespace RestModel.Json

def isGap (c : Char) : Bool := c == ' ' || c == '\n' || c == '\t' || c == '\r'

def hexUnit? (a b c d : Char) : Option Nat := do
  let a ← Text.hexValue? a
  let b ← Text.hexValue? b
  let c ← Text.hexValue? c
  let d ← Text.hexValue? d
  return ((a * 16 + b) * 16 + c) * 16 + d

def simpleEscape? : Char → Option Char
  | '"' => some '"'
  | '\\' => some '\\'
  | '/' => some '/'
  | 'b' => some (Char.ofNat 8)
  | 'f' => some (Char.ofNat 12)
  | 'n' => some '\n'
  | 'r' => some '\r'
  | 't' => some '\t'
  | _ => none

/-- The character of a pair of code units of sixteen bits. -/
def pairedUnits (high low : Nat) : Char :=
  Char.ofNat (0x10000 + (high - 0xD800) * 0x400 + (low - 0xDC00))

/-- Read the rest of a string up to its closing quote, given the characters read
so far, last one first. Two code units of a pair are one character, and a unit
of a pair never stands alone. -/
def readStringEnd (read : List Char) : List Char → Option (String × List Char)
  | [] => none
  | '"' :: rest => some (String.ofList read.reverse, rest)
  | '\\' :: 'u' :: a :: b :: c :: d :: '\\' :: 'u' :: e :: f :: g :: h :: rest => do
      let unit ← hexUnit? a b c d
      if 0xD800 ≤ unit ∧ unit < 0xDC00 then
        let low ← hexUnit? e f g h
        if 0xDC00 ≤ low ∧ low < 0xE000 then
          readStringEnd (pairedUnits unit low :: read) rest
        else
          none
      else if 0xDC00 ≤ unit ∧ unit < 0xE000 then
        none
      else
        readStringEnd (Char.ofNat unit :: read) ('\\' :: 'u' :: e :: f :: g :: h :: rest)
  | '\\' :: 'u' :: a :: b :: c :: d :: rest => do
      let unit ← hexUnit? a b c d
      if 0xD800 ≤ unit ∧ unit < 0xE000 then
        none
      else
        readStringEnd (Char.ofNat unit :: read) rest
  | '\\' :: c :: rest => do
      let escaped ← simpleEscape? c
      readStringEnd (escaped :: read) rest
  | c :: rest => if c.toNat < 32 then none else readStringEnd (c :: read) rest

/-- Whether `mantissa · 10 ^ exponent` rounds to a finite number of 64-bit
floating point. -/
def isFiniteDecimal (mantissa : Nat) (exponent : Int) : Bool :=
  if mantissa = 0 then
    true
  else
    let places := (toString mantissa).length + exponent
    if places > 309 then
      false
    else if places < 300 then
      true
    else
      mantissa * Nat.pow 10 exponent.toNat <
        (Nat.pow 2 1024 - Nat.pow 2 970) * Nat.pow 10 (-exponent).toNat

/-- The whole part of a number: no digit follows a leading zero. -/
def readWhole (text : List Char) : Option (List Char × List Char) :=
  match text.takeWhile Char.isDigit with
  | [] => none
  | ['0'] => some (['0'], text.dropWhile Char.isDigit)
  | '0' :: _ => none
  | digits => some (digits, text.dropWhile Char.isDigit)

def readFraction : List Char → Option (Option (List Char) × List Char)
  | '.' :: rest =>
      match rest.takeWhile Char.isDigit with
      | [] => none
      | digits => some (some digits, rest.dropWhile Char.isDigit)
  | text => some (none, text)

def readExponentDigits (negative : Bool) (text : List Char) :
    Option (Option Int × List Char) :=
  match text.takeWhile Char.isDigit with
  | [] => none
  | digits =>
      let value : Int := Text.digitsValue digits
      some (some (if negative then -value else value), text.dropWhile Char.isDigit)

def readExponent : List Char → Option (Option Int × List Char)
  | mark :: '+' :: rest =>
      if mark == 'e' || mark == 'E' then readExponentDigits false rest
      else some (none, mark :: '+' :: rest)
  | mark :: '-' :: rest =>
      if mark == 'e' || mark == 'E' then readExponentDigits true rest
      else some (none, mark :: '-' :: rest)
  | mark :: rest =>
      if mark == 'e' || mark == 'E' then readExponentDigits false rest
      else some (none, mark :: rest)
  | [] => some (none, [])

/-- A number from the parts of its literal. A whole number of at most 64 bits is
an integer, save for a negative zero. -/
def assembleNumber (negative : Bool) (whole : List Char) (fraction : Option (List Char))
    (exponent : Option Int) : Option JsonNumber :=
  let signed (value : Nat) : Int := if negative then -(value : Int) else value
  let value := Text.digitsValue whole
  if fraction.isNone && exponent.isNone && !(negative && value == 0) &&
      -(Nat.pow 2 63 : Int) ≤ signed value && signed value < Nat.pow 2 64 then
    some (.integer (signed value))
  else
    let digits := fraction.getD []
    let mantissa := Text.digitsValue (whole ++ digits)
    let exponent := exponent.getD 0 - digits.length
    if isFiniteDecimal mantissa exponent then some (.decimal (signed mantissa) exponent) else none

def readNumber (text : List Char) : Option (JsonNumber × List Char) := do
  let (negative, text) := match text with
    | '-' :: rest => (true, rest)
    | text => (false, text)
  let (whole, text) ← readWhole text
  let (fraction, text) ← readFraction text
  let (exponent, text) ← readExponent text
  let number ← assembleNumber negative whole fraction exponent
  return (number, text)

def readConstant? : List Char → Option (Json × List Char)
  | 't' :: 'r' :: 'u' :: 'e' :: rest => some (.bool true, rest)
  | 'f' :: 'a' :: 'l' :: 's' :: 'e' :: rest => some (.bool false, rest)
  | 'n' :: 'u' :: 'l' :: 'l' :: rest => some (.null, rest)
  | _ => none

mutual
/-- Read a value, where `room` bounds the levels of nesting. Every call consumes
a character, so a `fuel` above the number of characters never runs out. -/
def readValue (room : Nat) : (fuel : Nat) → List Char → Option (Json × List Char)
  | 0, _ => none
  | fuel + 1, text =>
      match text.dropWhile isGap with
      | '"' :: rest => (readStringEnd [] rest).map fun (text, rest) => (.string text, rest)
      | '[' :: rest =>
          match room with
          | 0 | 1 => none
          | room + 1 =>
              match rest.dropWhile isGap with
              | ']' :: rest => some (.array [], rest)
              | rest => readItems room fuel [] rest
      | '\x7b' :: rest =>
          match room with
          | 0 | 1 => none
          | room + 1 =>
              match rest.dropWhile isGap with
              | '\x7d' :: rest => some (.object [], rest)
              | rest => readMembers room fuel [] rest
      | '-' :: rest => (readNumber ('-' :: rest)).map fun (value, rest) => (.number value, rest)
      | c :: rest =>
          if c.isDigit then
            (readNumber (c :: rest)).map fun (value, rest) => (.number value, rest)
          else
            readConstant? (c :: rest)
      | [] => none

def readItems (room : Nat) : (fuel : Nat) → List Json → List Char → Option (Json × List Char)
  | 0, _, _ => none
  | fuel + 1, read, text => do
      let (item, rest) ← readValue room fuel text
      match rest.dropWhile isGap with
      | ',' :: rest => readItems room fuel (item :: read) rest
      | ']' :: rest => some (.array (item :: read).reverse, rest)
      | _ => none

def readMembers (room : Nat) :
    (fuel : Nat) → List (String × Json) → List Char → Option (Json × List Char)
  | 0, _, _ => none
  | fuel + 1, read, text =>
      match text.dropWhile isGap with
      | '"' :: rest => do
          let (key, rest) ← readStringEnd [] rest
          match rest.dropWhile isGap with
          | ':' :: rest => do
              let (value, rest) ← readValue room fuel rest
              match rest.dropWhile isGap with
              | ',' :: rest => readMembers room fuel (Keyed.insert key value read) rest
              | '\x7d' :: rest => some (.object (Keyed.insert key value read), rest)
              | _ => none
          | _ => none
      | _ => none
end

def readWithin (room : Nat) (text : String) : Option Json := do
  let characters := text.toList
  let (value, rest) ← readValue room (characters.length + 2) characters
  if rest.all isGap then some value else none

/-- The number of levels of nesting at which a description is refused. -/
def nestingLimit : Nat := 128

def read? (text : String) : Option Json := readWithin nestingLimit text

end RestModel.Json
