import RestModel.Text.Digits
import RestModel.Text.Word

/-! # Literals of Rust

How texts, characters and numbers are written in source code. Every function here
reads from the start of a text and returns what is left of it. -/

namespace RestModel.Source

/-! ## Names -/

def startsName (c : Char) : Bool := c == '_' || Text.startsWord c

def readName : List Char → Option (List Char × List Char)
  | [] => none
  | c :: rest =>
      if startsName c then
        some (c :: rest.takeWhile Text.continuesWord, rest.dropWhile Text.continuesWord)
      else
        none

/-- Names that cannot be written in raw form. -/
def neverRaw : List String := ["_", "super", "self", "Self", "crate"]

/-- Read a name, which may be in raw form and keeps its mark then. -/
def readAnyName (text : List Char) : Option (String × List Char) :=
  match text with
  | 'r' :: '#' :: rest => do
      let (name, rest) ← readName rest
      let name := String.ofList name
      if neverRaw.contains name then
        none
      return ("r#" ++ name, rest)
  | _ => (readName text).map fun (name, rest) => (String.ofList name, rest)

def dropSuffix (text : List Char) : List Char :=
  match readName text with
  | some (_, rest) => rest
  | none => text

/-! ## Escapes -/

inductive Quotation where
  | text
  | bytes
  /-- A row of bytes that ends with a zero byte. -/
  | terminated
  deriving DecidableEq

def letterEscape? : Char → Option Char
  | 'n' => some '\n'
  | 'r' => some '\r'
  | 't' => some '\t'
  | '\\' => some '\\'
  | '\'' => some '\''
  | '"' => some '"'
  | _ => none

/-- The digits of an escape between braces, after those read so far. Underscores
after the first digit do not count. -/
def readBracedDigits : (digits : List Char) → List Char → Option (List Char × List Char)
  | _, [] => none
  | digits, c :: rest =>
      if c == '}' then
        if digits.isEmpty then none else some (digits, rest)
      else if c == '_' then
        if digits.isEmpty then none else readBracedDigits digits rest
      else if digits.length < 6 && (Text.hexValue? c).isSome then
        readBracedDigits (digits ++ [c]) rest
      else
        none

def readEscape (quotation : Quotation) (text : List Char) : Option (Char × List Char) :=
  match text with
  | 'x' :: a :: b :: rest => do
      let value ← Text.digitsOf? 16 [a, b]
      let isAllowed : Bool := match quotation with
        | .text => decide (value < 128)
        | .bytes => true
        | .terminated => value != 0
      if isAllowed then some (Char.ofNat value, rest) else none
  | 'u' :: '{' :: rest => do
      if quotation = .bytes then
        none
      let (digits, rest) ← readBracedDigits [] rest
      let c ← Text.charOfHex? digits
      if quotation = .terminated && c.toNat == 0 then
        none
      return (c, rest)
  | '0' :: rest => if quotation = .terminated then none else some (Char.ofNat 0, rest)
  | c :: rest => (letterEscape? c).map fun escaped => (escaped, rest)
  | [] => none

/-- Move past the blanks after a backslash at the end of a line. Carriage returns
stand before line feeds only. -/
def skipContinuation (last : Char) (text : List Char) : Option (List Char) :=
  match text with
  | [] => none
  | c :: rest =>
      if last == '\r' then
        if c == '\n' then
          match rest with
          | [] => none
          | d :: after =>
              if [' ', '\t', '\n', '\r'].contains d then skipContinuation d after
              else some (d :: after)
        else
          none
      else if [' ', '\t', '\n', '\r'].contains c then
        skipContinuation c rest
      else
        some (c :: rest)
termination_by text.length

/-! ## Quoted literals -/

/-- Read a quoted literal after its opening quote, after the characters read so far,
last one first. -/
def readQuoted (quotation : Quotation) : (fuel : Nat) → List Char → List Char →
    Option (String × List Char)
  | 0, _, _ => none
  | fuel + 1, read, text =>
      match text with
      | [] => none
      | '"' :: rest => some (String.ofList read.reverse, dropSuffix rest)
      | '\r' :: '\n' :: rest => readQuoted quotation fuel ('\n' :: read) rest
      | '\r' :: _ => none
      | '\\' :: '\n' :: rest => do
          readQuoted quotation fuel read (← skipContinuation '\n' rest)
      | '\\' :: '\r' :: rest => do
          readQuoted quotation fuel read (← skipContinuation '\r' rest)
      | '\\' :: rest => do
          let (escaped, rest) ← readEscape quotation rest
          readQuoted quotation fuel (escaped :: read) rest
      | c :: rest =>
          let isAllowed : Bool := match quotation with
            | .text => true
            | .bytes => decide (c.toNat < 128)
            | .terminated => c.toNat != 0
          if isAllowed then readQuoted quotation fuel (c :: read) rest else none

def readRawEnd (quotation : Quotation) (hashes : Nat) :
    List Char → List Char → Option (String × List Char)
  | _, [] => none
  | read, c :: rest =>
      if c == '"' && (rest.take hashes == List.replicate hashes '#') then
        some (String.ofList read.reverse, dropSuffix (rest.drop hashes))
      else
        let isAllowed : Bool := match quotation with
          | .text => true
          | .bytes => decide (c.toNat < 128)
          | .terminated => c.toNat != 0
        if isAllowed && (c != '\r' || rest.head? == some '\n') then
          readRawEnd quotation hashes (c :: read) rest
        else
          none

def readRaw (quotation : Quotation) (text : List Char) : Option (String × List Char) :=
  let hashes := (text.takeWhile (· == '#')).length
  match text.drop hashes with
  | '"' :: rest => if hashes ≤ 255 then readRawEnd quotation hashes [] rest else none
  | _ => none

def readCharacter (quotation : Quotation) (text : List Char) : Option (List Char) := do
  let rest ← match text with
    | '\\' :: rest => (readEscape quotation rest).map (·.2)
    | c :: rest => if quotation = .bytes && 128 ≤ c.toNat then none else some rest
    | [] => none
  match rest with
  | '\'' :: rest => return dropSuffix rest
  | _ => none

/-! ## Numbers -/

/-- Whether a name could go on here. -/
def isMidWord (text : List Char) : Bool := text.head?.any Text.continuesWord

/-- Read the name that may follow a number; no digit may follow that. -/
def readNumberEnd (text : List Char) : Option (List Char × List Char) :=
  let (suffix, rest) := match text with
    | c :: _ => if startsName c then (readName text).getD ([], text) else ([], text)
    | [] => ([], [])
  if isMidWord rest then none else some (suffix, rest)

/-- Read the digits of a number with at most one point, up to the mark of an
exponent. A point is no part of a number before a second one or a name. -/
def readMantissa : (hasPoint : Bool) → List Char → List Char →
    Option (List Char × Bool × List Char)
  | hasPoint, read, [] => some (read.reverse, hasPoint, [])
  | hasPoint, read, c :: rest =>
      if c.isDigit || c == '_' then
        readMantissa hasPoint (c :: read) rest
      else if c == '.' && !hasPoint then
        if rest.head?.any fun d => d == '.' || startsName d then none
        else readMantissa true (c :: read) rest
      else
        some (read.reverse, hasPoint, c :: rest)

def readPower (text : List Char) : Option (List Char × List Char) :=
  let start := text.takeWhile (· == '_')
  let afterStart := text.drop start.length
  let (sign, rest) := match afterStart with
    | '+' :: rest => (['+'], rest)
    | '-' :: rest => (['-'], rest)
    | rest => ([], rest)
  let digits := rest.takeWhile fun c => c.isDigit || c == '_'
  let rest := rest.drop digits.length
  if digits.any Char.isDigit then some (start ++ sign ++ digits, rest) else none

/-- Read a number with a point or an exponent: its spelling without the name that
may follow it. -/
def readDecimal (text : List Char) : Option (List Char × List Char) := do
  if !text.head?.any Char.isDigit then
    none
  let (mantissa, hasPoint, rest) ← readMantissa false [] text
  match rest with
  | mark :: after =>
      if mark == 'e' || mark == 'E' then
        match readPower after with
        | some (power, rest) => return (mantissa ++ mark :: power, rest)
        | none => if hasPoint then return (mantissa, rest) else none
      else if hasPoint then
        return (mantissa, rest)
      else
        none
  | [] => if hasPoint then return (mantissa, rest) else none

def readBase : List Char → Nat × List Char
  | '0' :: 'x' :: rest => (16, rest)
  | '0' :: 'o' :: rest => (8, rest)
  | '0' :: 'b' :: rest => (2, rest)
  | text => (10, text)

/-- Read the digits of a whole number of a base, after those read so far, last one
first. A decimal digit that the base does not have is an error. -/
def readDigits (base : Nat) : List Char → List Char → Option (List Char × List Char)
  | read, [] => some (read.reverse, [])
  | read, c :: rest =>
      if c == '_' then
        if read.isEmpty && base == 10 then none else readDigits base read rest
      else
        match Text.hexValue? c with
        | none => some (read.reverse, c :: rest)
        | some value =>
            if value < base then readDigits base (c :: read) rest
            else if c.isDigit then none
            else some (read.reverse, c :: rest)

/-- Read a whole number: its value, and whether a name follows it. -/
def readWhole (text : List Char) : Option (Nat × Bool × List Char) := do
  let (base, rest) := readBase text
  let (digits, rest) ← readDigits base [] rest
  let value ← Text.digitsOf? base digits
  let (suffix, rest) ← readNumberEnd rest
  return (value, !suffix.isEmpty, rest)

end RestModel.Source
